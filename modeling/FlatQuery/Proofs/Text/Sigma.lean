/-
What stands before a text, and its lowercase. A capital sigma is the
only character whose lowercase depends on its neighbours, and of what
stands before a text only one thing counts: whether the nearest
character that is not case-ignorable has case (`lowerFrom_congr`). It
counts only if the text has a lone sigma: one with nothing before it but
case-ignorable characters, and no cased character behind it. By itself
such a sigma becomes the ordinary small letter, behind a cased character
the final one, and no other text is lowercased differently for what
stands before it (`lowerFrom_eq_iff`).
-/
import FlatQuery.Proofs.Text.Folding

namespace FlatQuery.Text

-- ========================================================== neighbours

theorem meetsCased_cons (c : Char) (cs : List Char) :
    meetsCased (c :: cs)
      = if within caseIgnorableRanges c then meetsCased cs else within casedRanges c := by
  unfold meetsCased
  by_cases h : within caseIgnorableRanges c = true
  · rw [List.dropWhile_cons_of_pos h, if_pos h]
  · rw [List.dropWhile_cons_of_neg h, if_neg h]

/-- Of what stands before a text only the nearest character counts that
is not case-ignorable. -/
theorem lowerFrom_congr {before before' : List Char}
    (h : meetsCased before = meetsCased before') (cs : List Char) :
    lowerFrom before cs = lowerFrom before' cs := by
  induction cs generalizing before before' with
  | nil => rfl
  | cons c cs ih =>
      have hnext : meetsCased (c :: before) = meetsCased (c :: before') := by
        rw [meetsCased_cons, meetsCased_cons, h]
      rw [lowerFrom, lowerFrom, ih hnext, endsWord, endsWord, h]

-- ========================================================== lone sigmas

/-- Whether the first character that is not case-ignorable is a capital
sigma with no cased character behind it. -/
def isLoneSigma (cs : List Char) : Bool :=
  match cs.dropWhile (within caseIgnorableRanges) with
  | c :: rest => c.toNat = 0x3A3 && !meetsCased rest
  | [] => false

theorem isLoneSigma_cons (c : Char) (cs : List Char) :
    isLoneSigma (c :: cs)
      = if within caseIgnorableRanges c then isLoneSigma cs
        else c.toNat = 0x3A3 && !meetsCased cs := by
  unfold isLoneSigma
  by_cases h : within caseIgnorableRanges c = true
  · rw [List.dropWhile_cons_of_pos h, if_pos h]
  · rw [List.dropWhile_cons_of_neg h, if_neg h]

/-- A capital sigma is not case-ignorable. -/
theorem ne_sigma_of_caseIgnorable {c : Char} (h : within caseIgnorableRanges c = true) :
    c.toNat ≠ 0x3A3 := by
  have hsigma : within caseIgnorableRanges (Char.ofNat 0x3A3) = false := by decide +kernel
  intro hc
  rw [← Char.ofNat_toNat c, hc, hsigma] at h
  cases h

/-- What stands before a text changes its lowercase only by making a
lone sigma final. -/
theorem lowerFrom_eq_iff {before : List Char} (hbefore : meetsCased before = true)
    (cs : List Char) :
    lowerFrom before cs = lowerFrom [] cs ↔ isLoneSigma cs = false := by
  -- seen from a text, its own case-ignorable beginning is as good as nothing
  suffices h : ∀ start : List Char, meetsCased start = false → ∀ before, meetsCased before = true →
      (lowerFrom before cs = lowerFrom start cs ↔ isLoneSigma cs = false) from
    h [] rfl before hbefore
  clear hbefore
  induction cs with
  | nil => exact fun _ _ _ _ => iff_of_true rfl rfl
  | cons c cs ih =>
      intro start hstart before hbefore
      by_cases hc : within caseIgnorableRanges c = true
      · have hstart' : meetsCased (c :: start) = false := by
          rw [meetsCased_cons, if_pos hc, hstart]
        have hbefore' : meetsCased (c :: before) = true := by
          rw [meetsCased_cons, if_pos hc, hbefore]
        rw [isLoneSigma_cons, if_pos hc, lowerFrom, lowerFrom,
          if_neg (ne_sigma_of_caseIgnorable hc), if_neg (ne_sigma_of_caseIgnorable hc),
          List.append_cancel_left_eq]
        exact ih _ hstart' _ hbefore'
      · have hrest : lowerFrom (c :: before) cs = lowerFrom (c :: start) cs := by
          apply lowerFrom_congr
          rw [meetsCased_cons, meetsCased_cons, if_neg hc, if_neg hc]
        rw [isLoneSigma_cons, if_neg hc, lowerFrom, lowerFrom, hrest, List.append_cancel_right_eq]
        by_cases hsigma : c.toNat = 0x3A3
        · rw [if_pos hsigma, if_pos hsigma, decide_eq_true hsigma, endsWord, endsWord, hbefore,
            hstart]
          cases meetsCased cs with
          | true => decide
          | false => decide
        · rw [if_neg hsigma, if_neg hsigma, decide_eq_false hsigma]
          exact iff_of_true rfl rfl

-- ============================================================== points

/-- Lowercase makes no point of another character. -/
theorem eq_point_of_mem_lowerChar {c : Char} (h : '.' ∈ lowerChar c) : c = '.' := by
  by_cases hascii : c.toNat < 0x80
  · rw [lowerChar_of_ascii hascii, List.mem_singleton] at h
    exact eq_of_foldChar_eq (by decide) h.symm
  rw [lowerChar, if_neg hascii] at h
  split at h
  · exact absurd h (by decide)
  · cases hfind : lowercaseRuns.find? (·.covers c.toNat) with
    | none =>
        rw [hfind, List.mem_singleton] at h
        exact h.symm
    | some run =>
        have hruns : ∀ run ∈ lowercaseRuns, ∀ n ∈ run.codes, Char.ofNat (run.land n) ≠ '.' := by
          decide +kernel
        rw [hfind, List.mem_singleton] at h
        have hcovers : run.covers c.toNat = true := by simpa using List.find?_some hfind
        have hland := hruns run (List.mem_of_find?_eq_some hfind) _ (CaseRun.mem_codes hcovers)
        exact absurd h.symm hland

theorem point_mem_of_mem_lowerFrom {before cs : List Char} (h : '.' ∈ lowerFrom before cs) :
    '.' ∈ cs := by
  induction cs generalizing before with
  | nil => exact h
  | cons c cs ih =>
      rcases List.mem_append.1 h with h | h
      · split at h
        · have hsigmas : ∀ last : Bool,
              '.' ∉ [Char.ofNat (if last then 0x3C2 else 0x3C3)] := by
            decide
          exact absurd h (hsigmas _)
        · rw [eq_point_of_mem_lowerChar h]
          exact List.mem_cons_self ..
      · exact List.mem_cons_of_mem _ (ih h)

/-- A point between two parts counts for nothing: the second is
lowercased as if the first stood right before it. -/
theorem toList_lowercase_qualified {s : String} (hs : ∀ c ∈ s.toList, IsSmall c) (t : String) :
    (lowercase (s ++ "." ++ t)).toList
      = s.toList ++ '.' :: lowerFrom s.toList.reverse t.toList := by
  have hsmall : ∀ c ∈ s.toList ++ ['.'], IsSmall c := by
    rw [List.forall_mem_append, List.forall_mem_singleton]
    exact ⟨hs, isSmall_iff.1 (by decide)⟩
  have hpoint : meetsCased ('.' :: s.toList.reverse) = meetsCased s.toList.reverse := by
    rw [meetsCased_cons]
    exact if_pos (by decide)
  have htext : (s ++ "." ++ t).toList = (s.toList ++ ['.']) ++ t.toList := by
    rw [String.toList_append, String.toList_append]
    rfl
  rw [lowercase, String.toList_ofList, htext, lowerFrom_append hsmall, List.reverse_append,
    List.append_nil, List.append_assoc]
  exact congrArg (s.toList ++ '.' :: ·) (lowerFrom_congr hpoint _)

end FlatQuery.Text
