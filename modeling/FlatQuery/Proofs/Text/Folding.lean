/-
Two ways to ignore case: folding, which knows the letters of ASCII only,
and lowercase, which knows those of every script and looks at the
neighbours of a sigma.

Lowercase is the coarser one. It takes no notice of the case of ASCII
letters, neither in the text nor beside a sigma, so what folding
identifies has one lowercase form (`lowercase_of_sameFolded`). The
converse holds of texts whose only capitals are those of ASCII
(`AsciiCased`), also behind a text that both begin with
(`sameFolded_of_lowercase_append`); elsewhere it fails.
-/
import FlatQuery.Proofs.Columns.Position
import FlatQuery.Proofs.Text.Lowercase

namespace FlatQuery.Text

-- ========================================================== characters

/-- Only ASCII capitals are folded, to the letters 32 places on. -/
theorem toNat_foldChar (c : Char) :
    (foldChar c).toNat
      = if 0x41 ≤ c.toNat ∧ c.toNat ≤ 0x5A then c.toNat + 32 else c.toNat := by
  have hcapital : ('A' ≤ c && c ≤ 'Z') = true ↔ 0x41 ≤ c.toNat ∧ c.toNat ≤ 0x5A := by
    rw [Bool.and_eq_true, decide_eq_true_iff, decide_eq_true_iff]
    rfl
  unfold foldChar
  by_cases h : 0x41 ≤ c.toNat ∧ c.toNat ≤ 0x5A
  · have hvalid : (c.toNat + 32).isValidChar := .inl (by omega)
    rw [if_pos (hcapital.2 h), if_pos h, Char.ofNat, dif_pos hvalid]
    rfl
  · rw [if_neg (mt hcapital.1 h), if_neg h]

/-- Folding twice changes nothing more. -/
theorem foldChar_foldChar (c : Char) : foldChar (foldChar c) = foldChar c := by
  refine Char.toNat_inj.1 ?_
  rw [toNat_foldChar (foldChar c), toNat_foldChar c]
  split
  · rw [if_neg (by omega)]
  · rfl

/-- The capital sigma is not of ASCII, so folding neither takes nor makes
one. -/
theorem sigma_foldChar (c : Char) : (foldChar c).toNat = 0x3A3 ↔ c.toNat = 0x3A3 := by
  rw [toNat_foldChar]
  split <;> omega

/-- In ASCII lowercase is folding. -/
theorem lowerChar_of_ascii {c : Char} (h : c.toNat < 0x80) : lowerChar c = [foldChar c] := by
  rw [lowerChar, if_pos h]
  rfl

/-- What folding changed lowercasing would have changed to the same. -/
theorem lowerChar_foldChar (c : Char) : lowerChar (foldChar c) = lowerChar c := by
  have hfold := toNat_foldChar c
  by_cases hascii : c.toNat < 0x80
  · have hfolded : (foldChar c).toNat < 0x80 := by
      rw [hfold]
      split <;> omega
    rw [lowerChar_of_ascii hascii, lowerChar_of_ascii hfolded, foldChar_foldChar]
  · rw [if_neg (by omega), Char.toNat_inj] at hfold
    rw [hfold]

/-- A table takes no notice of folding if those of its ranges that begin
in ASCII do not. -/
theorem within_foldChar {ranges : List (Nat × Nat)} (low : List (Nat × Nat))
    (hlow : ranges.filter (·.1 < 0x80) = low)
    (h : ∀ c : Char, within low (foldChar c) = within low c) (c : Char) :
    within ranges (foldChar c) = within ranges c := by
  have hascii : ∀ c : Char, c.toNat < 0x80 → within ranges c = within low c := by
    intro c hc
    unfold within
    rw [← hlow, List.any_filter]
    refine congrArg ranges.any (funext fun range => ?_)
    by_cases hrange : range.1 ≤ c.toNat
    · rw [decide_eq_true (show range.1 < 0x80 by omega), Bool.true_and]
    · simp [hrange]
  have hfold := toNat_foldChar c
  by_cases hc : c.toNat < 0x80
  · have hfolded : (foldChar c).toNat < 0x80 := by
      rw [hfold]
      split <;> omega
    rw [hascii c hc, hascii _ hfolded, h]
  · rw [if_neg (by omega), Char.toNat_inj] at hfold
    rw [hfold]

/-- The part of the two tables that is of ASCII. -/
private theorem ranges_ascii :
    casedRanges.filter (·.1 < 0x80) = [(0x41, 0x5A), (0x61, 0x7A)]
      ∧ caseIgnorableRanges.filter (·.1 < 0x80)
        = [(0x27, 0x27), (0x2E, 0x2E), (0x3A, 0x3A), (0x5E, 0x5E), (0x60, 0x60)] := by
  decide +kernel

/-- A folded letter is cased as the letter is. -/
theorem cased_foldChar (c : Char) : within casedRanges (foldChar c) = within casedRanges c := by
  refine within_foldChar _ ranges_ascii.1 (fun c => ?_) c
  rw [Bool.eq_iff_iff]
  simp only [within, List.any_cons, List.any_nil, Bool.or_false, Bool.or_eq_true,
    Bool.and_eq_true, decide_eq_true_eq, toNat_foldChar]
  split <;> omega

/-- No letter of ASCII is passed over in search of a cased one. -/
theorem caseIgnorable_foldChar (c : Char) :
    within caseIgnorableRanges (foldChar c) = within caseIgnorableRanges c := by
  refine within_foldChar _ ranges_ascii.2 (fun c => ?_) c
  rw [Bool.eq_iff_iff]
  simp only [within, List.any_cons, List.any_nil, Bool.or_false, Bool.or_eq_true,
    Bool.and_eq_true, decide_eq_true_eq, toNat_foldChar]
  split <;> omega

-- ====================================================== case and classes

/-- What takes no notice of the case of the ASCII characters takes none
of folding. -/
theorem map_foldChar_of_ascii {α : Type} {f : Char → α}
    (h : ∀ n < 128, f (foldChar (Char.ofNat n)) = f (Char.ofNat n)) (c : Char) :
    f (foldChar c) = f c := by
  by_cases hc : c.toNat < 128
  · have hfold := h c.toNat hc
    rwa [Char.ofNat_toNat] at hfold
  · have hsame : (foldChar c).toNat = c.toNat := by
      rw [toNat_foldChar]
      exact if_neg (by omega)
    rw [Char.toNat_inj.1 hsame]

private theorem classes_ascii : ∀ n < 128,
    isBlank (foldChar (Char.ofNat n)) = isBlank (Char.ofNat n)
      ∧ isDigit (foldChar (Char.ofNat n)) = isDigit (Char.ofNat n)
      ∧ isAlphanumeric (foldChar (Char.ofNat n)) = isAlphanumeric (Char.ofNat n) := by
  decide +kernel

theorem isBlank_foldChar (c : Char) : isBlank (foldChar c) = isBlank c :=
  map_foldChar_of_ascii (fun n hn => (classes_ascii n hn).1) c

theorem isDigit_foldChar (c : Char) : isDigit (foldChar c) = isDigit c :=
  map_foldChar_of_ascii (fun n hn => (classes_ascii n hn).2.1) c

/-- Folding changes no character's class. -/
theorem isAlphanumeric_foldChar (c : Char) : isAlphanumeric (foldChar c) = isAlphanumeric c :=
  map_foldChar_of_ascii (fun n hn => (classes_ascii n hn).2.2) c

/-- A character that is no ASCII letter is the only one that is folded
as it is. -/
theorem eq_of_foldChar_eq {c d : Char} (hc : isAsciiLetter c = false)
    (h : foldChar d = foldChar c) : d = c := by
  have hletter : ¬ (0x61 ≤ c.toNat ∧ c.toNat ≤ 0x7A) ∧ ¬ (0x41 ≤ c.toNat ∧ c.toNat ≤ 0x5A) := by
    simpa [isAsciiLetter, Char.le_def, UInt32.le_iff_toNat_le] using hc
  have hcode := congrArg Char.toNat h
  rw [toNat_foldChar, toNat_foldChar, if_neg hletter.2] at hcode
  refine Char.toNat_inj.1 ?_
  split at hcode
  · omega
  · exact hcode

/-- A text without ASCII letters has no other case. -/
theorem eq_of_sameFolded {s t : String} (hs : s.toList.any isAsciiLetter = false)
    (h : sameFolded s t = true) : t = s := by
  rw [Columns.sameFolded_iff] at h
  rw [← String.toList_inj]
  generalize s.toList = cs, t.toList = ds at h hs
  induction cs generalizing ds with
  | nil => exact List.map_eq_nil_iff.1 h.symm
  | cons c cs ih =>
      obtain ⟨d, ds, rfl, hd, hds⟩ := List.map_eq_cons_iff.1 h.symm
      rw [List.any_cons, Bool.or_eq_false_iff] at hs
      rw [eq_of_foldChar_eq hs.1 hd, ih ds hds.symm hs.2]

-- ===================================================== lowercase is coarser

theorem meetsCased_map_foldChar (cs : List Char) :
    meetsCased (cs.map foldChar) = meetsCased cs := by
  unfold meetsCased
  rw [List.dropWhile_map, show within caseIgnorableRanges ∘ foldChar = within caseIgnorableRanges
    from funext caseIgnorable_foldChar]
  cases cs.dropWhile (within caseIgnorableRanges) with
  | nil => rfl
  | cons c rest => exact cased_foldChar c

/-- Folding the text and what stands before it changes nothing. -/
theorem lowerFrom_map_foldChar (before cs : List Char) :
    lowerFrom (before.map foldChar) (cs.map foldChar) = lowerFrom before cs := by
  induction cs generalizing before with
  | nil => rfl
  | cons c cs ih =>
      rw [List.map_cons, lowerFrom, lowerFrom, ← List.map_cons, ih]
      by_cases hc : c.toNat = 0x3A3
      · rw [if_pos hc, if_pos ((sigma_foldChar c).2 hc), endsWord, endsWord,
          meetsCased_map_foldChar, meetsCased_map_foldChar]
      · rw [if_neg hc, if_neg (mt (sigma_foldChar c).1 hc), lowerChar_foldChar]

/-- What folding identifies has one lowercase form. -/
theorem lowercase_of_sameFolded {s t : String} (h : sameFolded s t = true) :
    lowercase s = lowercase t := by
  rw [Columns.sameFolded_iff] at h
  unfold lowercase
  rw [← lowerFrom_map_foldChar [] s.toList, h, lowerFrom_map_foldChar]

/-- Equal beginnings do not matter. -/
theorem sameFolded_append (before s t : String) :
    sameFolded (before ++ s) (before ++ t) = sameFolded s t := by
  rw [Bool.eq_iff_iff, Columns.sameFolded_iff, Columns.sameFolded_iff, String.toList_append,
    String.toList_append, List.map_append, List.map_append, List.append_cancel_left_eq]

-- ========================================================== small letters

/-- What lowercase leaves alone is not folded either. -/
theorem foldChar_of_isSmall {c : Char} (h : IsSmall c) : foldChar c = c := by
  by_cases hascii : c.toNat < 0x80
  · rw [IsSmall, lowerChar_of_ascii hascii, List.singleton_inj] at h
    exact h.2
  · refine Char.toNat_inj.1 ?_
    rw [toNat_foldChar, if_neg (by omega)]

theorem map_foldChar_of_small {cs : List Char} (h : ∀ c ∈ cs, IsSmall c) :
    cs.map foldChar = cs := by
  have hid : cs.map foldChar = cs.map id :=
    List.map_congr_left fun c hc => foldChar_of_isSmall (h c hc)
  rw [hid, List.map_id]

/-- Among small letters folding tells texts apart. -/
theorem sameFolded_iff_of_small {s t : String} (hs : ∀ c ∈ s.toList, IsSmall c)
    (ht : ∀ c ∈ t.toList, IsSmall c) : sameFolded s t = true ↔ s = t := by
  rw [Columns.sameFolded_iff, map_foldChar_of_small hs, map_foldChar_of_small ht,
    String.toList_inj]

-- ======================================================== ASCII capitals

/-- Lowercase does to the character what folding does: it is no capital,
or one of ASCII. -/
def FoldsToLower (c : Char) : Prop := c.toNat ≠ 0x3A3 ∧ lowerChar c = [foldChar c]

/-- The only capitals of the text are those of ASCII. -/
def AsciiCased (s : String) : Prop := ∀ c ∈ s.toList, FoldsToLower c

/-- Within ASCII folding is lowercasing. -/
theorem foldsToLower_of_ascii {c : Char} (h : c.toNat < 0x80) : FoldsToLower c :=
  ⟨by omega, lowerChar_of_ascii h⟩

/-- Texts of ASCII have no other capitals. -/
theorem asciiCased_of_ascii {s : String} (h : s.toList.all (·.toNat < 0x80) = true) :
    AsciiCased s :=
  fun c hc => foldsToLower_of_ascii (of_decide_eq_true (List.all_eq_true.1 h c hc))

/-- A text of such characters is folded where it is lowercased, whatever
stands before it. -/
theorem lowerFrom_of_foldsToLower {cs : List Char} (h : ∀ c ∈ cs, FoldsToLower c)
    (before : List Char) : lowerFrom before cs = cs.map foldChar := by
  induction cs generalizing before with
  | nil => rfl
  | cons c cs ih =>
      obtain ⟨⟨hsigma, hc⟩, hcs⟩ := List.forall_mem_cons.1 h
      rw [lowerFrom, if_neg hsigma, hc, ih hcs]
      rfl

/-- A character is folded to its lowercase if its lowercase so much as
begins with what it is folded to. -/
theorem foldsToLower_of_head? {c : Char} (hsigma : c.toNat ≠ 0x3A3)
    (h : (lowerChar c).head? = some (foldChar c)) : FoldsToLower c := by
  refine ⟨hsigma, ?_⟩
  by_cases hascii : c.toNat < 0x80
  · exact lowerChar_of_ascii hascii
  have hfold : foldChar c = c := by
    refine Char.toNat_inj.1 ?_
    rw [toNat_foldChar, if_neg (by omega)]
  rw [hfold] at h ⊢
  rw [lowerChar, if_neg hascii] at h ⊢
  by_cases hdotted : c.toNat = 0x130
  · -- the one character whose lowercase is two
    rw [if_pos hdotted, List.head?_cons, Option.some_inj] at h
    rw [← h] at hdotted
    exact absurd hdotted (by decide)
  · rw [if_neg hdotted] at h ⊢
    cases hfind : lowercaseRuns.find? (·.covers c.toNat) with
    | none => rfl
    | some run =>
        rw [hfind, List.head?_cons, Option.some_inj] at h
        exact congrArg (fun d => [d]) h

/-- Conversely lowercasing folds a text only if it is made of such characters:
the first character that is not would come out otherwise. -/
theorem foldsToLower_of_lowerFrom {before cs : List Char}
    (h : lowerFrom before cs = cs.map foldChar) : ∀ c ∈ cs, FoldsToLower c := by
  induction cs generalizing before with
  | nil => exact fun c hc => absurd hc List.not_mem_nil
  | cons c cs ih =>
      rw [lowerFrom, List.map_cons] at h
      have hsigma : c.toNat ≠ 0x3A3 := by
        intro hsigma
        have hcapital := (sigma_foldChar c).2 hsigma
        rw [if_pos hsigma, List.singleton_append] at h
        rw [← (List.cons.inj h).1] at hcapital
        have hsmall : ∀ last : Bool,
            (Char.ofNat (if last then 0x3C2 else 0x3C3)).toNat ≠ 0x3A3 := by
          decide
        exact hsmall _ hcapital
      rw [if_neg hsigma] at h
      have hhead : (lowerChar c).head? = some (foldChar c) := by
        rw [← List.head?_append_of_ne_nil _ (lowerChar_ne_nil c), h, List.head?_cons]
      have hc := foldsToLower_of_head? hsigma hhead
      rw [hc.2, List.singleton_append] at h
      exact List.forall_mem_cons.2 ⟨hc, ih (List.cons.inj h).2⟩

/-- Only such texts are folded to their lowercase. -/
theorem asciiCased_iff {s : String} :
    AsciiCased s ↔ (lowercase s).toList = s.toList.map foldChar := by
  rw [lowercase, String.toList_ofList]
  exact ⟨fun h => lowerFrom_of_foldsToLower h [], foldsToLower_of_lowerFrom⟩

/-- Folding identifies a text with a lowercase form only if it is its own
lowercase form, and one that folding can reach. -/
theorem sameFolded_lowercase_iff {s t : String} :
    sameFolded s (lowercase t) = true ↔ AsciiCased s ∧ lowercase s = lowercase t := by
  have hsmall : (lowercase t).toList.map foldChar = (lowercase t).toList :=
    map_foldChar_of_small isSmall_of_mem_lowercase
  rw [asciiCased_iff]
  constructor
  · intro h
    have hlower : lowercase s = lowercase t := by
      rw [lowercase_of_sameFolded h, lowercase_lowercase]
    rw [Columns.sameFolded_iff, hsmall] at h
    exact ⟨by rw [hlower, h], hlower⟩
  · rintro ⟨hfold, hlower⟩
    rw [Columns.sameFolded_iff, hsmall, ← hfold, hlower]

/-- How many characters the lowercase of a text has. -/
def lowerWidth : List Char → Nat
  | [] => 0
  | c :: cs => (if c.toNat = 0x3A3 then 1 else (lowerChar c).length) + lowerWidth cs

/-- What follows a text may decide which sigma it ends in, but not how
long its lowercase is. -/
theorem lowerFrom_append_width (before cs rest : List Char) :
    ∃ front, front.length = lowerWidth cs
      ∧ lowerFrom before (cs ++ rest) = front ++ lowerFrom (cs.reverse ++ before) rest := by
  induction cs generalizing before with
  | nil => exact ⟨[], rfl, rfl⟩
  | cons c cs ih =>
      obtain ⟨front, hlength, hfront⟩ := ih (c :: before)
      let first := if c.toNat = 0x3A3 then
        [Char.ofNat (if endsWord before (cs ++ rest) then 0x3C2 else 0x3C3)] else lowerChar c
      refine ⟨first ++ front, ?_, ?_⟩
      · have hfirst : first.length = if c.toNat = 0x3A3 then 1 else (lowerChar c).length := by
          unfold first
          split <;> rfl
        rw [List.length_append, hlength, hfirst]
        rfl
      · rw [List.cons_append, lowerFrom, hfront]
        simp [first]

/-- Where both texts have ASCII capitals only, one lowercase form behind
the same beginning means that folding identifies them. -/
theorem sameFolded_of_lowercase_append {before s t : String} (hs : AsciiCased s)
    (ht : AsciiCased t) (h : lowercase (before ++ s) = lowercase (before ++ t)) :
    sameFolded s t = true := by
  unfold lowercase at h
  rw [String.ofList_inj, String.toList_append, String.toList_append] at h
  obtain ⟨front, hlength, hfront⟩ := lowerFrom_append_width [] before.toList s.toList
  obtain ⟨front', hlength', hfront'⟩ := lowerFrom_append_width [] before.toList t.toList
  rw [hfront, hfront', lowerFrom_of_foldsToLower hs, lowerFrom_of_foldsToLower ht] at h
  rw [Columns.sameFolded_iff]
  exact (List.append_inj h (hlength.trans hlength'.symm)).2

end FlatQuery.Text
