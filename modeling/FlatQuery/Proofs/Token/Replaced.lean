/-
One word of a text in the place of another. A letter or underscore goes
on with nothing but a word. So if the tokens of a text are still read
when one such character follows, they are read whichever follows
(`scan_append_of_start`), and a word that is a token of a text can be
replaced by another word: the tokens around it stay (`tokenize_replaced`).
-/
import FlatQuery.Proofs.Token.Respaced

namespace FlatQuery.Token

open Text

/-- A letter or underscore. -/
def IsStart (d : Char) : Prop := (isAlphabetic d || d = '_') = true

namespace IsStart

variable {d : Char} (h : IsStart d)
include h

/-- It goes on a word that has begun. -/
theorem alphanumeric : (isAlphanumeric d || d = '_') = true := by
  unfold IsStart at h
  unfold isAlphanumeric
  rw [Bool.or_right_comm, h]
  rfl

/-- It is none of the characters that begin other tokens. -/
theorem ne {e : Char} (he : (isAlphabetic e || e = '_') = false) : d ≠ e := by
  rintro rfl
  rw [IsStart, he] at h
  cases h

/-- Nor a digit, so it begins a word and not a number. -/
theorem digit : isDigit d = false := by
  refine Bool.eq_false_iff.2 fun hdigit => ?_
  -- digits are few enough to look at each
  have hdigits : ∀ n < 128, isDigit (Char.ofNat n) = true →
      (isAlphabetic (Char.ofNat n) || Char.ofNat n = '_') = false := by
    decide +kernel
  have hascii : d.toNat < 128 := by
    simp only [isDigit, Bool.and_eq_true, decide_eq_true_eq] at hdigit
    exact Nat.lt_of_le_of_lt (Char.le_def.1 hdigit.2) (by decide)
  have hnone := hdigits d.toNat hascii
  rw [Char.ofNat_toNat] at hnone
  rw [IsStart, hnone hdigit] at h
  cases h

/-- Behind a token that is closed it begins the next one. -/
theorem neutral : Neutral d :=
  ⟨h.digit, h.ne (by decide), h.ne (by decide), h.ne (by decide)⟩

/-- Nor a quote, which would go on with a literal. -/
theorem quote : isQuote d = false := by
  unfold isQuote
  rw [decide_eq_false (h.ne (by decide)), decide_eq_false (h.ne (by decide))]
  rfl

/-- It is among the characters of words. -/
theorem word : isWordChar d = true := by
  unfold isWordChar
  rw [h.alphanumeric]
  rfl

/-- Nor a blank, which would end the word before it. -/
theorem blank : isBlank d = false := by
  refine Bool.eq_false_iff.2 fun hblank => ?_
  have hword := h.word
  rw [(of_isBlank hblank).1] at hword
  cases hword

end IsStart

/-- A token stays as it is whatever letter follows the text, or it is
gone on with by each. -/
theorem lexeme_append_start {c : Char} {cs after : List Char} {token : String}
    (h : lexeme c cs = .ok (token, after)) :
    (∀ d rest, IsStart d → lexeme c (cs ++ d :: rest) = .ok (token, after ++ d :: rest))
      ∨ ∀ d rest, IsStart d →
          ∃ longer more, lexeme c (cs ++ d :: rest) = .ok (longer, more) ∧ longer ≠ token := by
  -- a word that runs to the end of the text is gone on with; every other
  -- token has ended
  by_cases hopen : (isAlphanumeric c || c = '_') = true ∧ isDigit c = false ∧ after = []
  · obtain ⟨hc, hdigit, rfl⟩ := hopen
    refine .inr fun d rest hd => ⟨_, _, lexeme_of_wordStart hc hdigit _, ?_⟩
    rw [lexeme_of_wordStart hc hdigit] at h
    obtain ⟨rfl, hall⟩ := Prod.mk.inj (Except.ok.inj h)
    intro heq
    have hword : ∀ e ∈ cs, isWordChar e = true := List.dropWhile_eq_nil_iff.1 hall
    rw [String.ofList_inj, List.cons.injEq, List.takeWhile_append_of_pos hword,
      List.takeWhile_cons_of_pos hd.word, List.takeWhile_eq_self_iff.2 hword] at heq
    simp at heq
  · refine .inl fun d rest hd => lexeme_append h hd.neutral ?_ ?_ rest
    · intro hquote _ hdc
      rw [← hdc, hd.quote] at hquote
      cases hquote
    · intro hc hdigit hafter
      exact absurd ⟨hc, hdigit, hafter⟩ hopen

/-- If the tokens of a text are still read with one letter behind it,
they are read whichever letter follows. -/
theorem scan_append_of_start {cs : List Char} {tokens : List String}
    (hcs : scan cs = (tokens, none)) {d : Char} {rest : List Char} (hd : IsStart d)
    (h : tokens <+: (scan (cs ++ d :: rest)).1) {d' : Char} (hd' : IsStart d')
    (rest' : List Char) :
    scan (cs ++ d' :: rest')
      = (tokens ++ (scan (d' :: rest')).1, (scan (d' :: rest')).2) := by
  -- token by token: each stays, or one of them is gone on with, and then
  -- not all tokens were read
  fun_induction scan cs generalizing tokens with
  | case1 => cases hcs
  | case2 cs hnext =>
      cases hcs
      exact scan_blanks (next_eq_none.1 hnext) _
  | case3 cs token after hnext tokens' failure hscan ih =>
      obtain ⟨rfl, rfl⟩ := Prod.mk.inj hcs
      obtain ⟨c, more, htrim, hfound⟩ := next_eq_some.1 hnext
      rcases lexeme_append_start hfound with hsame | hlonger
      · have hnext' : ∀ e rest, IsStart e →
            next (cs ++ e :: rest) = .ok (some (token, after ++ e :: rest)) :=
          fun e rest he =>
            next_eq_some.2 ⟨c, _, trimStart_append htrim _, hsame e rest he⟩
        rw [scan_of_next (hnext' d rest hd), List.cons_prefix_cons] at h
        rw [scan_of_next (hnext' d' rest' hd'), ih hscan h.2]
        rfl
      · obtain ⟨longer, behind, hfound', hne⟩ := hlonger d rest hd
        have hnext' := next_eq_some.2 ⟨c, _, trimStart_append htrim _, hfound'⟩
        rw [scan_of_next hnext', List.cons_prefix_cons] at h
        exact absurd h.1.symm hne

/-- A letter or underscore, and then letters, numbers, underscores and
points. -/
def IsBare (t : String) : Prop :=
  ∃ c cs, t.toList = c :: cs ∧ IsStart c ∧ ∀ d ∈ cs, isWordChar d = true

/-- Where a bare word is read, what stands behind it does not go on with
it; and where it does not, any bare word is read. -/
theorem scan_bare {t : String} (h : IsBare t) (rest : List Char) {tokens : List String} :
    scan (t.toList ++ rest) = (t :: tokens, none)
      ↔ rest.takeWhile isWordChar = [] ∧ scan rest = (tokens, none) := by
  obtain ⟨c, cs, htext, hc, hcs⟩ := h
  have hscan : scan (c :: (cs ++ rest)) = _ :=
    scan_lexeme hc.blank (lexeme_of_wordStart hc.alphanumeric hc.digit (cs ++ rest))
  rw [List.takeWhile_append_of_pos hcs, List.dropWhile_append_of_pos hcs] at hscan
  have hspan := List.takeWhile_append_dropWhile (p := isWordChar) (l := rest)
  rw [htext, List.cons_append, hscan]
  constructor
  -- the word is read as far as the characters of words go, so it ends
  -- where they do
  · intro h
    obtain ⟨htokens, hfailure⟩ := Prod.mk.inj h
    obtain ⟨hword, htokens⟩ := List.cons.inj htokens
    have hnone : rest.takeWhile isWordChar = [] := by
      rw [← String.toList_inj, String.toList_ofList, htext, List.cons.injEq] at hword
      exact List.append_right_eq_self.1 hword.2
    rw [hnone, List.nil_append] at hspan
    rw [hspan] at htokens hfailure
    exact ⟨hnone, Prod.ext htokens hfailure⟩
  · rintro ⟨hnone, hrest⟩
    rw [hnone, List.nil_append] at hspan
    rw [hspan, hrest, hnone, List.append_nil, ← htext, String.ofList_toList]

/-- A bare word that is a token of a text can be replaced by another: the
tokens before it and those behind it stay. -/
theorem tokenize_replaced {front back s t : String} {before after : List String}
    (hs : IsBare s) (ht : IsBare t) (hfront : tokenize front = .ok before)
    (htext : tokenize (front ++ s ++ back) = .ok (before ++ s :: after)) :
    tokenize (front ++ t ++ back) = .ok (before ++ t :: after) := by
  rw [tokenize_eq_ok] at hfront htext ⊢
  rw [String.toList_append, String.toList_append, List.append_assoc] at htext ⊢
  have hcontinued : ∀ w, IsBare w → scan (front.toList ++ (w.toList ++ back.toList))
      = (before ++ (scan (w.toList ++ back.toList)).1, (scan (w.toList ++ back.toList)).2) := by
    intro w hw
    obtain ⟨c, cs, hchars, hc, -⟩ := hs
    obtain ⟨d, ds, hchars', hd, -⟩ := hw
    rw [hchars, List.cons_append] at htext
    rw [hchars', List.cons_append]
    have hread : before <+: (scan (front.toList ++ c :: (cs ++ back.toList))).1 := by
      rw [htext]
      exact List.prefix_append _ _
    exact scan_append_of_start hfront hc hread hd _
  -- the tokens before the word are cancelled, and what is left begins with
  -- the word
  rw [hcontinued s hs] at htext
  obtain ⟨htokens, hfailure⟩ := Prod.mk.inj htext
  obtain ⟨hnone, hback⟩ :=
    (scan_bare hs back.toList).1 (Prod.ext (List.append_cancel_left htokens) hfailure)
  rw [hcontinued t ht, (scan_bare ht back.toList).2 ⟨hnone, hback⟩]

end FlatQuery.Token
