/-
Numbers of a statement. A number begins with a digit, perhaps behind a
minus, so it is none of the words that numerals may be, and it is read
digit by digit. Digits with at most one point among them are numbers
(`isNumber_of_isDecimal`), and every number denotes something
(`number?_isSome_of_isNumber`).
-/
import FlatQuery.Token

namespace FlatQuery.Token

open Text

-- ============================================================= reading

/-- A digit is no sign. -/
theorem splitSign_digit {d : Char} (hd : isDigit d = true) (cs : List Char) :
    Numeral.splitSign (d :: cs) = (false, d :: cs) := by
  unfold Numeral.splitSign
  split
  · next heq => cases heq; cases hd
  · next heq => cases heq; cases hd
  · rfl

/-- What begins with a digit after its sign is no word. -/
theorem read?_of_splitSign {text : String} {negative : Bool} {d : Char}
    {cs : List Char} (hsign : Numeral.splitSign text.toList = (negative, d :: cs))
    (hd : isDigit d = true) :
    Numeral.read? text = Numeral.decimal? negative (d :: cs) := by
  have hfold : foldChar d = d := by
    refine if_neg fun hcap => ?_
    simp only [isDigit, Bool.and_eq_true, decide_eq_true_eq] at hd hcap
    exact absurd (Char.le_trans hcap.1 hd.2) (by decide)
  have hword : ∀ c word, isDigit c = false → (d :: cs).map foldChar ≠ c :: word := by
    intro c word hc heq
    rw [List.map_cons, hfold] at heq
    rw [(List.cons.inj heq).1, hc] at hd
    cases hd
  unfold Numeral.read?
  simp only [hsign]
  rw [decide_eq_false (hword 'i' _ rfl), decide_eq_false (hword 'i' _ rfl),
    if_neg (hword 'n' _ rfl)]
  rfl

theorem isSome_decimal? (negative : Bool) (cs : List Char) :
    (Numeral.decimal? negative cs).isSome = (Numeral.decimal? false cs).isSome := by
  unfold Numeral.decimal?
  dsimp only
  split
  · rfl
  · rw [Option.isSome_map, Option.isSome_map]

/-- A number of a statement is a decimal, perhaps behind a minus. -/
private theorem exists_decimal {token : String} (h : isNumber token = true) :
    ∃ negative d cs, isDigit d = true ∧ (Numeral.decimal? false (d :: cs)).isSome = true
      ∧ Numeral.splitSign token.toList = (negative, d :: cs) := by
  have hunsigned : ∀ unsigned : List Char, (unsigned.head?.any isDigit
        && (Numeral.read? (String.ofList unsigned)).isSome) = true →
      ∃ d cs, unsigned = d :: cs ∧ isDigit d = true
        ∧ (Numeral.decimal? false (d :: cs)).isSome = true := by
    intro unsigned hboth
    rw [Bool.and_eq_true] at hboth
    obtain ⟨hhead, hread⟩ := hboth
    cases unsigned with
    | nil => cases hhead
    | cons d cs =>
        have hd : isDigit d = true := hhead
        have hsign := splitSign_digit hd cs
        rw [← String.toList_ofList (l := d :: cs)] at hsign
        rw [read?_of_splitSign (by rw [hsign, String.toList_ofList]) hd] at hread
        exact ⟨d, cs, rfl, hd, hread⟩
  unfold isNumber at h
  dsimp only at h
  split at h
  · next htoken =>
    obtain ⟨d, cs, rfl, hd, hdecimal⟩ := hunsigned _ h
    exact ⟨true, d, cs, hd, hdecimal, by rw [htoken]; rfl⟩
  · obtain ⟨d, cs, htoken, hd, hdecimal⟩ := hunsigned _ h
    exact ⟨false, d, cs, hd, hdecimal, by rw [htoken]; exact splitSign_digit hd cs⟩

/-- A number of a statement denotes a number. -/
theorem number?_isSome_of_isNumber {token : String} (h : isNumber token = true) :
    (number? token).isSome = true := by
  obtain ⟨negative, d, cs, hd, hdecimal, hsign⟩ := exists_decimal h
  rw [number?, Option.isSome_map, read?_of_splitSign hsign hd, isSome_decimal?]
  exact hdecimal

-- ============================================================ decimals

/-- Digits, and perhaps a point with digits behind it. -/
inductive IsUnsigned : List Char → Prop where
  | whole {digits : List Char} :
    digits ≠ [] → (∀ c ∈ digits, isDigit c = true) → IsUnsigned digits
  | point {digits places : List Char} :
    digits ≠ [] → (∀ c ∈ digits, isDigit c = true) →
    places ≠ [] → (∀ c ∈ places, isDigit c = true) → IsUnsigned (digits ++ '.' :: places)

/-- A decimal without an exponent, perhaps behind a minus. -/
def IsDecimal (s : String) : Prop :=
  IsUnsigned s.toList ∨ ∃ cs, s.toList = '-' :: cs ∧ IsUnsigned cs

theorem IsUnsigned.exists_cons {cs : List Char} (h : IsUnsigned cs) :
    ∃ d rest, cs = d :: rest ∧ isDigit d = true := by
  cases h with
  | whole hne hdigits =>
      obtain ⟨d, rest, rfl⟩ := List.exists_cons_of_ne_nil hne
      exact ⟨d, rest, rfl, hdigits d (List.mem_cons_self ..)⟩
  | point hne hdigits _ _ =>
      obtain ⟨d, rest, rfl⟩ := List.exists_cons_of_ne_nil hne
      exact ⟨d, _, rfl, hdigits d (List.mem_cons_self ..)⟩

/-- A run ends where the next member does not belong to it. -/
theorem span_append {α : Type} {p : α → Bool} {front : List α} (rest : List α)
    (hfront : ∀ a ∈ front, p a = true) (hrest : ∀ a, rest.head? = some a → p a = false) :
    (front ++ rest).takeWhile p = front ∧ (front ++ rest).dropWhile p = rest := by
  rw [List.takeWhile_append_of_pos hfront, List.dropWhile_append_of_pos hfront]
  cases rest with
  | nil => exact ⟨List.append_nil _, rfl⟩
  | cons a rest =>
      have ha := Bool.eq_false_iff.1 (hrest a rfl)
      rw [List.takeWhile_cons_of_neg ha, List.dropWhile_cons_of_neg ha, List.append_nil]
      exact ⟨rfl, rfl⟩

/-- What runs up to the first member of a kind ends where that member
is. -/
theorem span_until {α : Type} {p : α → Bool} {front : List α} (rest : List α)
    (hfront : ∀ a ∈ front, p a = false) (hrest : ∀ a, rest.head? = some a → p a = true) :
    (front ++ rest).takeWhile (!p ·) = front ∧ (front ++ rest).dropWhile (!p ·) = rest := by
  apply span_append
  · intro a ha
    rw [hfront a ha]
    rfl
  · intro a ha
    rw [hrest a ha]
    rfl

/-- Its digits are read as such, and nothing is left. -/
theorem isSome_decimal?_of_isUnsigned {cs : List Char} (h : IsUnsigned cs) :
    (Numeral.decimal? false cs).isSome = true := by
  unfold Numeral.decimal? Numeral.splitDigits
  cases h with
  | whole hne hdigits =>
      have hspan := span_append [] hdigits nofun
      rw [List.append_nil] at hspan
      simp [hspan, hne, Numeral.exponent?]
  | @point digits places hne hdigits hne' hplaces =>
      have hpoint : ∀ c, ('.' :: places).head? = some c → isDigit c = false := by
        intro c hc
        obtain rfl := Option.some.inj hc
        rfl
      have hspan := span_append _ hdigits hpoint
      have hspan' := span_append [] hplaces nofun
      rw [List.append_nil] at hspan'
      simp [hspan, hspan', hne, Numeral.exponent?]

/-- A decimal is taken for a number. -/
theorem isNumber_of_isDecimal {s : String} (h : IsDecimal s) : isNumber s = true := by
  have hread : ∀ cs, IsUnsigned cs → (cs.head?.any isDigit
      && (Numeral.read? (String.ofList cs)).isSome) = true := by
    intro cs hcs
    obtain ⟨d, rest, rfl, hd⟩ := hcs.exists_cons
    have hsign := splitSign_digit hd rest
    rw [← String.toList_ofList (l := d :: rest)] at hsign
    rw [read?_of_splitSign (by rw [hsign, String.toList_ofList]) hd,
      isSome_decimal?_of_isUnsigned hcs]
    simpa using hd
  unfold isNumber
  rcases h with h | ⟨cs, htext, h⟩
  · obtain ⟨d, rest, htext, hd⟩ := h.exists_cons
    rw [htext] at h ⊢
    have hminus : d ≠ '-' := by
      rintro rfl
      cases hd
    simpa [hminus] using hread _ h
  · rw [htext]
    exact hread cs h

end FlatQuery.Token
