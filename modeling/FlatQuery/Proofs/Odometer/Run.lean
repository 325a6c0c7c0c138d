/-
The run of an odometer from its first combination to beyond its last.
After any number of advances the odometer stands at a known place of the
list of all combinations (`Stands`), so what it answers and which digits
it shows are read off that list: a new combination as long as there is
one, and nothing ever after (`lexicographic`).

Two facts about a single turn are added to those of the order: the digit
that a turn names is the first to differ (`firstChange_turn`), and
digits stay below their radices even when they run over, for then they
are all zero (`fits_advance`).
-/
import Mathlib.Order.Bounds.Defs
import FlatQuery.Proofs.Odometer.Order

namespace FlatQuery.Odometer

-- ========================================================== vocabulary

/-- The odometer after so many advances. -/
def after (o : Odometer) : Nat → Odometer
  | 0 => o
  | k + 1 => (o.after k).advance.2

/-- All combinations of these radices, in the order they are counted;
without radices there is none. -/
def course (radices : List Nat) : List (List Nat) :=
  if radices = [] then [] else allDigits radices

/-- The first digit at which two combinations differ. -/
def FirstChange (i : Nat) (digits digits' : List Nat) : Prop :=
  IsLeast {j | digits[j]? ≠ digits'[j]?} i

-- ============================================================ one turn

/-- A turn adds one to the digit that it names. -/
theorem getElem?_turn {radices digits digits' : List Nat} {i : Nat}
    (h : turn radices digits = some (i, digits')) :
    ∃ digit, digits[i]? = some digit ∧ digits'[i]? = some (digit + 1) := by
  fun_induction turn radices digits generalizing i digits' with
  | case1 radix radices digit digits j digits'' hturn ih =>
      cases h
      exact ih hturn
  | case2 radix radices digit digits hturn hroom =>
      cases h
      exact ⟨digit, rfl, rfl⟩
  | case3 => cases h
  | case4 => cases h

/-- The digit that a turn names is the first that differs. -/
theorem firstChange_turn {radices digits digits' : List Nat} {i : Nat}
    (hfits : Fits digits radices) (h : turn radices digits = some (i, digits')) :
    FirstChange i digits digits' := by
  have hspec := turn_spec hfits
  rw [h] at hspec
  obtain ⟨-, -, htake⟩ := hspec
  obtain ⟨digit, hdigit, hdigit'⟩ := getElem?_turn h
  constructor
  · show digits[i]? ≠ digits'[i]?
    rw [hdigit, hdigit']
    simp
  · intro j hj
    by_contra hlt
    have hji : j < i := Nat.lt_of_not_le hlt
    have hsame := congrArg (·[j]?) htake
    simp only [List.getElem?_take_of_lt hji] at hsame
    exact hj hsame.symm

/-- Digits that fit go on fitting, also when they run over. -/
theorem fits_advance {o : Odometer} (h : Fits o.digits o.radices) :
    Fits o.advance.2.digits o.advance.2.radices := by
  have hspec := turn_spec h
  unfold advance
  split
  · exact h
  · split
    · exact h
    · split
      · next i digits hturn =>
        rw [hturn] at hspec
        exact hspec.2.1
      · have hzeros : (o.digits.map fun _ => 0) = o.radices.map fun _ => 0 := by
          rw [List.map_const', List.map_const', h.length_eq]
        show Fits (o.digits.map fun _ => 0) o.radices
        rw [hzeros]
        exact fits_zeros h.pos

/-- Once it has started, an odometer answers the first digit to differ. -/
theorem firstChange_advance {o o' : Odometer} {i : Nat} (hsound : o.Sound)
    (hstarted : o.started = true) (h : o.advance = (some i, o')) :
    FirstChange i o.digits o'.digits := by
  unfold advance at h
  split at h
  · cases h
  · next hex =>
    split at h
    · next hst =>
      rw [hstarted] at hst
      cases hst
    · split at h
      · next j digits hturn =>
        cases h
        exact firstChange_turn (hsound (by simpa using hex)) hturn
      · cases h

/-- What has run out stays so. -/
theorem exhausted_of_advance {o o' : Odometer} (h : o.advance = (none, o')) :
    o'.exhausted = true := by
  unfold advance at h
  split at h
  · next hex =>
    cases h
    exact hex
  · split at h
    · cases h
    · split at h
      · cases h
      · cases h
        rfl

/-- To ask for the next combination is to advance. -/
theorem next_eq (o : Odometer) :
    o.next = (o.advance.1.map fun _ => o.advance.2.digits, o.advance.2) := by
  unfold next
  rcases o.advance with ⟨_ | i, o'⟩ <;> rfl

-- ============================================================ the run

/-- The odometer has passed `k` combinations of `all`: the rest is to
come, and the last one that it passed is shown. -/
structure Stands (all : List (List Nat)) (k : Nat) (o : Odometer) : Prop where
  sound : o.Sound
  pending : o.pending = all.drop k
  begun : o.pending ≠ [] → (o.started = true ↔ 0 < k)
  shown : ∀ j digits, k = j + 1 → all[j]? = some digits → o.digits = digits

variable {all : List (List Nat)} {k : Nat} {o : Odometer}

theorem Stands.exists_advance (h : Stands all k o) {digits : List Nat}
    (hdigits : all[k]? = some digits) :
    ∃ i o', o.advance = (some i, o') ∧ Stands all (k + 1) o'
      ∧ (k = 0 → i = 0) ∧ (0 < k → FirstChange i o.digits digits) := by
  obtain ⟨hlt, hget⟩ := List.getElem?_eq_some_iff.1 hdigits
  have hpending : o.pending = digits :: all.drop (k + 1) := by
    rw [h.pending, List.drop_eq_getElem_cons hlt, hget]
  have hbegun := h.begun (by rw [hpending]; exact List.cons_ne_nil _ _)
  obtain ⟨i, o', hadvance, hshown, hrest, hsound, hstarted, hfirst, -⟩ :=
    advance_cons h.sound hpending
  refine ⟨i, o', hadvance, ⟨hsound, hrest, fun _ => ?_, ?_⟩, fun hzero => ?_, fun hpos => ?_⟩
  · exact iff_of_true hstarted (Nat.succ_pos k)
  · rintro j digits' hj hdigits'
    obtain rfl : k = j := Nat.succ.inj hj
    rw [hshown, ← Option.some.inj (hdigits.symm.trans hdigits')]
  · refine hfirst (Bool.eq_false_iff.2 fun hst => ?_)
    exact absurd (hbegun.1 hst) (by omega)
  · rw [← hshown]
    exact firstChange_advance h.sound (hbegun.2 hpos) hadvance

theorem Stands.advance_none (h : Stands all k o) (hdigits : all[k]? = none) :
    ∃ o', o.advance = (none, o') ∧ Stands all (k + 1) o' := by
  have hdrop : all.drop k = [] := List.drop_eq_nil_iff.2 (List.getElem?_eq_none_iff.1 hdigits)
  obtain ⟨o', hadvance⟩ := advance_nil h.sound (h.pending.trans hdrop)
  have hex := exhausted_of_advance hadvance
  have hpending : o'.pending = [] := if_pos hex
  refine ⟨o', hadvance, fun hfalse => ?_, ?_, fun hne => absurd hpending hne, ?_⟩
  · rw [hex] at hfalse
    cases hfalse
  · rw [hpending, ← List.drop_drop, hdrop]
    rfl
  · rintro j digits hj hsome
    obtain rfl : k = j := Nat.succ.inj hj
    rw [hdigits] at hsome
    cases hsome

theorem Stands.advance (h : Stands all k o) : Stands all (k + 1) o.advance.2 := by
  cases hdigits : all[k]? with
  | none =>
      obtain ⟨o', hadvance, hstands⟩ := h.advance_none hdigits
      rwa [hadvance]
  | some digits =>
      obtain ⟨i, o', hadvance, hstands, -⟩ := h.exists_advance hdigits
      rwa [hadvance]

theorem Stands.isSome_advance (h : Stands all k o) :
    o.advance.1.isSome = true ↔ k < all.length := by
  cases hdigits : all[k]? with
  | none =>
      obtain ⟨o', hadvance, -⟩ := h.advance_none hdigits
      rw [hadvance]
      exact iff_of_false nofun (Nat.not_lt.2 (List.getElem?_eq_none_iff.1 hdigits))
  | some digits =>
      obtain ⟨i, o', hadvance, -⟩ := h.exists_advance hdigits
      rw [hadvance]
      exact iff_of_true rfl (List.getElem?_eq_some_iff.1 hdigits).1

theorem Stands.next_eq (h : Stands all k o) : o.next = (all[k]?, o.advance.2) := by
  rw [Odometer.next_eq]
  cases hdigits : all[k]? with
  | none =>
      obtain ⟨o', hadvance, -⟩ := h.advance_none hdigits
      rw [hadvance]
      rfl
  | some digits =>
      obtain ⟨i, o', hadvance, hstands, -⟩ := h.exists_advance hdigits
      rw [hadvance, ← hstands.shown k digits rfl hdigits]
      rfl

theorem stands_ofRadices (radices : List Nat) :
    Stands (course radices) 0 (ofRadices radices) where
  sound := sound_ofRadices radices
  pending := pending_ofRadices radices
  begun := fun _ => iff_of_false Bool.false_ne_true (Nat.lt_irrefl 0)
  shown := nofun

theorem stands_after (radices : List Nat) (k : Nat) :
    Stands (course radices) k ((ofRadices radices).after k) := by
  induction k with
  | zero => exact stands_ofRadices radices
  | succ k ih => exact ih.advance

theorem radices_advance (o : Odometer) : o.advance.2.radices = o.radices := by
  unfold Odometer.advance
  split
  · rfl
  · split
    · rfl
    · split <;> rfl

theorem fits_after {radices : List Nat} (h : ∀ radix ∈ radices, 0 < radix) (k : Nat) :
    Fits ((ofRadices radices).after k).digits radices := by
  have hboth : Fits ((ofRadices radices).after k).digits ((ofRadices radices).after k).radices
      ∧ ((ofRadices radices).after k).radices = radices := by
    induction k with
    | zero => exact ⟨fits_zeros h, rfl⟩
    | succ k ih => exact ⟨fits_advance ih.1, (radices_advance _).trans ih.2⟩
  have hfits := hboth.1
  rwa [hboth.2] at hfits

-- ========================================================== the course

theorem mem_course {radices digits : List Nat} :
    digits ∈ course radices ↔ radices ≠ [] ∧ Fits digits radices := by
  unfold course
  split
  · next hnil => exact iff_of_false List.not_mem_nil fun h => h.1 hnil
  · next hne =>
    rw [and_iff_right hne, allDigits, tuples.mem_iff, List.forall₂_map_right_iff]
    simp only [List.mem_range]

theorem pairwise_course (radices : List Nat) : (course radices).Pairwise (· < ·) := by
  unfold course
  split
  · exact .nil
  · refine tuples.pairwise_lt fun list hlist => ?_
    obtain ⟨radix, -, rfl⟩ := List.mem_map.1 hlist
    exact List.pairwise_lt_range

theorem length_course (radices : List Nat) :
    (course radices).length = if radices = [] then 0 else radices.prod := by
  unfold course
  split
  · rfl
  · rw [allDigits, tuples.length_eq, List.map_map]
    congr 1
    exact List.map_id'' (fun _ => List.length_range) radices

/-- How an odometer with these radices counts. -/
structure Lexicographic (radices : List Nat) : Prop where
  /-- A combination has a digit below each radix. Without radices there
  is none. -/
  complete : ∀ digits, digits ∈ course radices ↔ radices ≠ [] ∧ Fits digits radices
  /-- Combinations ascend in lexicographic order, each once. -/
  ascending : (course radices).Pairwise (· < ·)
  /-- There are as many as the product of the radices. -/
  count : (course radices).length = if radices = [] then 0 else radices.prod
  /-- An advance answers as long as a combination is left, and none after
  the last. -/
  answers : ∀ k, ((ofRadices radices).after k).advance.1.isSome = true
    ↔ k < (course radices).length
  /-- The digits after an advance that answers are the next combination. -/
  shows : ∀ k digits, (course radices)[k]? = some digits →
    ((ofRadices radices).after (k + 1)).digits = digits
  /-- The next combination can be asked for as well. -/
  next : ∀ k, ((ofRadices radices).after k).next
    = ((course radices)[k]?, (ofRadices radices).after (k + 1))
  /-- The first answer is the first digit. -/
  first : course radices ≠ [] → (ofRadices radices).advance.1 = some 0
  /-- Every later answer is the first digit that differs from the
  combination before. -/
  change : ∀ k digits digits', (course radices)[k]? = some digits →
    (course radices)[k + 1]? = some digits' →
    ∃ i, ((ofRadices radices).after (k + 1)).advance.1 = some i
      ∧ FirstChange i digits digits'
  /-- Digits are below their radices at all times. -/
  bounded : (∀ radix ∈ radices, radix ≠ 0) → ∀ k,
    Fits ((ofRadices radices).after k).digits radices

/-- An odometer goes through all combinations of its radices in
lexicographic order, each once, and then answers no more. -/
theorem lexicographic (radices : List Nat) : Lexicographic radices where
  complete _ := mem_course
  ascending := pairwise_course radices
  count := length_course radices
  answers k := (stands_after radices k).isSome_advance
  shows k digits hdigits := (stands_after radices (k + 1)).shown k digits rfl hdigits
  next k := (stands_after radices k).next_eq
  first hne := by
    have hdigits : (course radices)[0]? = some ((course radices).head hne) := by
      rw [← List.head?_eq_getElem?, List.head?_eq_some_head]
    obtain ⟨i, o', hadvance, -, hzero, -⟩ := (stands_ofRadices radices).exists_advance hdigits
    rw [hadvance, hzero rfl]
  change k digits digits' hdigits hdigits' := by
    have hstands := stands_after radices (k + 1)
    obtain ⟨i, o', hadvance, -, -, hchange⟩ := hstands.exists_advance hdigits'
    rw [hstands.shown k digits rfl hdigits] at hchange
    exact ⟨i, by rw [hadvance], hchange (Nat.succ_pos k)⟩
  bounded hpos k := fits_after (fun radix hr => Nat.pos_of_ne_zero (hpos radix hr)) k

end FlatQuery.Odometer
