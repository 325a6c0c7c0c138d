/-
Counters with a radix of its own for every digit. The first digit turns
slowest and the last fastest, so the digits run through all combinations
in lexicographic order. A counter without digits, or with a radix of
zero, has nothing to count.
-/
namespace FlatQuery

structure Odometer where
  radices : List Nat
  digits : List Nat
  started : Bool
  exhausted : Bool
  deriving DecidableEq, Repr

namespace Odometer

/-- The counter before its first combination. -/
def ofRadices (radices : List Nat) : Odometer where
  radices := radices
  digits := radices.map fun _ => 0
  started := false
  exhausted := radices.isEmpty || radices.contains 0

/-- The largest count that is told exactly. -/
def countLimit : Nat := UInt64.size - 1

/-- The product, or the limit if it is larger. -/
def saturatingMul (a b : Nat) : Nat := min countLimit (a * b)

/-- How many combinations there are, up to the limit: the radices are
multiplied from the left, and every product on the way is held there. -/
def combinations (o : Odometer) : Nat :=
  if o.radices.isEmpty then 0 else o.radices.foldl saturatingMul 1

/-- Turns the last digit on, and those before it where digits run over.
Answers the first digit that changed and the new digits; `none` if all
of them ran over. -/
def turn : List Nat → List Nat → Option (Nat × List Nat)
  | radix :: radices, digit :: digits =>
    match turn radices digits with
    | some (i, digits) => some (i + 1, digit :: digits)
    | none =>
      if digit + 1 < radix then some (0, (digit + 1) :: digits.map fun _ => 0) else none
  | _, _ => none

/-- Moves on to the next combination. Answers the first digit that
changed, which is 0 for the first combination; `none` if there is no
next one, with all digits at zero. -/
def advance (o : Odometer) : Option Nat × Odometer :=
  if o.exhausted then (none, o)
  else if !o.started then (some 0, { o with started := true })
  else
    match turn o.radices o.digits with
    | some (i, digits) => (some i, { o with digits })
    | none => (none, { o with digits := o.digits.map fun _ => 0, exhausted := true })

/-- The next combination itself. -/
def next (o : Odometer) : Option (List Nat) × Odometer :=
  match o.advance with
  | (some _, o) => (some o.digits, o)
  | (none, o) => (none, o)

-- ========================================================== progress

/-- How often a digit of these radices can be turned on, counting a
radix of zero as one. -/
def span : List Nat → Nat
  | [] => 1
  | radix :: radices => max 1 radix * span radices

/-- How often the digits can still be turned on. -/
def turnsLeft : List Nat → List Nat → Nat
  | radix :: radices, digit :: digits =>
    (radix - 1 - digit) * span radices + turnsLeft radices digits
  | _, _ => 0

/-- How many combinations are still to come. -/
def remaining (o : Odometer) : Nat :=
  if o.exhausted then 0
  else (if o.started then 0 else 1) + turnsLeft o.radices o.digits

private theorem span_pos (radices : List Nat) : 0 < span radices := by
  induction radices with
  | nil => simp [span]
  | cons r rs ih => exact Nat.mul_pos (by omega) ih

private theorem turnsLeft_lt_span (radices digits : List Nat) :
    turnsLeft radices digits < span radices := by
  induction radices generalizing digits with
  | nil => cases digits <;> simp [turnsLeft, span]
  | cons r rs ih =>
    cases digits with
    | nil => exact span_pos _
    | cons d ds =>
      have h1 := ih ds
      have h2 : (r - 1 - d) * span rs ≤ (max 1 r - 1) * span rs :=
        Nat.mul_le_mul_right _ (by omega)
      have h3 : (max 1 r - 1) * span rs + span rs = max 1 r * span rs := by
        rw [← Nat.succ_mul]
        congr 1
        omega
      simp only [turnsLeft, span]
      omega

private theorem turnsLeft_turn {radices digits digits' : List Nat} {i : Nat}
    (h : turn radices digits = some (i, digits')) :
    turnsLeft radices digits' < turnsLeft radices digits := by
  fun_induction turn radices digits generalizing i digits' with
  | case1 r rs d ds j ds' htail ih =>
    cases h
    have := ih htail
    simp only [turnsLeft]
    omega
  | case2 r rs d ds htail hd ih =>
    cases h
    have hz := turnsLeft_lt_span rs (ds.map fun _ => 0)
    have hm : (r - 1 - (d + 1)) * span rs + span rs = (r - 1 - d) * span rs := by
      rw [← Nat.succ_mul]
      congr 1
      omega
    simp only [turnsLeft]
    omega
  | case3 => simp at h
  | case4 => simp at h

/-- Every combination is one less to come. -/
theorem remaining_advance {o o' : Odometer} {i : Nat} (h : o.advance = (some i, o')) :
    o'.remaining < o.remaining := by
  unfold advance at h
  split at h
  · simp at h
  · next hx =>
    split at h
    · next hs =>
      cases h
      simp_all [remaining]
    · next hs =>
      split at h
      · next j digits ht =>
        cases h
        have := turnsLeft_turn ht
        simp_all [remaining]
      · simp at h

end Odometer

end FlatQuery
