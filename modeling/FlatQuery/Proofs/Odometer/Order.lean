/-
The order in which an odometer counts. Its combinations are the tuples
of digits below the radices, each once, in lexicographic order
(`pending_ofRadices`).

What is still to come is spelled out as a list, `pending`. One advance
takes the head off that list (`advance_cons`) and touches no digit
before the one that it answers, so an induction over an odometer's run
is an induction over the list. How many there are in all is counted
beforehand, without counting past a limit (`combinations_eq`).
-/
import FlatQuery.Odometer
import FlatQuery.Proofs.Tuples

namespace FlatQuery.Odometer

-- ============================================================= digits

/-- All digits of these radices, in order. -/
def allDigits (radices : List Nat) : List (List Nat) := tuples (radices.map List.range)

/-- The digits that come after the given ones: first those that differ
behind the first digit, then those with a larger first digit. -/
def digitsAfter : List Nat → List Nat → List (List Nat)
  | radix :: radices, digit :: digits =>
    (digitsAfter radices digits).map (digit :: ·)
      ++ tuples (List.range' (digit + 1) (radix - (digit + 1)) :: radices.map List.range)
  | _, _ => []

/-- Digits that their radices allow. -/
abbrev Fits (digits radices : List Nat) : Prop := List.Forall₂ (· < ·) digits radices

/-- Digits fit only below radices that are not zero. -/
theorem Fits.pos {digits radices : List Nat} (h : Fits digits radices) :
    ∀ radix ∈ radices, 0 < radix := by
  induction h with
  | nil => exact fun radix hr => absurd hr List.not_mem_nil
  | cons hlt _ ih => exact List.forall_mem_cons.2 ⟨by omega, ih⟩

/-- The zeros fit below any others. -/
theorem fits_zeros {radices : List Nat} (h : ∀ radix ∈ radices, 0 < radix) :
    Fits (radices.map fun _ => 0) radices := by
  induction radices with
  | nil => exact .nil
  | cons radix radices ih =>
      obtain ⟨hr, hrest⟩ := List.forall_mem_cons.1 h
      exact .cons hr (ih hrest)

/-- Digits start at zero. -/
theorem allDigits_eq_zeros_cons {radices : List Nat} (h : ∀ radix ∈ radices, 0 < radix) :
    allDigits radices
      = (radices.map fun _ => 0) :: digitsAfter radices (radices.map fun _ => 0) := by
  induction radices with
  | nil => rfl
  | cons radix radices ih =>
      obtain ⟨hr, hrest⟩ := List.forall_mem_cons.1 h
      obtain ⟨n, rfl⟩ : ∃ n, radix = n + 1 := ⟨radix - 1, by omega⟩
      have htail := ih hrest
      unfold allDigits at htail ⊢
      rw [List.map_cons, List.range_eq_range', List.range'_succ, tuples.cons_cons, htail,
        List.map_cons, List.map_cons, digitsAfter]
      simp

-- ============================================================ turning

/-- Turning the last digit on moves to the next digits in order and
leaves alone all before the one that it names; where it runs over,
there are none after. -/
theorem turn_spec {radices digits : List Nat} (h : Fits digits radices) :
    match turn radices digits with
    | some (i, digits') =>
      digitsAfter radices digits = digits' :: digitsAfter radices digits'
        ∧ Fits digits' radices ∧ digits'.take i = digits.take i
    | none => digitsAfter radices digits = [] := by
  induction h with
  | nil => rfl
  | @cons digit radix digits radices hlt htail ih =>
      unfold turn
      -- a digit further right turns, or all of those are at their ends and
      -- this one does
      cases hturn : turn radices digits with
      | some p =>
          obtain ⟨i, digits'⟩ := p
          rw [hturn] at ih
          obtain ⟨hafter, hfits, htake⟩ := ih
          refine ⟨?_, .cons hlt hfits, ?_⟩
          · rw [digitsAfter, hafter, digitsAfter]
            rfl
          · rw [List.take_succ_cons, List.take_succ_cons, htake]
      | none =>
          rw [hturn] at ih
          dsimp only at ih ⊢
          have hlength : digits.map (fun _ => 0) = radices.map fun _ => 0 := by
            rw [List.map_const', List.map_const', htail.length_eq]
          by_cases hroom : digit + 1 < radix
          -- there is a digit left here, and the ones behind it start again
          · obtain ⟨n, hn⟩ : ∃ n, radix - (digit + 1) = n + 1 :=
              ⟨radix - (digit + 1) - 1, by omega⟩
            have hrest : radix - (digit + 1 + 1) = n := by omega
            have hall := allDigits_eq_zeros_cons (Fits.pos htail)
            unfold allDigits at hall
            rw [if_pos hroom, hlength]
            refine ⟨?_, .cons hroom (fits_zeros (Fits.pos htail)), rfl⟩
            rw [digitsAfter, ih, hn, List.range'_succ, tuples.cons_cons, hall,
              digitsAfter, hrest]
            rfl
          · have hzero : radix - (digit + 1) = 0 := by omega
            -- there is none, so nothing comes after these digits
            rw [if_neg hroom]
            show digitsAfter (radix :: radices) (digit :: digits) = []
            rw [digitsAfter, ih, hzero]
            rfl

/-- There are as many digits as before. -/
theorem length_turn {radices digits digits' : List Nat} {i : Nat}
    (h : turn radices digits = some (i, digits')) : digits'.length = digits.length := by
  fun_induction turn radices digits generalizing i digits' with
  | case1 radix radices digit digits j digits'' htail ih =>
      cases h
      exact congrArg (· + 1) (ih htail)
  | case2 radix radices digit digits htail hroom =>
      cases h
      rw [List.length_cons, List.length_map, List.length_cons]
  | case3 => cases h
  | case4 => cases h

-- ========================================================== advancing

/-- Going on changes digits, not how many there are. -/
theorem length_digits_advance {o o' : Odometer} {i : Nat} (h : o.advance = (some i, o')) :
    o'.digits.length = o.digits.length := by
  unfold advance at h
  split at h
  · cases h
  · split at h
    · cases h
      rfl
    · split at h
      · next j digits hturn =>
        cases h
        exact length_turn hturn
      · cases h

/-- An odometer that is not through holds digits of its radices. -/
def Sound (o : Odometer) : Prop := o.exhausted = false → Fits o.digits o.radices

/-- The combinations still to come. -/
def pending (o : Odometer) : List (List Nat) :=
  if o.exhausted then []
  else if o.started then digitsAfter o.radices o.digits
  else o.digits :: digitsAfter o.radices o.digits

/-- At first all combinations are ahead. -/
theorem sound_ofRadices (radices : List Nat) : (ofRadices radices).Sound := by
  intro h
  refine fits_zeros fun radix hr => Nat.pos_of_ne_zero ?_
  rintro rfl
  simp [ofRadices, hr] at h

/-- A new odometer has all combinations before it; without digits there
are none. -/
theorem pending_ofRadices (radices : List Nat) :
    (ofRadices radices).pending = if radices = [] then [] else allDigits radices := by
  by_cases hnil : radices = []
  · subst hnil
    rfl
  rw [if_neg hnil]
  by_cases hzero : 0 ∈ radices
  · have hempty : [] ∈ radices.map List.range := List.mem_map.2 ⟨0, hzero, rfl⟩
    rw [allDigits, tuples.eq_nil_of_mem hempty]
    simp [pending, ofRadices, hzero]
  · have hpos : ∀ radix ∈ radices, 0 < radix := fun radix hr =>
      Nat.pos_of_ne_zero fun h => hzero (h ▸ hr)
    rw [allDigits_eq_zeros_cons hpos]
    simp [pending, ofRadices, hzero, hnil]

/-- With none ahead there is nothing to go on to. -/
theorem advance_nil {o : Odometer} (hsound : o.Sound) (h : o.pending = []) :
    ∃ o', o.advance = (none, o') := by
  unfold advance
  by_cases hex : o.exhausted = true
  · exact ⟨o, if_pos hex⟩
  · have hspec := turn_spec (hsound (by simpa using hex))
    by_cases hst : o.started = true
    · simp only [pending, hex, hst, if_true, Bool.false_eq_true, if_false] at h
      cases hturn : turn o.radices o.digits with
      | none => simp [hex, hst]
      | some p =>
          rw [hturn] at hspec
          rw [hspec.1] at h
          cases h
    · simp [pending, hex, hst] at h

/-- An advance takes the next combination off those to come. The digits
before the one it answers stay as they were. -/
theorem advance_cons {o : Odometer} (hsound : o.Sound) {digits : List Nat}
    {rest : List (List Nat)} (h : o.pending = digits :: rest) :
    ∃ i o', o.advance = (some i, o') ∧ o'.digits = digits ∧ o'.pending = rest
      ∧ o'.Sound ∧ o'.started = true
      ∧ (o.started = false → i = 0) ∧ digits.take i = o.digits.take i := by
  unfold advance
  by_cases hex : o.exhausted = true
  · simp [pending, hex] at h
  have hex' : o.exhausted = false := by simpa using hex
  have hspec := turn_spec (hsound hex')
  -- the first combination is the one the odometer was set to; every other
  -- one is the next turn
  cases hst : o.started with
  | false =>
      have hpending : o.digits :: digitsAfter o.radices o.digits = digits :: rest := by
        simpa [pending, hex', hst] using h
      obtain ⟨rfl, rfl⟩ := List.cons.inj hpending
      refine ⟨0, { o with started := true }, by simp [hex'], rfl, ?_, hsound, rfl,
        fun _ => rfl, rfl⟩
      simp [pending, hex']
  | true =>
      have hpending : digitsAfter o.radices o.digits = digits :: rest := by
        simpa [pending, hex', hst] using h
      cases hturn : turn o.radices o.digits with
      | none =>
          rw [hturn] at hspec
          rw [hspec] at hpending
          cases hpending
      | some p =>
          obtain ⟨i, digits'⟩ := p
          rw [hturn] at hspec
          obtain ⟨hafter, hfits, htake⟩ := hspec
          rw [hafter] at hpending
          obtain ⟨rfl, rfl⟩ := List.cons.inj hpending
          refine ⟨i, { o with digits := digits' }, by simp [hex', hst], rfl,
            ?_, fun _ => hfits,
            hst, nofun, htake⟩
          simp [pending, hex', hst]

-- =========================================================== counting

/-- The count is the product, cut off at the largest. -/
theorem foldl_saturatingMul (radices : List Nat) {n : Nat} (h : n ≤ countLimit) :
    radices.foldl saturatingMul n = min countLimit (n * radices.prod) := by
  induction radices generalizing n with
  | nil => simp [h]
  | cons radix radices ih =>
      have hheld : saturatingMul n radix ≤ countLimit := Nat.min_le_left _ _
      rw [List.foldl_cons, ih hheld, List.prod_cons, ← Nat.mul_assoc]
      unfold saturatingMul
      -- What was cut off stays at the limit, unless a zero follows.
      rcases Nat.le_total (n * radix) countLimit with hle | hge
      · rw [Nat.min_eq_right hle]
      · rw [Nat.min_eq_left hge]
        rcases Nat.eq_zero_or_pos radices.prod with hzero | hpos
        · rw [hzero, Nat.mul_zero, Nat.mul_zero]
        · have hcut : countLimit ≤ countLimit * radices.prod := Nat.le_mul_of_pos_right _ hpos
          have hfull : countLimit * radices.prod ≤ n * radix * radices.prod :=
            Nat.mul_le_mul_right _ hge
          rw [Nat.min_eq_left hcut, Nat.min_eq_left (Nat.le_trans hcut hfull)]

/-- Cut off at every step or once at the end, the product is the same. -/
theorem combinations_eq (o : Odometer) :
    o.combinations = min countLimit (if o.radices.isEmpty then 0 else o.radices.prod) := by
  unfold combinations
  split
  · rfl
  · rw [foldl_saturatingMul _ (by decide), Nat.one_mul]

end FlatQuery.Odometer
