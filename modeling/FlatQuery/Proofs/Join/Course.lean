/-
The course of a join, over whatever scans. Before it reads a row it
looks at the phases of the scans, at the predicate and, last, at the
number of combinations; if that is too large it has done nothing yet
(`observing_of_lt`). From then on it only reads rows and tests them. So
it leaves of the scans all but their backends (`map_observing`), and it
fails as reading a row does (`failsAs_enumerate`), never for its size.

The number is the product of the numbers of matching rows, which is not
counted past the largest that is told (`counted_eq`). Together this says
which joins are too large (`tooLarge_iff`): a limit as large as that
number refuses none.
-/
import FlatQuery.Join
import FlatQuery.Proofs.Failure
import FlatQuery.Proofs.Odometer.Order
import FlatQuery.Proofs.Scan.History

namespace FlatQuery.Join

open Result

variable {ω : Type} (observe : ω → Bindings → ω) (predicate : Predicate)

-- ================================================= what it leaves alone

section
variable {β : Type} {part : Scan → β}

/-- The part of every scan that `part` looks at, if that is not the
backend, is what it was after rows were read. -/
theorem map_rebind (hpart : ∀ s backend, part { s with backend := backend } = part s)
    (disk : Disk) (skip : Nat) (scans : List Scan) (rows : List Nat) (bindings : Bindings) :
    (rebind disk skip scans rows bindings).2.map part = scans.map part := by
  have hread : ∀ row scan, part (Scan.readRow disk row scan).2 = part scan := by
    intro row scan
    obtain ⟨backend, hbackend⟩ := scan.readRow_backend disk row
    rw [hbackend, hpart]
  fun_induction rebind disk skip scans rows bindings with
  | case1 skip scan scans row rows bindings outcome scans' hrest ih =>
      rw [hrest] at ih
      rw [List.map_cons, List.map_cons, ih]
  | case2 scan scans row rows bindings e scan' hrow =>
      have hscan := hread row scan
      rw [hrow] at hscan
      rw [List.map_cons, List.map_cons, hscan]
  | case3 scan scans row rows bindings values scan' hrow outcome scans' hrest ih =>
      have hscan := hread row scan
      rw [hrow] at hscan
      rw [hrest] at ih
      rw [List.map_cons, List.map_cons, hscan, ih]
  | case4 => rfl

theorem map_enumerate (hpart : ∀ s backend, part { s with backend := backend } = part s)
    (disk : Disk) (candidates : List (Array Nat)) (odometer : Odometer) (s : State ω) :
    (enumerate observe predicate disk candidates odometer s).2.scans.map part
      = s.scans.map part := by
  fun_induction enumerate observe predicate disk candidates odometer s with
  | case1 => rfl
  | case2 odometer s changed odometer' hadvance rows e scans hrebind =>
      have hscans := map_rebind hpart disk changed s.scans rows s.bindings
      rw [hrebind] at hscans
      exact hscans
  | case3 odometer s changed odometer' hadvance rows bindings scans hrebind ih =>
      have hscans := map_rebind hpart disk changed s.scans rows s.bindings
      rw [hrebind] at hscans
      exact ih.trans hscans

/-- A join moves the backends of its scans and nothing else of them, also
if it fails. -/
theorem map_observing (hpart : ∀ s backend, part { s with backend := backend } = part s)
    (disk : Disk) (limit : Option Nat) (seen : ω) (scans : List Scan) :
    (observing observe predicate disk limit seen scans).2.scans.map part
      = scans.map part := by
  unfold observing
  dsimp only
  split
  · rfl
  · have hscans := map_enumerate observe predicate hpart disk (scans.map Scan.matching)
      (.ofRadices ((scans.map Scan.matching).map Array.size))
      ⟨scans, .empty, .zero, #[], seen⟩
    split
    · next heq => rwa [heq] at hscans
    · next heq => rwa [heq] at hscans

end

-- ===================================================== what it accepts

theorem length_rowIds (candidates : List (Array Nat)) (digits : List Nat) :
    (rowIds candidates digits).length = min digits.length candidates.length := by
  rw [rowIds, List.length_map, List.length_zip]

/-- A test accepts the combination that it is made on, or none. -/
theorem mem_rows_test {rows accepted : List Nat} {s : State ω}
    (h : accepted ∈ (test observe predicate rows s).rows.toList) :
    accepted ∈ s.rows.toList ∨ accepted = rows := by
  unfold test at h
  dsimp only at h
  split at h
  · simpa using h
  · exact .inl h

/-- An odometer with a digit for every scan names a row of each. -/
theorem length_of_mem_enumerate {width : Nat} (disk : Disk) {candidates : List (Array Nat)}
    (hcandidates : candidates.length = width) {o : Odometer} (hdigits : o.digits.length = width)
    {s : State ω} (h : ∀ rows ∈ s.rows.toList, rows.length = width) :
    ∀ rows ∈ (enumerate observe predicate disk candidates o s).2.rows.toList,
      rows.length = width := by
  fun_induction enumerate observe predicate disk candidates o s with
  | case1 => exact h
  | case2 => exact h
  | case3 o s changed o' hadvance rows bindings scans hrebind ih =>
      have hdigits' := (Odometer.length_digits_advance hadvance).trans hdigits
      have hrows : rows.length = width := by
        rw [length_rowIds, hdigits', hcandidates, Nat.min_self]
      refine ih hdigits' fun accepted haccepted => ?_
      rcases mem_rows_test observe predicate haccepted with hmem | rfl
      · exact h accepted hmem
      · exact hrows

/-- What a join accepts has a row of every scan. -/
theorem length_of_mem_execute {disk : Disk} {limit : Option Nat} {scans : List Scan}
    {index : JoinIndex} (h : (execute predicate disk limit scans).1 = .ok index) :
    ∀ rows ∈ index.rows.toList, rows.length = scans.length := by
  have hcandidates : (scans.map Scan.matching).length = scans.length := List.length_map _
  have hdigits : (Odometer.ofRadices
      ((scans.map Scan.matching).map Array.size)).digits.length = scans.length := by
    simp [Odometer.ofRadices]
  have hrun := length_of_mem_enumerate (fun (_ : Unit) _ => ()) predicate disk
    hcandidates hdigits (s := ⟨scans, .empty, .zero, #[], ()⟩)
    (fun rows hrows => absurd hrows List.not_mem_nil)
  unfold execute observing at h
  dsimp only at h
  cases hcheck : precheck predicate limit scans
      (.ofRadices ((scans.map Scan.matching).map Array.size)) with
  | error e =>
      rw [hcheck] at h
      cases h
  | ok _ =>
      rw [hcheck] at h
      dsimp only at h
      cases hall : enumerate (fun _ _ => ()) predicate disk (scans.map Scan.matching)
          (.ofRadices ((scans.map Scan.matching).map Array.size))
          ⟨scans, .empty, .zero, #[], ()⟩ with
      | mk outcome s =>
          rw [hall] at h hrun
          cases outcome with
          | error e => cases h
          | ok _ =>
              cases h
              exact hrun

-- ========================================================= how it fails

section
variable {kind : Error → Prop} {disk : Disk}

theorem failsAs_rebind (hread : ∀ row scan, FailsAs kind (Scan.readRow disk row scan).1)
    (skip : Nat) (scans : List Scan) (rows : List Nat) (bindings : Bindings) :
    FailsAs kind (rebind disk skip scans rows bindings).1 := by
  fun_induction rebind disk skip scans rows bindings with
  | case1 skip scan scans row rows bindings outcome scans' hrest ih =>
      rw [hrest] at ih
      exact ih
  | case2 scan scans row rows bindings e scan' hrow =>
      have hfails := hread row scan
      rw [hrow] at hfails
      exact failsAs_error (hfails e rfl)
  | case3 scan scans row rows bindings values scan' hrow outcome scans' hrest ih =>
      rw [hrest] at ih
      exact ih
  | case4 => exact failsAs_ok _

/-- On a single combination the predicate may fail; that is no failure of
the join. -/
theorem failsAs_enumerate (hread : ∀ row scan, FailsAs kind (Scan.readRow disk row scan).1)
    (candidates : List (Array Nat)) (odometer : Odometer) (s : State ω) :
    FailsAs kind (enumerate observe predicate disk candidates odometer s).1 := by
  fun_induction enumerate observe predicate disk candidates odometer s with
  | case1 => exact failsAs_ok _
  | case2 odometer s changed odometer' hadvance rows e scans hrebind =>
      have hrows := failsAs_rebind hread changed s.scans rows s.bindings
      rw [hrebind] at hrows
      exact failsAs_error (hrows e rfl)
  | case3 odometer s changed odometer' hadvance rows bindings scans hrebind ih => exact ih

/-- A join fails as its check does or as reading a row does. -/
theorem failsAs_observing {limit : Option Nat} {scans : List Scan}
    (hcheck : FailsAs kind (precheck predicate limit scans
      (.ofRadices ((scans.map Scan.matching).map Array.size))))
    (hread : ∀ row scan, FailsAs kind (Scan.readRow disk row scan).1) (seen : ω) :
    FailsAs kind (observing observe predicate disk limit seen scans).1 := by
  unfold observing
  dsimp only
  split
  · next e he => exact failsAs_error (hcheck e he)
  · have hrun := failsAs_enumerate observe predicate hread (scans.map Scan.matching)
      (.ofRadices ((scans.map Scan.matching).map Array.size))
      ⟨scans, .empty, .zero, #[], seen⟩
    split
    · next heq =>
      rw [heq] at hrun
      exact failsAs_error (hrun _ rfl)
    · exact failsAs_ok _

end

-- =========================================================== its size

variable {observe predicate} {scans : List Scan} {disk : Disk} {seen : ω}

/-- How many combinations of matching rows there are. -/
def total (scans : List Scan) : Nat :=
  if scans.isEmpty then 0 else (scans.map (·.matching.size)).prod

/-- How many combinations a join counts before it begins. -/
def counted (scans : List Scan) : Nat :=
  (Odometer.ofRadices ((scans.map Scan.matching).map Array.size)).combinations

theorem counted_eq (scans : List Scan) : counted scans = min (2 ^ 64 - 1) (total scans) := by
  unfold counted total
  rw [Odometer.combinations_eq]
  simp only [Odometer.ofRadices, List.isEmpty_map, List.map_map]
  rfl

/-- Scans that a join takes. -/
def Joinable (scans : List Scan) : Prop :=
  ∀ scan ∈ scans, scan.phase = .selected ∨ scan.phase = .reading

/-- If nothing else is wrong, it is the limit that decides. -/
theorem precheck_eq (hscans : Joinable scans) (hvalid : predicate.validate = .ok ())
    (limit : Option Nat) (o : Odometer) :
    precheck predicate limit scans o = match limit with
      | none => .ok ()
      | some n =>
        if o.combinations > n then .error (.joinTooLarge o.combinations n) else .ok () := by
  unfold precheck
  rw [forM_eq_ok fun scan hscan => by rcases hscans scan hscan with h | h <;> simp [h],
    hvalid, ok_bind, ok_bind]
  cases limit <;> rfl

/-- Nothing is refused before the run if every scan is selected, the
predicate makes sense, and there are not too many combinations. -/
theorem precheck_eq_ok (hscans : Joinable scans) (hvalid : predicate.validate = .ok ())
    {limit : Option Nat} (hlimit : ∀ n, limit = some n → counted scans ≤ n) :
    precheck predicate limit scans
      (.ofRadices ((scans.map Scan.matching).map Array.size)) = .ok () := by
  rw [precheck_eq hscans hvalid]
  cases limit with
  | none => rfl
  | some n => exact if_neg (Nat.not_lt.2 (hlimit n rfl))

/-- A join that is too large ends before it reads a row or makes a test. -/
theorem observing_of_lt (hscans : Joinable scans) (hvalid : predicate.validate = .ok ())
    {limit : Nat} (h : limit < counted scans) :
    observing observe predicate disk (some limit) seen scans
      = (.error (.joinTooLarge (counted scans) limit), ⟨scans, .empty, .zero, #[], seen⟩) := by
  have hcheck : precheck predicate (some limit) scans
      (.ofRadices ((scans.map Scan.matching).map Array.size))
        = .error (.joinTooLarge (counted scans) limit) := by
    rw [precheck_eq hscans hvalid]
    exact if_pos h
  unfold observing
  dsimp only
  rw [hcheck]

/-- Not that a join is too large. -/
def NotSize (e : Error) : Prop := ∀ found bound, e ≠ .joinTooLarge found bound

/-- A join that is not too large may fail, but not for its size. -/
theorem failsAs_observing_of_le (hscans : Joinable scans)
    (hvalid : predicate.validate = .ok ()) {limit : Nat} (h : counted scans ≤ limit) :
    FailsAs NotSize (observing observe predicate disk (some limit) seen scans).1 := by
  have hread : ∀ row scan, FailsAs NotSize (Scan.readRow disk row scan).1 := by
    intro row scan
    refine (scan.failsAs_readRow disk row).mono ?_
    rintro e (⟨phase, rfl⟩ | hrow)
    · exact nofun
    · cases hrow <;> exact nofun
  refine failsAs_observing observe predicate ?_ hread seen
  rw [precheck_eq_ok hscans hvalid fun n hn => Option.some.inj hn ▸ h]
  exact failsAs_ok _

/-- A join that answers was within its limit. -/
theorem counted_le_of_execute {limit : Option Nat} {index : JoinIndex}
    (h : (execute predicate disk limit scans).1 = .ok index) :
    ∀ n, limit = some n → counted scans ≤ n := by
  rintro n rfl
  unfold execute observing at h
  dsimp only at h
  split at h
  · cases h
  · next hcheck =>
    obtain ⟨-, -, hcheck⟩ := bind_eq_ok.1 hcheck
    obtain ⟨-, -, hcheck⟩ := bind_eq_ok.1 hcheck
    dsimp only at hcheck
    split at hcheck
    · cases hcheck
    · next hle => exact Nat.le_of_not_gt hle

/-- A limit that is not exceeded makes no difference. -/
theorem execute_of_counted_le {limit : Option Nat}
    (h : ∀ n, limit = some n → counted scans ≤ n) :
    execute predicate disk limit scans = execute predicate disk none scans := by
  have hcheck : precheck predicate limit scans
        (Odometer.ofRadices ((scans.map Scan.matching).map Array.size))
      = precheck predicate none scans
        (Odometer.ofRadices ((scans.map Scan.matching).map Array.size)) := by
    cases limit with
    | none => rfl
    | some n =>
        unfold precheck
        refine bind_congr fun _ => bind_congr fun _ => ?_
        exact if_neg (Nat.not_lt.2 (h n rfl))
  unfold execute observing
  dsimp only
  rw [hcheck]

/-- A join is refused for its size exactly if it counts more than its
limit. -/
theorem tooLarge_iff_counted (observe : ω → Bindings → ω) (disk : Disk) (seen : ω)
    (hscans : Joinable scans) (hvalid : predicate.validate = .ok ()) (limit : Nat) :
    (∃ found bound, (observing observe predicate disk (some limit) seen scans).1
        = .error (.joinTooLarge found bound))
      ↔ limit < counted scans := by
  constructor
  · rintro ⟨found, bound, h⟩
    refine Nat.lt_of_not_ge fun hle => ?_
    exact failsAs_observing_of_le hscans hvalid hle _ h found bound rfl
  · intro h
    exact ⟨_, _, congrArg Prod.fst (observing_of_lt hscans hvalid h)⟩

/-- The limit of a join. Whatever scans are joined, by whatever predicate
that makes sense, the join is too large exactly if there are more
combinations of matching rows than the limit, and the limit is not the
largest number there is room for: that one refuses nothing. A join that
is too large tells how many combinations there are, counting no further
than that number; it has left the scans alone, tested nothing and
counted nothing. -/
theorem tooLarge_iff (observe : ω → Bindings → ω) (disk : Disk) (seen : ω)
    (hscans : Joinable scans) (hvalid : predicate.validate = .ok ()) (limit : Nat) :
    let outcome := observing observe predicate disk (some limit) seen scans
    ((∃ found bound, outcome.1 = .error (.joinTooLarge found bound))
        ↔ limit < total scans ∧ limit < 2 ^ 64 - 1)
      ∧ ∀ found bound, outcome.1 = .error (.joinTooLarge found bound) →
          outcome = (.error (.joinTooLarge (min (2 ^ 64 - 1) (total scans)) limit),
            ⟨scans, .empty, .zero, #[], seen⟩) := by
  have hiff := tooLarge_iff_counted observe disk seen hscans hvalid limit
  have hcounted := counted_eq scans
  refine ⟨?_, fun found bound h => ?_⟩
  · rw [hiff, hcounted, Nat.lt_min, and_comm]
  · rw [← hcounted]
    exact observing_of_lt hscans hvalid (hiff.1 ⟨found, bound, h⟩)

/-- A scan of a table with two rows. -/
def coin : Scan :=
  let table : Table := ⟨["side"], #[["0"], ["1"]], by decide +kernel, by decide +kernel⟩
  ((Scan.ofTable "coin" "coin" table).select .empty none).2

theorem joinable_coins (n : Nat) : Joinable (List.replicate n coin) := by
  intro scan hscan
  rw [List.eq_of_mem_replicate hscan]
  exact .inl rfl

theorem total_coins (n : Nat) : total (List.replicate (n + 1) coin) = 2 ^ (n + 1) := by
  have hsize : coin.matching.size = 2 := by decide +kernel
  unfold total
  rw [List.map_replicate, hsize, List.prod_replicate]
  rfl

/-- Seventy coins fall in more ways than there is room for. -/
theorem tooLarge_iff_coins :
    Joinable (List.replicate 70 coin) ∧ Predicate.always.validate = .ok ()
      ∧ observing (fun seen _ => seen + 1) .always .empty (some (2 ^ 64 - 2)) 0
            (List.replicate 70 coin)
          = (.error (.joinTooLarge (2 ^ 64 - 1) (2 ^ 64 - 2)),
              ⟨List.replicate 70 coin, .empty, .zero, #[], 0⟩) := by
  have hscans := joinable_coins 70
  obtain ⟨hiff, hrefused⟩ := tooLarge_iff (fun seen _ => seen + 1) .empty 0 hscans
    (rfl : Predicate.always.validate = .ok ()) (2 ^ 64 - 2)
  obtain ⟨found, bound, h⟩ := hiff.2 ⟨by rw [total_coins]; decide, by decide⟩
  refine ⟨hscans, rfl, (hrefused found bound h).trans ?_⟩
  rw [total_coins]
  rfl

/-- Under the largest limit sixty-four coins are not too many, although
they fall in more ways than that. -/
theorem not_tooLarge_coins :
    let scans := List.replicate 64 coin
    let limit := 2 ^ 64 - 1
    Joinable scans ∧ Predicate.always.validate = .ok () ∧ limit < total scans
      ∧ ¬ ∃ found bound, (execute .always .empty (some limit) scans).1
          = .error (.joinTooLarge found bound) := by
  intro scans limit
  have hscans := joinable_coins 64
  refine ⟨hscans, rfl, by rw [total_coins]; decide, fun h => ?_⟩
  have hlt : limit < counted scans :=
    (tooLarge_iff_counted _ .empty () hscans rfl limit).1 h
  rw [counted_eq] at hlt
  exact Nat.lt_irrefl _ (Nat.lt_of_lt_of_le hlt (Nat.min_le_left _ _))

end FlatQuery.Join
