/-
Joining scans by enumeration: the predicate is tested on every
combination of the scans' matching rows, in the order of an odometer
whose first digit belongs to the first scan. The scans before the first
digit that changed keep their values; the others are bound anew.

A combination on which the predicate fails is dropped and counted. A row
that cannot be read, a predicate that makes no sense, and a limit that
would be exceeded end the join.
-/
import FlatQuery.Odometer
import FlatQuery.Scan

namespace FlatQuery

/-- The numbers of the rows of each accepted combination, one for every
scan. -/
structure JoinIndex where
  width : Nat
  rows : Array (List Nat)
  deriving DecidableEq, Repr

namespace Join

/-- Counts of combinations: tested, accepted, and dropped because the
predicate failed on them. -/
structure Stats where
  combinations : Nat
  hits : Nat
  failures : Nat
  deriving DecidableEq, Repr

def Stats.zero : Stats := ⟨0, 0, 0⟩

/-- Counts one answer of the predicate. -/
def Stats.count (s : Stats) : Result Bool → Stats
  | .ok true => { s with combinations := s.combinations + 1, hits := s.hits + 1 }
  | .ok false => { s with combinations := s.combinations + 1 }
  | .error _ => { s with combinations := s.combinations + 1, failures := s.failures + 1 }

/-- What a join has done so far. `seen` is what an observer made of the
bindings that were tested. -/
structure State (ω : Type) where
  scans : List Scan
  bindings : Bindings
  stats : Stats
  rows : Array (List Nat)
  seen : ω

/-- The row of each scan in a combination. -/
def rowIds (candidates : List (Array Nat)) (digits : List Nat) : List Nat :=
  (digits.zip candidates).map fun (digit, rows) => rows.getD digit 0

/-- Reads the given row of each scan from the `skip`-th on, in order, and
binds its values. -/
def rebind (disk : Disk) : Nat → List Scan → List Nat → Bindings →
    Result Bindings × List Scan
  | skip + 1, scan :: scans, _ :: rows, bindings =>
    let (outcome, scans) := rebind disk skip scans rows bindings
    (outcome, scan :: scans)
  | 0, scan :: scans, row :: rows, bindings =>
    match scan.readRow disk row with
    | (.error e, scan) => (.error e, scan :: scans)
    | (.ok values, scan) =>
      let (outcome, scans) := rebind disk 0 scans rows (scan.bind values bindings)
      (outcome, scan :: scans)
  | _, scans, _, bindings => (.ok bindings, scans)

section
variable {ω : Type} (observe : ω → Bindings → ω) (predicate : Predicate)

/-- Tests the predicate on the bindings of a combination. -/
def test (rows : List Nat) (s : State ω) : State ω :=
  let answer := predicate.evaluate s.bindings
  { s with
    stats := s.stats.count answer
    rows := match answer with
      | .ok true => s.rows.push rows
      | _ => s.rows
    seen := observe s.seen s.bindings }

/-- Goes through the combinations that are still to come. -/
def enumerate (disk : Disk) (candidates : List (Array Nat)) (odometer : Odometer)
    (s : State ω) : Result Unit × State ω :=
  match _h : odometer.advance with
  | (none, _) => (.ok (), s)
  | (some changed, odometer') =>
    let rows := rowIds candidates odometer'.digits
    match rebind disk changed s.scans rows s.bindings with
    | (.error e, scans) => (.error e, { s with scans })
    | (.ok bindings, scans) =>
      enumerate disk candidates odometer'
        (test observe predicate rows { s with scans, bindings })
termination_by odometer.remaining
decreasing_by exact Odometer.remaining_advance ‹_›

/-- What must hold before any row is read: every scan is selected, the
predicate makes sense, and there are not too many combinations. -/
def precheck (limit : Option Nat) (scans : List Scan) (odometer : Odometer) :
    Result Unit := do
  scans.forM fun scan =>
    if [Scan.Phase.selected, .reading].contains scan.phase then .ok ()
    else .error (.invalidPhase scan.aliasName .join scan.phase)
  predicate.validate
  match limit with
  | none => return
  | some limit =>
    if odometer.combinations > limit then
      throw (.joinTooLarge odometer.combinations limit)

/-- Joins the scans, letting an observer see the bindings of every test.
Answers what was accepted, and the state at the end also on failure. -/
def observing (disk : Disk) (limit : Option Nat) (seen : ω) (scans : List Scan) :
    Result JoinIndex × State ω :=
  let candidates := scans.map Scan.matching
  let odometer := Odometer.ofRadices (candidates.map Array.size)
  let s : State ω := ⟨scans, .empty, .zero, #[], seen⟩
  match precheck predicate limit scans odometer with
  | .error e => (.error e, s)
  | .ok () =>
    match enumerate observe predicate disk candidates odometer s with
    | (.error e, s) => (.error e, s)
    | (.ok (), s) => (.ok ⟨scans.length, s.rows⟩, s)

end

/-- Joins the scans. -/
def execute (predicate : Predicate) (disk : Disk) (limit : Option Nat) (scans : List Scan) :
    Result JoinIndex × State Unit :=
  observing (fun _ _ => ()) predicate disk limit () scans

end Join

end FlatQuery
