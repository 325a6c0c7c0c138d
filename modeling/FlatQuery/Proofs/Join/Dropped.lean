/-
A join and the errors of its predicate. `Error.isRecoverable` tells the
errors that cost a combination from those that should end the query, but
a join does not ask it. Whatever the predicate fails with, the
combination is dropped and counted, and the join goes on: it answers as
with the predicate that says no instead of failing (`observing_quiet`),
and its counts are those of the answers it was given (`stats_observing`).
So an error of the predicate never ends a join; a row that cannot be
read does (`errors_dropped`).

The chains that statements have fail on a row in the recoverable way
only (`Chain.failsAs_evaluate`). It takes a predicate of another kind to
lose an error (`structural_error_dropped`).
-/
import FlatQuery.Condition.Chain
import FlatQuery.Proofs.Join.Enumeration

namespace FlatQuery

open Result

-- ========================================================= predicates

namespace Predicate

/-- The predicate that says no where `p` fails. -/
def quiet (p : Predicate) : Predicate := ⟨p.validate, fun bindings => .ok (p.holds bindings)⟩

/-- Whether the predicate fails, with whatever error. -/
def fails (p : Predicate) (bindings : Bindings) : Bool :=
  (p.evaluate bindings).toOption.isNone

end Predicate

/-- A term fails on a row only for numbers that are none. -/
theorem Condition.failsAs_evaluate (c : Condition) (bindings : Bindings) :
    FailsAs (·.isRecoverable = true) (c.evaluate bindings) := by
  have hnumber : ∀ left value numeral,
      FailsAs (·.isRecoverable = true) (equalsNumber left value numeral) := by
    intro left value numeral
    unfold equalsNumber
    split
    · exact failsAs_error rfl
    · exact failsAs_error rfl
    · exact failsAs_ok _
  have hright : ∀ value, FailsAs (·.isRecoverable = true) (c.rightEquals value bindings) := by
    intro value
    unfold rightEquals
    split
    · exact failsAs_ok _
    · exact failsAs_ok _
    · exact (hnumber _ _ _).map some
  unfold evaluate
  -- an unbound left side decides nothing, and what is left is the right
  -- side
  split
  · exact failsAs_ok _
  · next value _ =>
    split
    · next e he => exact failsAs_error (hright value e he)
    · exact failsAs_ok _
    · exact failsAs_ok _

/-- The predicates of statements fail recoverably or not at all. -/
theorem Chain.failsAs_evaluate (chain : Chain) (bindings : Bindings) :
    FailsAs (·.isRecoverable = true) (chain.toPredicate.evaluate bindings) := by
  have hstep : ∀ acc (c : Condition),
      FailsAs (·.isRecoverable = true) (Chain.step bindings acc c) := by
    intro acc c
    unfold Chain.step
    split
    · exact failsAs_ok _
    · exact failsAs_ok _
    · exact c.failsAs_evaluate bindings
  show FailsAs (·.isRecoverable = true) (chain.evaluate bindings)
  unfold Chain.evaluate
  split
  · exact failsAs_ok _
  · next first rest _ =>
    apply (first.failsAs_evaluate bindings).bind
    intro acc _
    exact failsAs_foldlM (fun c _ acc => hstep acc c) acc

namespace Join

-- ================================================== the answers it gets

/-- The counts of a join whose predicate gave these answers. -/
def tally (predicate : Predicate) (tested : List Bindings) : Stats :=
  ⟨tested.length, tested.countP predicate.holds, tested.countP predicate.fails⟩

/-- An observer that keeps the bindings of every test. -/
def record (tested : List Bindings) (bindings : Bindings) : List Bindings :=
  tested ++ [bindings]

theorem tally_record (predicate : Predicate) (tested : List Bindings) (bindings : Bindings) :
    tally predicate (record tested bindings)
      = (tally predicate tested).count (predicate.evaluate bindings) := by
  unfold tally record
  rw [List.length_append, List.countP_append, List.countP_append, List.countP_singleton,
    List.countP_singleton]
  unfold Predicate.holds Predicate.fails
  rcases hanswer : predicate.evaluate bindings with e | _ | _
  · simp [Stats.count, Except.toOption]
  · simp [Stats.count, Except.toOption]
  · simp [Stats.count, Except.toOption]

theorem stats_enumerate (predicate : Predicate) (disk : Disk) (candidates : List (Array Nat))
    (odometer : Odometer) (s : State (List Bindings)) (hs : s.stats = tally predicate s.seen) :
    (enumerate record predicate disk candidates odometer s).2.stats
      = tally predicate (enumerate record predicate disk candidates odometer s).2.seen := by
  fun_induction enumerate record predicate disk candidates odometer s with
  | case1 => exact hs
  | case2 => exact hs
  | case3 odometer s changed odometer' hadvance rows bindings scans hrebind ih =>
      apply ih
      show s.stats.count _ = tally predicate (record s.seen bindings)
      rw [tally_record, hs]

/-- A join counts what it tested: how often the predicate held, and how
often it failed, with whatever error. -/
theorem stats_observing (predicate : Predicate) (disk : Disk) (limit : Option Nat)
    (scans : List Scan) :
    (observing record predicate disk limit [] scans).2.stats
      = tally predicate (observing record predicate disk limit [] scans).2.seen := by
  unfold observing
  dsimp only
  split
  · rfl
  · have hrun := stats_enumerate predicate disk (scans.map Scan.matching)
      (.ofRadices ((scans.map Scan.matching).map Array.size))
      ⟨scans, .empty, .zero, #[], []⟩ rfl
    split
    · next heq => rwa [heq] at hrun
    · next heq => rwa [heq] at hrun

-- =============================================== failing as saying no

section
variable {ω : Type} (observe : ω → Bindings → ω) (predicate : Predicate)

/-- The state without the count of failures. -/
def State.quiet (s : State ω) : State ω := { s with stats := { s.stats with failures := 0 } }

/-- To a test it makes no difference whether the predicate fails or says
no, but for the count of failures. -/
theorem test_quiet (rows : List Nat) (s : State ω) :
    test observe predicate.quiet rows s.quiet = (test observe predicate rows s).quiet := by
  unfold test State.quiet Predicate.quiet Predicate.holds
  dsimp only
  rcases predicate.evaluate s.bindings with e | _ | _
  · rfl
  · rfl
  · rfl

theorem enumerate_quiet (disk : Disk) (candidates : List (Array Nat)) (odometer : Odometer)
    (s : State ω) :
    enumerate observe predicate.quiet disk candidates odometer s.quiet
      = ((enumerate observe predicate disk candidates odometer s).1,
        (enumerate observe predicate disk candidates odometer s).2.quiet) := by
  fun_induction enumerate observe predicate disk candidates odometer s with
  -- at the end of the combinations nothing is rebound
  | case1 odometer s odometer' hadvance =>
      rw [enumerate]
      split
      · rfl
      · next h => rw [hadvance] at h; cases h
  -- a row that cannot be read ends both runs
  | case2 odometer s changed odometer' hadvance rows e scans hrebind =>
      rw [enumerate]
      split
      · next h => rw [hadvance] at h; cases h
      · next h =>
        rw [hadvance] at h
        cases h
        have hquiet : rebind disk changed s.quiet.scans (rowIds candidates odometer'.digits)
            s.quiet.bindings = (.error e, scans) := hrebind
        dsimp only
        rw [hquiet]
        rfl
  -- what differs is the test of one combination, and with it what was seen
  | case3 odometer s changed odometer' hadvance rows bindings scans hrebind ih =>
      rw [enumerate]
      split
      · next h => rw [hadvance] at h; cases h
      · next h =>
        rw [hadvance] at h
        cases h
        have hquiet : rebind disk changed s.quiet.scans (rowIds candidates odometer'.digits)
            s.quiet.bindings = (.ok bindings, scans) := hrebind
        dsimp only
        rw [hquiet, ← ih]
        exact congrArg _ (test_quiet observe predicate rows { s with scans, bindings })

/-- A join answers as it does with the predicate that says no instead of
failing; but for the count of failures it ends in the same state. -/
theorem observing_quiet (disk : Disk) (limit : Option Nat) (seen : ω) (scans : List Scan) :
    observing observe predicate.quiet disk limit seen scans
      = ((observing observe predicate disk limit seen scans).1,
        (observing observe predicate disk limit seen scans).2.quiet) := by
  have hcheck : ∀ o, precheck predicate.quiet limit scans o = precheck predicate limit scans o :=
    fun _ => rfl
  -- at the start there are no failures to leave out
  let start : State ω := ⟨scans, .empty, .zero, #[], seen⟩
  have hrun : enumerate observe predicate.quiet disk (scans.map Scan.matching)
      (.ofRadices ((scans.map Scan.matching).map Array.size)) start = _ :=
    enumerate_quiet observe predicate disk _ _ start
  unfold observing
  dsimp only
  rw [hcheck]
  cases precheck predicate limit scans
      (.ofRadices ((scans.map Scan.matching).map Array.size)) with
  | error e => rfl
  | ok checked =>
      dsimp only
      rw [hrun]
      rcases enumerate observe predicate disk (scans.map Scan.matching) _ start with ⟨e | done, s⟩
      · rfl
      · rfl

end

-- ============================================================ the join

/-- That a row could not be read. -/
def NotRead (e : Error) : Prop :=
  (∃ relation phase, e = .invalidPhase relation .read phase) ∨ Scan.RowFault e

/-- An error of the predicate on a combination, of whatever kind, drops
this combination and does not end the join. The join answers as if the
predicate said no there, having tested the same combinations; it counts
how many of them the predicate failed on; and if it fails itself, then
for a row that could not be read. -/
theorem errors_dropped {predicate : Predicate} {scans : List Scan} (hscans : Joinable scans)
    (hvalid : predicate.validate = .ok ()) {limit : Option Nat}
    (hlimit : ∀ n, limit = some n → counted scans ≤ n) (disk : Disk) :
    let outcome := observing record predicate disk limit [] scans
    let quiet := observing record predicate.quiet disk limit [] scans
    outcome.1 = quiet.1 ∧ outcome.2.seen = quiet.2.seen
      ∧ outcome.2.stats = ⟨outcome.2.seen.length, outcome.2.seen.countP predicate.holds,
          outcome.2.seen.countP predicate.fails⟩
      ∧ FailsAs NotRead outcome.1 := by
  have hquiet := observing_quiet record predicate disk limit [] scans
  refine ⟨?_, ?_, stats_observing predicate disk limit scans, ?_⟩
  · rw [hquiet]
  · rw [hquiet]
    rfl
  · apply failsAs_observing
    · rw [precheck_eq_ok hscans hvalid hlimit]
      exact failsAs_ok _
    · intro row scan
      refine (scan.failsAs_readRow disk row).mono ?_
      intro e he
      rcases he with ⟨phase, rfl⟩ | hrow
      · exact .inl ⟨_, phase, rfl⟩
      · exact .inr hrow

/-- The scan of a table whose one column has the values 1 and 2. -/
def counting : List Scan :=
  let table : Table := ⟨["n"], #[["1"], ["2"]], by decide +kernel, by decide +kernel⟩
  [((Scan.ofTable "t" "t" table).select .empty none).2]

/-- Fails on the row whose value is 1, and not in a recoverable way. -/
def failsOutright : Predicate :=
  .ofFunction fun b => if b.get? "t.n" = some "1" then .error .noCurrentRow else .ok true

theorem ready_counting : Ready counting := by
  intro scan hscan
  rw [counting, List.mem_singleton] at hscan
  subst hscan
  exact ⟨.select _ _ (.ofTable _ _ _), .inl rfl⟩

theorem errors_dropped_counting :
    Joinable counting ∧ failsOutright.validate = .ok () ∧ counted counting ≤ 2
      ∧ (observing record failsOutright .empty (some 2) [] counting).1
        = (observing record failsOutright.quiet .empty (some 2) [] counting).1 := by
  have hjoinable : Joinable counting := fun scan hscan => (ready_counting scan hscan).2
  have hlimit : ∀ n, some 2 = some n → counted counting ≤ n := by
    intro n hn
    cases hn
    decide +kernel
  exact ⟨hjoinable, rfl, hlimit 2 rfl, (errors_dropped hjoinable rfl hlimit .empty).1⟩

/-- A join whose predicate fails outright on the first of two rows
answers with the second. -/
theorem structural_error_dropped :
    let outcome := observing record failsOutright .empty none [] counting
    failsOutright.validate = .ok ()
      ∧ bound counting [0] ∈ outcome.2.seen
      ∧ failsOutright.evaluate (bound counting [0]) = .error .noCurrentRow
      ∧ Error.noCurrentRow.isRecoverable = false
      ∧ outcome.1 = .ok ⟨1, #[[1]]⟩
      ∧ outcome.2.stats = ⟨2, 1, 1⟩ := by
  have hjoin : observing record failsOutright .empty none [] counting = _ :=
    observing_eq record failsOutright .empty [] ready_counting rfl (by simp)
  obtain ⟨-, -, hstats, hseen⟩ := foldl_visit record failsOutright (combinations counting)
    ⟨counting, .empty, .zero, #[], []⟩
  intro outcome
  refine ⟨rfl, ?_, by decide +kernel, rfl, ?_, ?_⟩
  · show _ ∈ (observing record failsOutright .empty none [] counting).2.seen
    rw [hjoin, hseen]
    decide +kernel
  · show (observing record failsOutright .empty none [] counting).1 = _
    rw [hjoin]
    exact congrArg (fun rows => Except.ok (JoinIndex.mk 1 rows)) (by decide +kernel)
  · show (observing record failsOutright .empty none [] counting).2.stats = _
    rw [hjoin, hstats]
    decide +kernel

end Join

end FlatQuery
