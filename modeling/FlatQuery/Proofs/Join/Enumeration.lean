/-
A join of tables in memory against plain enumeration. The enumeration
(`combinations`) lists the matching rows of the scans, the first scan
slowest, and binds every combination afresh (`bindRows`); a join keeps
the values of the scans before the first digit that changed.

The two agree because of what holds after every advance: the bindings
are those of the odometer's current digits (`Fresh`). Binding the
remaining scans anew then wipes out what they were bound to, also where
scans share names (`bindRows_rebind`). An induction over the
combinations to come carries this through the whole run
(`enumerate_eq`).
-/
import FlatQuery.Proofs.Bindings.Rebinding
import FlatQuery.Proofs.Join.Course
import FlatQuery.Proofs.Scan.Memory

namespace FlatQuery.Join

-- ======================================================== the reference

/-- Binds all values of one row of each scan, in scan order. -/
def bindRows (scans : List Scan) (rows : List Nat) (b : Bindings) : Bindings :=
  (scans.zip rows).foldl (fun b (scan, row) => scan.bind (scan.record row) b) b

/-- What a combination is tested on. -/
def bound (scans : List Scan) (rows : List Nat) : Bindings := bindRows scans rows .empty

/-- One matching row of each scan, the rows of the first scan turning
slowest. Without scans there is nothing to combine. -/
def combinations (scans : List Scan) : List (List Nat) :=
  if scans.isEmpty then [] else tuples (scans.map fun scan => scan.matching.toList)

/-- A matching row of each scan. -/
abbrev Matching (scans : List Scan) (rows : List Nat) : Prop :=
  List.Forall₂ (fun row scan => row ∈ scan.matching.toList) rows scans

/-- Scans of tables in memory that a join may read. -/
def Ready (scans : List Scan) : Prop :=
  ∀ scan ∈ scans, scan.InMemory ∧ (scan.phase = .selected ∨ scan.phase = .reading)

variable {scans : List Scan}

theorem mem_combinations {rows : List Nat} :
    rows ∈ combinations scans ↔ scans ≠ [] ∧ Matching scans rows := by
  cases scans with
  | nil => simp [combinations]
  | cons scan scans =>
      rw [combinations, if_neg (by simp), tuples.mem_iff, List.forall₂_map_right_iff]
      exact (and_iff_right (List.cons_ne_nil _ _)).symm

/-- Combinations ascend, and so none comes twice. -/
theorem pairwise_combinations (h : Ready scans) :
    (combinations scans).Pairwise (· < ·) := by
  unfold combinations
  split
  · exact .nil
  · refine tuples.pairwise_lt fun list hlist => ?_
    obtain ⟨scan, hscan, rfl⟩ := List.mem_map.1 hlist
    obtain ⟨table, hover⟩ := (h scan hscan).1.exists_over
    exact hover.ascending

theorem length_combinations (scans : List Scan) :
    (combinations scans).length = total scans := by
  unfold combinations total
  split
  · rfl
  · rw [tuples.length_eq, List.map_map]
    rfl

-- ============================================================= binding

theorem bindRows_cons (scan : Scan) (scans : List Scan) (row : Nat) (rows : List Nat)
    (b : Bindings) :
    bindRows (scan :: scans) (row :: rows) b
      = bindRows scans rows (scan.bind (scan.record row) b) := rfl

/-- A matching row has a value for each name of its scan. -/
theorem length_record {scan : Scan} (h : scan.InMemory) {row : Nat}
    (hrow : row ∈ scan.matching.toList) :
    (scan.record row).length = scan.keys.length := by
  obtain ⟨table, hover⟩ := h.exists_over
  exact hover.length_record (hover.bounded row hrow)

/-- One row of each scan binds all their names in one run. -/
theorem bindRows_eq_bindAll (h : ∀ scan ∈ scans, scan.InMemory) {rows : List Nat}
    (hrows : Matching scans rows) :
    ∃ values : List String, values.length = (scans.flatMap Scan.keys).length
      ∧ ∀ b, bindRows scans rows b = b.bindAll (scans.flatMap Scan.keys) values := by
  induction hrows with
  | nil => exact ⟨[], rfl, fun b => rfl⟩
  | @cons row scan rows scans hrow _ ih =>
      obtain ⟨hscan, hscans⟩ := List.forall_mem_cons.1 h
      obtain ⟨values, hlength, heq⟩ := ih hscans
      have hrecord := length_record hscan hrow
      refine ⟨scan.record row ++ values, ?_, fun b => ?_⟩
      · rw [List.flatMap_cons, List.length_append, List.length_append, hrecord, hlength]
      · rw [bindRows_cons, heq, List.flatMap_cons, Bindings.bindAll_append _ hrecord]
        rfl

/-- Once the scans from the `skip`-th on are bound anew, nothing is left
of the rows they were bound to before. -/
theorem bindRows_rebind (h : ∀ scan ∈ scans, scan.InMemory) {old new : List Nat}
    (hold : Matching scans old) (hnew : Matching scans new) {skip : Nat}
    (hsame : new.take skip = old.take skip) {b : Bindings} (hb : b.names.Nodup) :
    bindRows (scans.drop skip) (new.drop skip) (bindRows scans old b)
      = bindRows scans new b := by
  induction skip generalizing scans old new b with
  | zero =>
      obtain ⟨values, hvalues, heq⟩ := bindRows_eq_bindAll h hold
      obtain ⟨values', hvalues', heq'⟩ := bindRows_eq_bindAll h hnew
      rw [List.drop_zero, List.drop_zero, heq', heq, heq',
        Bindings.bindAll_bindAll hb hvalues hvalues']
  | succ skip ih =>
      cases hold with
      | nil =>
          cases hnew
          rfl
      | @cons row scan rows scans _ hold =>
          cases hnew with
          | @cons row' _ rows' _ _ hnew =>
              rw [List.take_succ_cons, List.take_succ_cons, List.cons.injEq] at hsame
              obtain ⟨rfl, hsame⟩ := hsame
              have hbind := Bindings.nodup_names_bindAll hb scan.keys (scan.record row')
              exact ih (List.forall_mem_cons.1 h).2 hold hnew hsame hbind

/-- Reading a row of each scan from the `skip`-th on binds their records
and leaves the scans as they are. -/
theorem rebind_eq (h : Ready scans) {rows : List Nat} (hrows : Matching scans rows)
    (disk : Disk) (skip : Nat) (b : Bindings) :
    rebind disk skip scans rows b
      = (.ok (bindRows (scans.drop skip) (rows.drop skip) b), scans) := by
  induction hrows generalizing skip b with
  | nil => cases skip <;> rfl
  | @cons row scan rows scans hrow _ ih =>
      obtain ⟨⟨hmemory, hphase⟩, hrest⟩ := List.forall_mem_cons.1 h
      cases skip with
      | succ skip => rw [rebind, ih hrest skip b, List.drop_succ_cons, List.drop_succ_cons]
      | zero =>
          obtain ⟨table, hover⟩ := hmemory.exists_over
          have hread := hover.readRow_eq disk hphase hrow
          rw [rebind]
          simp only [hread, ih hrest]
          rfl

-- ============================================================== digits

/-- The digits of an odometer stand for the combinations, in order. -/
theorem map_rowIds_allDigits (candidates : List (Array Nat)) :
    (Odometer.allDigits (candidates.map Array.size)).map (rowIds candidates)
      = tuples (candidates.map Array.toList) := by
  unfold Odometer.allDigits
  induction candidates with
  | nil => rfl
  | cons rows candidates ih =>
      have hrows : (List.range rows.size).map (fun i => rows.getD i 0) = rows.toList := by
        refine List.ext_getElem (by simp) fun i h h' => ?_
        simp at h
        simp [h]
      rw [List.map_cons, List.map_cons, List.map_cons, tuples, tuples, ← ih, ← hrows,
        List.map_flatMap, List.flatMap_map]
      refine List.flatMap_congr fun i _ => ?_
      simp only [List.map_map]
      rfl

theorem take_rowIds (candidates : List (Array Nat)) {digits digits' : List Nat} {i : Nat}
    (h : digits.take i = digits'.take i) :
    (rowIds candidates digits).take i = (rowIds candidates digits').take i := by
  unfold rowIds List.zip
  rw [← List.map_take, ← List.map_take, List.take_zipWith, List.take_zipWith, h]

/-- The combinations of the rows are those that the odometer counts. -/
theorem map_rowIds_pending (scans : List Scan) :
    (Odometer.ofRadices ((scans.map Scan.matching).map Array.size)).pending.map
        (rowIds (scans.map Scan.matching))
      = combinations scans := by
  cases scans with
  | nil => rfl
  | cons scan scans =>
      rw [Odometer.pending_ofRadices, if_neg (by simp), map_rowIds_allDigits,
        combinations, if_neg (by simp), List.map_map]
      rfl

-- ============================================================= the run

section
variable {ω : Type} (observe : ω → Bindings → ω) (predicate : Predicate)

/-- The bindings of a run belong to the digits of its odometer. -/
def Fresh (candidates : List (Array Nat)) (o : Odometer) (s : State ω) : Prop :=
  if o.started then
    Matching s.scans (rowIds candidates o.digits)
      ∧ s.bindings = bound s.scans (rowIds candidates o.digits)
  else s.bindings = .empty

/-- Tests the predicate on a combination that is bound afresh. -/
def visit (s : State ω) (rows : List Nat) : State ω :=
  test observe predicate rows { s with bindings := bound s.scans rows }

/-- Rebinding from the first digit that changed binds the new
combination as if nothing had been bound before. -/
theorem rebind_fresh {s : State ω} (hready : Ready s.scans) (disk : Disk)
    {candidates : List (Array Nat)} {o : Odometer} (hfresh : Fresh candidates o s)
    {changed : Nat} {digits : List Nat} (hfirst : o.started = false → changed = 0)
    (htake : digits.take changed = o.digits.take changed)
    (hrows : Matching s.scans (rowIds candidates digits)) :
    rebind disk changed s.scans (rowIds candidates digits) s.bindings
      = (.ok (bound s.scans (rowIds candidates digits)), s.scans) := by
  rw [rebind_eq hready hrows]
  cases hstarted : o.started with
  | false =>
      have hempty : s.bindings = .empty := by simpa [Fresh, hstarted] using hfresh
      rw [hfirst hstarted, hempty]
      rfl
  | true =>
      obtain ⟨hold, hbindings⟩ : Matching s.scans (rowIds candidates o.digits)
          ∧ s.bindings = bound s.scans (rowIds candidates o.digits) := by
        simpa only [Fresh, hstarted, if_true] using hfresh
      have hmemory : ∀ scan ∈ s.scans, scan.InMemory := fun scan h => (hready scan h).1
      rw [hbindings, bound, bindRows_rebind hmemory hold hrows (take_rowIds candidates htake)
        Bindings.nodup_names_empty]
      rfl

/-- A run tests the combinations to come, each of them bound afresh. -/
theorem enumerate_eq (disk : Disk) {candidates : List (Array Nat)} {o : Odometer}
    {s : State ω} (hready : Ready s.scans) (hsound : o.Sound)
    (hfresh : Fresh candidates o s)
    (hrows : ∀ digits ∈ o.pending, Matching s.scans (rowIds candidates digits)) :
    enumerate observe predicate disk candidates o s
      = (.ok (), (o.pending.map (rowIds candidates)).foldl (visit observe predicate) s) := by
  -- on the combinations that are pending, which the odometer gives one by
  -- one
  induction hpending : o.pending generalizing o s with
  | nil =>
      obtain ⟨o', hadvance⟩ := Odometer.advance_nil hsound hpending
      unfold enumerate
      split
      · rfl
      · next h => rw [hadvance] at h; cases h
  | cons digits rest ih =>
      obtain ⟨changed, o', hadvance, rfl, hpending', hsound', hstarted, hfirst, htake⟩ :=
        Odometer.advance_cons hsound hpending
      rw [hpending] at hrows
      obtain ⟨hdigits, hrest⟩ := List.forall_mem_cons.1 hrows
      -- only what changed is bound again, which the bindings so far allow
      have hrebind := rebind_fresh hready disk hfresh hfirst htake hdigits
      unfold enumerate
      split
      · next h => rw [hadvance] at h; cases h
      · next h =>
        rw [hadvance] at h
        cases h
        dsimp only
        rw [hrebind]
        refine ih (s := visit observe predicate s (rowIds candidates o'.digits))
          hready hsound' ?_ (hpending' ▸ hrest) hpending'
        simp only [Fresh, hstarted, if_true]
        exact ⟨hdigits, rfl⟩

-- ========================================================= its outcome

/-- How many combinations the predicate fails on. -/
def failures (scans : List Scan) (combos : List (List Nat)) : Nat :=
  combos.countP fun rows => (predicate.evaluate (bound scans rows)).toOption.isNone

/-- The combinations that the predicate accepts. -/
def accepted (scans : List Scan) (combos : List (List Nat)) : List (List Nat) :=
  combos.filter fun rows => predicate.holds (bound scans rows)

theorem visit_scans (s : State ω) (rows : List Nat) :
    (visit observe predicate s rows).scans = s.scans := rfl

/-- A run leaves the scans alone and adds up what it finds. -/
theorem foldl_visit (combos : List (List Nat)) (s : State ω) :
    let s' := combos.foldl (visit observe predicate) s
    s'.scans = s.scans
      ∧ s'.rows = s.rows ++ (accepted predicate s.scans combos).toArray
      ∧ s'.stats = ⟨s.stats.combinations + combos.length,
          s.stats.hits + (accepted predicate s.scans combos).length,
          s.stats.failures + failures predicate s.scans combos⟩
      ∧ s'.seen
        = combos.foldl (fun seen rows => observe seen (bound s.scans rows)) s.seen := by
  induction combos generalizing s with
  | nil => simp [accepted, failures]
  | cons rows combos ih =>
      obtain ⟨hscans, hrows, hstats, hseen⟩ := ih (visit observe predicate s rows)
      rw [visit_scans] at hscans hrows hstats hseen
      rw [List.foldl_cons]
      refine ⟨hscans, hrows.trans ?_, hstats.trans ?_, hseen⟩
      all_goals
        rcases hanswer : predicate.evaluate (bound s.scans rows) with e | _ | _
        all_goals
          simp [visit, test, accepted, failures, Predicate.holds, Stats.count, hanswer,
            Except.toOption]
      all_goals omega

-- ============================================================ the join

/-- A join that is not refused runs through the enumeration. -/
theorem observing_eq (disk : Disk) (seen : ω) (hready : Ready scans)
    (hvalid : predicate.validate = .ok ()) {limit : Option Nat}
    (hlimit : ∀ n, limit = some n → (combinations scans).length ≤ n) :
    observing observe predicate disk limit seen scans
      = (.ok ⟨scans.length, (accepted predicate scans (combinations scans)).toArray⟩,
          (combinations scans).foldl (visit observe predicate)
            ⟨scans, .empty, .zero, #[], seen⟩) := by
  -- the saturated count is no more than the number of combinations
  have hcount : ∀ n, limit = some n → counted scans ≤ n := by
    intro n hn
    rw [counted_eq]
    exact Nat.le_trans (Nat.min_le_right _ _) (length_combinations scans ▸ hlimit n hn)
  have hrows : ∀ digits ∈ (Odometer.ofRadices
      ((scans.map Scan.matching).map Array.size)).pending,
      Matching scans (rowIds (scans.map Scan.matching) digits) := by
    intro digits hdigits
    refine (mem_combinations.1 ?_).2
    rw [← map_rowIds_pending]
    exact List.mem_map_of_mem hdigits
  unfold observing
  dsimp only
  -- the checks before the run are passed; the run itself is the
  -- enumeration
  rw [precheck_eq_ok (fun scan hscan => (hready scan hscan).2) hvalid hcount]
  dsimp only
  have hrun := enumerate_eq observe predicate disk
    (s := ⟨scans, .empty, .zero, #[], seen⟩)
    hready (Odometer.sound_ofRadices _) rfl hrows
  rw [hrun, map_rowIds_pending]
  obtain ⟨-, haccepted, -⟩ := foldl_visit observe predicate (combinations scans)
    ⟨scans, .empty, .zero, #[], seen⟩
  simp only [haccepted, List.append_toArray, List.nil_append]

/-- A join answers what plain enumeration answers: the combinations of
matching rows that the predicate accepts, in lexicographic order. An
observer sees, test after test, exactly the bindings of every
combination made afresh. The scans are left as they were, so a later
join of them answers the same. -/
theorem join_eq_enumeration (disk : Disk) (seen : ω) (hready : Ready scans)
    (hvalid : predicate.validate = .ok ()) :
    let combos := combinations scans
    let index : JoinIndex := ⟨scans.length, (accepted predicate scans combos).toArray⟩
    (∀ rows, rows ∈ combos ↔ scans ≠ [] ∧ Matching scans rows)
      ∧ combos.Pairwise (· < ·)
      ∧ ∃ state : State ω,
          observing observe predicate disk none seen scans = (.ok index, state)
            ∧ state.seen
                = combos.foldl (fun seen rows => observe seen (bound scans rows)) seen
            ∧ state.stats
                = ⟨if scans.isEmpty then 0 else (scans.map (·.matching.size)).prod,
                    index.rows.size, failures predicate scans combos⟩
            ∧ state.scans = scans
            ∧ (execute predicate disk none state.scans).1 = .ok index := by
  refine ⟨fun rows => mem_combinations, pairwise_combinations hready, _,
    observing_eq observe predicate disk seen hready hvalid (by simp), ?_⟩
  obtain ⟨hscans, -, hstats, hseen⟩ := foldl_visit observe predicate (combinations scans)
    ⟨scans, .empty, .zero, #[], seen⟩
  refine ⟨hseen, ?_, hscans, ?_⟩
  · rw [hstats, length_combinations]
    simp [Stats.zero, total]
  · rw [hscans, execute, observing_eq _ predicate disk () hready hvalid (by simp)]

end

/-- Two scans of one table whose names for it differ only in case. -/
def twins : List Scan :=
  let table : Table := ⟨["k"], #[["1"], ["2"], ["3"]], by decide +kernel, by decide +kernel⟩
  let notThree := Predicate.ofFunction fun b => .ok (b.get? "a.k" != some "3")
  [((Scan.ofTable "t" "a" table).select .empty none).2,
    ((Scan.ofTable "t" "A" table).select .empty (some notThree)).2]

/-- Fails on the row of the last scan whose value is 1. -/
def failsOnOne : Predicate :=
  .ofFunction fun b =>
    if b.get? "a.k" = some "1" then .error (.evaluation (.notANumber "1")) else .ok true

theorem join_eq_enumeration_twins :
    Ready twins ∧ failsOnOne.validate = .ok ()
      ∧ ∃ state,
        observing (fun seen b => b.get? "a.k" :: seen) failsOnOne .empty none [] twins
            = (.ok ⟨2, #[[0, 1], [1, 1], [2, 1]]⟩, state)
          ∧ state.seen = [some "2", some "1", some "2", some "1", some "2", some "1"]
          ∧ state.stats = ⟨6, 3, 3⟩ := by
  have hready : Ready twins := by
    intro scan hscan
    simp only [twins, List.mem_cons, List.not_mem_nil, or_false] at hscan
    rcases hscan with rfl | rfl
    · exact ⟨.select _ _ (.ofTable _ _ _), .inl rfl⟩
    · exact ⟨.select _ _ (.ofTable _ _ _), .inl rfl⟩
  obtain ⟨-, -, state, hjoin, hseen, hstats, -⟩ := join_eq_enumeration
    (fun seen b => b.get? "a.k" :: seen) failsOnOne .empty [] hready rfl
  refine ⟨hready, rfl, state, hjoin.trans ?_, hseen.trans ?_, hstats.trans ?_⟩
  · exact congrArg (fun rows => (Except.ok (JoinIndex.mk 2 rows), state))
      (by decide +kernel)
  · decide +kernel
  · decide +kernel

end FlatQuery.Join
