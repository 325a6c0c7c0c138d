/-
What a scan of a table delivers. Selecting finds the rows that the
filter answers yes to, each tested on its own values alone; a row is
then read if and only if it was found, with all its values or with those
that were asked for; and reading on goes through the found rows in
order, each once, and then finds none, whatever else is asked in
between. Starting to read anew goes back to the first of them.

A scan that is being read stands between two rows (`Underway`). Only
reading on moves it; all else that may be asked, short of stopping it or
starting anew, leaves it exactly where it is (`Underway.perform`), so
the run is an induction over the list of found rows.
-/
import FlatQuery.Proofs.Columns.Position
import FlatQuery.Proofs.Scan.Memory
import FlatQuery.Proofs.Scan.Resolution

namespace FlatQuery

open Text

-- ========================================================== vocabulary

namespace Columns

/-- The values of a row under the requested columns, in the order of the
request; all of them if none is requested. -/
def pick (names requested row : List String) : List String :=
  if requested.isEmpty then row
  else requested.map fun name =>
    ((names.zip row).find? fun cell => sameFolded cell.1 name).elim "" Prod.snd

/-- Every requested column is there. -/
def Known (names requested : List String) : Prop :=
  ∀ name ∈ requested, ∃ column ∈ names, sameFolded column name = true

end Columns

namespace Scan

open Columns

/-- What a row is tested on: its own values under the names of their
columns. -/
def own (aliasName : String) (table : Table) (row : Nat) : Bindings :=
  Bindings.empty.bindAll (table.columns.map (key aliasName)) (table.rows.getD row [])

/-- A row that the filter answers yes to. To fail is not to answer. -/
def Passes (aliasName : String) (table : Table) (filter : Option Predicate) (row : Nat) :
    Prop :=
  row < table.rows.size
    ∧ ∀ predicate ∈ filter, predicate.evaluate (own aliasName table row) = .ok true

/-- The scan is not stopped. -/
def Running (history : List (Disk × Operation)) : Prop :=
  ∀ step ∈ history, step.2 ≠ .stop

/-- The scan is not stopped, and whoever starts to read asks for a column
that there is not. -/
def Undisturbed (names : List String) (history : List (Disk × Operation)) : Prop :=
  Running history
    ∧ ∀ step ∈ history, ∀ columns, step.2 = .startRead columns → ¬ Known names columns

def Operation.isNext : Operation → Bool
  | .next => true
  | _ => false

/-- What reading on answers, every time that a history does it. -/
def advances (s : Scan) : List (Disk × Operation) → List (Result (Option (List String)))
  | [] => []
  | (disk, operation) :: history =>
    (if operation.isNext then [(s.perform disk operation).1] else [])
      ++ (s.perform disk operation).2.advances history

end Scan

-- ============================================================= columns

namespace Columns

variable {names requested : List String}

theorem known_iff :
    Known names requested
      ↔ ∀ name ∈ requested, (position? names name).isSome = true :=
  forall₂_congr fun _ _ => isSome_position?.symm

/-- What stands at the places of a request is what it picks. -/
theorem filterMap_places (h : Known names requested) {row : List String}
    (hrow : row.length = names.length) :
    (places names requested).filterMap (row[·]?) = pick names requested row := by
  unfold places pick
  split
  · rw [← hrow]
    exact filterMap_range_getElem? row
  · next hne =>
    clear hne
    induction requested with
    | nil => rfl
    | cons name requested ih =>
        obtain ⟨hname, hrequested⟩ := List.forall_mem_cons.1 h
        obtain ⟨i, hi⟩ := Option.isSome_iff_exists.1 (isSome_position?.2 hname)
        obtain ⟨column, hcolumn, -⟩ := exists_getElem?_of_position? hi
        have hlt : i < row.length := hrow ▸ lt_of_position? hi
        have hvalue := List.getElem?_eq_getElem hlt
        have hfound := find?_zip (p := (sameFolded · name)) hi hcolumn hvalue
        rw [List.filterMap_cons_some hi, List.filterMap_cons_some hvalue, ih hrequested,
          List.map_cons, hfound]
        rfl

end Columns

namespace Scan

open Columns

variable {table : Table} {s : Scan} {disk : Disk} {aliasName : String}
  {filter : Option Predicate}

-- =========================================================== selecting

/-- The rows that are admitted are those that pass. -/
theorem mem_admitted (h : Over table s) {row : Nat} :
    row ∈ s.admitted filter table ↔ Passes s.aliasName table filter row := by
  have hown : s.bind (table.rows.getD row []) .empty = own s.aliasName table row := by
    rw [bind, s.keys_eq, h.columns]
    rfl
  rw [admitted, List.mem_filter, List.mem_range]
  refine and_congr_right fun _ => ?_
  unfold admits
  cases filter with
  | none => simp
  | some predicate =>
      simp only [hown, Predicate.holds, Option.mem_some_iff, forall_eq']
      rcases predicate.evaluate (own s.aliasName table row) with e | _ | _ <;> simp

-- ============================================================= reading

/-- A row is read if it was found, and is missing otherwise. -/
theorem Over.readRow_answer (h : Over table s) (disk : Disk)
    (hphase : s.phase = .selected ∨ s.phase = .reading) (row : Nat) :
    s.readRow disk row
      = (if row ∈ s.matching.toList then .ok (table.rows.getD row [])
          else .error (.rowNotFound s.aliasName row), s) := by
  split
  · next hrow => rw [h.readRow_eq disk hphase hrow, h.record_eq]
  · next hrow =>
    have hexpect : s.expect .read [.selected, .reading] = .ok () := by
      rcases hphase with hp | hp <;> simp [expect, hp]
    have hcontains : ¬ s.matching.contains row = true := by simpa using hrow
    rw [readRow, hexpect]
    simp only [hcontains]
    rfl

/-- The scan is being read: it gives these values of the rows that were
found, and has passed `k` of them. -/
structure Underway (table : Table) (rows : Array Nat) (give : Nat → List String) (k : Nat)
    (s : Scan) : Prop where
  onTable : Over table s
  phase : s.phase = .reading
  matching : s.matching = rows
  gives : ∀ row ∈ rows.toList, s.project (table.rows.getD row []) = .ok (give row)
  cursor : s.cursor = k

variable {rows : Array Nat} {give : Nat → List String} {k : Nat}

/-- Of the rows that were found one is read as it is given, of the others
none. -/
theorem Underway.read_eq (h : Underway table rows give k s) (disk : Disk) (row : Nat) :
    s.read disk row
      = (if row ∈ rows.toList then .ok (give row) else .error (.rowNotFound s.aliasName row),
        s) := by
  have hexpect : s.expect .read [.reading] = .ok () := by simp [expect, h.phase]
  have hread := h.onTable.readRow_answer disk (.inr h.phase) row
  rw [h.matching] at hread
  rw [read, hexpect]
  dsimp only
  by_cases hrow : row ∈ rows.toList
  · rw [if_pos hrow] at hread ⊢
    rw [hread, ← h.gives row hrow]
  · rw [if_neg hrow] at hread ⊢
    rw [hread]

/-- Reading on gives the next row and passes it. -/
theorem Underway.next_some (h : Underway table rows give k s) (disk : Disk) {row : Nat}
    (hrow : rows[k]? = some row) :
    ∃ t, s.next disk = (.ok (some (give row)), t) ∧ Underway table rows give (k + 1) t := by
  have hentry : s.matching[s.cursor]? = some row := by rw [h.matching, h.cursor, hrow]
  have hmem : row ∈ rows.toList := Array.mem_toList_iff.2 (Array.mem_of_getElem? hrow)
  have hread := h.read_eq disk row
  rw [if_pos hmem] at hread
  refine ⟨{ s with cursor := s.cursor + 1 }, ?_, ?_⟩
  · rw [next_eq_read h.phase hentry disk, hread]
  · exact ⟨h.onTable.withCursor _, h.phase, h.matching, h.gives, congrArg (· + 1) h.cursor⟩

/-- Behind the last row there is none, and the scan stays there. -/
theorem Underway.next_none (h : Underway table rows give k s) (disk : Disk)
    (hrow : rows[k]? = none) : s.next disk = (.ok none, s) :=
  next_eq_none h.phase (by rw [h.matching, h.cursor, hrow]) disk

/-- A request for a column that there is not fails and changes nothing. -/
theorem startRead_unknown {columns : List String} (h : ¬ Known s.columns columns) :
    ∃ e, s.startRead columns = (.error e, s) := by
  unfold startRead
  dsimp only
  split
  · next e _ => exact ⟨e, rfl⟩
  · next ids houtcome =>
    obtain ⟨-, -, hids⟩ := Result.bind_eq_ok.1 houtcome
    exact absurd (known_iff.2 (isSome_of_resolve hids)) h

/-- What is asked between two rows leaves the scan between them. -/
theorem Underway.perform (h : Underway table rows give k s) (disk : Disk)
    {operation : Operation} (hnext : operation.isNext = false) (hstop : operation ≠ .stop)
    (hknown : ∀ columns, operation = .startRead columns → ¬ Known table.columns columns) :
    (s.perform disk operation).2 = s := by
  cases operation with
  | select filter =>
      have hexpect : s.expect .select [.unselected]
          = .error (.invalidPhase s.aliasName .select s.phase) := by
        simp [expect, h.phase]
      rw [Scan.perform, select, hexpect]
  | startRead columns =>
      obtain ⟨e, hfails⟩ := startRead_unknown (h.onTable.columns ▸ hknown columns rfl)
      rw [Scan.perform, hfails]
  | fetch row => exact h.onTable.fetch_snd disk row
  | readRow row => exact h.onTable.readRow_snd disk row
  | read row => exact h.onTable.read_snd disk row
  | next => cases hnext
  | stop => exact absurd rfl hstop

-- ============================================================ the run

/-- What is not disturbed is not disturbed later. -/
theorem Undisturbed.tail {names : List String} {step : Disk × Operation}
    {history : List (Disk × Operation)} (h : Undisturbed names (step :: history)) :
    Undisturbed names history :=
  ⟨fun later hlater => h.1 later (List.mem_cons_of_mem _ hlater),
    fun later hlater => h.2 later (List.mem_cons_of_mem _ hlater)⟩

/-- Reading on goes through the rows that were not passed, and then finds
none; the scan is still being read after it. -/
theorem Underway.run (h : Underway table rows give k s) {history : List (Disk × Operation)}
    (hquiet : Undisturbed table.columns history) :
    (∃ k', Underway table rows give k' (s.after history))
      ∧ s.advances history
        = ((rows.toList.drop k).map fun row => .ok (some (give row))).take
            (history.countP (·.2.isNext))
          ++ List.replicate (history.countP (·.2.isNext) - (rows.size - k)) (.ok none) := by
  induction history generalizing s k with
  | nil => exact ⟨⟨k, h⟩, by simp [advances]⟩
  | cons step history ih =>
      obtain ⟨disk, operation⟩ := step
      unfold advances after
      cases hnext : operation.isNext with
      | false =>
          have hstays : (s.perform disk operation).2 = s :=
            h.perform disk hnext (hquiet.1 _ (List.mem_cons_self ..))
              (hquiet.2 _ (List.mem_cons_self ..))
          rw [hstays, List.countP_cons_of_neg (by simp [hnext])]
          exact ih h hquiet.tail
      | true =>
          obtain rfl : operation = .next := by
            cases operation with
            | next => rfl
            | select | startRead | fetch | readRow | read | stop => cases hnext
          rw [List.countP_cons_of_pos (by simp [hnext]), if_pos rfl, Scan.perform]
          cases hrow : rows[k]? with
          | none =>
              have hle : rows.size ≤ k := Array.getElem?_eq_none_iff.1 hrow
              have hdrop : rows.toList.drop k = [] :=
                List.drop_eq_nil_iff.2 (by simpa using hle)
              -- all rows are passed, so every further call finds none
              have hleft : rows.size - k = 0 := by omega
              obtain ⟨hlast, hanswers⟩ := ih h hquiet.tail
              rw [h.next_none disk hrow]
              dsimp only
              rw [hanswers, hdrop, hleft, Nat.sub_zero, Nat.sub_zero, List.replicate_succ]
              exact ⟨hlast, by simp⟩
          | some row =>
              obtain ⟨hlt, hget⟩ := Array.getElem?_eq_some_iff.1 hrow
              have hdrop : rows.toList.drop k = row :: rows.toList.drop (k + 1) := by
                rw [List.drop_eq_getElem_cons (by simpa using hlt), Array.getElem_toList,
                  hget]
              -- one call and one row fewer: as many empty answers as before
              have hleft : history.countP (·.2.isNext) + 1 - (rows.size - k)
                  = history.countP (·.2.isNext) - (rows.size - (k + 1)) := by omega
              obtain ⟨t, hanswer, ht⟩ := h.next_some disk hrow
              obtain ⟨hlast, hanswers⟩ := ih ht hquiet.tail
              rw [hanswer]
              dsimp only
              rw [hanswers, hdrop, hleft, List.map_cons, List.take_succ_cons]
              exact ⟨hlast, rfl⟩

-- ========================================================== histories

/-- A scan of a table stays one. -/
theorem Over.after (h : Over table s) (history : List (Disk × Operation)) :
    Over table (s.after history) := by
  induction history generalizing s with
  | nil => exact h
  | cons step history ih => exact ih (h.moved (moved_perform step.1 s step.2))

/-- Only to stop ends that rows are selected or read. -/
theorem Turn.running {operation : Operation} {outcome : Result (Option (List String))}
    {t : Scan} (h : Turn s operation (outcome, t)) (hstop : operation ≠ .stop)
    (hphase : s.phase = .selected ∨ s.phase = .reading) :
    t.phase = .selected ∨ t.phase = .reading := by
  cases h with
  | refused => exact hphase
  | failed => exact hphase
  | gave => exact hphase
  | passed => exact hphase
  | selected => exact .inl rfl
  | started => exact .inr rfl
  | stopped backend hcalled => exact absurd hcalled hstop

/-- Until it is stopped a scan has its rows. -/
theorem running_after (hphase : s.phase = .selected ∨ s.phase = .reading)
    {history : List (Disk × Operation)} (hrunning : Running history) :
    (s.after history).phase = .selected ∨ (s.after history).phase = .reading := by
  induction history generalizing s with
  | nil => exact hphase
  | cons step history ih =>
      obtain ⟨hstep, hhistory⟩ := List.forall_mem_cons.1 hrunning
      exact ih ((turn_perform step.1 s step.2).running hstep hphase) hhistory

/-- Whoever starts to read known columns is given them from the first row
that was found on. -/
theorem Over.startRead_known (h : Over table s)
    (hphase : s.phase = .selected ∨ s.phase = .reading) {columns : List String}
    (hknown : Known table.columns columns) :
    (s.startRead columns).1 = .ok ()
      ∧ Underway table s.matching
          (fun row => pick table.columns columns (table.rows.getD row [])) 0
          (s.startRead columns).2
      ∧ (s.startRead columns).2.aliasName = s.aliasName := by
  have hexpect : s.expect .startRead [.selected, .reading] = .ok () := by
    rcases hphase with hp | hp <;> simp [expect, hp]
  have hresolve : resolve s.aliasName s.columns columns
      = .ok (places table.columns columns) := by
    rw [h.columns]
    exact resolve_eq_ok s.aliasName (known_iff.1 hknown)
  have hstarted := h.startRead columns
  rw [startRead_eq hexpect hresolve] at hstarted ⊢
  refine ⟨rfl, ⟨hstarted, rfl, rfl, fun row hrow => ?_, rfl⟩, rfl⟩
  have hlength : (table.rows.getD row []).length = table.columns.length := by
    have hlt := h.bounded row hrow
    rw [Array.getD_eq_getD_getElem?, Array.getElem?_eq_getElem hlt, Option.getD_some]
    exact table.rectangular _ (Array.mem_toList_iff.2 (Array.getElem_mem hlt))
  rw [hstarted.selects.project_eq (hlength.trans (congrArg List.length h.columns).symm)]
  exact congrArg Except.ok (filterMap_places hknown hlength)

-- ============================================================ delivery

/-- What a scan delivers once it has selected rows of this table. -/
structure Delivers (aliasName : String) (table : Table) (filter : Option Predicate) (s : Scan) :
    Prop where
  /-- The rows that were found ascend. -/
  ascending : s.matching.toList.Pairwise (· < ·)
  /-- They are the rows that the filter answers yes to. -/
  found : ∀ row, row ∈ s.matching.toList ↔ Passes aliasName table filter row
  /-- At any time a found row is read with all its values, and no other
  row is. -/
  whole : ∀ history, Running history → ∀ disk row,
    ((s.after history).readRow disk row).1
      = if row ∈ s.matching.toList then .ok (table.rows.getD row [])
        else .error (.rowNotFound aliasName row)
  /-- Reading starts, at any time, if all requested columns are there, and
  fails otherwise. -/
  starts : ∀ history columns, Running history →
    (((s.after history).startRead columns).1 = .ok () ↔ Known table.columns columns)
  /-- From then on a found row is read with its values in these columns,
  and no other row is. -/
  picked : ∀ history columns later, Running history → Known table.columns columns →
    Undisturbed table.columns later → ∀ disk row,
    ((((s.after history).startRead columns).2.after later).read disk row).1
      = if row ∈ s.matching.toList then
          .ok (pick table.columns columns (table.rows.getD row []))
        else .error (.rowNotFound aliasName row)
  /-- From then on reading on gives the found rows, from the first one, in
  their order and each once, and none after the last. -/
  inOrder : ∀ history columns later, Running history → Known table.columns columns →
    Undisturbed table.columns later →
    ((s.after history).startRead columns).2.advances later
      = (s.matching.toList.map fun row =>
            .ok (some (pick table.columns columns (table.rows.getD row [])))).take
          (later.countP (·.2.isNext))
        ++ List.replicate (later.countP (·.2.isNext) - s.matching.size) (.ok none)

/-- It is enough that the right rows were found. -/
theorem Over.delivers (h : Over table s) (hphase : s.phase = .selected)
    (hfound : ∀ row, row ∈ s.matching.toList ↔ Passes s.aliasName table filter row) :
    Delivers s.aliasName table filter s := by
  have hany : ∀ history, Running history →
      Over table (s.after history)
        ∧ ((s.after history).phase = .selected ∨ (s.after history).phase = .reading)
        ∧ (s.after history).matching = s.matching
        ∧ (s.after history).aliasName = s.aliasName := by
    intro history hrunning
    have hselected : s.phase ≠ .unselected := by rw [hphase]; nofun
    exact ⟨h.after history, running_after (.inl hphase) hrunning,
      matching_after hselected history, (relation_after s history).2⟩
  constructor
  case ascending => exact h.ascending
  case found => exact hfound
  case whole =>
    intro history hrunning disk row
    obtain ⟨hover, hphase', hmatching, haliasName⟩ := hany history hrunning
    rw [hover.readRow_answer disk hphase', hmatching, haliasName]
  case starts =>
    intro history columns hrunning
    obtain ⟨hover, hphase', -⟩ := hany history hrunning
    refine ⟨fun hstarts => by_contra fun hunknown => ?_, fun hknown =>
      (hover.startRead_known hphase' hknown).1⟩
    rw [← hover.columns] at hunknown
    obtain ⟨e, hfails⟩ := startRead_unknown hunknown
    rw [hfails] at hstarts
    cases hstarts
  case picked =>
    intro history columns later hrunning hknown hquiet disk row
    obtain ⟨hover, hphase', hmatching, haliasName⟩ := hany history hrunning
    obtain ⟨-, hstarted, hsame⟩ := hover.startRead_known hphase' hknown
    obtain ⟨⟨k, hunderway⟩, -⟩ := hstarted.run hquiet
    rw [hunderway.read_eq disk row, hmatching, (relation_after _ later).2, hsame, haliasName]
  case inOrder =>
    intro history columns later hrunning hknown hquiet
    obtain ⟨hover, hphase', hmatching, -⟩ := hany history hrunning
    obtain ⟨-, hstarted, -⟩ := hover.startRead_known hphase' hknown
    obtain ⟨-, hanswers⟩ := hstarted.run hquiet
    rw [hanswers, hmatching]
    rfl

/-- A scan of a table delivers exactly the rows that pass its filter. -/
theorem delivers_select (name aliasName : String) (table : Table) (filter : Option Predicate)
    (disk : Disk) :
    ((ofTable name aliasName table).select disk filter).1 = .ok ()
      ∧ Delivers aliasName table filter ((ofTable name aliasName table).select disk filter).2 := by
  have hfresh := over_ofTable name aliasName table
  have hselect := hfresh.select_eq disk filter rfl
  have hover := hfresh.moved (moved_select disk filter _)
  rw [hselect] at hover ⊢
  exact ⟨rfl, hover.delivers rfl fun _ => mem_admitted hfresh⟩

end Scan

end FlatQuery
