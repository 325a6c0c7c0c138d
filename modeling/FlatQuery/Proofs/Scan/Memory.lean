/-
Scans of tables in memory. `InMemory` are the scans that any run of
operations makes of a fresh one, `Over` is what all of them keep: the
table stays the one that was opened, the matching rows are rows of it,
in ascending order, and the columns to read are columns of it. So
whatever a run did before, a matching row reads as the table has it and
leaves the scan as it is (`readRow_eq`, `read_eq`), and no read stops
the run.
-/
import FlatQuery.Proofs.Scan.History

namespace FlatQuery.Scan

-- ======================================================== the invariant

/-- The scans of tables in memory. -/
inductive InMemory : Scan → Prop where
  | ofTable (name aliasName : String) (table : Table) :
    InMemory (ofTable name aliasName table)
  | select (disk : Disk) (filter : Option Predicate) {s : Scan} :
    InMemory s → InMemory (s.select disk filter).2
  | startRead (columns : List String) {s : Scan} :
    InMemory s → InMemory (s.startRead columns).2
  | readRow (disk : Disk) (row : Nat) {s : Scan} :
    InMemory s → InMemory (s.readRow disk row).2
  | read (disk : Disk) (row : Nat) {s : Scan} : InMemory s → InMemory (s.read disk row).2
  | next (disk : Disk) {s : Scan} : InMemory s → InMemory (s.next disk).2
  | stop {s : Scan} : InMemory s → InMemory s.stop

/-- A scan of this table, whatever it has done so far. -/
structure Over (table : Table) (s : Scan) : Prop where
  backend : s.backend = .table table
  columns : s.columns = table.columns
  ascending : s.matching.toList.Pairwise (· < ·)
  bounded : ∀ row ∈ s.matching.toList, row < table.rows.size
  selects : s.Selects

variable {table : Table} {s : Scan}

theorem over_ofTable (name aliasName : String) (table : Table) :
    Over table (ofTable name aliasName table) where
  backend := rfl
  columns := rfl
  ascending := .nil
  bounded := fun _ h => absurd h List.not_mem_nil
  selects := ⟨rfl, nofun⟩

-- =============================================================== rows

/-- All values of a row. -/
def record (s : Scan) (row : Nat) : List String :=
  match s.backend with
  | .table table => table.rows.getD row []
  | .file _ => []

/-- The record of a row is the table's. -/
theorem Over.record_eq (h : Over table s) (row : Nat) :
    s.record row = table.rows.getD row [] := by
  rw [record, h.backend]

/-- A row has a value for each name that it is bound to. -/
theorem Over.length_record (h : Over table s) {row : Nat} (hrow : row < table.rows.size) :
    (s.record row).length = s.keys.length := by
  have hmem : table.rows[row] ∈ table.rows.toList :=
    Array.mem_toList_iff.2 (Array.getElem_mem hrow)
  rw [h.record_eq, Array.getD_eq_getD_getElem?, Array.getElem?_eq_getElem hrow,
    Option.getD_some, table.rectangular _ hmem, s.keys_eq, List.length_map, h.columns]

/-- Rows of the table are fetched without a change. -/
theorem Over.fetch_eq (h : Over table s) (disk : Disk) {row : Nat}
    (hrow : row < table.rows.size) : s.fetch disk row = (.ok (s.record row), s) := by
  rw [h.record_eq, fetch, h.backend]
  simp [hrow]

/-- Rows of a table are as wide as the table. -/
theorem Over.full (h : Over table s) (disk : Disk) : s.Full disk := by
  intro row values t hfetch
  rw [fetch, h.backend] at hfetch
  cases hrow : table.rows[row]? with
  | none =>
      simp only [hrow] at hfetch
      cases hfetch
  | some found =>
      simp only [hrow] at hfetch
      cases hfetch
      rw [h.columns]
      exact table.rectangular _ (Array.mem_toList_iff.2 (Array.mem_of_getElem? hrow))

/-- No row of a table takes the scan elsewhere. -/
theorem Over.fetch_snd (h : Over table s) (disk : Disk) (row : Nat) :
    (s.fetch disk row).2 = s := by
  rw [fetch, h.backend]
  cases hrow : table.rows[row]? <;> simp only [hrow]

/-- Neither does reading one. -/
theorem Over.readRow_snd (h : Over table s) (disk : Disk) (row : Nat) :
    (s.readRow disk row).2 = s := by
  rcases Scan.readRow_snd disk row s with hsnd | hsnd
  · exact hsnd
  · exact hsnd.trans (h.fetch_snd disk row)

/-- A matching row reads as the table has it. -/
theorem Over.readRow_eq (h : Over table s) (disk : Disk)
    (hphase : s.phase = .selected ∨ s.phase = .reading) {row : Nat}
    (hrow : row ∈ s.matching.toList) : s.readRow disk row = (.ok (s.record row), s) := by
  have hexpect : s.expect .read [.selected, .reading] = .ok () := by
    rcases hphase with hp | hp <;> simp [expect, hp]
  have hcontains : s.matching.contains row = true := by simpa using hrow
  rw [readRow, hexpect]
  simp only [hcontains, if_true]
  exact h.fetch_eq disk (h.bounded row hrow)

/-- And so it is read, in the columns to read. -/
theorem Over.read_eq (h : Over table s) (disk : Disk) (hphase : s.phase = .reading) {row : Nat}
    (hrow : row ∈ s.matching.toList) :
    s.read disk row = (.ok (s.picked (s.record row)), s) := by
  have hexpect : s.expect .read [.reading] = .ok () := by simp [expect, hphase]
  have hlength := h.length_record (h.bounded row hrow)
  rw [s.keys_eq, List.length_map] at hlength
  rw [read, hexpect, h.readRow_eq disk (.inr hphase) hrow]
  exact Prod.ext (h.selects.project_eq hlength) rfl

theorem Over.read_snd (h : Over table s) (disk : Disk) (row : Nat) :
    (s.read disk row).2 = s := by
  rcases Scan.read_snd disk row s with hsnd | hsnd
  · exact hsnd
  · exact hsnd.trans (h.fetch_snd disk row)

/-- The cursor may stand anywhere. -/
theorem Over.withCursor (h : Over table s) (cursor : Nat) :
    Over table { s with cursor := cursor } :=
  ⟨h.backend, h.columns, h.ascending, h.bounded, ⟨h.selects.names, h.selects.bounded⟩⟩

-- =========================================================== selecting

/-- The numbers of the rows of a table that the filter admits. -/
def admitted (s : Scan) (filter : Option Predicate) (table : Table) : List Nat :=
  (List.range table.rows.size).filter fun row => s.admits filter (table.rows.getD row [])

private theorem map_snd_filter_zipIdx {α : Type} (d : α) (keep : α → Bool) (rows : List α)
    (start : Nat) :
    ((rows.zipIdx start).filter fun (row, _) => keep row).map Prod.snd
      = (List.range' start rows.length).filter fun i => keep (rows.getD (i - start) d) := by
  induction rows generalizing start with
  | nil => rfl
  | cons row rows ih =>
      have htail : (List.range' (start + 1) rows.length).filter
            (fun i => keep ((row :: rows).getD (i - start) d))
          = (List.range' (start + 1) rows.length).filter
            fun i => keep (rows.getD (i - (start + 1)) d) := by
        refine List.filter_congr fun i hi => ?_
        obtain ⟨k, -, rfl⟩ := List.mem_range'.1 hi
        rw [show start + 1 + 1 * k - start = k + 1 by omega,
          show start + 1 + 1 * k - (start + 1) = k by omega, List.getD_cons_succ]
      rw [List.zipIdx_cons, List.length_cons, List.range'_succ, List.filter_cons,
        List.filter_cons, htail, ← ih]
      cases hkeep : keep row <;> simp [hkeep]

/-- The rows selected are those the filter admits. -/
theorem Over.selectRows_eq (h : Over table s) (disk : Disk) (filter : Option Predicate) :
    s.selectRows disk filter = (.ok (s.admitted filter table).toArray, s.backend) := by
  have hrows := map_snd_filter_zipIdx [] (s.admits filter) table.rows.toList 0
  unfold selectRows admitted
  simp only [h.backend]
  rw [hrows, Array.length_toList, ← List.range_eq_range']
  simp

/-- Selecting finds the rows that the filter admits. -/
theorem Over.select_eq (h : Over table s) (disk : Disk) (filter : Option Predicate)
    (hphase : s.phase = .unselected) :
    s.select disk filter
      = (.ok (), { s with
          matching := (s.admitted filter table).toArray
          phase := .selected }) := by
  have hexpect : s.expect .select [.unselected] = .ok () := by simp [expect, hphase]
  rw [select, hexpect]
  simp only [h.selectRows_eq]

-- ================================================= the other operations

/-- The columns that a request is resolved to are the ones read. -/
theorem startRead_eq {columns : List String} {ids : List Nat}
    (hphase : s.expect .startRead [.selected, .reading] = .ok ())
    (hids : Columns.resolve s.aliasName s.columns columns = .ok ids) :
    s.startRead columns = (.ok (), { s with
      selectedIds := ids
      selected := ids.filterMap (s.columns[·]?)
      cursor := 0
      phase := .reading }) := by
  have houtcome : (do
      s.expect .startRead [.selected, .reading]
      Columns.resolve s.aliasName s.columns columns) = .ok ids := by
    rw [hphase]
    exact hids
  unfold startRead
  dsimp only
  rw [houtcome]

theorem Over.startRead (h : Over table s) (columns : List String) :
    Over table (s.startRead columns).2 := by
  unfold Scan.startRead
  dsimp only
  split
  · exact h
  · next ids houtcome =>
    obtain ⟨-, -, hresolved⟩ := Result.bind_eq_ok.1 houtcome
    exact ⟨h.backend, h.columns, h.ascending, h.bounded,
      ⟨rfl, Columns.lt_of_mem_resolve hresolved⟩⟩

theorem Over.stop (h : Over table s) : Over table s.stop := by
  unfold Scan.stop
  split
  · exact h
  · refine ⟨?_, h.columns, h.ascending, h.bounded, ⟨h.selects.names, h.selects.bounded⟩⟩
    simp only [h.backend]

/-- Whatever is made of a scan, it stays over its table. -/
theorem Over.moved {disk : Disk} {t : Scan} (h : Over table s) (hmoved : Moved disk s t) :
    Over table t := by
  cases hmoved with
  | stayed => exact h
  | fetched row cursor =>
      rw [h.fetch_snd disk row]
      exact h.withCursor cursor
  | rejected filter backend e _ hfound =>
      rw [h.selectRows_eq disk filter] at hfound
      cases hfound
  | selected filter backend rows _ hfound =>
      rw [h.selectRows_eq disk filter] at hfound
      cases hfound
      refine ⟨h.backend, h.columns, ?_, ?_, ⟨h.selects.names, h.selects.bounded⟩⟩
      · exact List.Pairwise.filter _ List.pairwise_lt_range
      · exact fun row hrow => List.mem_range.1 (List.mem_filter.1 hrow).1
  | started columns ids _ hresolved =>
      exact ⟨h.backend, h.columns, h.ascending, h.bounded,
        ⟨rfl, Columns.lt_of_mem_resolve hresolved⟩⟩
  | stopped => exact h.stop

/-- Every operation keeps a scan over its table. -/
theorem InMemory.exists_over (h : InMemory s) : ∃ table, Over table s := by
  induction h with
  | ofTable name aliasName table => exact ⟨table, over_ofTable name aliasName table⟩
  | select disk filter _ ih => exact ih.imp fun _ h => h.moved (moved_select disk filter _)
  | startRead columns _ ih => exact ih.imp fun _ h => h.startRead columns
  | readRow disk row _ ih => exact ih.imp fun _ h => h.moved (moved_read disk row _).1
  | read disk row _ ih => exact ih.imp fun _ h => h.moved (moved_read disk row _).2
  | next disk _ ih => exact ih.imp fun _ h => h.moved (moved_next disk _)
  | stop _ ih => exact ih.imp fun _ h => h.stop

end FlatQuery.Scan
