/-
What a scan is asked over time, each time on the disk as it is then. All
ways to a row go through one: reading the next row is reading a matching
row, and that is fetching it. So what an operation answers is what a
fetch answers (`readRow_ok`, `read_ok`, `next_ok`), and the scan after
it is one of a few (`Moved`); whatever these keep holds after any
history (`after_induction`).

The values that are read are those of the columns to read
(`picked`). That a row has them all is not a matter of the scan: with a
row that is too short the run stops (`project_eq_ok`).
-/
import FlatQuery.Scan
import FlatQuery.Proofs.Columns.Position

namespace FlatQuery.Scan

open Result

-- ============================================================ histories

/-- What can be asked of a scan. -/
inductive Operation where
  | select (filter : Option Predicate)
  | startRead (columns : List String)
  | fetch (row : Nat)
  | readRow (row : Nat)
  | read (row : Nat)
  | next
  | stop

/-- The answer of an operation, the values of a row if it gives any, and
the scan after it. -/
def perform (disk : Disk) (s : Scan) : Operation → Result (Option (List String)) × Scan
  | .select filter => ((s.select disk filter).1.map fun _ => none, (s.select disk filter).2)
  | .startRead columns => ((s.startRead columns).1.map fun _ => none, (s.startRead columns).2)
  | .fetch row => ((s.fetch disk row).1.map some, (s.fetch disk row).2)
  | .readRow row => ((s.readRow disk row).1.map some, (s.readRow disk row).2)
  | .read row => ((s.read disk row).1.map some, (s.read disk row).2)
  | .next => s.next disk
  | .stop => (.ok none, s.stop)

/-- The scan after a history. -/
def after (s : Scan) : List (Disk × Operation) → Scan
  | [] => s
  | (disk, operation) :: history => (s.perform disk operation).2.after history

-- ===================================================== columns to read

/-- The columns to read are columns of the relation. -/
structure Selects (s : Scan) : Prop where
  names : s.selected = s.selectedIds.filterMap (s.columns[·]?)
  bounded : ∀ id ∈ s.selectedIds, id < s.columns.length

/-- What the rows of a scan are read by. -/
def layout (s : Scan) : List String × List String × List Nat :=
  (s.columns, s.selected, s.selectedIds)

theorem Selects.of_layout {s t : Scan} (h : s.Selects) (hlayout : t.layout = s.layout) :
    t.Selects := by
  obtain ⟨hcolumns, hrest⟩ := Prod.mk.inj hlayout
  obtain ⟨hselected, hids⟩ := Prod.mk.inj hrest
  constructor
  · rw [hcolumns, hselected, hids]
    exact h.names
  · rw [hcolumns, hids]
    exact h.bounded

/-- What a row has in the columns to read. -/
def picked (s : Scan) (row : List String) : List String := s.selectedIds.filterMap (row[·]?)

/-- A row is projected if it reaches as far as the columns to read. -/
theorem project_eq_ok {s : Scan} {row values : List String} :
    s.project row = .ok values
      ↔ (∀ id ∈ s.selectedIds, id < row.length) ∧ values = s.picked row :=
  mapM_indexed_eq_ok

/-- A full row has a value for every column to read. -/
theorem Selects.project_eq {s : Scan} (h : s.Selects) {row : List String}
    (hrow : row.length = s.columns.length) : s.project row = .ok (s.picked row) :=
  project_eq_ok.2 ⟨fun id hid => hrow ▸ h.bounded id hid, rfl⟩

theorem Selects.length_selected {s : Scan} (h : s.Selects) :
    s.selected.length = s.selectedIds.length := by
  rw [h.names, Columns.length_filterMap_getElem? h.bounded]

/-- What is projected has one value for each column to read. -/
theorem length_of_project {s : Scan} {row values : List String}
    (h : s.project row = .ok values) : values.length = s.selectedIds.length := by
  obtain ⟨hwide, rfl⟩ := project_eq_ok.1 h
  exact Columns.length_filterMap_getElem? hwide

/-- Whatever row is fetched on this disk, it has a value for every
column. -/
def Full (disk : Disk) (s : Scan) : Prop :=
  ∀ row values t, s.fetch disk row = (.ok values, t) → values.length = s.columns.length

-- ======================================================== ways to a row

section
variable {disk : Disk} {s t : Scan} {row : Nat} {values : List String}

/-- Fetching moves the backend only. -/
theorem fetch_snd (disk : Disk) (row : Nat) (s : Scan) :
    ∃ backend, (s.fetch disk row).2 = { s with backend := backend } := by
  unfold fetch
  split
  · split
    · exact ⟨s.backend, rfl⟩
    · exact ⟨s.backend, rfl⟩
  · exact ⟨_, rfl⟩

/-- A row that was read is what the backend fetched. -/
theorem readRow_ok (h : s.readRow disk row = (.ok values, t)) :
    s.fetch disk row = (.ok values, t) := by
  unfold readRow at h
  split at h
  · cases h
  · split at h
    · exact h
    · cases h

/-- What is read is the projection of what is fetched. -/
theorem read_ok (h : s.read disk row = (.ok values, t)) :
    ∃ record, s.fetch disk row = (.ok record, t) ∧ s.project record = .ok values := by
  unfold read at h
  split at h
  · cases h
  · split at h
    · cases h
    · next record t' heq =>
      obtain ⟨hvalues, rfl⟩ := Prod.mk.inj h
      have hfetch := readRow_ok heq
      refine ⟨record, hfetch, ?_⟩
      -- the columns to read are those of the scan before the row was fetched
      obtain ⟨backend, hbackend⟩ := fetch_snd disk row s
      rw [hfetch] at hbackend
      rw [show t' = { s with backend := backend } from hbackend] at hvalues
      exact hvalues

/-- Reading on passes the row that was read. -/
theorem next_ok (h : s.next disk = (.ok (some values), t)) :
    ∃ row record u, s.matching[s.cursor]? = some row ∧ s.fetch disk row = (.ok record, u)
      ∧ s.project record = .ok values ∧ t = { u with cursor := u.cursor + 1 } := by
  unfold next at h
  split at h
  · cases h
  · split at h
    · cases h
    · next row hrow =>
      split at h
      · cases h
      · next found u heq =>
        cases h
        obtain ⟨record, hfetch, hvalues⟩ := read_ok heq
        exact ⟨row, record, u, hrow, hfetch, hvalues, rfl⟩

/-- Behind the last row reading on stays. -/
theorem next_eq_none (hphase : s.phase = .reading) (hrow : s.matching[s.cursor]? = none)
    (disk : Disk) : s.next disk = (.ok none, s) := by
  have hexpect : s.expect .advance [.reading] = .ok () := by simp [expect, hphase]
  rw [next, hexpect]
  simp only [hrow]

/-- Reading on reads the row at the cursor, and passes it if that
answers. -/
theorem next_eq_read (hphase : s.phase = .reading) (hrow : s.matching[s.cursor]? = some row)
    (disk : Disk) :
    s.next disk = match s.read disk row with
      | (.error e, t) => (.error e, t)
      | (.ok values, t) => (.ok (some values), { t with cursor := t.cursor + 1 }) := by
  have hexpect : s.expect .advance [.reading] = .ok () := by simp [expect, hphase]
  rw [next, hexpect]
  rcases hread : s.read disk row with ⟨e | values, t⟩
  · simp only [hrow, hread]
  · simp only [hrow, hread]

/-- An operation that gives no row leaves the scan, or it has tried. -/
theorem readRow_snd (disk : Disk) (row : Nat) (s : Scan) :
    (s.readRow disk row).2 = s ∨ (s.readRow disk row).2 = (s.fetch disk row).2 := by
  unfold readRow
  split
  · exact .inl rfl
  · split
    · exact .inr rfl
    · exact .inl rfl

/-- Reading a matching row moves the backend only. -/
theorem readRow_backend (disk : Disk) (row : Nat) (s : Scan) :
    ∃ backend, (s.readRow disk row).2 = { s with backend := backend } := by
  rcases readRow_snd disk row s with h | h
  · exact ⟨s.backend, h⟩
  · rw [h]
    exact fetch_snd disk row s

/-- Reading changes nothing, or what fetching changes. -/
theorem read_snd (disk : Disk) (row : Nat) (s : Scan) :
    (s.read disk row).2 = s ∨ (s.read disk row).2 = (s.fetch disk row).2 := by
  have hsnd := readRow_snd disk row s
  unfold read
  split
  · exact .inl rfl
  · split
    · next heq => rwa [heq] at hsnd
    · next heq => rwa [heq] at hsnd

/-- It changes the backend at most. -/
theorem read_backend (disk : Disk) (row : Nat) (s : Scan) :
    ∃ backend, (s.read disk row).2 = { s with backend := backend } := by
  rcases read_snd disk row s with h | h
  · exact ⟨s.backend, h⟩
  · rw [h]
    exact fetch_snd disk row s

end

-- ============================================================ invariants

/-- What an operation makes of a scan. -/
inductive Moved (disk : Disk) (s : Scan) : Scan → Prop where
  | stayed : Moved disk s s
  | fetched (row cursor : Nat) : Moved disk s { (s.fetch disk row).2 with cursor := cursor }
  | rejected (filter : Option Predicate) (backend : Backend) (e : Error)
      (phase : s.phase = .unselected) (found : s.selectRows disk filter = (.error e, backend)) :
      Moved disk s { s with backend := backend }
  | selected (filter : Option Predicate) (backend : Backend) (rows : Array Nat)
      (phase : s.phase = .unselected) (found : s.selectRows disk filter = (.ok rows, backend)) :
      Moved disk s { s with backend := backend, matching := rows, phase := .selected }
  | started (columns : List String) (ids : List Nat)
      (phase : s.phase = .selected ∨ s.phase = .reading)
      (resolved : Columns.resolve s.aliasName s.columns columns = .ok ids) :
      Moved disk s { s with
        selectedIds := ids
        selected := ids.filterMap (s.columns[·]?)
        cursor := 0
        phase := .reading }
  | stopped : Moved disk s s.stop

/-- The phase, where a request was not refused. -/
theorem phase_of_expect {s : Scan} {request : Request} {allowed : List Phase}
    (h : s.expect request allowed = .ok ()) : s.phase ∈ allowed := by
  unfold expect at h
  split at h
  · next hallowed => simpa using hallowed
  · cases h

theorem moved_fetch (disk : Disk) (row : Nat) (s : Scan) :
    Moved disk s (s.fetch disk row).2 := by
  obtain ⟨backend, hbackend⟩ := fetch_snd disk row s
  have hmoved : Moved disk s _ := .fetched row s.cursor
  rw [hbackend] at hmoved ⊢
  exact hmoved

theorem moved_select (disk : Disk) (filter : Option Predicate) (s : Scan) :
    Moved disk s (s.select disk filter).2 := by
  unfold select
  split
  · exact .stayed
  · next hexpect =>
    have hphase : s.phase = .unselected := List.mem_singleton.1 (phase_of_expect hexpect)
    split
    · next e backend hfound => exact .rejected filter backend e hphase hfound
    · next rows backend hfound => exact .selected filter backend rows hphase hfound

theorem moved_startRead (disk : Disk) (columns : List String) (s : Scan) :
    Moved disk s (s.startRead columns).2 := by
  unfold startRead
  dsimp only
  split
  · exact .stayed
  · next ids houtcome =>
    obtain ⟨⟨⟩, hexpect, hresolved⟩ := bind_eq_ok.1 houtcome
    have hphase : s.phase = .selected ∨ s.phase = .reading := by
      simpa using phase_of_expect hexpect
    exact .started columns ids hphase hresolved

theorem moved_read (disk : Disk) (row : Nat) (s : Scan) :
    Moved disk s (s.readRow disk row).2 ∧ Moved disk s (s.read disk row).2 := by
  have hfetch : ∀ t : Scan, t = s ∨ t = (s.fetch disk row).2 → Moved disk s t := by
    rintro t (rfl | rfl)
    · exact .stayed
    · exact moved_fetch disk row s
  exact ⟨hfetch _ (readRow_snd disk row s), hfetch _ (read_snd disk row s)⟩

theorem moved_next (disk : Disk) (s : Scan) : Moved disk s (s.next disk).2 := by
  unfold next
  split
  · exact .stayed
  · split
    · exact .stayed
    · next row _ =>
      have hmoved := (moved_read disk row s).2
      split
      · next heq => rwa [heq] at hmoved
      · next values t heq =>
        obtain ⟨record, hfetch, -⟩ := read_ok heq
        have hpassed : Moved disk s _ := .fetched row (t.cursor + 1)
        rwa [hfetch] at hpassed

/-- Every operation is a move. -/
theorem moved_perform (disk : Disk) (s : Scan) (operation : Operation) :
    Moved disk s (s.perform disk operation).2 := by
  cases operation with
  | select filter => exact moved_select disk filter s
  | startRead columns => exact moved_startRead disk columns s
  | fetch row => exact moved_fetch disk row s
  | readRow row => exact (moved_read disk row s).1
  | read row => exact (moved_read disk row s).2
  | next => exact moved_next disk s
  | stop => exact .stopped

/-- What every operation keeps holds after any history. -/
theorem after_induction (motive : Scan → Prop) {allowed : Disk → Prop} {s : Scan}
    {history : List (Disk × Operation)} (h : ∀ step ∈ history, allowed step.1)
    (start : motive s)
    (step : ∀ disk s t, allowed disk → motive s → Moved disk s t → motive t) :
    motive (s.after history) := by
  induction history generalizing s with
  | nil => exact start
  | cons first history ih =>
      obtain ⟨disk, operation⟩ := first
      obtain ⟨hfirst, hrest⟩ := List.forall_mem_cons.1 h
      exact ih hrest (step disk s _ hfirst start (moved_perform disk s operation))

end FlatQuery.Scan
