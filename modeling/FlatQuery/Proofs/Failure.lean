/-
How computations fail. `FailsAs` bounds the errors of a computation by a
kind, and a sequence of steps fails as one of its steps does. The lemmas
on scans and on the columns of a relation name the errors that each of
them can end in.
-/
import FlatQuery.Proofs.Result
import FlatQuery.Scan

namespace FlatQuery

-- ============================================================ sequences

namespace Result

variable {α β : Type} {kind : Error → Prop}

/-- If the computation fails, then with an error of this kind. -/
def FailsAs (kind : Error → Prop) (x : Result α) : Prop := ∀ e, x = .error e → kind e

/-- What answers does not fail. -/
theorem failsAs_ok (a : α) : FailsAs kind (.ok a : Result α) := nofun

theorem failsAs_error {e : Error} (h : kind e) : FailsAs kind (.error e : Result α) := by
  rintro e' ⟨⟩
  exact h

/-- A bound on the errors can be widened. -/
theorem FailsAs.mono {x : Result α} {kind' : Error → Prop} (h : FailsAs kind x)
    (himp : ∀ e, kind e → kind' e) : FailsAs kind' x :=
  fun e he => himp e (h e he)

/-- Two steps fail as the first does, or as the second does on what the
first has answered. -/
theorem FailsAs.bind {x : Result α} {f : α → Result β} (hx : FailsAs kind x)
    (hf : ∀ a, x = .ok a → FailsAs kind (f a)) : FailsAs kind (x >>= f) := by
  cases x with
  | error e =>
      rintro e' ⟨⟩
      exact hx e rfl
  | ok a => exact hf a rfl

theorem FailsAs.map {x : Result α} (hx : FailsAs kind x) (f : α → β) :
    FailsAs kind (x.map f) := by
  cases x with
  | error e =>
      rintro e' ⟨⟩
      exact hx e rfl
  | ok a => exact nofun

/-- A list of steps fails as one of them does. -/
theorem failsAs_mapM {f : α → Result β} {l : List α} (h : ∀ a ∈ l, FailsAs kind (f a)) :
    FailsAs kind (l.mapM f) := by
  induction l with
  | nil => exact failsAs_ok []
  | cons a l ih =>
      obtain ⟨ha, hl⟩ := List.forall_mem_cons.1 h
      rw [List.mapM_cons]
      refine ha.bind fun b _ => (ih hl).bind fun rest _ => ?_
      exact failsAs_ok _

/-- So does a run, whatever the states that its steps begin from. -/
theorem failsAs_foldlM {f : β → α → Result β} {l : List α}
    (h : ∀ a ∈ l, ∀ b, FailsAs kind (f b a)) (b : β) : FailsAs kind (l.foldlM f b) := by
  induction l generalizing b with
  | nil => exact failsAs_ok b
  | cons a l ih =>
      obtain ⟨ha, hl⟩ := List.forall_mem_cons.1 h
      rw [List.foldlM_cons]
      exact (ha b).bind fun b' _ => ih hl b'

theorem failsAs_forM {f : α → Result Unit} {l : List α} (h : ∀ a ∈ l, FailsAs kind (f a)) :
    FailsAs kind (l.forM f) := by
  induction l with
  | nil => exact failsAs_ok ()
  | cons a l ih =>
      obtain ⟨ha, hl⟩ := List.forall_mem_cons.1 h
      exact ha.bind fun _ _ => ih hl

end Result

open Result

-- ============================================================== columns

/-- Column names are refused for one that is repeated. -/
theorem Columns.failsAs_checkDistinct (names : List String) :
    FailsAs (fun e => ∃ name, e = .ambiguous .column name) (checkDistinct names) := by
  unfold checkDistinct
  split
  · next name _ => exact failsAs_error ⟨name, rfl⟩
  · exact failsAs_ok ()

/-- Requested columns are refused for one that is missing. -/
theorem Columns.failsAs_resolve (relation : String) (names requested : List String) :
    FailsAs (fun e => ∃ name ∈ requested, e = .unknownColumn name relation)
      (resolve relation names requested) := by
  unfold resolve
  split
  · exact failsAs_ok _
  · refine failsAs_mapM fun name hname => ?_
    split
    · exact failsAs_ok _
    · exact failsAs_error ⟨name, hname, rfl⟩

-- ================================================================ files

namespace Delimited.Source

/-- What is opened is a path, and an error says which. -/
theorem failsAs_openStream (disk : Disk) (path : String) :
    FailsAs (fun e => ∃ fault, e = .relationFile path fault) (openStream disk path) := by
  unfold openStream
  split
  · exact failsAs_ok _
  · next fault _ => exact failsAs_error ⟨fault, rfl⟩

/-- A file is not opened if it cannot be had or names a column twice. -/
theorem failsAs_ofFile (disk : Disk) (path : String) (options : Options) :
    FailsAs (fun e => (∃ fault, e = .relationFile path fault) ∨ ∃ name, e = .ambiguous .column name)
      (ofFile disk path options) := by
  unfold ofFile
  refine ((failsAs_openStream disk path).mono fun e => .inl).bind fun stream _ => ?_
  refine ((Columns.failsAs_checkDistinct _).mono fun e => .inr).bind fun _ _ => ?_
  exact failsAs_ok _

/-- A stream that is still open is had; only one that was let go of is
opened again. -/
theorem failsAs_acquire (disk : Disk) (s : Source) :
    FailsAs (fun e => ∃ fault, e = .relationFile s.path fault) (s.acquire disk).1 := by
  unfold acquire
  split
  · exact failsAs_ok _
  · exact failsAs_openStream disk s.path

/-- Selecting fails if the file cannot be had or a row has another
width. -/
theorem failsAs_select (disk : Disk) (name : String) (width : Nat)
    (admits : List String → Bool) (s : Source) :
    FailsAs (fun e => (∃ fault, e = .relationFile s.path fault)
        ∨ ∃ row found, e = .malformedRow name row width found)
      (s.select disk name width admits).1 := by
  have hacquire := failsAs_acquire disk s
  unfold select
  split
  · next e s' heq =>
    rw [heq] at hacquire
    exact failsAs_error (.inl (hacquire e rfl))
  · dsimp only
    split
    · next row found _ => exact failsAs_error (.inr ⟨row, found, rfl⟩)
    · exact failsAs_ok _

/-- Fetching fails if the file cannot be had or has no such row. -/
theorem failsAs_fetch (disk : Disk) (aliasName : String) (row : Nat) (s : Source) :
    FailsAs (fun e => (∃ fault, e = .relationFile s.path fault) ∨ e = .rowNotFound aliasName row)
      (s.fetch disk aliasName row).1 := by
  have hacquire := failsAs_acquire disk s
  unfold fetch
  split
  · exact failsAs_error (.inr rfl)
  · split
    · next e s' heq =>
      rw [heq] at hacquire
      exact failsAs_error (.inl (hacquire e rfl))
    · dsimp only
      split
      · exact failsAs_error (.inr rfl)
      · exact failsAs_ok _

end Delimited.Source

-- ================================================================ scans

namespace Scan

/-- An error of the rows themselves: their file cannot be had, a row has
another width than the first, or there is no such row. That a row is too
short for the columns to read is none: it stops the run. -/
inductive RowFault : Error → Prop where
  | file (path : String) (fault : FileFault) : RowFault (.relationFile path fault)
  | width (relation : String) (row expected found : Nat) :
      RowFault (.malformedRow relation row expected found)
  | missing (relation : String) (row : Nat) : RowFault (.rowNotFound relation row)

/-- An error that reading a row ends in: a fault of the row, or the stop of
the run at a column that the row lacks. -/
def ReadFault (e : Error) : Prop := RowFault e ∨ ∃ index length, e = .outOfBounds index length

/-- No fault of a row stops the run. -/
theorem RowFault.ne_outOfBounds {e : Error} (h : RowFault e) (index length : Nat) :
    e ≠ .outOfBounds index length := by
  cases h <;> exact nofun

/-- A row is not projected if it lacks a column to read. -/
theorem failsAs_project (s : Scan) (row : List String) :
    FailsAs (fun e => ∃ id ∈ s.selectedIds, row.length ≤ id ∧ e = .outOfBounds id row.length)
      (s.project row) :=
  failsAs_mapM fun id hid _ he =>
    ⟨id, hid, (indexed_eq_error.1 he).1, (indexed_eq_error.1 he).2⟩

/-- Rows of a table are all found, those of a file if it can be had and
they are all of one width. -/
theorem failsAs_selectRows (disk : Disk) (filter : Option Predicate) (s : Scan) :
    FailsAs RowFault (s.selectRows disk filter).1 := by
  unfold selectRows
  split
  · exact failsAs_ok _
  · next source _ =>
    have hselect := Delimited.Source.failsAs_select disk s.name s.columns.length
      (s.admits filter) source
    refine hselect.mono ?_
    rintro e (⟨fault, rfl⟩ | ⟨row, found, rfl⟩)
    · exact .file _ fault
    · exact .width _ row _ found

/-- A row that is there is fetched, also if it is too short. -/
theorem failsAs_fetch (disk : Disk) (row : Nat) (s : Scan) :
    FailsAs RowFault (s.fetch disk row).1 := by
  unfold fetch
  split
  · split
    · exact failsAs_ok _
    · exact failsAs_error (.missing _ row)
  · next source _ =>
    refine (Delimited.Source.failsAs_fetch disk s.aliasName row source).mono ?_
    rintro e (⟨fault, rfl⟩ | rfl)
    · exact .file _ fault
    · exact .missing _ row

/-- Reading a row fails for the phase of the scan or for the row. -/
theorem failsAs_readRow (disk : Disk) (row : Nat) (s : Scan) :
    FailsAs (fun e => (∃ phase, e = .invalidPhase s.aliasName .read phase) ∨ RowFault e)
      (s.readRow disk row).1 := by
  unfold readRow expect
  split
  · next e hexpect =>
    split at hexpect
    · cases hexpect
    · cases hexpect
      exact failsAs_error (.inl ⟨s.phase, rfl⟩)
  · split
    · exact (s.failsAs_fetch disk row).mono fun _ => .inr
    · exact failsAs_error (.inr (.missing _ row))

end Scan

end FlatQuery
