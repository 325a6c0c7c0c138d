/-
Scans: cursors over the rows of one relation. Selecting finds the rows
that match a filter, starting to read fixes the columns, and rows are
then read by number or one after the other:

  unselected --> selected --> reading --> stopped

An operation that the phase does not allow, or that fails, leaves the
phase, the selection, the columns and the cursor as they were.

A row that is fetched may be shorter than the relation is wide, since
its file may have changed. To take a column from it that it lacks stops
the run (`project`).
-/
import FlatQuery.Delimited.Source
import FlatQuery.Predicate
import FlatQuery.Table

namespace FlatQuery

open Text

/-- Where a scan's rows come from. -/
inductive Backend where
  | table (table : Table)
  | file (source : Delimited.Source)

/-- The name that a column of a relation is bound under. -/
def Scan.key (aliasName column : String) : String := lowercase (aliasName ++ "." ++ column)

structure Scan where
  name : String
  aliasName : String
  columns : List String
  backend : Backend
  phase : Scan.Phase
  /-- The numbers of the matching rows, ascending. -/
  matching : Array Nat
  /-- The columns to read, and where they stand. -/
  selected : List String
  selectedIds : List Nat
  /-- How many matching rows were passed. -/
  cursor : Nat
  keys : List String
  keys_eq : keys = columns.map (Scan.key aliasName)

namespace Scan

-- =========================================================== opening

/-- A scan of these columns that has read nothing. -/
def ofBackend (name aliasName : String) (columns : List String) (backend : Backend) : Scan where
  name := name
  aliasName := aliasName
  columns := columns
  backend := backend
  phase := .unselected
  matching := #[]
  selected := []
  selectedIds := []
  cursor := 0
  keys := columns.map (key aliasName)
  keys_eq := rfl

/-- A scan of a table in memory. -/
def ofTable (name aliasName : String) (table : Table) : Scan :=
  ofBackend name aliasName table.columns (.table table)

/-- A scan of a delimited file. -/
def ofFile (disk : Disk) (name aliasName path : String) (options : Delimited.Options) :
    Result Scan := do
  let (columns, source) ← Delimited.Source.ofFile disk path options
  return ofBackend name aliasName columns (.file source)

-- ====================================================== testing rows

/-- Binds the values of a full row. -/
def bind (s : Scan) (row : List String) (bindings : Bindings) : Bindings :=
  bindings.bindAll s.keys row

/-- Whether a row passes the filter; a filter that fails rejects it. -/
def admits (s : Scan) (filter : Option Predicate) (row : List String) : Bool :=
  match filter with
  | none => true
  | some predicate => predicate.holds (s.bind row .empty)

/-- Refuses a request in any phase but these. -/
def expect (s : Scan) (request : Request) (allowed : List Phase) : Result Unit :=
  if allowed.contains s.phase then .ok ()
  else .error (.invalidPhase s.aliasName request s.phase)

-- ======================================================== the backend

/-- The numbers of the rows that pass the filter, ascending. -/
def selectRows (disk : Disk) (filter : Option Predicate) (s : Scan) :
    Result (Array Nat) × Backend :=
  match s.backend with
  | .table table =>
    let passing := table.rows.toList.zipIdx.filter fun (row, _) => s.admits filter row
    (.ok (passing.map Prod.snd).toArray, s.backend)
  | .file source =>
    let (rows, source) := source.select disk s.name s.columns.length (s.admits filter)
    (rows, .file source)

/-- All values of a row, in any phase. -/
def fetch (disk : Disk) (row : Nat) (s : Scan) : Result (List String) × Scan :=
  match s.backend with
  | .table table =>
    match table.rows[row]? with
    | some values => (.ok values, s)
    | none => (.error (.rowNotFound s.aliasName row), s)
  | .file source =>
    let (values, source) := source.fetch disk s.aliasName row
    (values, { s with backend := .file source })

-- ===================================================== the operations

/-- Finds the matching rows. -/
def select (disk : Disk) (filter : Option Predicate) (s : Scan) : Result Unit × Scan :=
  match s.expect .select [.unselected] with
  | .error e => (.error e, s)
  | .ok () =>
    match s.selectRows disk filter with
    | (.error e, backend) => (.error e, { s with backend })
    | (.ok rows, backend) =>
      (.ok (), { s with backend, matching := rows, phase := .selected })

/-- Fixes the columns to read, every column if none is named, and goes
back to the first matching row. -/
def startRead (columns : List String) (s : Scan) : Result Unit × Scan :=
  let outcome := do
    s.expect .startRead [.selected, .reading]
    Columns.resolve s.aliasName s.columns columns
  match outcome with
  | .error e => (.error e, s)
  | .ok ids =>
    (.ok (), { s with
      selectedIds := ids
      selected := ids.filterMap (s.columns[·]?)
      cursor := 0
      phase := .reading })

/-- All values of a matching row. -/
def readRow (disk : Disk) (row : Nat) (s : Scan) : Result (List String) × Scan :=
  match s.expect .read [.selected, .reading] with
  | .error e => (.error e, s)
  | .ok () =>
    if s.matching.contains row then s.fetch disk row
    else (.error (.rowNotFound s.aliasName row), s)

/-- The selected values of a row, which has to have them. -/
def project (s : Scan) (row : List String) : Result (List String) :=
  s.selectedIds.mapM (indexed row)

/-- The selected values of a matching row. -/
def read (disk : Disk) (row : Nat) (s : Scan) : Result (List String) × Scan :=
  match s.expect .read [.reading] with
  | .error e => (.error e, s)
  | .ok () =>
    match s.readRow disk row with
    | (.error e, s) => (.error e, s)
    | (.ok values, s) => (s.project values, s)

/-- The selected values of the next matching row, or `none` after the
last. The cursor passes a row once it was read. -/
def next (disk : Disk) (s : Scan) : Result (Option (List String)) × Scan :=
  match s.expect .advance [.reading] with
  | .error e => (.error e, s)
  | .ok () =>
    match s.matching[s.cursor]? with
    | none => (.ok none, s)
    | some row =>
      match s.read disk row with
      | (.error e, s) => (.error e, s)
      | (.ok values, s) => (.ok (some values), { s with cursor := s.cursor + 1 })

/-- Lets go of the backend for good. -/
def stop (s : Scan) : Scan :=
  if s.phase = .stopped then s
  else
    let backend := match s.backend with
      | .table table => .table table
      | .file source => .file source.release
    { s with backend, phase := .stopped }

end Scan

end FlatQuery
