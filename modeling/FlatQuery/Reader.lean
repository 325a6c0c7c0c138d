/-
Reading a join result one row at a time, forward only. A reader holds
the scans and stops them when it is closed. Before the first row, after
the last one and after a row that could not be read there is no current
row.

The places of the columns come from whoever makes the reader. A place
that there is not, of a scan or in what a scan reads, stops the run.
-/
import FlatQuery.Join
import FlatQuery.Query

namespace FlatQuery

open Text

/-- A column of a result: its name, the scan that has it, and where it
stands among the columns which that scan reads. -/
structure OutputColumn where
  name : String
  scan : Nat
  position : Nat
  logicalType : LogicalType
  deriving DecidableEq, Repr

/-- A whole result. -/
structure QueryResult where
  columns : List String
  rows : List (List String)
  deriving DecidableEq, Repr

structure Reader where
  scans : List Scan
  index : JoinIndex
  columns : List OutputColumn
  nextEntry : Nat
  current : Option (List String)
  closed : Bool

namespace Reader

/-- A reader before its first row. -/
def ofIndex (scans : List Scan) (index : JoinIndex) (columns : List OutputColumn) : Reader :=
  ⟨scans, index, columns, 0, none, false⟩

-- =========================================================== reading

/-- Rows already read for the entry at hand, under the number of their
scan. -/
abbrev Fetched := List (Nat × List String)

/-- The scan of a number, and the row that an entry names of it. -/
def visit (rows : List Nat) (scan : Nat) (scans : List Scan) : Result (Scan × Nat) := do
  let s ← indexed scans scan
  let row ← indexed rows scan
  return (s, row)

/-- The row of one scan, read at most once for an entry. -/
def obtain (disk : Disk) (rows : List Nat) (scan : Nat) (fetched : Fetched)
    (scans : List Scan) : Result (List String × Fetched) × List Scan :=
  match fetched.lookup scan with
  | some values => (.ok (values, fetched), scans)
  | none =>
    match visit rows scan scans with
    | .error e => (.error e, scans)
    | .ok (s, row) =>
      match s.read disk row with
      | (.error e, s) => (.error e, scans.set scan s)
      | (.ok values, s) => (.ok (values, (scan, values) :: fetched), scans.set scan s)

/-- The values of the columns for one entry. -/
def collect (disk : Disk) (rows : List Nat) :
    List OutputColumn → Fetched → List Scan → Result (List String) × List Scan
  | [], _, scans => (.ok [], scans)
  | column :: columns, fetched, scans =>
    match obtain disk rows column.scan fetched scans with
    | (.error e, scans) => (.error e, scans)
    | (.ok (values, fetched), scans) =>
      match indexed values column.position with
      | .error e => (.error e, scans)
      | .ok value =>
        let (rest, scans) := collect disk rows columns fetched scans
        (rest.map (value :: ·), scans)

/-- Moves to the next row and tells whether there is one. An entry that
fails is passed all the same. -/
def read (disk : Disk) (r : Reader) : Result Bool × Reader :=
  let r := { r with current := none }
  if r.closed then (.ok false, r)
  else
    match r.index.rows[r.nextEntry]? with
    | none => (.ok false, r)
    | some rows =>
      let (outcome, scans) := collect disk rows r.columns [] r.scans
      let r := { r with scans, nextEntry := r.nextEntry + 1 }
      match outcome with
      | .error e => (.error e, r)
      | .ok values => (.ok true, { r with current := some values })

/-- Stops every scan. -/
def close (r : Reader) : Reader :=
  if r.closed then r
  else { r with scans := r.scans.map Scan.stop, current := none, closed := true }

-- ========================================================= accessors

def fieldCount (r : Reader) : Nat := r.columns.length

def columnNames (r : Reader) : List String := r.columns.map OutputColumn.name

/-- The column at an ordinal. -/
def column (r : Reader) (ordinal : Nat) : Result OutputColumn :=
  match r.columns[ordinal]? with
  | some c => .ok c
  | none => .error (.columnOutOfRange ordinal r.columns.length)

/-- The value at an ordinal of the current row. -/
def getValue (r : Reader) (ordinal : Nat) : Result String :=
  match r.current with
  | none => .error .noCurrentRow
  | some values => do
    let _ ← r.column ordinal
    indexed values ordinal

def getName (r : Reader) (ordinal : Nat) : Result String :=
  (r.column ordinal).map OutputColumn.name

def getTypeName (r : Reader) (ordinal : Nat) : Result String :=
  (r.column ordinal).map (·.logicalType.name)

/-- The ordinal of the first column with a name, ignoring the case of
ASCII letters. -/
def getOrdinal (r : Reader) (name : String) : Result Nat :=
  match r.columns.findIdx? (sameFolded ·.name name) with
  | some ordinal => .ok ordinal
  | none => .error (.unknownColumn name "result")

-- =========================================================== draining

/-- How many entries are still to be read. -/
def entriesLeft (r : Reader) : Nat := if r.closed then 0 else r.index.rows.size - r.nextEntry

theorem entriesLeft_read {disk : Disk} {r r' : Reader} (h : r.read disk = (.ok true, r')) :
    r'.entriesLeft < r.entriesLeft := by
  unfold read at h
  simp only at h
  split at h
  · simp at h
  · next hclosed =>
    split at h
    · simp at h
    · next rows hrow =>
      have hlt : r.nextEntry < r.index.rows.size := by
        have := Array.getElem?_eq_some_iff.1 hrow
        exact this.1
      split at h
      · simp at h
      · simp only [Prod.mk.injEq] at h
        rw [← h.2]
        simp only [entriesLeft]
        simp only [hclosed]
        simp only [Bool.false_eq_true, if_false]
        omega

/-- The rows still to come, and the reader after them. -/
def drain (disk : Disk) (r : Reader) (rows : Array (List String)) :
    Result (Array (List String)) × Reader :=
  match _h : r.read disk with
  | (.error e, r) => (.error e, r)
  | (.ok false, r) => (.ok rows, r)
  | (.ok true, r) => drain disk r (rows ++ r.current.toArray)
termination_by r.entriesLeft
decreasing_by exact entriesLeft_read ‹_›

/-- Reads the rows still to come into a result, and closes. -/
def intoResult (disk : Disk) (r : Reader) : Result QueryResult :=
  (r.drain disk #[]).1.map fun rows => ⟨r.columnNames, rows.toList⟩

end Reader

end FlatQuery
