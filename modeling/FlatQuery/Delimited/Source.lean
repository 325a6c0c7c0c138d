/-
A delimited file as a source of rows. Rows are numbered from the first
one that holds data; a header is no row. Selecting walks the file once,
checks that every row is as wide as the first, and notes where each row
starts. Afterwards a row is fetched by jumping there, or without a jump
if it is the next one anyway.

The file is opened once and again after it was let go of: on purpose, or
because selecting failed. What is fetched is decoded as it is found; the
width is not checked again.
-/
import FlatQuery.Columns
import FlatQuery.Delimited.Stream
import FlatQuery.Encoding.Decode
import FlatQuery.Text.Lowercase

namespace FlatQuery.Delimited

open Text

/-- How the files of a directory are written. -/
structure Options where
  separator : UInt8
  quote : UInt8
  hasHeader : Bool
  encoding : Encoding
  /-- Decode what is neither UTF-8 nor one byte a character. -/
  decoders : Encoding.Decoders

namespace Options

/-- The bytes that split a file into fields. -/
def dialect (o : Options) : Dialect UInt8 := ⟨o.separator, o.quote, 13, 10⟩

/-- The values of a record. -/
def decode (o : Options) (record : Record UInt8) : List String :=
  record.map fun field => String.ofList (o.encoding.decode o.decoders field)

/-- The column names that the first record of a file gives: its values
in lowercase if it is a header, else `col0`, `col1` and so on. -/
def columns (o : Options) (first : Record UInt8) : List String :=
  if o.hasHeader then (o.decode first).map fun name => lowercase (trim name)
  else (List.range first.length).map fun i => s!"col{i}"

end Options

structure Source where
  path : String
  options : Options
  /-- The open file, if it is open. -/
  stream : Option Stream
  /-- Where the first row starts. -/
  dataStart : Nat
  /-- Where each row starts, once rows were selected. -/
  positions : Array Nat
  /-- The row that the stream is about to read. -/
  nextRow : Option Nat

namespace Source

/-- Opens a file for reading. -/
def openStream (disk : Disk) (path : String) : Result Stream :=
  match disk.open? path with
  | .ok number => .ok (.ofFile number)
  | .error fault => .error (.relationFile path fault)

/-- Opens a file and reads its column names. A file without records has
no columns. -/
def ofFile (disk : Disk) (path : String) (options : Options) : Result (List String × Source) := do
  let stream ← openStream disk path
  let (first, after) := stream.readRecord disk options.dialect
  let columns := (first.map options.columns).getD []
  Columns.checkDistinct columns
  let dataStart :=
    if first.isSome && options.hasHeader then after.position else stream.position
  return (columns, ⟨path, options, some after, dataStart, #[], none⟩)

/-- The open stream, or the file opened again; then no row is next. -/
def acquire (disk : Disk) (s : Source) : Result Stream × Source :=
  match s.stream with
  | some stream => (.ok stream, s)
  | none => (openStream disk s.path, { s with nextRow := none })

-- ========================================================= selecting

/-- What a walk over the rows has found. -/
structure Selection where
  positions : Array Nat
  matching : Array Nat
  stream : Stream

/-- Walks over the rows from the stream on. A row of another width ends
the walk with its number and width. -/
def walk (disk : Disk) (o : Options) (width : Nat) (admits : List String → Bool)
    (stream : Stream) (positions matching : Array Nat) : Except (Nat × Nat) Selection :=
  match _h : stream.readRecord disk o.dialect with
  | (none, after) => .ok ⟨positions, matching, after⟩
  | (some record, after) =>
    if record.length = width then
      walk disk o width admits after (positions.push stream.position)
        (if admits (o.decode record) then matching.push positions.size else matching)
    else .error (positions.size, record.length)
termination_by stream.remaining disk
decreasing_by exact Stream.remaining_readRecord ‹_›

/-- The rows that `admits` lets through, of a relation `name` with
`width` columns. -/
def select (disk : Disk) (name : String) (width : Nat) (admits : List String → Bool)
    (s : Source) : Result (Array Nat) × Source :=
  match s.acquire disk with
  | (.error e, s) => (.error e, s)
  | (.ok stream, s) =>
    let stream := stream.seek disk s.options.dialect s.dataStart
    match walk disk s.options width admits stream #[] #[] with
    | .error (row, found) =>
      (.error (.malformedRow name row width found), { s with stream := none })
    | .ok selection =>
      (.ok selection.matching, { s with
        stream := some selection.stream
        positions := selection.positions
        nextRow := some selection.positions.size })

-- ========================================================== fetching

/-- The values of a row. `aliasName` is blamed if there is no such row. -/
def fetch (disk : Disk) (aliasName : String) (row : Nat) (s : Source) :
    Result (List String) × Source :=
  match s.positions[row]? with
  | none => (.error (.rowNotFound aliasName row), s)
  | some position =>
    match s.acquire disk with
    | (.error e, s) => (.error e, s)
    | (.ok stream, s) =>
      let dialect := s.options.dialect
      let stream :=
        if s.nextRow = some row then stream else stream.seek disk dialect position
      match stream.readRecord disk dialect with
      | (none, after) =>
        (.error (.rowNotFound aliasName row), { s with stream := some after, nextRow := none })
      | (some record, after) =>
        (.ok (s.options.decode record),
          { s with stream := some after, nextRow := some (row + 1) })

/-- Lets go of the file. -/
def release (s : Source) : Source := { s with stream := none, nextRow := none }

end Source

end FlatQuery.Delimited
