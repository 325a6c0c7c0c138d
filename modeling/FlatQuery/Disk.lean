/-
Named files as a reader sees them. Contents are numbered and outlive
their name: writing a file that exists changes its contents in place,
removing it only takes the name away, and whoever opened the file before
goes on reading the same contents.

Paths are relative to the working directory. A name is a sequence of
bytes, since a directory may hold names that are not text.
-/
import FlatQuery.Error
import FlatQuery.Text.Utf8

namespace FlatQuery

/-- The segments of a path, each a name. -/
abbrev Path := List (List UInt8)

/-- What a path leads to. -/
inductive Node where
  /-- A file, by the number of its contents. -/
  | file (number : Nat)
  | directory
  deriving DecidableEq, Repr

structure Disk where
  contents : Array (Array UInt8)
  entries : List (Path × Node)

namespace Disk

def empty : Disk := ⟨#[], []⟩

-- ============================================================= paths

/-- The segment that stands for the top of all paths. -/
def top : List UInt8 := ['/'.toUInt8]

/-- The segment that leads one level up. -/
def up : List UInt8 := ['.'.toUInt8, '.'.toUInt8]

/-- Follows one more segment. -/
def follow (path : Path) (segment : String) : Path :=
  if segment = "" || segment = "." then path
  else if segment = ".." then
    match path.getLast? with
    | some name => if name = up || name = top then path ++ [up] else path.dropLast
    | none => [up]
  else path ++ [segment.toUTF8.toList]

/-- Where a written path begins: at the top, or in the working
directory. -/
def start (path : String) : Path :=
  if path.toList.head? = some '/' then [top] else []

/-- The names and dots between the slashes of a written path. -/
def parts (path : String) : List String := (path.toList.splitOn '/').map String.ofList

/-- The segments of a path written with slashes. -/
def segments (path : String) : Path := (parts path).foldl follow (start path)

/-- The path of a name in a directory. -/
def joinName (directory name : String) : String :=
  if directory = "" || directory.toList.getLast? = some '/' then directory ++ name
  else directory ++ "/" ++ name

-- ============================================================ looking

def node? (d : Disk) (path : Path) : Option Node := d.entries.lookup path

/-- Whether a path leads to a directory: one that was made, one that
holds something, or one that encloses the working directory. -/
def isDirectory (d : Disk) (path : Path) : Bool :=
  match d.node? path with
  | some node => node = .directory
  | none =>
    d.entries.any (fun (p, _) => path.length < p.length && path.isPrefixOf p)
      || path.all fun name => name = top || name = up

-- ============================================================ walking

/-- The most bytes that a name may have. -/
def maxNameBytes : Nat := 255

/-- The most bytes that a written path may have. -/
def maxPathBytes : Nat := 4095

/-- Follows the parts of a path from `here` on. Each is looked up in a
directory, and the first that cannot be looked up decides the fault. -/
def walk (d : Disk) : Path → List String → Except FileFault Path
  | here, [] => .ok here
  | here, part :: rest =>
    if !d.isDirectory here then
      .error (if (d.node? here).isSome then .notADirectory else .notFound)
    else if maxNameBytes < part.utf8ByteSize then .error .nameTooLong
    else d.walk (follow here part) rest

/-- Where a written path leads. A path that cannot be a name of anything
is refused before its first part is looked up. -/
def resolve (d : Disk) (path : String) : Except FileFault Path :=
  if path.toList.contains (Char.ofNat 0) then .error .nulInName
  else if path = "" then .error .notFound
  else if maxPathBytes < path.utf8ByteSize then .error .nameTooLong
  else d.walk (start path) (parts path)

/-- Whether the path written as a text leads to a directory. -/
def hasDirectory (d : Disk) (path : String) : Bool :=
  match d.resolve path with
  | .ok place => d.isDirectory place
  | .error _ => false

/-- The number of the file that a path leads to. -/
def open? (d : Disk) (path : String) : Except FileFault Nat := do
  let place ← d.resolve path
  match d.node? place with
  | some (.file number) => return number
  | some .directory => throw .isADirectory
  | none => throw (if d.isDirectory place then .isADirectory else .notFound)

/-- Whether a path leads to a file. -/
def hasFile (d : Disk) (path : String) : Bool :=
  match d.open? path with
  | .ok _ => true
  | .error _ => false

-- ============================================================ reading

/-- Up to `count` bytes of a file from a position on. -/
def read (d : Disk) (number position count : Nat) : List UInt8 :=
  ((d.contents.getD number #[]).extract position (position + count)).toList

/-- The number of bytes a file holds. -/
def size (d : Disk) (number : Nat) : Nat := (d.contents.getD number #[]).size

/-- The whole of a file as text. -/
def readText (d : Disk) (path : String) : Except FileFault String := do
  let number ← d.open? path
  match Text.Utf8.decode? (d.contents.getD number #[]).toList with
  | some cs => return String.ofList cs
  | none => throw .notUnicode

/-- The names in a directory, in the order they came to be, those that
are text. -/
def names (d : Disk) (directory : String) : List String :=
  let path := segments directory
  d.entries.filterMap fun (p, _) =>
    if p.dropLast = path && p ≠ [] then
      (p.getLast?.bind Text.Utf8.decode?).map String.ofList
    else none

-- =========================================================== changing

/-- Makes a directory. -/
def makeDirectory (d : Disk) (path : Path) : Disk :=
  if (d.node? path).isSome then d
  else { d with entries := d.entries ++ [(path, .directory)] }

/-- Writes a file: in place if the path leads to one, else anew. -/
def write (d : Disk) (path : Path) (bytes : Array UInt8) : Disk :=
  match d.node? path with
  | some (.file number) => { d with contents := d.contents.setIfInBounds number bytes }
  | _ =>
    { contents := d.contents.push bytes
      entries := d.entries ++ [(path, .file d.contents.size)] }

/-- Takes a name away. -/
def remove (d : Disk) (path : Path) : Disk :=
  { d with entries := d.entries.filter (·.1 ≠ path) }

end Disk

end FlatQuery
