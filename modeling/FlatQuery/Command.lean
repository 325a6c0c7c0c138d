/-
Running a SELECT: parse it, open a scan for every relation, let each
filter its rows by the conditions that speak of it alone, join what is
left under the whole condition chain, and lay out the columns.
-/
import FlatQuery.Catalog
import FlatQuery.Query.Statement
import FlatQuery.Reader

namespace FlatQuery

open Text

/-- One statement on a catalogue. -/
structure Command where
  text : String
  catalog : Catalog

namespace Command

-- ============================================================== scans

/-- A scan of one relation, selected and ready to read. -/
def openRelation (disk : Disk) (catalog : Catalog) (q : Query) (r : Relation) :
    Result Scan := do
  let scan ← catalog.openScan disk r.name r.aliasName
  let filter := (q.predicate.restrictedTo r.aliasName).map Chain.toPredicate
  let (selected, scan) := scan.select disk filter
  selected
  let (started, scan) := scan.startRead (if q.wildcard then [] else r.columnNames)
  started
  return scan

-- ============================================================ columns

/-- Every column of every scan, under its relation if there are
several. -/
def wildcardColumns (scans : List Scan) : List OutputColumn :=
  scans.zipIdx.flatMap fun (scan, i) =>
    scan.selected.zipIdx.map fun (name, position) =>
      let name := if scans.length > 1 then scan.aliasName ++ "." ++ name else name
      ⟨name, i, position, .text⟩

/-- Where a projected column is read. -/
def projectedColumn (scans : List Scan) (c : Column) : Result OutputColumn :=
  match scans.zipIdx.find? (·.1.aliasName = c.relation) with
  | none => .error (.relationNotFound c.relation)
  | some (scan, i) =>
    match Columns.position? scan.selected c.name with
    | none => .error (.unknownColumn c.name c.relation)
    | some position => .ok ⟨c.outputName, i, position, c.logicalType⟩

/-- The columns of the result. -/
def outputColumns (q : Query) (scans : List Scan) : Result (List OutputColumn) :=
  if q.wildcard then .ok (wildcardColumns scans)
  else q.projection.mapM (projectedColumn scans)

-- ============================================================ running

/-- What a query needs beyond its text: no full join, and every relation
in the catalogue. -/
def checkRelations (catalog : Catalog) (q : Query) : Result Unit := do
  match q.relations.find? (·.role = .full) with
  | some r => throw (.unsupported (.fullJoin r.name))
  | none => pure ()
  match q.relations.find? (!catalog.contains ·.name) with
  | some r => throw (.relationNotFound r.name)
  | none => pure ()

/-- A reader before the first row of the result. -/
def executeReader (disk : Disk) (c : Command) : Result Reader := do
  let q ← Query.parse c.text
  checkRelations c.catalog q
  let scans ← q.relations.mapM (openRelation disk c.catalog q)
  let (index, joined) :=
    Join.execute q.predicate.toPredicate disk c.catalog.maxCombinations scans
  let index ← index
  let columns ← outputColumns q joined.scans
  return .ofIndex joined.scans index columns

/-- The whole result. -/
def executeQuery (disk : Disk) (c : Command) : Result QueryResult := do
  (← c.executeReader disk).intoResult disk

/-- The first value of the first row, if there is one. -/
def executeScalar (disk : Disk) (c : Command) : Result (Option String) := do
  let reader ← c.executeReader disk
  if reader.fieldCount = 0 then return none
  let (found, reader) := reader.read disk
  if ← found then return some (← reader.getValue 0)
  return none

/-- Relations are never changed. -/
def executeNonQuery (_ : Command) : Result Nat := .error (.unsupported .modification)

end Command

end FlatQuery
