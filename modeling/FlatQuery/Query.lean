/-
The query model: what one SELECT asks for. The order of the projection
is output order, the order of relations is the order they are scanned
in. Output names and relation aliases are each unique, and a relation
knows every column of it that the projection or a condition names,
whichever was added first.
-/
import FlatQuery.Condition.Chain

namespace FlatQuery

open Text

-- ============================================================= types

/-- The declared type of a column. Values stay text. -/
inductive LogicalType where
  | text
  | integer
  | real
  | boolean
  | date
  deriving DecidableEq, Repr

namespace LogicalType

def name : LogicalType → String
  | .text => "text"
  | .integer => "integer"
  | .real => "real"
  | .boolean => "boolean"
  | .date => "date"

/-- The type of a name, in any case, with the usual synonyms. -/
def parse (s : String) : Result LogicalType :=
  let lower := lowercase s
  if ["text", "varchar", "string"].contains lower then .ok .text
  else if ["integer", "int", "bigint"].contains lower then .ok .integer
  else if ["real", "double", "float"].contains lower then .ok .real
  else if ["boolean", "bool"].contains lower then .ok .boolean
  else if lower = "date" then .ok .date
  else .error (.unsupported (.logicalType s))

end LogicalType

/-- How a relation takes part: the one that FROM names, or one joined to
those before it. -/
inductive Role where
  | leading
  | inner
  | full
  deriving DecidableEq, Repr

-- =========================================================== columns

/-- A column of a relation, perhaps under a name of its own. -/
structure Column where
  relation : String
  name : String
  aliasName : Option String
  logicalType : LogicalType
  deriving DecidableEq, Repr

namespace Column

/-- A column under its own name, of type text. -/
def ofName (relation name : String) : Column := ⟨relation, name, none, .text⟩

/-- The name the column is output under. -/
def outputName (c : Column) : String := c.aliasName.getD c.name

/-- The column under its relation. -/
def qualified (c : Column) : String := c.relation ++ "." ++ c.name

end Column

-- ========================================================= relations

/-- A relation of a query with the columns it must have, in the order
they were first named. -/
structure Relation where
  role : Role
  name : String
  aliasName : String
  columns : List Column
  deriving DecidableEq, Repr

namespace Relation

def ofName (role : Role) (name aliasName : String) : Relation := ⟨role, name, aliasName, []⟩

def hasColumn (r : Relation) (name : String) : Bool := r.columns.any (·.name = name)

/-- Names a column, which is then kept under the relation's alias; naming
it again changes nothing. -/
def addColumn (r : Relation) (name : String) : Relation :=
  if r.hasColumn name then r
  else { r with columns := r.columns ++ [.ofName r.aliasName name] }

def columnNames (r : Relation) : List String := r.columns.map Column.name

/-- The columns, each under the relation it is kept with. -/
def qualifiedColumns (r : Relation) : List String := r.columns.map Column.qualified

/-- Names a column if it is referred to under this relation's alias. -/
def addReference (r : Relation) (c : ColumnRef) : Relation :=
  if c.relation = r.aliasName then r.addColumn c.column else r

end Relation

-- =========================================================== queries

structure Query where
  projection : List Column
  relations : List Relation
  conditions : List Condition
  wildcard : Bool
  deriving DecidableEq, Repr

namespace Query

def empty : Query := ⟨[], [], [], false⟩

/-- The relation under an alias. -/
def relation? (q : Query) (aliasName : String) : Option Relation :=
  q.relations.find? (·.aliasName = aliasName)

/-- The column that is output under a name. -/
def projectionColumn? (q : Query) (outputName : String) : Option Column :=
  q.projection.find? (·.outputName = outputName)

/-- All conditions as one chain. -/
def predicate (q : Query) : Chain := ⟨q.conditions⟩

/-- Names a column to the relation with its alias, if there is one. -/
def reference (relations : List Relation) (c : ColumnRef) : List Relation :=
  relations.map (·.addReference c)

/-- The columns that the projection and the conditions name so far. -/
def references (q : Query) : List ColumnRef :=
  q.projection.map (fun c => ⟨c.relation, c.name⟩)
    ++ q.conditions.flatMap Condition.references

/-- Outputs a column, unless its output name is taken. -/
def addProjection (q : Query) (c : Column) : Result Unit × Query :=
  if (q.projectionColumn? c.outputName).isSome then
    (.error (.ambiguous .column c.outputName), q)
  else
    let q := { q with relations := reference q.relations ⟨c.relation, c.name⟩ }
    (.ok (), { q with projection := q.projection ++ [c] })

/-- Outputs a column of type text. -/
def addProjectionColumn (q : Query) (relation name : String) (aliasName : Option String) :
    Result Unit × Query :=
  q.addProjection { Column.ofName relation name with aliasName }

/-- Adds a relation, unless its alias is taken. It learns of the columns
already referred to. -/
def addRelationWithRole (q : Query) (role : Role) (name aliasName : String) :
    Result Unit × Query :=
  if (q.relation? aliasName).isSome then (.error (.ambiguous .relation aliasName), q)
  else
    let relation := q.references.foldl Relation.addReference (.ofName role name aliasName)
    (.ok (), { q with relations := q.relations ++ [relation] })

/-- Adds a relation: the first leads, later ones are inner joins. -/
def addRelation (q : Query) (name aliasName : String) : Result Unit × Query :=
  q.addRelationWithRole (if q.relations.isEmpty then .leading else .inner) name aliasName

/-- The query after a call, if the call was accepted. -/
def accepted : Result Unit × Query → Result Query
  | (answer, q) => answer.map fun _ => q

/-- Appends a term. -/
def addCondition (q : Query) (c : Condition) : Query :=
  { q with
    conditions := q.conditions ++ [c]
    relations := c.references.foldl reference q.relations }

/-- Outputs every column of every relation. -/
def setWildcard (q : Query) : Query := { q with wildcard := true }

end Query

end FlatQuery
