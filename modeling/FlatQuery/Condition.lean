/-
One term of a WHERE or ON chain: a column compared with a number, a text
or another column. A column that has no value makes the term false,
whatever the comparison. Numbers are compared as numbers, everything
else as text.
-/
import FlatQuery.Bindings
import FlatQuery.Error
import FlatQuery.Text.Lowercase
import FlatQuery.Text.Numeral

namespace FlatQuery

open Text

-- ================================================= column references

/-- A column under the alias of its relation. -/
structure ColumnRef where
  relation : String
  column : String
  deriving DecidableEq, Repr

namespace ColumnRef

/-- The reference as text, which is also the name it is bound under. -/
def qualified (c : ColumnRef) : String := c.relation ++ "." ++ c.column

/-- Reads `relation.column`. Neither part may be empty, and there is
only one point. -/
def parse? (text : String) : Option ColumnRef :=
  let relation := text.toList.takeWhile (· ≠ '.')
  match text.toList.dropWhile (· ≠ '.') with
  | _ :: column =>
    if relation.isEmpty || column.isEmpty || column.contains '.' then none
    else some ⟨String.ofList relation, String.ofList column⟩
  | [] => none

/-- The value bound to the reference as written, else to its lowercase
form. -/
def lookup (c : ColumnRef) (bindings : Bindings) : Option String :=
  (bindings.get? c.qualified).or (bindings.get? (lowercase c.qualified))

/-- Both parts are there. -/
def isComplete (c : ColumnRef) : Bool := c.relation ≠ "" && c.column ≠ ""

end ColumnRef

-- ============================================================= terms

/-- How a term joins the value of the terms before it. -/
inductive Connective where
  | and
  | or
  deriving DecidableEq, Repr

inductive Comparator where
  | equal
  | different
  deriving DecidableEq, Repr

/-- The answer of a comparison, given whether the sides are equal. -/
def Comparator.apply : Comparator → Bool → Bool
  | .equal, same => same
  | .different, same => !same

/-- The right side of a comparison. A number is kept as written. -/
inductive Operand where
  | number (numeral : String)
  | text (value : String)
  | column (ref : ColumnRef)
  deriving DecidableEq, Repr

structure Condition where
  connective : Connective
  left : ColumnRef
  comparator : Comparator
  right : Operand
  deriving DecidableEq, Repr

-- ========================================================== as text

def Connective.toText : Connective → String
  | .and => "and"
  | .or => "or"

def Comparator.toText : Comparator → String
  | .equal => "="
  | .different => "!="

/-- A quote inside a literal is written twice. -/
def Operand.escape (cs : List Char) : List Char :=
  cs.flatMap fun c => if c = '\'' then ['\'', '\''] else [c]

/-- The operand as a statement writes it. -/
def Operand.toText : Operand → String
  | .number numeral => numeral
  | .text value => String.ofList ('\'' :: Operand.escape value.toList ++ ['\''])
  | .column ref => ref.qualified

namespace Condition

/-- The term as a statement writes it, its connective aside. -/
def toText (c : Condition) : String :=
  c.left.qualified ++ " " ++ c.comparator.toText ++ " " ++ c.right.toText

/-- The columns the term refers to, left side first. -/
def references (c : Condition) : List ColumnRef :=
  match c.right with
  | .column ref => [c.left, ref]
  | _ => [c.left]

/-- Every column the term refers to is one of `relation`. -/
def onlyReferences (c : Condition) (relation : String) : Bool :=
  c.references.all (·.relation = relation)

-- ======================================================== evaluation

/-- Whether `value`, found under `left`, equals the number `numeral`.
Either side may fail to be a number, the operand before the value. -/
def equalsNumber (left : ColumnRef) (value numeral : String) : Result Bool :=
  match number? numeral, number? (trim value) with
  | none, _ => .error (.evaluation (.notANumber numeral))
  | some _, none =>
    .error (.evaluation (.incomparable left.qualified value numeral))
  | some expected, some actual => .ok (actual == expected)

/-- Whether the right side equals `value`, found under `left`; `none` if
it has no value. -/
def rightEquals (c : Condition) (value : String) (bindings : Bindings) :
    Result (Option Bool) :=
  match c.right with
  | .column ref => .ok ((ref.lookup bindings).map (value == ·))
  | .text text => .ok (some (value == text))
  | .number numeral => (equalsNumber c.left value numeral).map some

/-- The term's truth on these bindings. -/
def evaluate (c : Condition) (bindings : Bindings) : Result Bool :=
  match c.left.lookup bindings with
  | none => .ok false
  | some value =>
    match c.rightEquals value bindings with
    | .error e => .error e
    | .ok none => .ok false
    | .ok (some same) => .ok (c.comparator.apply same)

-- ======================================================== validation

/-- What is wrong with the term on every row: an incomplete reference,
or else an operand that is no number. -/
def validate (c : Condition) : Result Unit :=
  if !c.references.all ColumnRef.isComplete then
    .error (.invalidPredicate (.incompleteReference c.toText))
  else
    match c.right with
    | .number numeral =>
      if (number? numeral).isNone then
        .error (.invalidPredicate (.notANumber numeral c.toText))
      else .ok ()
    | _ => .ok ()

end Condition

end FlatQuery
