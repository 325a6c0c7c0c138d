/-
From the text of a SELECT to its query. The clauses are read in order:
relations first, then the projection, then the conditions of every ON
and of WHERE, which join one chain. Names are taken in lowercase.

Of two faults the one in the earlier clause is reported; within the
select list or a condition list, names are resolved only after every
relation is known.
-/
import FlatQuery.Query.Grammar
import FlatQuery.Token.Lexer

namespace FlatQuery

open Text Token

namespace Statement

-- ========================================================= relations

/-- A letter or underscore, then letters, numbers and underscores. -/
def isIdentifier (token : String) : Bool :=
  match token.toList with
  | [] => false
  | c :: rest => (isAlphabetic c || c = '_') && rest.all fun c => isAlphanumeric c || c = '_'

/-- The text without a suffix `.csv`, if something is left of it. -/
def dropExtension (cs : List Char) : List Char :=
  if cs.length > 4 && cs.drop (cs.length - 4) = ['.', 'c', 's', 'v'] then
    cs.take (cs.length - 4)
  else cs

/-- The name of a relation as the catalogue spells it. -/
def relationName (token : String) : String :=
  String.ofList (dropExtension (lowercase (trim token)).toList)

/-- A relation as a clause names it. -/
structure Source where
  role : Role
  name : String
  aliasName : String
  deriving DecidableEq, Repr

/-- Splits `name`, `name alias` or `name as alias`. `clause` is what an
empty body is blamed on. -/
def splitAlias (clause : List String) : List String → Result (String × Option String)
  | [name] => .ok (name, none)
  | [name, aliasName] => .ok (name, some aliasName)
  | [name, keyword, aliasName] =>
    if sameFolded keyword "as" then .ok (name, some aliasName) else .error (.unexpected aliasName)
  | [] => .error (.unexpected (" ".intercalate clause))
  | _ :: keyword :: third :: fourth :: _ =>
    .error (.unexpected (if sameFolded keyword "as" then fourth else third))

/-- Reads a relation. Its name holds a letter or number and is no
literal; its alias is an identifier, and the name itself if none is
given. -/
def source (role : Role) (clause body : List String) : Result Source := do
  let (token, aliasName) ← splitAlias clause body
  if isLiteral token || !token.toList.any isAlphanumeric then
    throw (.unexpected token)
  let name := relationName token
  match aliasName with
  | none => return ⟨role, name, name⟩
  | some aliasName =>
    if isIdentifier aliasName then return ⟨role, name, lowercase aliasName⟩
    else throw (.unexpected aliasName)

-- =========================================================== clauses

/-- What the clauses read so far have given. -/
structure Draft where
  projection : Option (List String)
  sources : List Source
  groups : List (List String)
  deriving DecidableEq, Repr

/-- A list of conditions, blamed on its keyword if there are none. -/
def nonEmpty (keyword : String) (tokens : List String) : Result (List String) :=
  if tokens.isEmpty then .error (.unexpected keyword) else .ok tokens

/-- Splits the body of a join at its first `on`. -/
def splitOn (body : List String) : List String × Option (List String) :=
  match body.dropWhile (!sameFolded · "on") with
  | [] => (body, none)
  | _ :: conditions => (body.takeWhile (!sameFolded · "on"), some conditions)

/-- Reads one clause. SELECT comes once, FROM once and after it, all
others after FROM. -/
def Draft.add (d : Draft) (part : Grammar.Part) : Result Draft :=
  let misplaced := Except.error (.unexpected part.keyword)
  match part.kind with
  | .projection =>
    if d.projection.isNone then .ok { d with projection := some part.body } else misplaced
  | .leading =>
    if d.projection.isSome && d.sources.isEmpty then do
      let s ← source .leading part.tokens part.body
      return { d with sources := [s] }
    else misplaced
  | .join role =>
    if d.sources.isEmpty then misplaced
    else do
      let (relation, conditions) := splitOn part.body
      let s ← source role part.tokens relation
      let groups ← match conditions with
        | none => pure []
        | some tokens => (nonEmpty "on" tokens).map ([·])
      return { d with sources := d.sources ++ [s], groups := d.groups ++ groups }
  | .filter =>
    if d.sources.isEmpty then misplaced
    else do
      let tokens ← nonEmpty part.keyword part.body
      return { d with groups := d.groups ++ [tokens] }
  | .unsupported feature => .error (.unsupported feature)

/-- Reads the clauses of a statement, and then blames what was left. -/
def draft (tokens : List String) : Result Draft := do
  let (parts, failure) := Grammar.carve tokens
  let d ← parts.foldlM Draft.add ⟨none, [], []⟩
  match failure with
  | some e => throw e
  | none => return d

-- ======================================================== projection

/-- A column of the select list, as written, and its output name. -/
structure Item where
  column : String
  aliasName : Option String
  deriving DecidableEq, Repr

/-- Reads `column` or `column as name`. -/
def item (tokens : List String) : Result Item :=
  let refused := Except.error (.unexpected (" ".intercalate tokens))
  match tokens with
  | [] => .error (.unexpected ",")
  | [column] => if column = "*" then refused else .ok ⟨column, none⟩
  | [column, keyword, aliasName] =>
    if sameFolded keyword "as" && isIdentifier aliasName then
      .ok ⟨column, some (lowercase aliasName)⟩
    else refused
  | _ => refused

/-- Reads the select list; `none` stands for every column. -/
def items (tokens : List String) : Result (Option (List Item)) :=
  if tokens = ["*"] then .ok none
  else if tokens.isEmpty then .error (.unexpected "select")
  else do
    let items ← (tokens.splitOn ",").mapM item
    return some items

/-- The column a token names: under an alias of the query, or bare if
the query has one relation only. -/
def resolve (q : Query) (token : String) : Result ColumnRef :=
  let lower := lowercase token
  if isLiteral token || isNumber token then .error (.unexpected token)
  else if lower.toList.contains '.' then
    match ColumnRef.parse? lower with
    | none => .error (.unexpected token)
    | some ref =>
      if (q.relation? ref.relation).isNone then .error (.relationNotFound ref.relation)
      else .ok ref
  else if !isIdentifier lower then .error (.unexpected token)
  else
    match q.relations with
    | [only] => .ok ⟨only.aliasName, lower⟩
    | _ => .error (.ambiguous .column lower)

/-- Adds one item of the select list. -/
def addItem (q : Query) (i : Item) : Result Query := do
  let ref ← resolve q i.column
  Query.accepted (q.addProjectionColumn ref.relation ref.column i.aliasName)

-- ======================================================== conditions

/-- Reads the right side of a comparison. -/
def operand (q : Query) (token : String) : Result Operand :=
  if isLiteral token then .ok (.text (unquote token))
  else if isNumber token then .ok (.number token)
  else (resolve q token).map .column

/-- Reads an operator. -/
def comparator (token : String) : Result Comparator :=
  if token = "=" then .ok .equal
  else if token = "!=" || token = "<>" then .ok .different
  else .error (.unexpected token)

/-- Reads the word between two conditions. -/
def connective (token : String) : Result Connective :=
  if lowercase token = "and" then .ok .and
  else if lowercase token = "or" then .ok .or
  else .error (.unexpected token)

/-- Reads conditions with connectives between them; the first is joined
by `first`. -/
def conditions (q : Query) (first : Connective) : List String → Result (List Condition)
  | [left, operator, right] => do
    let operator ← comparator operator
    return [⟨first, ← resolve q left, operator, ← operand q right⟩]
  | left :: operator :: right :: word :: rest => do
    let operator ← comparator operator
    let c : Condition := ⟨first, ← resolve q left, operator, ← operand q right⟩
    let following ← conditions q (← connective word) rest
    return c :: following
  | [] => .error (.unexpected "end of input")
  | tokens => .error (.unexpected (" ".intercalate tokens))

-- ========================================================= statement

/-- Drops the semicolons a statement ends with. -/
def dropSemicolons (tokens : List String) : List String :=
  (tokens.reverse.dropWhile (· = ";")).reverse

/-- The query a draft describes. -/
def Draft.toQuery (d : Draft) : Result Query := do
  let some projection := d.projection | throw (.unexpected "end of input")
  if d.sources.isEmpty then throw (.unexpected "end of input")
  let q ← d.sources.foldlM (fun q s =>
    Query.accepted (q.addRelationWithRole s.role s.name s.aliasName)) .empty
  let q ← match ← items projection with
    | none => pure q.setWildcard
    | some items => items.foldlM addItem q
  d.groups.foldlM (fun q tokens => do
    let terms ← conditions q .and tokens
    return terms.foldl Query.addCondition q) q

end Statement

/-- The query that the text of a SELECT describes. -/
def Query.parse (text : String) : Result Query := do
  let tokens ← tokenize text
  let d ← Statement.draft (Statement.dropSemicolons tokens)
  d.toQuery

end FlatQuery
