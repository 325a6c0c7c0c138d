/-
What can go wrong, as causes, and the wording of each cause. A cause
that a caller brings along as text keeps that text (`other`).

Only a predicate that fails on one row is recoverable. An index outside
of what it indexes (`outOfBounds`) is no error of the engine's own: the
run stops there, and no caller gets to see it.
-/
import FlatQuery.Scan.Phase

namespace FlatQuery

/-- The namespace in which a name was defined twice. -/
inductive Ambiguity where
  | column
  | relation
  deriving DecidableEq, Repr

/-- Why a predicate has no value on a row. -/
inductive EvaluationFault where
  /-- The numeric operand is not a numeral. -/
  | notANumber (operand : String)
  /-- The column's value is not a numeral. -/
  | incomparable (column value operand : String)
  | other (text : String)
  deriving DecidableEq, Repr

/-- Why a predicate makes no sense on any row. -/
inductive PredicateFault where
  /-- A column reference lacks its relation or its column. -/
  | incompleteReference (condition : String)
  | notANumber (operand condition : String)
  | other (text : String)
  deriving DecidableEq, Repr

/-- What the engine declines to do. -/
inductive Feature where
  | leftJoin
  | rightJoin
  | fullJoin (relation : String)
  | logicalType (name : String)
  | modification
  | other (text : String)
  deriving DecidableEq, Repr

/-- Why a data directory makes no catalogue. -/
inductive CatalogFault where
  | missingDirectory (path : String)
  | noRelations (path : String)
  | other (text : String)
  deriving DecidableEq, Repr

/-- Why a configuration is refused. -/
inductive ConfigFault where
  | notAscii
  | sameSeparatorAndQuote (c : Char)
  | separatorEndsLines
  | unknownEncoding (label : String)
  | notAsciiCompatible (encoding : String)
  | zeroCombinations
  | logLevel (level : String)
  | logFormat (format : String)
  | environment (name : String)
  /-- A variable that must hold one character holds none or several. -/
  | notOneCharacter (variableName : String)
  /-- A variable's value cannot be read. -/
  | unreadableVariable (variableName : String)
  | unreadableFile (path : String)
  | other (text : String)
  deriving DecidableEq, Repr

/-- Why a file's bytes or text cannot be had. -/
inductive FileFault where
  | notFound
  | notADirectory
  | isADirectory
  /-- A name, or the whole path, has too many bytes. -/
  | nameTooLong
  /-- The path holds a character that ends names. -/
  | nulInName
  | notUnicode
  deriving DecidableEq, Repr

inductive Error where
  /-- The statement stops making sense at this text. -/
  | unexpected (near : String)
  | ambiguous (kind : Ambiguity) (name : String)
  | unknownColumn (column relation : String)
  | relationNotFound (name : String)
  | evaluation (fault : EvaluationFault)
  | invalidPredicate (fault : PredicateFault)
  | invalidPhase (relation : String) (request : Scan.Request) (phase : Scan.Phase)
  | rowNotFound (relation : String) (row : Nat)
  | malformedRow (relation : String) (row expected found : Nat)
  | joinTooLarge (combinations limit : Nat)
  | noCurrentRow
  | columnOutOfRange (ordinal count : Nat)
  | unsupported (feature : Feature)
  | catalog (fault : CatalogFault)
  | config (fault : ConfigFault)
  | file (fault : FileFault)
  /-- A relation's file cannot be read. -/
  | relationFile (path : String) (fault : FileFault)
  /-- The run stops at an index that lies outside. -/
  | outOfBounds (index length : Nat)
  deriving DecidableEq, Repr

/-- What a computation of this library yields. -/
abbrev Result := Except Error

/-- What stands at an index. It is up to the caller that something does:
the run stops if not. -/
def indexed {α : Type} (l : List α) (index : Nat) : Result α :=
  match l[index]? with
  | some a => .ok a
  | none => .error (.outOfBounds index l.length)

-- =========================================================== wording

def Ambiguity.name : Ambiguity → String
  | .column => "column"
  | .relation => "relation"

def EvaluationFault.message : EvaluationFault → String
  | .notANumber operand => s!"'{operand}' is not a number"
  | .incomparable column value operand =>
    s!"cannot compare {column} = '{value}' with number {operand}"
  | .other text => text

def PredicateFault.message : PredicateFault → String
  | .incompleteReference condition => s!"incomplete column reference in '{condition}'"
  | .notANumber operand condition => s!"'{operand}' is not a number in '{condition}'"
  | .other text => text

def Feature.message : Feature → String
  | .leftJoin => "left join"
  | .rightJoin => "right join"
  | .fullJoin relation => s!"full join on {relation}"
  | .logicalType name => s!"type {name}"
  | .modification => "data modification; relations are read-only"
  | .other text => text

def CatalogFault.message : CatalogFault → String
  | .missingDirectory path => s!"data directory {path} does not exist"
  | .noRelations path => s!"no relation files found in {path}"
  | .other text => text

def ConfigFault.message : ConfigFault → String
  | .notAscii => "separator and quote must be ASCII characters"
  | .sameSeparatorAndQuote c => s!"separator and quote are both '{c}'"
  | .separatorEndsLines => "separator cannot be a line terminator"
  | .unknownEncoding label => s!"Unknown encoding: {label}"
  | .notAsciiCompatible encoding => s!"Encoding {encoding} is not ASCII compatible"
  | .zeroCombinations => "join.max_combinations must be greater than zero"
  | .logLevel level =>
    s!"Invalid log level: {level}. Must be one of: trace, debug, info, warn, error"
  | .logFormat format => s!"Invalid log format: {format}. Must be one of: pretty, json"
  | .environment name => s!"Invalid environment: {name}"
  | .notOneCharacter variableName => s!"{variableName} must be a single character"
  | .unreadableVariable variableName => s!"Invalid {variableName}"
  | .unreadableFile path => s!"Invalid config file {path}"
  | .other text => text

def FileFault.message : FileFault → String
  | .notFound => "No such file or directory (os error 2)"
  | .notADirectory => "Not a directory (os error 20)"
  | .isADirectory => "Is a directory (os error 21)"
  | .nameTooLong => "File name too long (os error 36)"
  | .nulInName => "file name contained an unexpected NUL byte"
  | .notUnicode => "stream did not contain valid UTF-8"

def Error.message : Error → String
  | .unexpected near => s!"Syntax error near '{near}'"
  | .ambiguous kind name => s!"Ambiguous definition for {kind.name} {name}"
  | .unknownColumn column relation =>
    s!"Column '{column}' does not exist in relation '{relation}'"
  | .relationNotFound name => s!"Relation '{name}' not found or format not supported"
  | .evaluation fault => s!"Predicate evaluation error: {fault.message}"
  | .invalidPredicate fault => s!"Invalid predicate: {fault.message}"
  | .invalidPhase relation request phase =>
    s!"Cannot {request.verb} relation '{relation}' in state {phase.name}"
  | .rowNotFound relation row => s!"Row {row} not found in relation '{relation}'"
  | .malformedRow relation row expected found =>
    s!"Unexpected number of columns in relation '{relation}' row {row}: "
      ++ s!"found {found}, expected {expected}"
  | .joinTooLarge combinations limit =>
    s!"Join would enumerate {combinations} combinations, limit is {limit}"
  | .noCurrentRow => "No current row"
  | .columnOutOfRange ordinal count =>
    s!"Column ordinal {ordinal} out of range ({count} columns)"
  | .unsupported feature => s!"Not supported: {feature.message}"
  | .catalog fault => s!"Connection error: {fault.message}"
  | .config fault => s!"Configuration error: {fault.message}"
  | .file fault => s!"IO error: {fault.message}"
  | .relationFile path fault => s!"Read error on file {path}: {fault.message}"
  | .outOfBounds index length =>
    s!"index out of bounds: the len is {length} but the index is {index}"

-- ========================================================== recovery

/-- An error that costs one row or combination and not the whole query. -/
def Error.isRecoverable : Error → Bool
  | .evaluation _ => true
  | _ => false

/-- The texts below an error in a report: what the file system said,
once more where a reader passed it on. -/
def Error.causes : Error → List String
  | .file fault => [fault.message]
  | .relationFile _ fault => [fault.message, fault.message]
  | _ => []

end FlatQuery
