/-
Configurations as JSON files. A group of fields is an object, in which
unknown fields mean nothing and no known one comes twice, or an array of
its fields in order. Every field is required, except the encoding, which
is UTF-8 if it is missing, and the limit of joins, which is none if an
object lacks it.
-/
import FlatQuery.Config
import FlatQuery.Json.Reader

namespace FlatQuery.Config.File

-- ============================================================= groups

/-- The only value of a field, or `none` inside if it is missing; fails
if the field comes twice. -/
def member? (members : List (Option String × Json)) (name : String) :
    Option (Option Json) :=
  match members.filter (·.1 = some name) with
  | [] => some none
  | [(_, value)] => some (some value)
  | _ => none

/-- The values of a group's fields, in order. -/
def fields? (names : List String) : Json → Option (List (Option Json))
  | .object members =>
    if members.all (·.1.isSome) then names.mapM (member? members) else none
  | .array items =>
    if items.length ≤ names.length then
      some (items.map some ++ List.replicate (names.length - items.length) none)
    else none
  | _ => none

-- ============================================================= values

def text? : Json → Option String
  | .text content => content
  | _ => none

def bool? : Json → Option Bool
  | .bool value => some value
  | _ => none

def char? (j : Json) : Option Char :=
  match (text? j).map String.toList with
  | some [c] => some c
  | _ => none

/-- A limit, or null for none. -/
def limit? : Json → Option (Option Nat)
  | .null => some none
  | .number (some n) => some (some n)
  | _ => none

/-- The environment of a name, as written. -/
def environmentOfName? (name : String) : Option Environment :=
  if name = "development" then some .development
  else if name = "production" then some .production
  else none

/-- An environment: its name, or an object with its name as the only key
and null as its value. -/
def environment? : Json → Option Environment
  | .text content => content.bind environmentOfName?
  | .object [(key, .null)] => key.bind environmentOfName?
  | _ => none

-- ===================================================== configurations

def data? (j : Json) : Option DataConfig := do
  let [directory, separator, quote, header, encoding]
    ← fields? ["data_dir", "separator", "quote", "has_header", "encoding"] j | failure
  return {
    directory := ← text? (← directory)
    separator := ← char? (← separator)
    quote := ← char? (← quote)
    hasHeader := ← bool? (← header)
    encoding := ← match encoding with
      | none => some DataConfig.defaultEncoding
      | some j => text? j }

/-- The limit of joins. Only an object may leave it out. -/
def maxCombinations? (j : Json) : Option (Option Nat) := do
  let [limit] ← fields? ["max_combinations"] j | failure
  match limit, j with
  | some j, _ => limit? j
  | none, .object _ => some none
  | none, _ => none

def logging? (j : Json) : Option (String × String) := do
  let [level, format] ← fields? ["level", "format"] j | failure
  return (← text? (← level), ← text? (← format))

def config? (j : Json) : Option Config := do
  let [environment, data, join, logging]
    ← fields? ["environment", "connection", "join", "logging"] j | failure
  let environment ← environment? (← environment)
  let data ← data? (← data)
  let maxCombinations ← maxCombinations? (← join)
  let (logLevel, logFormat) ← logging? (← logging)
  return { environment, data, maxCombinations, logLevel, logFormat }

/-- The configuration that a file describes, with what the variables set
taken over. -/
def load (disk : Disk) (vars : Variables) (path : String) : Result Config := do
  match disk.readText path with
  | .error fault => throw (.file fault)
  | .ok text =>
    match (Json.parse? text).bind config? with
    | none => throw (.config (.unreadableFile path))
    | some c => (← c.override vars).validated

end FlatQuery.Config.File
