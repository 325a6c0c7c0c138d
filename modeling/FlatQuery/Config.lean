/-
The configuration of the engine and its layers: a preset or a file, then
the variables of the environment, then single settings. A layer changes
the fields it names and no other. The result of every public way to a
configuration has been validated.
-/
import FlatQuery.Config.Data
import FlatQuery.Text.Numeral

namespace FlatQuery

open Text

-- ======================================================= environments

inductive Environment where
  | development
  | production
  deriving DecidableEq, Repr

namespace Environment

def name : Environment → String
  | .development => "development"
  | .production => "production"

/-- The environment of a name, long or short, in any case. -/
def parse (s : String) : Result Environment :=
  let lower := lowercase s
  if lower = "development" || lower = "dev" then .ok .development
  else if lower = "production" || lower = "prod" then .ok .production
  else .error (.config (.environment s))

end Environment

-- ===================================================== configurations

structure Config where
  environment : Environment
  data : DataConfig
  /-- The most combinations a join may have; `none` for any number. -/
  maxCombinations : Option Nat
  logLevel : String
  logFormat : String
  deriving DecidableEq, Repr

namespace Config

/-- The limit of a join that nobody has configured. -/
def defaultMaxCombinations : Option Nat := some 10000000

def logLevels : List String := ["trace", "debug", "info", "warn", "error"]

def logFormats : List String := ["pretty", "json"]

/-- The configuration an environment starts from. -/
def preset : Environment → Config
  | .development =>
    ⟨.development, .ofDirectory "./data", defaultMaxCombinations, "debug", "pretty"⟩
  | .production =>
    ⟨.production, .ofDirectory "/var/lib/pollydb", some 1000000, "info", "json"⟩

/-- The first reason why the configuration is not usable. -/
def validate (c : Config) : Result Unit := do
  c.data.validate
  if c.maxCombinations = some 0 then throw (.config .zeroCombinations)
  if !logLevels.contains c.logLevel then throw (.config (.logLevel c.logLevel))
  if !logFormats.contains c.logFormat then throw (.config (.logFormat c.logFormat))

/-- The configuration, if it is usable. -/
def validated (c : Config) : Result Config := c.validate.map fun _ => c

def isProduction (c : Config) : Bool := c.environment = .production

-- =========================================================== settings

/-- A new value for one field. -/
inductive Setting where
  | directory (path : String)
  | separator (c : Char)
  | quote (c : Char)
  | header (present : Bool)
  | encoding (label : String)
  | maxCombinations (limit : Option Nat)
  | logLevel (level : String)
  deriving DecidableEq, Repr

/-- Changes one field. -/
def set (c : Config) : Setting → Config
  | .directory path => { c with data := { c.data with directory := path } }
  | .separator s => { c with data := { c.data with separator := s } }
  | .quote q => { c with data := { c.data with quote := q } }
  | .header present => { c with data := { c.data with hasHeader := present } }
  | .encoding label => { c with data := { c.data with encoding := label } }
  | .maxCombinations limit => { c with maxCombinations := limit }
  | .logLevel level => { c with logLevel := level }

/-- Changes fields one after the other. -/
def setAll (c : Config) (settings : List Setting) : Config := settings.foldl set c

-- ========================================================== variables

/-- Variables of the environment with their values. -/
abbrev Variables := String → Option String

/-- Reads a value that must be one character. -/
def oneChar (variableName value : String) : Result Char :=
  match value.toList with
  | [c] => .ok c
  | _ => .error (.config (.notOneCharacter variableName))

/-- Reads a truth value. -/
def truth (variableName value : String) : Result Bool :=
  if value = "true" then .ok true
  else if value = "false" then .ok false
  else .error (.config (.unreadableVariable variableName))

/-- The largest limit that can be given. -/
def largestLimit : Nat := UInt64.size - 1

/-- Reads a number without sign, or with a plus. -/
def natural? (value : String) : Option Nat :=
  let digits := match value.toList with
    | '+' :: rest => rest
    | cs => cs
  if digits.isEmpty || !digits.all isDigit then none
  else
    let n := Numeral.natOf digits
    if n ≤ largestLimit then some n else none

/-- Reads a limit; `none`, in any case, stands for no limit. -/
def limit (variableName value : String) : Result (Option Nat) :=
  if sameFolded value "none" then .ok none
  else
    match natural? value with
    | some n => .ok (some n)
    | none => .error (.config (.unreadableVariable variableName))

/-- What each variable sets, in the order they are read. -/
def readers : List (String × (String → Result Setting)) := [
  ("POLLYDB_DATA_DIR", fun v => .ok (.directory v)),
  ("POLLYDB_SEPARATOR", fun v => (oneChar "POLLYDB_SEPARATOR" v).map .separator),
  ("POLLYDB_QUOTE", fun v => (oneChar "POLLYDB_QUOTE" v).map .quote),
  ("POLLYDB_ENCODING", fun v => .ok (.encoding v)),
  ("POLLYDB_HEADER", fun v => (truth "POLLYDB_HEADER" v).map .header),
  ("POLLYDB_MAX_COMBINATIONS",
    fun v => (limit "POLLYDB_MAX_COMBINATIONS" v).map .maxCombinations)]

/-- The log level that the variables ask for, by the engine's own
variable or by the general one. -/
def logLevelOf (vars : Variables) : Option Setting :=
  ((vars "POLLYDB_LOG_LEVEL").or (vars "LOG_LEVEL")).map .logLevel

/-- Takes over what the variables set. -/
def override (vars : Variables) (c : Config) : Result Config := do
  let c ← readers.foldlM (fun c (name, read) =>
    match vars name with
    | none => pure c
    | some value => (read value).map c.set) c
  return c.setAll (logLevelOf vars).toList

/-- The configuration that the environment alone describes. -/
def fromVariables (vars : Variables) : Result Config := do
  let environment ← Environment.parse ((vars "POLLYDB_ENV").getD "development")
  (← (preset environment).override vars).validated

end Config

end FlatQuery
