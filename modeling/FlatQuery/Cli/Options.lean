/-
The arguments of the command line. One argument at a time: an option in
its long form (`--dir data`, `--dir=data`), its short form (`-d data`,
`-ddata`, `-d=data`), or the statement. After `--` everything is the
statement. No option is given twice, and the statement is required.
-/
import FlatQuery.Config

namespace FlatQuery.Cli

/-- How a result is printed. -/
inductive Format where
  | text
  | json
  deriving DecidableEq, Repr

/-- An option. -/
inductive Opt where
  | directory
  | separator
  | quote
  | encoding
  | noHeader
  | format
  | config
  | logLevel
  | help
  | version
  deriving DecidableEq, Repr

namespace Opt

/-- The options under their long names. -/
def longNames : List (String × Opt) := [
  ("dir", .directory), ("separator", .separator), ("quote", .quote),
  ("encoding", .encoding), ("no-header", .noHeader), ("format", .format),
  ("config", .config), ("log-level", .logLevel), ("help", .help),
  ("version", .version)]

/-- The options that have a short name. -/
def shortNames : List (Char × Opt) := [
  ('d', .directory), ('c', .config), ('h', .help), ('V', .version)]

/-- Whether a value belongs to the option. -/
def takesValue : Opt → Bool
  | .noHeader | .help | .version => false
  | _ => true

end Opt

/-- Why the arguments are refused. -/
inductive UsageError where
  | unknownArgument (arg : String)
  | missingValue (option : Opt)
  | unexpectedValue (option : Opt)
  | invalidValue (option : Opt) (value : String)
  | repeated (option : Opt)
  | missingStatement
  deriving DecidableEq, Repr

/-- What ends the reading of arguments before the last. -/
inductive Stop where
  | usage (error : UsageError)
  | help
  | version
  deriving DecidableEq, Repr

-- ============================================================ options

/-- What the arguments have set. -/
structure Options where
  sql : Option String
  directory : Option String
  separator : Option Char
  quote : Option Char
  encoding : Option String
  noHeader : Bool
  format : Option Format
  config : Option String
  logLevel : Option String
  deriving DecidableEq, Repr

namespace Options

def empty : Options := ⟨none, none, none, none, none, false, none, none, none⟩

/-- Sets a value once. -/
def once {α : Type} (option : Opt) (old : Option α) (new : Option α) (value : String) :
    Except Stop (Option α) :=
  match old, new with
  | some _, _ => .error (.usage (.repeated option))
  | none, some v => .ok (some v)
  | none, none => .error (.usage (.invalidValue option value))

def char? (value : String) : Option Char :=
  match value.toList with
  | [c] => some c
  | _ => none

/-- A path is not empty. -/
def path? (value : String) : Option String := if value = "" then none else some value

def format? (value : String) : Option Format :=
  if value = "text" then some .text else if value = "json" then some .json else none

/-- Gives an option its value. -/
def give (o : Options) (option : Opt) (value : String) : Except Stop Options :=
  match option with
  | .directory => do
    return { o with directory := ← once option o.directory (path? value) value }
  | .separator => do
    return { o with separator := ← once option o.separator (char? value) value }
  | .quote => do return { o with quote := ← once option o.quote (char? value) value }
  | .encoding => do return { o with encoding := ← once option o.encoding (some value) value }
  | .format => do return { o with format := ← once option o.format (format? value) value }
  | .config => do return { o with config := ← once option o.config (path? value) value }
  | .logLevel => do return { o with logLevel := ← once option o.logLevel (some value) value }
  | .noHeader | .help | .version => .error (.usage (.unexpectedValue option))

/-- Raises an option that has no value. -/
def raise (o : Options) (option : Opt) : Except Stop Options :=
  match option with
  | .noHeader =>
    if o.noHeader then .error (.usage (.repeated option)) else .ok { o with noHeader := true }
  | .help => .error .help
  | .version => .error .version
  | _ => .error (.usage (.missingValue option))

/-- Takes the statement. -/
def takeStatement (o : Options) (arg : String) : Except Stop Options :=
  match o.sql with
  | none => .ok { o with sql := some arg }
  | some _ => .error (.usage (.unknownArgument arg))

end Options

-- ========================================================== arguments

/-- Between two arguments: what is set, the option that waits for its
value, and whether `--` has come. -/
structure Scanner where
  options : Options
  pending : Option Opt
  trailing : Bool
  deriving DecidableEq, Repr

namespace Scanner

/-- Gives a value that was written together with its option. -/
def attach (s : Scanner) (option : Opt) (value : String) : Except Stop Scanner := do
  return { s with options := ← s.options.give option value }

/-- An option without a value attached. -/
def mention (s : Scanner) (option : Opt) : Except Stop Scanner :=
  if option.takesValue then .ok { s with pending := some option }
  else do return { s with options := ← s.options.raise option }

/-- An argument that begins with two dashes; `body` is what follows
them. -/
def long (s : Scanner) (arg : String) (body : List Char) : Except Stop Scanner :=
  let name := String.ofList (body.takeWhile (· ≠ '='))
  match Opt.longNames.lookup name, body.dropWhile (· ≠ '=') with
  | none, _ => .error (.usage (.unknownArgument arg))
  | some option, [] => s.mention option
  | some option, _ :: value => s.attach option (String.ofList value)

/-- An argument that begins with one dash: short options in a row, the
last perhaps with its value. -/
def short (arg : String) : List Char → Scanner → Except Stop Scanner
  | [], s => .ok s
  | c :: rest, s =>
    match Opt.shortNames.lookup c with
    | none => .error (.usage (.unknownArgument arg))
    | some option =>
      if option.takesValue then
        match rest with
        | [] => s.mention option
        | '=' :: value => s.attach option (String.ofList value)
        | value => s.attach option (String.ofList value)
      else s.mention option >>= short arg rest

/-- An argument that stands for itself: the value that is waited for, or
the statement. -/
def plain (s : Scanner) (arg : String) : Except Stop Scanner :=
  match s.pending with
  | some option =>
    if s.trailing then .error (.usage (.missingValue option))
    else do return { s with options := ← s.options.give option arg, pending := none }
  | none => do return { s with options := ← s.options.takeStatement arg }

/-- One argument. -/
def step (s : Scanner) (arg : String) : Except Stop Scanner :=
  if s.trailing then s.plain arg
  else
    match arg.toList with
    | ['-', '-'] => .ok { s with trailing := true }
    | '-' :: c :: rest =>
      match s.pending with
      | some option => .error (.usage (.missingValue option))
      | none => if c = '-' then s.long arg rest else short arg (c :: rest) s
    | _ => s.plain arg

end Scanner

/-- Reads all arguments. The directory may come from the environment. -/
def Options.ofArguments (vars : Config.Variables) (args : List String) :
    Except Stop Options := do
  let s ← args.foldlM Scanner.step ⟨.empty, none, false⟩
  match s.pending with
  | some option => throw (.usage (.missingValue option))
  | none =>
    let o ← match s.options.directory, vars "POLLYDB_DATA_DIR" with
      | none, some value => s.options.give .directory value
      | _, _ => pure s.options
    if o.sql.isNone then throw (.usage .missingStatement)
    return o

/-- The settings that the options make, in the order they are applied. -/
def Options.settings (o : Options) : List Config.Setting :=
  (o.directory.map .directory).toList
    ++ (o.separator.map .separator).toList
    ++ (o.quote.map .quote).toList
    ++ (o.encoding.map .encoding).toList
    ++ (if o.noHeader then [.header false] else [])
    ++ (o.logLevel.map .logLevel).toList

end FlatQuery.Cli
