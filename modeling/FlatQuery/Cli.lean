/-
The command line: one SELECT on a directory of delimited files. The
configuration comes from a file or from the environment, with the
options on top; it is validated before the options apply and once more
after.
-/
import FlatQuery.Cli.Options
import FlatQuery.Cli.Report
import FlatQuery.Command
import FlatQuery.Config.File

namespace FlatQuery.Cli

/-- What a run leaves behind. -/
structure Outcome where
  code : Nat
  output : String
  errors : String
  deriving DecidableEq, Repr

/-- What the run was doing when it failed, and why it failed. -/
structure Failure where
  context : String
  error : Error
  deriving DecidableEq, Repr

/-- An error with what was being done. -/
def during {α : Type} (context : String) : Result α → Except Failure α
  | .ok a => .ok a
  | .error e => .error ⟨context, e⟩

/-- The configuration before the options apply. -/
def baseConfig (disk : Disk) (vars : Config.Variables) (o : Options) :
    Except Failure Config :=
  match o.config with
  | some path => during s!"cannot load config {path}" (Config.File.load disk vars path)
  | none => during "invalid environment configuration" (Config.fromVariables vars)

/-- The configuration with the options on top. -/
def config (disk : Disk) (vars : Config.Variables) (o : Options) : Except Failure Config := do
  let base ← baseConfig disk vars o
  during "invalid configuration" (base.setAll o.settings).validated

/-- The result of the statement. -/
def query (disk : Disk) (decoders : Encoding.Decoders) (vars : Config.Variables) (o : Options) :
    Except Failure QueryResult := do
  let c ← config disk vars o
  let catalog ← during s!"cannot open data directory {c.data.directory}"
    (Catalog.ofConfig disk decoders c)
  let sql := o.sql.getD ""
  during s!"query failed: {sql}" ((⟨sql, catalog⟩ : Command).executeQuery disk)

-- =============================================================== texts

def versionText : String := "pollydb-cli 0.1.0\n"

/-- A line for every option, after how the program is called. -/
def helpText (vars : Config.Variables) : String :=
  let directory := (vars "POLLYDB_DATA_DIR").getD ""
  "\n".intercalate [
    "Query delimited text files with SQL",
    "",
    "Usage: pollydb-cli [OPTIONS] <SQL>",
    "",
    "Arguments:",
    "  <SQL>  SQL query",
    "",
    "Options:",
    "  -d, --dir <DIR>              Directory holding the relation files "
      ++ s!"[env: POLLYDB_DATA_DIR={directory}]",
    "      --separator <SEPARATOR>  Field separator",
    "      --quote <QUOTE>          Quote character",
    "      --encoding <ENCODING>    File encoding label, e.g. utf-8 or windows-1252",
    "      --no-header              Files have no header line",
    "      --format <FORMAT>        Output format [default: text] "
      ++ "[possible values: text, json]",
    "  -c, --config <CONFIG>        JSON configuration file",
    "      --log-level <LOG_LEVEL>  Log level (trace, debug, info, warn, error)",
    "  -h, --help                   Print help",
    "  -V, --version                Print version",
    ""]

/-- The long name of an option. -/
def Opt.name (option : Opt) : String :=
  ((Opt.longNames.find? (·.2 = option)).map (s!"--{·.1}")).getD ""

def UsageError.message : UsageError → String
  | .unknownArgument arg => s!"unexpected argument '{arg}' found"
  | .missingValue option => s!"a value is required for '{option.name}' but none was supplied"
  | .unexpectedValue option => s!"unexpected value for '{option.name}' found"
  | .invalidValue option value => s!"invalid value '{value}' for '{option.name}'"
  | .repeated option => s!"the argument '{option.name}' cannot be used multiple times"
  | .missingStatement => "the following required arguments were not provided: <SQL>"

-- ================================================================ run

/-- Runs the program with these arguments. -/
def run (disk : Disk) (decoders : Encoding.Decoders) (vars : Config.Variables)
    (args : List String) : Outcome :=
  match Options.ofArguments vars args with
  | .error .help => ⟨0, helpText vars, ""⟩
  | .error .version => ⟨0, versionText, ""⟩
  | .error (.usage e) => ⟨2, "", s!"error: {e.message}\n"⟩
  | .ok o =>
    match query disk decoders vars o with
    | .error ⟨_, .outOfBounds index length⟩ =>
      -- no report, for the run stopped; where in the program is left out
      ⟨101, "", (Error.outOfBounds index length).message⟩
    | .error failure => ⟨1, "", report failure.context failure.error⟩
    | .ok r => ⟨0, if o.format = some .json then json r else table r, ""⟩

end FlatQuery.Cli
