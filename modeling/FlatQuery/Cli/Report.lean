/-
What the command line prints: a result as a table with aligned columns
or as indented JSON, and an error with its causes, one below the other.
-/
import FlatQuery.Reader

namespace FlatQuery.Cli

open Text

-- ============================================================== table

/-- The width of each column: that of its widest value or name. -/
def widths (r : QueryResult) : List Nat :=
  r.rows.foldl (fun widths row =>
    widths.zipWith (fun width value => max width value.length) (row ++ List.replicate
      (widths.length - row.length) ""))
    (r.columns.map String.length)

/-- A value with blanks up to a width. -/
def pad (value : String) (width : Nat) : List Char :=
  value.toList ++ List.replicate (width - value.length) ' '

/-- A line of values. Blanks at its end are left out. -/
def line (widths : List Nat) (values : List String) : String :=
  let cells := (values.zip widths).map fun (value, width) => pad value width
  String.ofList (trimEnd ([' ', '|', ' '].intercalate cells))

/-- The rule below the names. -/
def rule (widths : List Nat) : String :=
  String.ofList (['-', '+', '-'].intercalate (widths.map (List.replicate · '-')))

/-- The result as a table, with the number of rows below. -/
def table (r : QueryResult) : String :=
  let ws := widths r
  let lines := [line ws r.columns, rule ws] ++ r.rows.map (line ws)
  String.join (lines.map (· ++ "\n")) ++ s!"({r.rows.length} rows)\n"

-- =============================================================== JSON

/-- A character inside a JSON text. -/
def escape (c : Char) : List Char :=
  match c with
  | '"' => ['\\', '"']
  | '\\' => ['\\', '\\']
  | '\n' => ['\\', 'n']
  | '\r' => ['\\', 'r']
  | '\t' => ['\\', 't']
  | _ =>
    if c.toNat = 0x08 then ['\\', 'b']
    else if c.toNat = 0x0C then ['\\', 'f']
    else if c.toNat < 0x20 then
      ['\\', 'u', '0', '0', Nat.digitChar (c.toNat / 16), Nat.digitChar (c.toNat % 16)]
    else [c]

/-- A JSON text. -/
def quoted (s : String) : String := String.ofList ('"' :: s.toList.flatMap escape ++ ['"'])

/-- A JSON array with one item a line, indented one step deeper than
`indent`. -/
def jsonArray (indent : String) (items : List String) : String :=
  if items.isEmpty then "[]"
  else
    let lines := items.map fun item => "\n" ++ indent ++ "  " ++ item
    "[" ++ ",".intercalate lines ++ "\n" ++ indent ++ "]"

/-- The result as a JSON object. -/
def json (r : QueryResult) : String :=
  let row (values : List String) : String := jsonArray "    " (values.map quoted)
  "\x7b\n  \"columns\": " ++ jsonArray "  " (r.columns.map quoted)
    ++ ",\n  \"rows\": " ++ jsonArray "  " (r.rows.map row) ++ "\n\x7d\n"

-- ============================================================= errors

/-- A number, right-aligned to five places. -/
def alignNumber (n : Nat) : String :=
  let digits := toString n
  String.ofList (List.replicate (5 - digits.length) ' ') ++ digits

/-- A text whose first line begins with `first` and every other line
with `other`. -/
def indented (first other text : String) : String :=
  first ++ ("\n" ++ other).intercalate ((text.toList.splitOn '\n').map String.ofList)

/-- The causes of an error, numbered if there are several. -/
def causes : List String → String
  | [only] => indented "    " "    " only
  | several => "\n".intercalate (several.zipIdx.map fun (cause, n) =>
    indented (alignNumber n ++ ": ") "       " cause)

/-- What failed, and why. -/
def report (context : String) (e : Error) : String :=
  "Error: " ++ context ++ "\n\nCaused by:\n" ++ causes (e.message :: e.causes)

end FlatQuery.Cli
