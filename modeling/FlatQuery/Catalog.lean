/-
Catalogues: relation names with their sources, sorted by name. A
directory gives one relation for every file that ends in `.csv`, under
the file's name in lowercase; tables in memory are registered one by one
and replace what was there. Names are looked up in any case.
-/
import FlatQuery.Config
import FlatQuery.Scan

namespace FlatQuery

open Text

/-- Where a relation's rows are. -/
inductive Origin where
  | file (path : String)
  | table (table : Table)

structure Catalog where
  config : DataConfig
  decoders : Encoding.Decoders
  /-- The most combinations a join may have. -/
  maxCombinations : Option Nat
  relations : List (String × Origin)

namespace Catalog

/-- Puts a relation in its place by name, instead of one of that name. -/
def insert (name : String) (origin : Origin) :
    List (String × Origin) → List (String × Origin)
  | [] => [(name, origin)]
  | (n, o) :: rest =>
    if name = n then (name, origin) :: rest
    else if name < n then (name, origin) :: (n, o) :: rest
    else (n, o) :: insert name origin rest

-- ============================================================== files

/-- Splits a file name at its last dot: what is before and after. No
name begins with the dot it is split at. -/
def splitExtension (name : String) : Option (String × String) :=
  let reversed := name.toList.reverse
  let extension := (reversed.takeWhile (· ≠ '.')).reverse
  match reversed.dropWhile (· ≠ '.') with
  | _ :: stem =>
    if stem.isEmpty || name = ".." then none
    else some (String.ofList stem.reverse, String.ofList extension)
  | [] => none

/-- The relation that a file name gives, if it gives one. -/
def relationOfFile? (name : String) : Option String :=
  match splitExtension name with
  | some (stem, extension) =>
    if sameFolded extension "csv" then some (lowercase stem) else none
  | none => none

/-- The relations of a directory. -/
def relationsOf (disk : Disk) (directory : String) : List (String × Origin) :=
  (disk.names directory).foldl (fun relations name =>
    let path := Disk.joinName directory name
    match relationOfFile? name with
    | some relation =>
      if disk.hasFile path then insert relation (.file path) relations else relations
    | none => relations) []

-- ============================================================ opening

/-- The catalogue of a directory that holds relations. -/
def ofDirectory (disk : Disk) (decoders : Encoding.Decoders) (config : DataConfig) :
    Result Catalog := do
  config.validate
  let directory := config.directory
  if !disk.hasDirectory directory then
    throw (.catalog (.missingDirectory directory))
  let relations := relationsOf disk directory
  if relations.isEmpty then throw (.catalog (.noRelations directory))
  return ⟨config, decoders, Config.defaultMaxCombinations, relations⟩

/-- The catalogue of the directory that a configuration names. -/
def ofConfig (disk : Disk) (decoders : Encoding.Decoders) (config : Config) :
    Result Catalog := do
  return { ← ofDirectory disk decoders config.data with
    maxCombinations := config.maxCombinations }

/-- A catalogue for tables in memory. Nothing is decoded for it. -/
def inMemory : Catalog := ⟨.ofDirectory ".", Encoding.asciiOnly, Config.defaultMaxCombinations, []⟩

/-- Adds or replaces a table. -/
def register (c : Catalog) (name : String) (table : Table) : Catalog :=
  { c with relations := insert (lowercase name) (.table table) c.relations }

-- ============================================================ looking

def origin? (c : Catalog) (name : String) : Option Origin :=
  c.relations.lookup (lowercase name)

def contains (c : Catalog) (name : String) : Bool := (c.origin? name).isSome

def names (c : Catalog) : List String := c.relations.map Prod.fst

/-- A scan of a relation that has read nothing. -/
def openScan (disk : Disk) (c : Catalog) (name aliasName : String) : Result Scan :=
  match c.origin? name with
  | some (.file path) =>
    Scan.ofFile disk (lowercase name) aliasName path (c.config.options c.decoders)
  | some (.table table) => .ok (.ofTable (lowercase name) aliasName table)
  | none => .error (.relationNotFound name)

end Catalog

end FlatQuery
