/-
Lists of column names. Names are compared ignoring the case of ASCII
letters; a list that names the same column twice is refused.
-/
import FlatQuery.Error
import FlatQuery.Text.Fold

namespace FlatQuery.Columns

open Text

/-- The first name that equals one in `seen` or an earlier one. -/
def repeatedAfter? (seen : List String) : List String → Option String
  | [] => none
  | name :: rest =>
    if seen.any (sameFolded · name) then some name else repeatedAfter? (name :: seen) rest

/-- The first name that equals an earlier one. -/
def repeated? (names : List String) : Option String := repeatedAfter? [] names

/-- Refuses names that are not distinct. -/
def checkDistinct (names : List String) : Result Unit :=
  match repeated? names with
  | some name => .error (.ambiguous .column name)
  | none => .ok ()

/-- Where a column stands. -/
def position? (names : List String) (name : String) : Option Nat :=
  names.findIdx? (sameFolded · name)

/-- Where the requested columns stand; every column if none is
requested. `relation` is blamed for a column that is missing. -/
def resolve (relation : String) (names requested : List String) : Result (List Nat) :=
  if requested.isEmpty then .ok (List.range names.length)
  else
    requested.mapM fun name =>
      match position? names name with
      | some i => .ok i
      | none => .error (.unknownColumn name relation)

end FlatQuery.Columns
