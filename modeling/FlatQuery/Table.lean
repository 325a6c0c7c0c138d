/-
Tables in memory: distinct column names, and rows with one value for
each.
-/
import FlatQuery.Columns

namespace FlatQuery

structure Table where
  columns : List String
  rows : Array (List String)
  distinct : Columns.repeated? columns = none
  rectangular : ∀ row ∈ rows.toList, row.length = columns.length

namespace Table

/-- The name an error gives a table that has none yet. -/
def anonymous : String := "<memory>"

/-- A table of these columns and rows. Names are checked before rows. -/
def ofRows (columns : List String) (rows : List (List String)) : Result Table :=
  match hd : Columns.repeated? columns with
  | some name => .error (.ambiguous .column name)
  | none =>
    match hr : rows.findIdx? (·.length ≠ columns.length) with
    | some i =>
      .error (.malformedRow anonymous i columns.length (rows.getD i []).length)
    | none =>
      .ok {
        columns, rows := rows.toArray, distinct := hd
        rectangular := fun row hrow => by
          simpa using List.findIdx?_eq_none_iff.1 hr row (by simpa using hrow) }

end Table

end FlatQuery
