/-
JSON values. A text may hold escapes that no sequence of characters
spells, such as half of a surrogate pair; such a text has no content. Of
a number only its value as a natural below 2 ^ 64 is kept, if it is
written as one.
-/
namespace FlatQuery

inductive Json where
  | null
  | bool (value : Bool)
  | number (natural : Option Nat)
  | text (content : Option String)
  | array (items : List Json)
  | object (members : List (Option String × Json))
  deriving Repr

end FlatQuery
