/-
From tokens to a value: a machine with a stack of the containers that
are open. It takes one token at a time and stops at the first that no
value allows there.
-/
import FlatQuery.Json.Token

namespace FlatQuery.Json

/-- A container that waits for a value: what it holds so far, the latest
first. -/
inductive Frame where
  | array (items : List Json)
  | member (members : List (Option String × Json)) (key : Option String)
  deriving Repr

/-- What may come next. -/
inductive State where
  /-- A value. -/
  | value (stack : List Frame)
  /-- The first item of an array, or its end. -/
  | firstItem (stack : List Frame)
  /-- A comma, or the end of an array. -/
  | afterItem (items : List Json) (stack : List Frame)
  /-- The first key of an object, or its end. -/
  | firstKey (stack : List Frame)
  | key (members : List (Option String × Json)) (stack : List Frame)
  | colon (members : List (Option String × Json)) (key : Option String) (stack : List Frame)
  /-- A comma, or the end of an object. -/
  | afterMember (members : List (Option String × Json)) (stack : List Frame)
  /-- Nothing more. -/
  | done (value : Json)
  deriving Repr

/-- Gives a value to the container that waits for it. -/
def deliver (value : Json) : List Frame → State
  | [] => .done value
  | .array items :: stack => .afterItem (value :: items) stack
  | .member members key :: stack => .afterMember ((key, value) :: members) stack

/-- A token that begins a value. -/
def startValue (stack : List Frame) : Token → Option State
  | .scalar value => some (deliver value stack)
  | .beginArray => some (.firstItem stack)
  | .beginObject => some (.firstKey stack)
  | _ => none

/-- One token. -/
def step : State → Token → Option State
  | .value stack, token => startValue stack token
  | .firstItem stack, .endArray => some (deliver (.array []) stack)
  | .firstItem stack, token => startValue (.array [] :: stack) token
  | .afterItem items stack, .comma => some (.value (.array items :: stack))
  | .afterItem items stack, .endArray => some (deliver (.array items.reverse) stack)
  | .firstKey stack, .endObject => some (deliver (.object []) stack)
  | .firstKey stack, .scalar (.text key) => some (.colon [] key stack)
  | .key members stack, .scalar (.text key) => some (.colon members key stack)
  | .colon members key stack, .colon => some (.value (.member members key :: stack))
  | .afterMember members stack, .comma => some (.key members stack)
  | .afterMember members stack, .endObject =>
    some (deliver (.object members.reverse) stack)
  | _, _ => none

/-- The value that a whole text spells. -/
def parse? (text : String) : Option Json := do
  let tokens ← tokens? text.toList
  match ← tokens.foldlM step (.value []) with
  | .done value => return value
  | _ => failure

end FlatQuery.Json
