/-
UTF-8 as a machine that reads one byte at a time. It yields a character
for every well-formed sequence and `none` for every maximal start of one
that is not continued; the byte that breaks a sequence off is read
again as the start of the next.

Strict reading wants no `none` at all; forgiving reading puts U+FFFD in
its place.
-/
namespace FlatQuery.Text.Utf8

/-- Between characters, or inside one: `owed` bytes are still to come,
the next of them between `low` and `high`, and `value` holds the bits so
far. -/
inductive State where
  | start
  | inside (owed low high value : Nat)
  deriving DecidableEq, Repr

/-- A byte that begins a character: what it yields by itself, and the
state after it. -/
def lead (b : Nat) : List (Option Char) × State :=
  if b < 0x80 then ([some (Char.ofNat b)], .start)
  else if b < 0xC2 then ([none], .start)
  else if b < 0xE0 then ([], .inside 1 0x80 0xBF (b - 0xC0))
  else if b < 0xF0 then
    ([], .inside 2 (if b = 0xE0 then 0xA0 else 0x80) (if b = 0xED then 0x9F else 0xBF) (b - 0xE0))
  else if b < 0xF5 then
    ([], .inside 3 (if b = 0xF0 then 0x90 else 0x80) (if b = 0xF4 then 0x8F else 0xBF) (b - 0xF0))
  else ([none], .start)

/-- One byte: what it yields, and the state after it. -/
def step : State → Nat → List (Option Char) × State
  | .start, b => lead b
  | .inside owed low high value, b =>
    if low ≤ b && b ≤ high then
      let value := 0x40 * value + (b - 0x80)
      if owed ≤ 1 then ([some (Char.ofNat value)], .start)
      else ([], .inside (owed - 1) 0x80 0xBF value)
    else
      let (out, state) := lead b
      (none :: out, state)

/-- What the bytes yield from a state on. A sequence that the end breaks
off yields `none` too. -/
def run : State → List UInt8 → List (Option Char)
  | .start, [] => []
  | .inside .., [] => [none]
  | state, b :: rest =>
    let (out, state) := step state b.toNat
    out ++ run state rest

/-- The bytes' characters, with U+FFFD for what is none. -/
def decode (bytes : List UInt8) : List Char :=
  (run .start bytes).map (·.getD (Char.ofNat 0xFFFD))

/-- The bytes' characters, if all of them are well formed. -/
def decode? (bytes : List UInt8) : Option (List Char) := (run .start bytes).mapM id

end FlatQuery.Text.Utf8
