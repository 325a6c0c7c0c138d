/-
Decimal numerals: an optional sign, digits with at most one point among
or beside them, an optional exponent, or one of the words `inf`,
`infinity` and `nan`. A numeral denotes the binary floating-point number
nearest to it. No separators between digits, no other base.
-/
import FlatQuery.Text.Classes
import FlatQuery.Text.Fold

namespace FlatQuery.Text

/-- A numeral taken apart. `digits` are those before and after the
point, and `places` of them stand after it. -/
inductive Numeral where
  | decimal (negative : Bool) (digits : List Char) (places : Nat) (exponent : Int)
  | infinity (negative : Bool)
  | nan
  deriving DecidableEq, Repr

namespace Numeral

/-- The number that a run of digits denotes. -/
def natOf (digits : List Char) : Nat :=
  digits.foldl (fun n d => 10 * n + (d.toNat - '0'.toNat)) 0

/-- A sign, if the text begins with one, and what follows it. -/
def splitSign : List Char → Bool × List Char
  | '-' :: rest => (true, rest)
  | '+' :: rest => (false, rest)
  | cs => (false, cs)

/-- Reads the part after the digits: nothing, or an exponent that ends
the text. -/
def exponent? : List Char → Option Int
  | [] => some 0
  | e :: rest =>
    if e = 'e' || e = 'E' then
      let (negative, digits) := splitSign rest
      if !digits.isEmpty && digits.all isDigit then
        some (if negative then -(natOf digits) else natOf digits)
      else none
    else none

/-- Splits the digits around a point off the text: those before it,
those after it, and the rest. -/
def splitDigits (cs : List Char) : List Char × List Char × List Char :=
  let whole := cs.takeWhile isDigit
  match cs.dropWhile isDigit with
  | '.' :: rest => (whole, rest.takeWhile isDigit, rest.dropWhile isDigit)
  | rest => (whole, [], rest)

/-- Reads an unsigned numeral of digits. -/
def decimal? (negative : Bool) (cs : List Char) : Option Numeral :=
  let (whole, fraction, rest) := splitDigits cs
  if whole.isEmpty && fraction.isEmpty then none
  else
    (exponent? rest).map (.decimal negative (whole ++ fraction) fraction.length)

/-- Reads a whole text as one numeral. -/
def read? (s : String) : Option Numeral :=
  let (negative, rest) := splitSign s.toList
  let word := rest.map foldChar
  if word = ['i', 'n', 'f'] || word = ['i', 'n', 'f', 'i', 'n', 'i', 't', 'y'] then
    some (.infinity negative)
  else if word = ['n', 'a', 'n'] then some .nan
  else decimal? negative rest

-- ============================================================= value

/-- Beyond this power of ten every number is infinite. -/
def largestMagnitude : Int := 310

/-- Below this power of ten every number is zero. -/
def smallestMagnitude : Int := -400

/-- The nearest number to `digits · 10 ^ scale`. Magnitudes out of reach
are answered without raising ten to their power. -/
def nearest (digits : List Char) (scale : Int) : Float :=
  let significant := digits.dropWhile (· = '0')
  let magnitude := significant.length + scale
  if significant.isEmpty then 0
  else if magnitude > largestMagnitude then 1.0 / 0.0
  else if magnitude < smallestMagnitude then 0
  else Float.ofScientific (natOf significant) (scale < 0) scale.natAbs

/-- The number a numeral denotes. -/
def value : Numeral → Float
  | .decimal negative digits places exponent =>
    let x := nearest digits (exponent - places)
    if negative then -x else x
  | .infinity negative => if negative then -(1.0 / 0.0) else 1.0 / 0.0
  | .nan => 0.0 / 0.0

end Numeral

/-- The number a text denotes, if it is a numeral. -/
def number? (s : String) : Option Float := (Numeral.read? s).map Numeral.value

end FlatQuery.Text
