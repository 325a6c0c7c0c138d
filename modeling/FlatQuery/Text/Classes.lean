/-
The character classes the query language is written in: blank,
alphabetic and alphanumeric characters of Unicode, and the trimming of
blanks from both ends of a text. ASCII is answered without the tables.
-/
import FlatQuery.Text.ClassTable

namespace FlatQuery.Text

/-- Whether some range of an ascending table holds the character. -/
def within (ranges : List (Nat × Nat)) (c : Char) : Bool :=
  ranges.any fun (low, high) => low ≤ c.toNat && c.toNat ≤ high

/-- An ASCII digit. -/
def isDigit (c : Char) : Bool := '0' ≤ c && c ≤ '9'

/-- An ASCII letter. -/
def isAsciiLetter (c : Char) : Bool :=
  ('a' ≤ c && c ≤ 'z') || ('A' ≤ c && c ≤ 'Z')

/-- White space as Unicode counts it. -/
def isBlank (c : Char) : Bool := within blankRanges c

/-- A letter of any script. -/
def isAlphabetic (c : Char) : Bool :=
  if c.toNat < 0x80 then isAsciiLetter c else within alphabeticRanges c

/-- A number sign of any script, digits included. -/
def isNumeric (c : Char) : Bool :=
  if c.toNat < 0x80 then isDigit c else within numericRanges c

/-- A letter or number of any script. -/
def isAlphanumeric (c : Char) : Bool := isAlphabetic c || isNumeric c

-- ========================================================== trimming

/-- The characters without the blanks they begin with. -/
def trimStart (cs : List Char) : List Char := cs.dropWhile isBlank

/-- The characters without the blanks they end with. -/
def trimEnd (cs : List Char) : List Char :=
  (cs.reverse.dropWhile isBlank).reverse

/-- The text without the blanks at either end. -/
def trim (s : String) : String := String.ofList (trimEnd (trimStart s.toList))

end FlatQuery.Text
