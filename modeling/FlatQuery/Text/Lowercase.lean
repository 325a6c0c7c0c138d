/-
Lowercase of a text by the full Unicode mapping. One character answers
for itself, with two exceptions: the dotted capital I becomes two
characters, and a capital sigma at the end of a word becomes the final
form, which is the only rule that looks at its neighbours.
-/
import FlatQuery.Text.Classes
import FlatQuery.Text.LowercaseTable

namespace FlatQuery.Text

/-- The lowercase of one character, its neighbours aside. -/
def lowerChar (c : Char) : List Char :=
  if c.toNat < 0x80 then
    [if 'A' ≤ c && c ≤ 'Z' then Char.ofNat (c.toNat + 32) else c]
  else if c.toNat = 0x130 then ['i', Char.ofNat 0x307]
  else
    match lowercaseRuns.find? (·.covers c.toNat) with
    | some run => [Char.ofNat (c.toNat + run.shift).toNat]
    | none => [c]

-- ======================================================= final sigma

/-- Whether the nearest character that is not case-ignorable has case. -/
def meetsCased (cs : List Char) : Bool :=
  match cs.dropWhile (within caseIgnorableRanges) with
  | c :: _ => within casedRanges c
  | [] => false

/-- Whether a sigma between these neighbours, the nearest first on both
sides, ends a word. -/
def endsWord (before after : List Char) : Bool :=
  meetsCased before && !meetsCased after

/-- Lowercase of the characters after those in `before`, which are kept
nearest first. -/
def lowerFrom (before : List Char) : List Char → List Char
  | [] => []
  | c :: rest =>
    (if c.toNat = 0x3A3 then
      [Char.ofNat (if endsWord before rest then 0x3C2 else 0x3C3)]
    else lowerChar c) ++ lowerFrom (c :: before) rest

/-- The text in lowercase. -/
def lowercase (s : String) : String := String.ofList (lowerFrom [] s.toList)

end FlatQuery.Text
