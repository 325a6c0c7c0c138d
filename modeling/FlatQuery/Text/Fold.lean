/-
Equality of texts up to the case of ASCII letters. Letters outside ASCII
are compared as they stand, so this is coarser than equality and finer
than equality of lowercase forms.
-/
namespace FlatQuery.Text

/-- An ASCII capital as its small letter; anything else unchanged. -/
def foldChar (c : Char) : Char :=
  if 'A' ≤ c && c ≤ 'Z' then Char.ofNat (c.toNat + 32) else c

/-- The text with its ASCII capitals as small letters. -/
def fold (s : String) : String := String.ofList (s.toList.map foldChar)

/-- Equality ignoring the case of ASCII letters. -/
def sameFolded (s t : String) : Bool := s.toList.map foldChar == t.toList.map foldChar

theorem sameFolded_self (s : String) : sameFolded s s = true := by
  simp [sameFolded]

theorem sameFolded_comm (s t : String) : sameFolded s t = sameFolded t s := by
  simp only [sameFolded, Bool.beq_comm]

end FlatQuery.Text
