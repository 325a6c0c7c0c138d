/-
From the bytes of one field to its text. Every byte yields something:
what an encoding gives no meaning becomes U+FFFD, and no byte-order mark
is looked for.

UTF-8 and the encodings of one byte a character are decoded here. How
the others are decoded is up to tables that whoever reads the files
brings along (`Decoders`).
-/
import FlatQuery.Encoding
import FlatQuery.Text.Utf8

namespace FlatQuery.Encoding

open Text

/-- The characters that bytes stand for in the encodings which are not
decoded here. -/
abbrev Decoders := Encoding → List UInt8 → List Char

/-- The character of a byte, if every byte of the encoding is one. -/
def decodeByte? : Encoding → Option (UInt8 → Char)
  | .singleByte page => some fun b => Char.ofNat (page.codePoint b)
  | .userDefined => some fun b => Char.ofNat (if b < 0x80 then b.toNat else 0xF700 + b.toNat)
  | _ => none

/-- The characters the bytes stand for. -/
def decode (decoders : Decoders) (encoding : Encoding) (bytes : List UInt8) : List Char :=
  match encoding, encoding.decodeByte? with
  | .utf8, _ => Utf8.decode bytes
  | _, some decodeByte => bytes.map decodeByte
  | _, none => decoders encoding bytes

/-- Decoders without tables: all but ASCII counts as malformed. -/
def asciiOnly : Decoders := fun _ bytes =>
  bytes.map fun b => Char.ofNat (if b < 0x80 then b.toNat else 0xFFFD)

end FlatQuery.Encoding
