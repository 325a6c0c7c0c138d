/-
Where relations live and how their files are written. A configuration is
usable if separator and quote are two different ASCII characters, the
separator ends no lines, and the encoding lets separators be found byte
by byte.
-/
import FlatQuery.Delimited.Source
import FlatQuery.Encoding.Label

namespace FlatQuery

open Text

structure DataConfig where
  directory : String
  separator : Char
  quote : Char
  hasHeader : Bool
  /-- A label of the encoding, as given. -/
  encoding : String
  deriving DecidableEq, Repr

namespace DataConfig

def defaultEncoding : String := "utf-8"

/-- Semicolons between fields, double quotes around them, a header. -/
def ofDirectory (directory : String) : DataConfig :=
  ⟨directory, ';', '"', true, defaultEncoding⟩

/-- The encoding that the label names, if separators can be found in
it. -/
def fileEncoding (c : DataConfig) : Result Encoding :=
  match Encoding.ofLabel? c.encoding with
  | none => .error (.config (.unknownEncoding c.encoding))
  | some encoding =>
    if encoding.isAsciiCompatible then .ok encoding
    else .error (.config (.notAsciiCompatible encoding.name))

/-- A character of ASCII. -/
def isAscii (c : Char) : Bool := c.toNat < 0x80

/-- The first reason why the configuration is not usable. -/
def validate (c : DataConfig) : Result Unit :=
  if !isAscii c.separator || !isAscii c.quote then .error (.config .notAscii)
  else if c.separator = c.quote then
    .error (.config (.sameSeparatorAndQuote c.separator))
  else if c.separator = '\n' || c.separator = '\r' then
    .error (.config .separatorEndsLines)
  else c.fileEncoding.map fun _ => ()

/-- How the files are split and decoded. Of a character beyond one byte
the low byte is taken, and UTF-8 for an encoding that cannot be used;
neither happens to a valid configuration. -/
def options (c : DataConfig) (decoders : Encoding.Decoders) : Delimited.Options where
  separator := UInt8.ofNat c.separator.toNat
  quote := UInt8.ofNat c.quote.toNat
  hasHeader := c.hasHeader
  encoding := match c.fileEncoding with
    | .ok encoding => encoding
    | .error _ => .utf8
  decoders := decoders

end DataConfig

end FlatQuery
