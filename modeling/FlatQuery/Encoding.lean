/-
Character encodings of relation files. An encoding is ASCII compatible
if every ASCII byte stands for itself wherever it occurs at the start of
a character, so that separators can be found before decoding.
-/
import FlatQuery.Encoding.CodePage

namespace FlatQuery

/-- An encoding of the far east, in which a character may take several
bytes. -/
inductive MultiByte where
  | gbk
  | gb18030
  | big5
  | eucJp
  | shiftJis
  | eucKr
  deriving DecidableEq, Repr

inductive Encoding where
  | utf8
  | singleByte (page : CodePage)
  | multiByte (kind : MultiByte)
  /-- Bytes from 0x80 on become private characters, from U+F780 on. -/
  | userDefined
  | iso2022jp
  | utf16be
  | utf16le
  /-- Stands for encodings that are not to be used. -/
  | replacement
  deriving DecidableEq, Repr

def MultiByte.name : MultiByte → String
  | .gbk => "GBK"
  | .gb18030 => "gb18030"
  | .big5 => "Big5"
  | .eucJp => "EUC-JP"
  | .shiftJis => "Shift_JIS"
  | .eucKr => "EUC-KR"

namespace Encoding

/-- The name the standard gives the encoding. -/
def name : Encoding → String
  | .utf8 => "UTF-8"
  | .singleByte page => page.name
  | .multiByte kind => kind.name
  | .userDefined => "x-user-defined"
  | .iso2022jp => "ISO-2022-JP"
  | .utf16be => "UTF-16BE"
  | .utf16le => "UTF-16LE"
  | .replacement => "replacement"

/-- Whether separators may be looked for before decoding. -/
def isAsciiCompatible : Encoding → Bool
  | .iso2022jp | .utf16be | .utf16le | .replacement => false
  | _ => true

end Encoding

end FlatQuery
