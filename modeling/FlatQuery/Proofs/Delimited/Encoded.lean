/-
Sheets of text as files. A file is the UTF-8 of a sheet; as the symbols
of the dialect are ASCII, it is also a sheet of bytes, that of the
values' bytes (`encode_text`). So a file has the column names and the
rows that the sheet was written with, whatever the quotes and line ends
(`names_encode`, `rows_encode`), and none of its rows begins with a
byte-order mark unless a line of the sheet begins with one
(`unmarked_encode`).
-/
import FlatQuery.Proofs.Config.Valid
import FlatQuery.Proofs.Delimited.Quoted
import FlatQuery.Proofs.Text.Utf8

namespace FlatQuery

open Text

namespace DataConfig

/-- The symbols of the files, as characters. -/
def symbols (c : DataConfig) : Delimited.Dialect Char := ⟨c.separator, c.quote, '\r', '\n'⟩

/-- The bytes of a sheet that is written to a file. -/
def file (c : DataConfig) (sheet : Delimited.Sheet Char) : List UInt8 :=
  (String.ofList (sheet.text c.symbols)).toUTF8.data.toList

end DataConfig

namespace Delimited

-- ===================================================== sheets of bytes

/-- A sheet with every value replaced by its bytes. -/
def Field.encode : Field Char → Field UInt8
  | .quoted value => .quoted (Utf8.encode value)
  | .bare value => .bare (Utf8.encode value)

/-- The line ends stay what they are. -/
def Line.encode (line : Line Char) : Line UInt8 :=
  ⟨line.fields.map Field.encode, line.ending, line.blanks⟩

/-- All lines, the header and the rows. -/
def Sheet.encode (sheet : Sheet Char) : Sheet UInt8 :=
  ⟨sheet.blanks, sheet.header.encode, sheet.rows.map Line.encode⟩

namespace Dialect

/-- The bytes of the symbols. -/
def encode (d : Dialect Char) : Dialect UInt8 where
  separator := UInt8.ofNat d.separator.toNat
  quote := UInt8.ofNat d.quote.toNat
  carriageReturn := UInt8.ofNat d.carriageReturn.toNat
  newline := UInt8.ofNat d.newline.toNat

/-- All symbols are single bytes. -/
structure IsAscii (d : Dialect Char) : Prop where
  separator : d.separator.toNat < 0x80
  quote : d.quote.toNat < 0x80
  carriageReturn : d.carriageReturn.toNat < 0x80
  newline : d.newline.toNat < 0x80

end Dialect

-- =========================================================== encoding

variable {d : Dialect Char}

/-- A character of ASCII is one byte. -/
theorem encode_singleton {c : Char} (hc : c.toNat < 0x80) :
    Utf8.encode [c] = [UInt8.ofNat c.toNat] := by
  rw [Utf8.encode_cons, Utf8.encodeChar_of_ascii hc]
  rfl

/-- The bytes of texts in a row are the bytes of each. -/
theorem encode_flatMap {β : Type} (f : β → List Char) (l : List β) :
    Utf8.encode (l.flatMap f) = l.flatMap fun b => Utf8.encode (f b) :=
  List.flatMap_assoc

/-- A separator between texts is one byte between their bytes. -/
theorem encode_intercalate {c : Char} (hc : c.toNat < 0x80) (texts : List (List Char)) :
    Utf8.encode ([c].intercalate texts)
      = [UInt8.ofNat c.toNat].intercalate (texts.map Utf8.encode) := by
  induction texts with
  | nil => rfl
  | cons text texts ih =>
      cases texts with
      | nil => rw [List.map_singleton, List.intercalate_singleton, List.intercalate_singleton]
      | cons next texts =>
          rw [List.intercalate_cons_cons, Utf8.encode_append, Utf8.encode_append, ih,
            encode_singleton hc]
          exact List.intercalate_cons_cons.symm

/-- Doubling the quotes of a value and taking its bytes can be done in
either order, since no other byte of the value is a quote. -/
theorem encode_doubled (h : d.IsAscii) (value : List Char) :
    Utf8.encode (d.doubled value) = d.encode.doubled (Utf8.encode value) := by
  induction value with
  | nil => rfl
  | cons c value ih =>
      have hsplit : d.encode.doubled (Utf8.encode (c :: value))
          = d.encode.doubled (Utf8.encode [c]) ++ d.encode.doubled (Utf8.encode value) := by
        rw [← List.singleton_append, Utf8.encode_append]
        exact List.flatMap_append
      -- one character of the value at a time
      rw [hsplit, ← ih, Dialect.doubled, List.flatMap_cons, Utf8.encode_append]
      congr 1
      by_cases hc : c = d.quote
      · have htwice : Utf8.encode [d.quote, d.quote] = [d.encode.quote, d.encode.quote] := by
          rw [Utf8.encode_cons, encode_singleton h.quote, Utf8.encodeChar_of_ascii h.quote]
          rfl
        rw [if_pos hc, htwice, hc, encode_singleton h.quote]
        show [d.encode.quote, d.encode.quote] = d.encode.doubled [d.encode.quote]
        simp [Dialect.doubled]
      -- a character beyond ASCII has no byte below 0x80, so a byte that is
      -- a quote comes from a quote
      · have hquote : d.encode.quote ∉ Utf8.encode [c] := by
          intro hmem
          have hquote := (Utf8.mem_encode h.quote).1 hmem
          exact hc (List.mem_singleton.1 hquote).symm
        rw [if_neg hc, doubled_of_not_mem hquote]

/-- A line end of one or two characters has as many bytes. -/
theorem encode_lineEnd (h : d.IsAscii) (ending : LineEnd) :
    Utf8.encode (ending.text d) = ending.text d.encode := by
  cases ending with
  | newline => exact encode_singleton h.newline
  | carriageReturn => exact encode_singleton h.carriageReturn
  | both =>
      rw [LineEnd.text, Utf8.encode_cons, encode_singleton h.newline,
        Utf8.encodeChar_of_ascii h.carriageReturn]
      rfl

/-- So have line ends in a row. -/
theorem encode_blanks (h : d.IsAscii) (blanks : List LineEnd) :
    Utf8.encode (blanks.flatMap (LineEnd.text d)) = blanks.flatMap (LineEnd.text d.encode) := by
  rw [encode_flatMap]
  exact List.flatMap_congr fun ending _ => encode_lineEnd h ending

/-- A field is written in bytes as in characters, quoted or bare. -/
theorem encode_field (h : d.IsAscii) (field : Field Char) :
    Utf8.encode (field.text d) = field.encode.text d.encode := by
  cases field with
  | bare value => rfl
  | quoted value =>
      rw [Field.text, Utf8.encode_cons, Utf8.encode_append, encode_singleton h.quote,
        encode_doubled h, Utf8.encodeChar_of_ascii h.quote]
      rfl

/-- A line and the gap behind it, each in bytes. -/
theorem encode_line (h : d.IsAscii) (line : Line Char) :
    Utf8.encode (line.text d) = line.encode.text d.encode
      ∧ Utf8.encode (line.gap d) = line.encode.gap d.encode := by
  constructor
  · have hfields : (line.fields.map (Field.text d)).map Utf8.encode
        = line.encode.fields.map (Field.text d.encode) := by
      rw [Line.encode, List.map_map, List.map_map]
      exact List.map_congr_left fun field _ => encode_field h field
    rw [Line.text, encode_intercalate h.separator, hfields]
    rfl
  · rw [Line.gap, Utf8.encode_append, encode_lineEnd h, encode_blanks h]
    rfl

/-- Lines in a row. -/
theorem encode_texts (h : d.IsAscii) (lines : List (Line Char)) :
    Utf8.encode (Line.texts d lines) = Line.texts d.encode (lines.map Line.encode) := by
  rw [Line.texts, encode_flatMap, Line.texts, List.flatMap_map]
  refine List.flatMap_congr fun line _ => ?_
  rw [Utf8.encode_append, (encode_line h line).1, (encode_line h line).2]

/-- The bytes of a sheet are a sheet of bytes. -/
theorem encode_text (h : d.IsAscii) (sheet : Sheet Char) :
    Utf8.encode (sheet.text d) = sheet.encode.text d.encode := by
  rw [Sheet.text, Utf8.encode_append, encode_blanks h, encode_texts h]
  rfl

-- ========================================================= legibility

/-- Different characters of ASCII are different bytes. -/
theorem ofNat_ne {c c' : Char} (hc : c.toNat < 0x80) (hc' : c'.toNat < 0x80) (h : c ≠ c') :
    UInt8.ofNat c.toNat ≠ UInt8.ofNat c'.toNat := by
  intro heq
  have hsame := congrArg UInt8.toNat heq
  rw [UInt8.toNat_ofNat_of_lt' (Nat.lt_trans hc (by decide)),
    UInt8.toNat_ofNat_of_lt' (Nat.lt_trans hc' (by decide))] at hsame
  exact h (Char.toNat_inj.1 hsame)

/-- So a byte tells a character of ASCII. -/
theorem ofNat_inj {c c' : Char} (hc : c.toNat < 0x80) (hc' : c'.toNat < 0x80) :
    UInt8.ofNat c.toNat = UInt8.ofNat c'.toNat ↔ c = c' :=
  ⟨not_imp_not.1 (ofNat_ne hc hc'), fun h => h ▸ rfl⟩

/-- Symbols that are told apart as characters are told apart as bytes. -/
theorem apart_encode (h : d.IsAscii) (hapart : d.Apart) : d.encode.Apart := by
  obtain ⟨hquote, hseparator, hprotects⟩ := hapart
  rw [isLineEnd_eq_false] at hseparator hprotects
  refine ⟨ofNat_ne h.separator h.quote hquote, ?_, ?_⟩
  · exact isLineEnd_eq_false.2 ⟨ofNat_ne h.separator h.carriageReturn hseparator.1,
      ofNat_ne h.separator h.newline hseparator.2⟩
  · exact isLineEnd_eq_false.2 ⟨ofNat_ne h.quote h.carriageReturn hprotects.1,
      ofNat_ne h.quote h.newline hprotects.2⟩

/-- What needs no quotes in characters needs none in bytes: symbols are
single bytes and occur in no other character. -/
theorem legible_field (h : d.IsAscii) {field : Field Char} (hfield : field.Legible d) :
    field.encode.Legible d.encode := by
  cases field with
  | quoted value => trivial
  | bare value =>
      have hother : ∀ {c : Char}, c.toNat < 0x80 → (∀ c' ∈ value, c' ≠ c) →
          ∀ b ∈ Utf8.encode value, b ≠ UInt8.ofNat c.toNat := by
        rintro c hc hvalue b hb rfl
        exact hvalue c ((Utf8.mem_encode hc).1 hb) rfl
      intro b hb
      exact ⟨hother h.separator (fun c hc => (hfield c hc).1) b hb,
        hother h.quote (fun c hc => (hfield c hc).2.1) b hb,
        hother h.carriageReturn (fun c hc => (hfield c hc).2.2.1) b hb,
        hother h.newline (fun c hc => (hfield c hc).2.2.2) b hb⟩

/-- The same for all fields of a line, and a line that shows something
still does. -/
theorem legible_line (h : d.IsAscii) {line : Line Char} (hline : line.Legible d) :
    line.encode.Legible d.encode where
  fields := by
    intro field hfield
    obtain ⟨field', hfield', rfl⟩ := List.mem_map.1 hfield
    exact legible_field h (hline.fields field' hfield')
  nonempty := fun hnil => hline.nonempty (List.map_eq_nil_iff.1 hnil)
  -- a line of one bare field without bytes would be one without characters
  visible := by
    intro hbare
    obtain ⟨field, hfields, hfield⟩ := List.map_eq_singleton_iff.1 hbare
    cases field with
    | quoted value => cases hfield
    | bare value =>
        cases value with
        | nil => exact hline.visible hfields
        | cons c value =>
            have hnil := Field.bare.inj hfield
            rw [Utf8.encode_cons, List.append_eq_nil_iff] at hnil
            exact String.utf8EncodeChar_ne_nil hnil.1

-- ============================================================== files

/-- The values of a line as texts. -/
def Line.row (line : Line Char) : List String := line.values.map String.ofList

/-- A sheet that reads as it was meant: whatever needs quotes has them,
and no line begins with a byte-order mark. -/
structure Sheet.Clean (d : Dialect Char) (sheet : Sheet Char) : Prop where
  legible : ∀ line ∈ sheet.lines, line.Legible d
  unmarked : ∀ line ∈ sheet.lines, (line.text d).head? ≠ some '\ufeff'

instance (d : Dialect Char) (sheet : Sheet Char) : Decidable (sheet.Clean d) :=
  decidable_of_iff ((∀ line ∈ sheet.lines, line.Legible d)
      ∧ ∀ line ∈ sheet.lines, (line.text d).head? ≠ some '\ufeff')
    ⟨fun h => ⟨h.1, h.2⟩, fun h => ⟨h.legible, h.unmarked⟩⟩

/-- Options for the UTF-8 of sheets with this dialect. -/
structure Options.Reads (o : Options) (d : Dialect Char) : Prop where
  ascii : d.IsAscii
  apart : d.Apart
  dialect : o.dialect = d.encode
  header : o.hasHeader = true
  encoding : o.encoding = .utf8

/-- The symbols of a usable configuration are single bytes. -/
theorem isAscii_symbols {c : DataConfig} (h : c.Valid) : c.symbols.IsAscii where
  separator := h.separator
  quote := h.quote
  carriageReturn := (by decide : '\r'.toNat < 0x80)
  newline := (by decide : '\n'.toNat < 0x80)

/-- A usable configuration whose quote ends no lines reads its sheets. -/
theorem reads_options {c : DataConfig} (hvalid : c.validate = .ok ())
    (hquote : c.quote ≠ '\r' ∧ c.quote ≠ '\n') (hheader : c.hasHeader = true)
    (hencoding : c.fileEncoding = .ok .utf8) (decoders : Encoding.Decoders) :
    (c.options decoders).Reads c.symbols := by
  have hc := DataConfig.validate_eq_ok.1 hvalid
  refine ⟨isAscii_symbols hc, ⟨hc.distinct, ?_, ?_⟩, rfl, hheader,
    DataConfig.encoding_options hencoding decoders⟩
  · exact isLineEnd_eq_false.2 ⟨hc.carriageReturn, hc.newline⟩
  · exact isLineEnd_eq_false.2 hquote

section
variable {o : Options} {sheet : Sheet Char} (ho : o.Reads d) (hsheet : sheet.Clean d)
include ho

/-- A line is decoded as it was written. -/
theorem decode_values (line : Line Char) : o.decode line.encode.values = line.row := by
  have hfield : ∀ field : Field Char, field.encode.value = Utf8.encode field.value := by
    intro field
    cases field <;> rfl
  rw [Options.decode, Line.values, Line.encode, List.map_map, List.map_map, Line.row, Line.values,
    List.map_map]
  refine List.map_congr_left fun field _ => ?_
  show String.ofList (o.encoding.decode o.decoders field.encode.value) = String.ofList field.value
  rw [hfield, ho.encoding]
  exact congrArg String.ofList (Utf8.decode_encode field.value)

/-- A line does not begin with a mark in bytes either. -/
theorem not_mark {line : Line Char} (hline : line.Legible d)
    (hunmarked : (line.text d).head? ≠ some '\ufeff') (rest : List UInt8) :
    ¬ mark <+: line.encode.text d.encode ++ rest := by
  rintro ⟨behind, hbehind⟩
  rw [← (encode_line ho.ascii line).1] at hbehind
  cases htext : line.text d with
  | nil => exact text_ne_nil hline htext
  | cons c cs =>
      rw [htext, Utf8.encode_cons, List.append_assoc] at hbehind
      have hmark : mark = String.utf8EncodeChar '\ufeff' := by decide
      rw [hmark] at hbehind
      rw [htext, ← Utf8.encodeChar_append_inj hbehind] at hunmarked
      exact hunmarked rfl

include hsheet

/-- What the file of a sheet says: the names and the rows are those of the
sheet, and no record begins with a mark. -/
theorem read_encode :
    o.names (Utf8.encode (sheet.text d))
        = sheet.header.row.map (fun name => lowercase (trim name))
      ∧ o.rows (Utf8.encode (sheet.text d)) = sheet.rows.map Line.row
      ∧ Unmarked o.dialect (Utf8.encode (sheet.text d)) := by
  have hencoded : ∀ {motive : Line UInt8 → Prop}, (∀ line ∈ sheet.lines, motive line.encode) →
      ∀ line ∈ sheet.encode.lines, motive line := by
    intro motive h line hline
    obtain ⟨line', hline', rfl⟩ : ∃ line', line' ∈ sheet.lines ∧ line'.encode = line :=
      List.mem_map.1 hline
    exact h line' hline'
  have hapart : o.dialect.Apart := ho.dialect ▸ apart_encode ho.ascii ho.apart
  have hlegible : ∀ line ∈ sheet.encode.lines, line.Legible o.dialect := by
    rw [ho.dialect]
    exact hencoded fun line hline => legible_line ho.ascii (hsheet.legible line hline)
  have hbegin : ∀ line ∈ sheet.encode.lines, ∀ rest, ¬ mark <+: line.text o.dialect ++ rest := by
    rw [ho.dialect]
    exact hencoded fun line hline =>
      not_mark ho (hsheet.legible line hline) (hsheet.unmarked line hline)
  obtain ⟨hnames, hrows, hunmarked⟩ := read_text hapart hlegible hbegin
  rw [ho.dialect, ← encode_text ho.ascii] at hnames hrows hunmarked
  refine ⟨?_, ?_, by rwa [ho.dialect]⟩
  · rw [hnames, Options.columns, if_pos ho.header]
    exact congrArg _ (decode_values ho sheet.header)
  · rw [hrows, if_pos ho.header]
    show (sheet.rows.map Line.encode).map _ = _
    rw [List.map_map]
    exact List.map_congr_left fun line _ => decode_values ho line

end

/-- What the file of a sheet says. -/
theorem read_file {c : DataConfig} {decoders : Encoding.Decoders} {sheet : Sheet Char}
    (hreads : (c.options decoders).Reads c.symbols) (hsheet : sheet.Clean c.symbols) :
    (c.options decoders).names (c.file sheet)
        = sheet.header.row.map (fun name => lowercase (trim name))
      ∧ (c.options decoders).rows (c.file sheet) = sheet.rows.map Line.row
      ∧ Unmarked (c.options decoders).dialect (c.file sheet) := by
  rw [DataConfig.file, ← Utf8.encode_toList, String.toList_ofList]
  exact read_encode hreads hsheet

end Delimited

end FlatQuery
