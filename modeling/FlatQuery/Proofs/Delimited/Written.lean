/-
Delimited text as it may be written. A field is put in quotes, with the
quotes in it doubled, or left bare if nothing in it needs them. A line
ends by a newline, by a return or by both, and lines without anything
may stand anywhere.

The splitter undoes all of it: the records of a sheet are the values of
its lines, whichever way each was written (`records_texts`). The proof
goes along the text, a field and then a line at a time; what a line
leaves behind for the next is a gap of line ends.
-/
import FlatQuery.Proofs.Delimited.Cuts

namespace FlatQuery.Delimited

-- ============================================================= sheets

/-- A field as it is written. -/
inductive Field (α : Type) where
  | quoted (value : List α)
  | bare (value : List α)
  deriving DecidableEq, Repr

/-- What ends a line. -/
inductive LineEnd where
  | newline
  | carriageReturn
  | both
  deriving DecidableEq, Repr

/-- A line of fields, and the lines without anything behind it. -/
structure Line (α : Type) where
  fields : List (Field α)
  ending : LineEnd
  blanks : List LineEnd
  deriving DecidableEq, Repr

/-- A header and rows; lines without anything may come before them. -/
structure Sheet (α : Type) where
  blanks : List LineEnd
  header : Line α
  rows : List (Line α)
  deriving DecidableEq, Repr

variable {α : Type}

/-- What a field says, however it is written. -/
def Field.value : Field α → List α
  | .quoted value => value
  | .bare value => value

/-- The record that a line is. -/
def Line.values (line : Line α) : Record α := line.fields.map Field.value

section
variable [DecidableEq α] (d : Dialect α)

/-- The symbols of a value with its quotes doubled. -/
def Dialect.doubled (value : List α) : List α :=
  value.flatMap fun c => if c = d.quote then [d.quote, d.quote] else [c]

/-- A field as symbols: in quotes with the quotes in it doubled, or as it
is. -/
def Field.text : Field α → List α
  | .quoted value => d.quote :: (d.doubled value ++ [d.quote])
  | .bare value => value

/-- A line end as symbols. -/
def LineEnd.text : LineEnd → List α
  | .newline => [d.newline]
  | .carriageReturn => [d.carriageReturn]
  | .both => [d.carriageReturn, d.newline]

namespace Line

/-- The fields of a line, with separators between them. -/
def text (line : Line α) : List α :=
  [d.separator].intercalate (line.fields.map (Field.text d))

/-- What stands between a line and the next. -/
def gap (line : Line α) : List α :=
  line.ending.text d ++ line.blanks.flatMap (LineEnd.text d)

/-- Lines, each with the gap behind it. -/
def texts (lines : List (Line α)) : List α :=
  lines.flatMap fun line => line.text d ++ line.gap d

end Line

namespace Sheet

/-- All lines, the header first. -/
def lines (sheet : Sheet α) : List (Line α) := sheet.header :: sheet.rows

/-- The whole sheet, from the lines without anything before its header to
the gap behind its last row. -/
def text (sheet : Sheet α) : List α :=
  sheet.blanks.flatMap (LineEnd.text d) ++ Line.texts d sheet.lines

end Sheet

/-- Only what needs no quotes is written without them. -/
def Field.Legible : Field α → Prop
  | .quoted _ => True
  | .bare value => ∀ c ∈ value, c ≠ d.separator ∧ c ≠ d.quote ∧ c ≠ d.carriageReturn
    ∧ c ≠ d.newline

/-- A line in which something is written, so that it is not taken for one
without anything. -/
structure Line.Legible (line : Line α) : Prop where
  fields : ∀ field ∈ line.fields, field.Legible d
  nonempty : line.fields ≠ []
  visible : line.fields ≠ [.bare []]

instance (field : Field α) : Decidable (field.Legible d) :=
  match field with
  | .quoted _ => inferInstanceAs (Decidable True)
  | .bare value => inferInstanceAs (Decidable (∀ c ∈ value, c ≠ d.separator ∧ c ≠ d.quote
      ∧ c ≠ d.carriageReturn ∧ c ≠ d.newline))

instance (line : Line α) : Decidable (line.Legible d) :=
  decidable_of_iff ((∀ field ∈ line.fields, field.Legible d) ∧ line.fields ≠ []
      ∧ line.fields ≠ [.bare []])
    ⟨fun h => ⟨h.1, h.2.1, h.2.2⟩, fun h => ⟨h.fields, h.nonempty, h.visible⟩⟩

/-- Symbols that cannot be taken for one another. -/
structure Dialect.Apart : Prop where
  quote : d.separator ≠ d.quote
  separator : d.isLineEnd d.separator = false
  protects : d.isLineEnd d.quote = false

-- ============================================================== texts

variable {d} in
/-- Without quotes there is nothing to double. -/
theorem doubled_of_not_mem {value : List α} (h : d.quote ∉ value) : d.doubled value = value := by
  induction value with
  | nil => rfl
  | cons c value ih =>
      obtain ⟨hc, hvalue⟩ := not_or.1 (mt List.mem_cons.2 h)
      rw [Dialect.doubled, List.flatMap_cons, if_neg (Ne.symm hc), ← Dialect.doubled, ih hvalue]
      rfl

variable {d} in
/-- The text of a line begins with a symbol. -/
theorem text_ne_nil {line : Line α} (h : line.Legible d) : line.text d ≠ [] := by
  have hne := h.nonempty
  have hvisible := h.visible
  unfold Line.text
  cases hfields : line.fields with
  | nil => exact absurd hfields hne
  | cons field fields =>
      cases fields with
      | cons next fields =>
          rw [List.map_cons, List.map_cons, List.intercalate_cons_cons]
          simp
      | nil =>
          rw [List.map_singleton, List.intercalate_singleton]
          -- a single field that is bare and empty is what visibility
          -- excludes
          cases field with
          | quoted value => exact List.cons_ne_nil _ _
          | bare value =>
              rintro rfl
              exact hvisible hfields

-- ============================================================== steps

variable {d} {c : α} {mode : Mode}

/-- A line ends at a return or at a newline. -/
theorem isLineEnd_iff : d.isLineEnd c = true ↔ c = d.carriageReturn ∨ c = d.newline := by
  simp [Dialect.isLineEnd]

/-- And goes on at every other symbol. -/
theorem isLineEnd_eq_false : d.isLineEnd c = false ↔ c ≠ d.carriageReturn ∧ c ≠ d.newline := by
  simp [Dialect.isLineEnd]

/-- Between lines a line end is passed over. -/
theorem step_between (hc : d.isLineEnd c = true) : d.step .between c = (.between, .skip) :=
  if_pos hc

/-- Outside of quotes a separator ends the field. -/
theorem step_separator (h : d.Apart) (hmode : mode ≠ .quoted) :
    d.step mode d.separator = (.fieldStart, .endField) := by
  have hplain : d.stepPlain d.separator = (.fieldStart, .endField) := if_pos rfl
  have hfield : d.stepField d.separator = (.fieldStart, .endField) :=
    (if_neg h.quote).trans hplain
  have hline : d.stepLine d.separator = (.fieldStart, .endField) := by
    rw [Dialect.stepLine, h.separator, if_neg Bool.false_ne_true, hfield]
  -- what the splitter waits for decides how it gets to the same step
  cases mode with
  | between => exact hline
  | afterReturn => exact (step_afterReturn d _).trans hline
  | fieldStart => exact hfield
  | bare => exact hplain
  | quoted => exact absurd rfl hmode
  | quoteSeen => exact (if_neg h.quote).trans hplain

/-- Where a field may end, a line end ends the record. -/
theorem step_lineEnd (h : d.Apart) (hc : d.isLineEnd c = true)
    (hmode : mode = .fieldStart ∨ mode = .bare ∨ mode = .quoteSeen) :
    d.step mode c = d.endRecord c := by
  have hseparator : c ≠ d.separator := by
    rintro rfl
    rw [h.separator] at hc
    cases hc
  have hquote : c ≠ d.quote := by
    rintro rfl
    rw [h.protects] at hc
    cases hc
  have hplain : d.stepPlain c = d.endRecord c := (if_neg hseparator).trans (if_pos hc)
  rcases hmode with rfl | rfl | rfl
  · exact (if_neg hquote).trans hplain
  · exact hplain
  · exact (if_neg hquote).trans hplain

/-- A symbol that needs no quotes goes on with a bare field, or begins
one. -/
theorem step_plain (hc : c ≠ d.separator ∧ c ≠ d.quote ∧ c ≠ d.carriageReturn ∧ c ≠ d.newline)
    (hmode : mode = .between ∨ mode = .fieldStart ∨ mode = .bare) :
    d.step mode c = (.bare, .keep) := by
  obtain ⟨hseparator, hquote, hends⟩ := hc
  have hend := isLineEnd_eq_false.2 hends
  have hplain : d.stepPlain c = (.bare, .keep) := by
    rw [Dialect.stepPlain, if_neg hseparator, hend, if_neg Bool.false_ne_true]
  have hfield : d.stepField c = (.bare, .keep) := (if_neg hquote).trans hplain
  rcases hmode with rfl | rfl | rfl
  · show d.stepLine c = (.bare, .keep)
    rw [Dialect.stepLine, hend, if_neg Bool.false_ne_true, hfield]
  · exact hfield
  · exact hplain

-- ====================================================== one record on

variable (d)

/-- The record that a record half read becomes with this text behind it,
and what is left of the text. -/
def Partial.first (p : Partial α) (text : List α) : Option (Record α × List α) :=
  (p.run d 0 text).record?

/-- One symbol: it is passed over, kept, or it ends a field or the
record. -/
theorem first_cons (p : Partial α) (c : α) (text : List α) :
    p.first d (c :: text) = match d.step p.mode c with
      | (mode, .skip) => Partial.first d { p with mode } text
      | (mode, .keep) => Partial.first d { p with mode, field := c :: p.field } text
      | (mode, .endField) => Partial.first d ⟨mode, [], p.field.reverse :: p.fields⟩ text
      | (_, .endRecord) => some (p.close, text) := by
  unfold Partial.first
  rw [Partial.run]
  cases d.step p.mode c with
  | mk mode event =>
      cases event with
      | skip => exact record?_run ..
      | keep => exact record?_run ..
      | endField => exact record?_run ..
      | endRecord => rfl

variable {d}

/-- Lines without anything are skipped. -/
theorem first_blank {gap : List α} (hgap : ∀ c ∈ gap, d.isLineEnd c = true) (rest : List α) :
    (Partial.start false).first d (gap ++ rest) = (Partial.start false).first d rest := by
  induction gap with
  | nil => rfl
  | cons c gap ih =>
      obtain ⟨hc, hgap⟩ := List.forall_mem_cons.1 hgap
      have hstep : d.step (Partial.start false : Partial α).mode c = (.between, .skip) :=
        step_between hc
      rw [List.cons_append, first_cons, hstep]
      exact ih hgap

/-- A bare value is kept symbol by symbol. -/
theorem first_bare {value : List α} (hvalue : (Field.bare value).Legible d)
    (field : List α) (fields : List (List α)) (rest : List α) :
    Partial.first d ⟨.bare, field, fields⟩ (value ++ rest)
      = Partial.first d ⟨.bare, value.reverse ++ field, fields⟩ rest := by
  induction value generalizing field with
  | nil => rfl
  | cons c value ih =>
      obtain ⟨hc, hvalue⟩ := List.forall_mem_cons.1 hvalue
      rw [List.cons_append, first_cons, step_plain hc (.inr (.inr rfl))]
      dsimp only
      rw [ih hvalue, List.reverse_cons, List.append_assoc]
      rfl

/-- A value in quotes is kept up to its closing quote; of two quotes in a
row the second is kept. -/
theorem first_quoted (value field : List α) (fields : List (List α)) (rest : List α) :
    Partial.first d ⟨.quoted, field, fields⟩ (d.doubled value ++ d.quote :: rest)
      = Partial.first d ⟨.quoteSeen, value.reverse ++ field, fields⟩ rest := by
  have hquote : d.step .quoted d.quote = (.quoteSeen, .skip) := if_pos rfl
  induction value generalizing field with
  | nil =>
      show Partial.first d ⟨.quoted, field, fields⟩ (d.quote :: rest) = _
      rw [first_cons, hquote]
      rfl
  | cons c value ih =>
      rw [Dialect.doubled, List.flatMap_cons, List.append_assoc, ← Dialect.doubled]
      -- a quote of the value is written twice: the first may close the
      -- value, the second says that it did not
      by_cases hc : c = d.quote
      · have hagain : d.step .quoteSeen d.quote = (.quoted, .keep) := if_pos rfl
        rw [if_pos hc, List.cons_append, first_cons, hquote]
        dsimp only
        rw [List.singleton_append, first_cons, hagain]
        dsimp only
        rw [ih, List.reverse_cons, List.append_assoc, hc]
        rfl
      · have hkeep : d.step .quoted c = (.quoted, .keep) := if_neg hc
        rw [if_neg hc, List.singleton_append, first_cons, hkeep]
        dsimp only
        rw [ih, List.reverse_cons, List.append_assoc]
        rfl

/-- Where the splitter stands behind a field that began in this mode. -/
def Field.modeAfter (mode : Mode) : Field α → Mode
  | .quoted _ => .quoteSeen
  | .bare [] => mode
  | .bare (_ :: _) => .bare

/-- A field is read as its value. -/
theorem first_field (h : d.Apart) {field : Field α} (hfield : field.Legible d)
    (hmode : mode = .between ∨ mode = .fieldStart) (fields : List (List α)) (rest : List α) :
    Partial.first d ⟨mode, [], fields⟩ (field.text d ++ rest)
      = Partial.first d ⟨field.modeAfter mode, field.value.reverse, fields⟩ rest := by
  cases field with
  | quoted value =>
      have hopen : d.step mode d.quote = (.quoted, .skip) := by
        have hstart : d.stepField d.quote = (.quoted, .skip) := if_pos rfl
        rcases hmode with rfl | rfl
        · show d.stepLine d.quote = (.quoted, .skip)
          rw [Dialect.stepLine, h.protects, if_neg Bool.false_ne_true, hstart]
        · exact hstart
      rw [Field.text, List.cons_append, List.append_assoc, first_cons, hopen]
      dsimp only
      rw [List.singleton_append, first_quoted, List.append_nil]
      rfl
  | bare value =>
      cases value with
      | nil => rfl
      | cons c value =>
          obtain ⟨hc, hvalue⟩ := List.forall_mem_cons.1 hfield
          rw [Field.text, List.cons_append, first_cons, step_plain hc (hmode.imp_right .inl)]
          dsimp only
          rw [first_bare hvalue, Field.value, List.reverse_cons]
          rfl

/-- Fields with separators between them are read as their values, up to
what ends the line. -/
theorem first_fields (h : d.Apart) {c : α} (hc : d.isLineEnd c = true) (rest : List α)
    {fields : List (Field α)} (hfields : ∀ field ∈ fields, field.Legible d)
    (hne : fields ≠ []) (hmode : mode = .between ∧ fields ≠ [.bare []] ∨ mode = .fieldStart)
    (earlier : List (List α)) :
    Partial.first d ⟨mode, [], earlier⟩
        ([d.separator].intercalate (fields.map (Field.text d)) ++ c :: rest)
      = some (earlier.reverse ++ fields.map Field.value, rest) := by
  -- behind the first separator an empty field is a field, in whatever way it is written
  induction fields generalizing mode earlier with
  | nil => exact absurd rfl hne
  | cons field fields ih =>
      obtain ⟨hfield, hfields⟩ := List.forall_mem_cons.1 hfields
      have hstart : mode = .between ∨ mode = .fieldStart := hmode.imp_left And.left
      -- the last field ends with the line, every other one at a separator
      cases fields with
      | nil =>
          have hends : d.step (field.modeAfter mode) c = d.endRecord c := by
            refine step_lineEnd h hc ?_
            cases field with
            | quoted value => exact .inr (.inr rfl)
            | bare value =>
                cases value with
                | nil =>
                    rcases hmode with ⟨-, hvisible⟩ | hmode
                    · exact absurd rfl hvisible
                    · exact .inl hmode
                | cons c value => exact .inr (.inl rfl)
          rw [List.map_singleton, List.intercalate_singleton, first_field h hfield hstart,
            first_cons, hends]
          simp [Dialect.endRecord, Partial.close]
      | cons next fields =>
          have hseparates : d.step (field.modeAfter mode) d.separator
              = (.fieldStart, .endField) := by
            refine step_separator h ?_
            rcases hstart with rfl | rfl
            · cases field with
              | quoted value => nofun
              | bare value => cases value <;> nofun
            · cases field with
              | quoted value => nofun
              | bare value => cases value <;> nofun
          rw [List.map_cons, List.map_cons, List.intercalate_cons_cons, List.append_assoc,
            List.append_assoc, first_field h hfield hstart, List.singleton_append, first_cons,
            hseparates]
          dsimp only
          rw [← List.map_cons, ih hfields (List.cons_ne_nil next fields) (.inr rfl),
            List.reverse_reverse, List.reverse_cons, List.append_assoc]
          rfl

-- ======================================================= whole sheets

/-- A line end is written in symbols that end lines. -/
theorem isLineEnd_of_mem_text {ending : LineEnd} {c : α} (hc : c ∈ ending.text d) :
    d.isLineEnd c = true := by
  have hend : c = d.carriageReturn ∨ c = d.newline := by
    cases ending <;> simp [LineEnd.text] at hc <;> simp [hc]
  exact isLineEnd_iff.2 hend

/-- So are lines without anything. -/
theorem isLineEnd_of_mem_blanks {blanks : List LineEnd} :
    ∀ c ∈ blanks.flatMap (LineEnd.text d), d.isLineEnd c = true := by
  intro c hc
  obtain ⟨ending, -, hc⟩ := List.mem_flatMap.1 hc
  exact isLineEnd_of_mem_text hc

/-- What ends a line is its first symbol; more of them end no more. -/
theorem exists_gap (line : Line α) :
    ∃ c gap, line.gap d = c :: gap ∧ d.isLineEnd c = true
      ∧ ∀ c ∈ gap, d.isLineEnd c = true := by
  have hgap : ∀ c ∈ line.gap d, d.isLineEnd c = true := by
    intro c hc
    rcases List.mem_append.1 hc with hc | hc
    · exact isLineEnd_of_mem_text hc
    · exact isLineEnd_of_mem_blanks c hc
  cases heq : line.gap d with
  | nil =>
      rw [Line.gap, List.append_eq_nil_iff] at heq
      cases hending : line.ending <;> simp [hending, LineEnd.text] at heq
  | cons c gap =>
      rw [heq, List.forall_mem_cons] at hgap
      exact ⟨c, gap, rfl, hgap.1, hgap.2⟩

/-- The first record of lines is the first line's. -/
theorem record?_texts (h : d.Apart) {line : Line α} (hline : line.Legible d)
    (lines : List (Line α)) {gap : List α} (hgap : ∀ c ∈ gap, d.isLineEnd c = true) :
    ∃ gap', (∀ c ∈ gap', d.isLineEnd c = true)
      ∧ record? d (gap ++ Line.texts d (line :: lines))
        = some (line.values, gap' ++ Line.texts d lines) := by
  obtain ⟨c, gap', heq, hc, hgap'⟩ := exists_gap (d := d) line
  refine ⟨gap', hgap', ?_⟩
  have htexts : Line.texts d (line :: lines)
      = line.text d ++ c :: (gap' ++ Line.texts d lines) := by
    rw [Line.texts, List.flatMap_cons, heq, List.append_assoc]
    rfl
  show (Partial.start false).first d (gap ++ Line.texts d (line :: lines)) = _
  rw [first_blank hgap, htexts]
  exact first_fields h hc _ hline.fields hline.nonempty (.inl ⟨rfl, hline.visible⟩) []

/-- The records of lines are their values, and each starts with its line,
blank lines aside. -/
theorem records_texts (h : d.Apart) {lines : List (Line α)}
    (hlines : ∀ line ∈ lines, line.Legible d) {gap : List α}
    (hgap : ∀ c ∈ gap, d.isLineEnd c = true) :
    records d (gap ++ Line.texts d lines) = lines.map Line.values
      ∧ ∀ text ∈ starts d (gap ++ Line.texts d lines), ∃ blanks line rest,
        (∀ c ∈ blanks, d.isLineEnd c = true) ∧ line ∈ lines
          ∧ text = blanks ++ (line.text d ++ rest) := by
  -- the gap is what the line before has left, so it differs from line to line
  induction lines generalizing gap with
  -- without lines nothing but the gap is left, which holds no record
  | nil =>
      have hnone : record? d (gap ++ Line.texts d []) = none := first_blank hgap []
      rw [records, starts, cuts_of_none d hnone]
      exact ⟨rfl, List.forall_mem_nil _⟩
  | cons line lines ih =>
      obtain ⟨hline, hlines⟩ := List.forall_mem_cons.1 hlines
      obtain ⟨gap', hgap', hrecord⟩ := record?_texts h hline lines hgap
      obtain ⟨hstarts, hrecords⟩ := starts_of_some d hrecord
      obtain ⟨hvalues, hbegin⟩ := ih hlines hgap'
      rw [hrecords, hvalues, hstarts, List.forall_mem_cons]
      refine ⟨rfl, ⟨gap, line, line.gap d ++ Line.texts d lines, hgap, List.mem_cons_self, ?_⟩, ?_⟩
      · rw [Line.texts, List.flatMap_cons, List.append_assoc]
        rfl
      · intro text htext
        obtain ⟨blanks, other, rest, hblanks, hmem, heq⟩ := hbegin text htext
        exact ⟨blanks, other, rest, hblanks, List.mem_cons_of_mem _ hmem, heq⟩

end

end FlatQuery.Delimited
