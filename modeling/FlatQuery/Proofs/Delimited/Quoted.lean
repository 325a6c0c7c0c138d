/-
Sheets of bytes as files, and what quotes do for them. A file has the
column names and the rows that its sheet was written with (`read_text`).
A line with every value in quotes can be written whatever is in the
values, so long as the quote itself ends no lines (`read_quoted`).

A quote that does end lines opens nothing at the beginning of a line,
where it is skipped with the lines that have nothing in them. However a
text is written, the first value of a record then has no separator and
no line end in it (`plain_first`).
-/
import FlatQuery.Proofs.Delimited.Located
import FlatQuery.Proofs.Delimited.Written

namespace FlatQuery.Delimited

-- ============================================================== files

/-- No byte of ASCII begins a byte-order mark. -/
theorem not_mark_cons {b : UInt8} (hb : b.toNat < 0x80) (rest : List UInt8) :
    ¬ mark <+: b :: rest := by
  rintro ⟨behind, hbehind⟩
  have hmark : (0xEF : UInt8) = b := (List.cons.inj hbehind).1
  rw [← hmark] at hb
  exact absurd hb (by decide)

/-- What a sheet of bytes says, if no line begins with a byte-order
mark. -/
theorem read_text {o : Options} {sheet : Sheet UInt8} (hapart : o.dialect.Apart)
    (hlegible : ∀ line ∈ sheet.lines, line.Legible o.dialect)
    (hunmarked : ∀ line ∈ sheet.lines, ∀ rest, ¬ mark <+: line.text o.dialect ++ rest) :
    o.names (sheet.text o.dialect) = o.columns sheet.header.values
      ∧ o.rows (sheet.text o.dialect)
        = (if o.hasHeader then sheet.rows else sheet.lines).map (fun line => o.decode line.values)
      ∧ Unmarked o.dialect (sheet.text o.dialect) := by
  have hblanks : ∀ b ∈ sheet.blanks.flatMap (LineEnd.text o.dialect),
      o.dialect.isLineEnd b = true := isLineEnd_of_mem_blanks
  have hrecords : records o.dialect (sheet.text o.dialect) = sheet.lines.map Line.values :=
    (records_texts hapart hlegible hblanks).1
  have hbegin : ∀ text ∈ starts o.dialect (sheet.text o.dialect), ¬ mark <+: text := by
    intro text htext
    obtain ⟨blanks, line, rest, hends, hline, rfl⟩ :=
      (records_texts hapart hlegible hblanks).2 text htext
    -- a text that begins with a line end begins with no mark
    cases blanks with
    | nil => exact hunmarked line hline rest
    | cons b blanks =>
        rcases isLineEnd_iff.1 (hends b List.mem_cons_self) with rfl | rfl
        · exact not_mark_cons (by decide : (13 : UInt8).toNat < 0x80) _
        · exact not_mark_cons (by decide : (10 : UInt8).toNat < 0x80) _
  obtain ⟨hheader, hrows⟩ := List.forall_mem_cons.1 hlegible
  obtain ⟨gap, hgap, hrecord⟩ : ∃ gap, (∀ b ∈ gap, o.dialect.isLineEnd b = true)
      ∧ record? o.dialect (sheet.text o.dialect)
        = some (sheet.header.values, gap ++ Line.texts o.dialect sheet.rows) :=
    record?_texts hapart hheader sheet.rows hblanks
  have hkept : dropMark (sheet.text o.dialect) = sheet.text o.dialect := by
    refine dropMark_eq_self (hbegin _ ?_)
    rw [(starts_of_some _ hrecord).1]
    exact List.mem_cons_self
  refine ⟨?_, ?_, ?_⟩
  · rw [Options.names, hkept, hrecord]
    rfl
  -- a first line that is a header is no row
  · rw [Options.rows, Options.body, hkept, hrecord]
    cases o.hasHeader with
    | true =>
        show (records o.dialect (gap ++ Line.texts o.dialect sheet.rows)).map o.decode = _
        rw [(records_texts hapart hrows hgap).1, List.map_map]
        rfl
    | false =>
        show (records o.dialect (sheet.text o.dialect)).map o.decode = _
        rw [hrecords, List.map_map]
        rfl
  · rw [Unmarked, hkept]
    exact hbegin

-- ==================================================== values in quotes

variable {α : Type} [DecidableEq α] {d : Dialect α}

/-- A line with every value in quotes. -/
structure Line.Quoted (line : Line α) : Prop where
  fields : ∀ field ∈ line.fields, field = .quoted field.value
  nonempty : line.fields ≠ []

omit [DecidableEq α] in
theorem Line.Quoted.legible {line : Line α} (h : line.Quoted) : line.Legible d where
  fields := by
    intro field hfield
    rw [h.fields field hfield]
    trivial
  nonempty := h.nonempty
  visible := fun hbare => nomatch h.fields (.bare []) (hbare ▸ List.mem_cons_self)

/-- A line in quotes begins with one. -/
theorem Line.Quoted.text_eq {line : Line α} (h : line.Quoted) :
    ∃ text, line.text d = d.quote :: text := by
  have hfields := h.fields
  have hne := h.nonempty
  unfold Line.text
  cases hline : line.fields with
  | nil => exact absurd hline hne
  | cons field fields =>
      rw [hfields field (hline ▸ List.mem_cons_self)]
      cases fields with
      | nil => exact ⟨_, List.intercalate_singleton⟩
      | cons next fields => exact ⟨_, List.intercalate_cons_cons⟩

/-- In quotes every value can be written, a byte-order mark included. -/
theorem read_quoted {o : Options} {sheet : Sheet UInt8} (hapart : o.dialect.Apart)
    (hquote : o.quote.toNat < 0x80) (hsheet : ∀ line ∈ sheet.lines, line.Quoted) :
    o.names (sheet.text o.dialect) = o.columns sheet.header.values
      ∧ o.rows (sheet.text o.dialect)
        = (if o.hasHeader then sheet.rows else sheet.lines).map (fun line => o.decode line.values)
      ∧ Unmarked o.dialect (sheet.text o.dialect) := by
  refine read_text hapart (fun line hline => (hsheet line hline).legible)
    fun line hline rest => ?_
  obtain ⟨text, htext⟩ := (hsheet line hline).text_eq (d := o.dialect)
  rw [htext]
  exact not_mark_cons hquote _

-- ============================================== quotes that end lines

/-- A value in which nothing needs quotes, the quote itself aside. -/
def Dialect.Plain (d : Dialect α) (value : List α) : Prop :=
  ∀ c ∈ value, c ≠ d.separator ∧ d.isLineEnd c = false

/-- At the end of a text its last record is what was read of it. -/
theorem record_of_first_nil {p : Partial α} {rest : List α} {record : Record α}
    (h : p.first d [] = some (record, rest)) : record = p.close := by
  have hfinish : p.finish.map (·, []) = some (record, rest) := h
  obtain ⟨closed, hclosed, heq⟩ := Option.map_eq_some_iff.1 hfinish
  cases heq
  unfold Partial.finish at hclosed
  split at hclosed
  · cases hclosed
  · exact (Option.some.inj hclosed).symm

/-- A record begins with the fields that were read before its last. -/
theorem exists_of_first {mode : Mode} {field : List α} {fields : List (List α)}
    {text rest : List α} {record : Record α}
    (h : Partial.first d ⟨mode, field, fields⟩ text = some (record, rest)) :
    ∃ value values, record = fields.reverse ++ value :: values := by
  induction text generalizing mode field fields with
  | nil =>
      cases record_of_first_nil h
      exact ⟨field.reverse, [], List.reverse_cons⟩
  | cons c text ih =>
      rw [first_cons] at h
      split at h
      · exact ih h
      · exact ih h
      · obtain ⟨value, values, heq⟩ := ih h
        refine ⟨field.reverse, value :: values, ?_⟩
        rw [heq, List.reverse_cons, List.append_assoc]
        rfl
      · cases h
        exact ⟨field.reverse, [], List.reverse_cons⟩

/-- What a symbol does to the first field of a record, if no quote opens
it. -/
theorem step_first (hquote : d.isLineEnd d.quote = true) {mode : Mode}
    (hmode : mode = .between ∨ mode = .bare) (c : α) :
    d.step mode c = (.between, .skip)
      ∨ d.step mode c = (.fieldStart, .endField)
      ∨ (∃ mode', d.step mode c = (mode', .endRecord))
      ∨ d.step mode c = (.bare, .keep) ∧ c ≠ d.separator ∧ d.isLineEnd c = false := by
  have hplain : d.stepPlain c = (.fieldStart, .endField)
      ∨ (∃ mode', d.stepPlain c = (mode', .endRecord))
      ∨ d.stepPlain c = (.bare, .keep) ∧ c ≠ d.separator ∧ d.isLineEnd c = false := by
    unfold Dialect.stepPlain
    by_cases hseparator : c = d.separator
    · exact .inl (if_pos hseparator)
    · rw [if_neg hseparator]
      cases hend : d.isLineEnd c with
      | true => exact .inr (.inl ⟨_, rfl⟩)
      | false => exact .inr (.inr ⟨rfl, hseparator, rfl⟩)
  -- between lines the quote is passed over as the line end it is, and in a
  -- bare field only the other symbols are left to decide
  rcases hmode with rfl | rfl
  · cases hend : d.isLineEnd c with
    | true => exact .inl (step_between hend)
    | false =>
        have hc : c ≠ d.quote := by
          rintro rfl
          rw [hquote] at hend
          cases hend
        have hstep : d.step .between c = d.stepPlain c := by
          show d.stepLine c = _
          rw [Dialect.stepLine, hend, if_neg Bool.false_ne_true]
          exact if_neg hc
        rw [hstep]
        rw [hend] at hplain
        exact .inr hplain
  · exact .inr hplain

/-- Up to the end of its first field a record is read as if there were no
quotes. -/
theorem first_plain (hquote : d.isLineEnd d.quote = true) {mode : Mode}
    (hmode : mode = .between ∨ mode = .bare) {field text rest : List α} {record : Record α}
    (hfield : d.Plain field) (h : Partial.first d ⟨mode, field, []⟩ text = some (record, rest)) :
    ∃ value values, record = value :: values ∧ d.Plain value := by
  have hvalue : d.Plain field.reverse := fun c hc => hfield c (List.mem_reverse.1 hc)
  induction text generalizing mode field with
  | nil =>
      cases record_of_first_nil h
      exact ⟨field.reverse, [], rfl, hvalue⟩
  | cons c text ih =>
      rw [first_cons] at h
      rcases step_first hquote hmode c with hstep | hstep | ⟨mode', hstep⟩ | ⟨hstep, hc⟩
      · rw [hstep] at h
        exact ih (.inl rfl) hfield h hvalue
      · rw [hstep] at h
        obtain ⟨value, values, heq⟩ := exists_of_first h
        exact ⟨field.reverse, value :: values, heq, hvalue⟩
      · rw [hstep] at h
        cases h
        exact ⟨field.reverse, [], rfl, hvalue⟩
      · rw [hstep] at h
        have hlonger : d.Plain (c :: field) := List.forall_mem_cons.2 ⟨hc, hfield⟩
        exact ih (.inr rfl) hlonger h fun c hc => hlonger c (List.mem_reverse.1 hc)

/-- Where quotes end lines, the first value of every record of every text
is plain. -/
theorem plain_first (hquote : d.isLineEnd d.quote = true) (text : List α) :
    ∀ record ∈ records d text, ∃ value values, record = value :: values ∧ d.Plain value := by
  intro record hrecord
  obtain ⟨⟨start, record⟩, hcut, rfl⟩ := List.mem_map.1 hrecord
  obtain ⟨i, hi⟩ := List.mem_iff_getElem?.1 hcut
  obtain ⟨rest, hfirst, -⟩ := record?_of_cuts d hi
  exact first_plain hquote (.inl rfl) (List.forall_mem_nil _) hfirst

end FlatQuery.Delimited
