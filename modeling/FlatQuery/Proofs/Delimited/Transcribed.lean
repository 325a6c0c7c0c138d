/-
Splitting before decoding. Symbols may be spelled with others: a
character with its bytes, a byte with the character it stands for. If
the four symbols that mean something are spelled with those of another
dialect, and nothing else is (`Transcribes`), the splitter goes the same
way over a text and over its spelling, in the same mode after every
symbol and with the fields of the one spelling out those of the other
(`first_spell`). So the records of the spelling are the records of the
text, spelled (`records_spell`).

UTF-8 spells characters in this way, and an encoding of one byte each
spells bytes. In both, what is split first and decoded then is what is
decoded first and split then (`records_decode`).
-/
import FlatQuery.Proofs.Delimited.Encoded

namespace FlatQuery

open Text

namespace Delimited

-- ============================================================ spelling

variable {α β : Type}

/-- Two symbols that mean the same. -/
structure Matches (d : Dialect α) (d' : Dialect β) (c : α) (b : β) : Prop where
  separator : c = d.separator ↔ b = d'.separator
  quote : c = d.quote ↔ b = d'.quote
  carriageReturn : c = d.carriageReturn ↔ b = d'.carriageReturn
  newline : c = d.newline ↔ b = d'.newline

/-- A symbol that means nothing. -/
structure Ordinary (d : Dialect α) (c : α) : Prop where
  separator : c ≠ d.separator
  quote : c ≠ d.quote
  carriageReturn : c ≠ d.carriageReturn
  newline : c ≠ d.newline

/-- Every symbol is spelled with one that means the same, or it means
nothing and is spelled with some that mean nothing. -/
def Transcribes (spell : α → List β) (d : Dialect α) (d' : Dialect β) : Prop :=
  ∀ c, (∃ b, spell c = [b] ∧ Matches d d' c b)
    ∨ Ordinary d c ∧ spell c ≠ [] ∧ ∀ b ∈ spell c, Ordinary d' b

/-- A record half read, spelled. -/
def Partial.spell (spell : α → List β) (p : Partial α) : Partial β :=
  ⟨p.mode, (p.field.reverse.flatMap spell).reverse, p.fields.map (·.flatMap spell)⟩

theorem spell_keep (spell : α → List β) (p : Partial α) (mode : Mode) (c : α) :
    Partial.spell spell { p with mode, field := c :: p.field }
      = ⟨mode, (spell c).reverse ++ (p.spell spell).field, (p.spell spell).fields⟩ := by
  simp [Partial.spell]

theorem spell_endField (spell : α → List β) (p : Partial α) (mode : Mode) :
    Partial.spell spell ⟨mode, [], p.field.reverse :: p.fields⟩
      = ⟨mode, [], (p.spell spell).field.reverse :: (p.spell spell).fields⟩ := by
  simp [Partial.spell]

theorem spell_close (spell : α → List β) (p : Partial α) :
    (p.spell spell).close = p.close.map (·.flatMap spell) := by
  simp [Partial.spell, Partial.close]

/-- Where the splitter stands behind a symbol that means nothing. -/
def Mode.inside : Mode → Mode
  | .quoted => .quoted
  | _ => .bare

-- =============================================================== steps

section
variable [DecidableEq α] [DecidableEq β] {d : Dialect α} {d' : Dialect β}

/-- Symbols that mean the same do the same. -/
theorem Matches.step {c : α} {b : β} (h : Matches d d' c b) (mode : Mode) :
    d.step mode c = d'.step mode b := by
  obtain ⟨hseparator, hquote, hreturn, hnewline⟩ := h
  have hend : d.isLineEnd c = d'.isLineEnd b := by
    simp only [Dialect.isLineEnd, hreturn, hnewline]
  have hplain : d.stepPlain c = d'.stepPlain b := by
    simp only [Dialect.stepPlain, Dialect.endRecord, hseparator, hreturn, hend]
  have hfield : d.stepField c = d'.stepField b := by
    simp only [Dialect.stepField, hquote, hplain]
  have hline : d.stepLine c = d'.stepLine b := by
    simp only [Dialect.stepLine, hend, hfield]
  cases mode with
  | between => exact hline
  | afterReturn => simp only [Dialect.step, hnewline, hline]
  | fieldStart => exact hfield
  | bare => exact hplain
  | quoted => simp only [Dialect.step, hquote]
  | quoteSeen => simp only [Dialect.step, hquote, hplain]

/-- A symbol that means nothing is kept. -/
theorem Ordinary.step {c : α} (h : Ordinary d c) (mode : Mode) :
    d.step mode c = (mode.inside, .keep) := by
  have hplain := (⟨h.separator, h.quote, h.carriageReturn, h.newline⟩ :
    c ≠ d.separator ∧ c ≠ d.quote ∧ c ≠ d.carriageReturn ∧ c ≠ d.newline)
  cases mode with
  | between => exact step_plain hplain (.inl rfl)
  | afterReturn => exact (step_afterReturn d c).trans (step_plain hplain (.inl rfl))
  | fieldStart => exact step_plain hplain (.inr (.inl rfl))
  | bare => exact step_plain hplain (.inr (.inr rfl))
  | quoted => exact if_neg h.quote
  | quoteSeen => exact (if_neg h.quote).trans (step_plain hplain (.inr (.inr rfl)))

/-- So are several in a row. -/
theorem first_ordinary {cs : List α} (hne : cs ≠ []) (hcs : ∀ c ∈ cs, Ordinary d c)
    (p : Partial α) (rest : List α) :
    p.first d (cs ++ rest)
      = Partial.first d ⟨p.mode.inside, cs.reverse ++ p.field, p.fields⟩ rest := by
  induction cs generalizing p with
  | nil => exact absurd rfl hne
  | cons c cs ih =>
      obtain ⟨hc, hcs⟩ := List.forall_mem_cons.1 hcs
      have hinside : p.mode.inside.inside = p.mode.inside := by
        cases p.mode <;> rfl
      rw [List.cons_append, first_cons, hc.step]
      dsimp only
      cases cs with
      | nil => rfl
      | cons c' cs =>
          have hfield : (c :: c' :: cs).reverse ++ p.field
              = (c' :: cs).reverse ++ c :: p.field := by
            rw [List.reverse_cons, List.append_assoc, List.singleton_append]
          rw [ih (List.cons_ne_nil _ _) hcs, hinside, hfield]

-- ================================================================ runs

variable {spell : α → List β}

/-- Over the spelling of a text the splitter goes the way it goes over
the text. -/
theorem first_spell (h : Transcribes spell d d') (p : Partial α) (text : List α) :
    (p.spell spell).first d' (text.flatMap spell)
      = (p.first d text).map fun (record, rest) =>
          (record.map (·.flatMap spell), rest.flatMap spell) := by
  induction text generalizing p with
  | nil =>
      show (p.spell spell).finish.map (·, []) = (p.finish.map (·, [])).map _
      unfold Partial.finish
      rw [spell_close]
      show (if p.mode.isOutside then none else some _).map _ = _
      split
      · rfl
      · rfl
  | cons c text ih =>
      rw [List.flatMap_cons, first_cons]
      -- a symbol of the dialect is spelled as its counterpart, any other
      -- character as bytes that are kept one by one
      rcases h c with ⟨b, hspell, hmatches⟩ | ⟨hordinary, hne, hall⟩
      · have hstep : d'.step (p.spell spell).mode b = d.step p.mode c :=
          (hmatches.step p.mode).symm
        rw [hspell, List.singleton_append, first_cons, hstep]
        cases d.step p.mode c with
        | mk mode event =>
            cases event with
            | skip => exact ih { p with mode }
            | keep =>
                have hkeep := ih { p with mode, field := c :: p.field }
                rw [spell_keep, hspell] at hkeep
                exact hkeep
            | endField =>
                have hend := ih ⟨mode, [], p.field.reverse :: p.fields⟩
                rw [spell_endField] at hend
                exact hend
            | endRecord =>
                dsimp only
                rw [spell_close]
                rfl
      · have hkeep := ih { p with mode := p.mode.inside, field := c :: p.field }
        rw [spell_keep] at hkeep
        rw [first_ordinary hne hall, hordinary.step]
        exact hkeep

/-- The records of the spelling are the records of the text, spelled. -/
theorem records_spell (h : Transcribes spell d d') (text : List α) :
    records d' (text.flatMap spell)
      = (records d text).map fun record => record.map (·.flatMap spell) := by
  have hfirst : ∀ text, record? d' (text.flatMap spell)
      = (record? d text).map fun (record, rest) =>
          (record.map (·.flatMap spell), rest.flatMap spell) := first_spell h (.start false)
  -- a record takes symbols with it, so the text gets shorter
  fun_induction cuts d text with
  | case1 text hnone =>
      have hnone' := hfirst text
      rw [hnone] at hnone'
      rw [records, records, cuts_of_none d hnone, cuts_of_none d' hnone']
      rfl
  | case2 text record rest hsome ih =>
      have hsome' := hfirst text
      rw [hsome] at hsome'
      rw [(starts_of_some d hsome).2, (starts_of_some d' hsome').2, ih]
      rfl

end

end Delimited

-- =========================================================== encodings

namespace Encoding

/-- Bytes that are well formed: the UTF-8 of some text, or any bytes if
each is a character. Nothing is said of encodings with characters of
several bytes other than UTF-8. -/
inductive WellFormed : Encoding → List UInt8 → Prop where
  | utf8 (text : List Char) : WellFormed .utf8 (Utf8.encode text)
  | singleByte (page : CodePage) (bytes : List UInt8) : WellFormed (.singleByte page) bytes
  | userDefined (bytes : List UInt8) : WellFormed .userDefined bytes

/-- No code page has an ASCII character among its upper half. -/
theorem le_of_mem_upperHalf {page : CodePage} {n : Nat} (h : n ∈ page.upperHalf) :
    0x80 ≤ (Char.ofNat n).toNat := by
  have htable : ∀ n ∈ page.upperHalf, 0x80 ≤ (Char.ofNat n).toNat := by
    cases page <;> decide +kernel
  exact htable n h

/-- Bytes of ASCII stand for themselves, and no others stand for ASCII
characters. -/
structure Bytewise (decodeByte : UInt8 → Char) : Prop where
  ascii : ∀ b, b.toNat < 0x80 → (decodeByte b).toNat = b.toNat
  high : ∀ b, ¬ b.toNat < 0x80 → 0x80 ≤ (decodeByte b).toNat

/-- Where every byte is a character, the lower half is ASCII. -/
theorem bytewise_decodeByte {e : Encoding} {decodeByte : UInt8 → Char}
    (h : e.decodeByte? = some decodeByte) : Bytewise decodeByte := by
  have hself : ∀ n < 0x80, (Char.ofNat n).toNat = n := by decide
  have hprivate : ∀ n < 0x100, 0x80 ≤ n → 0x80 ≤ (Char.ofNat (0xF700 + n)).toNat := by
    decide +kernel
  have hlow : ∀ {b : UInt8}, b.toNat < 0x80 → b < 0x80 := fun hb => UInt8.lt_iff_toNat_lt.2 hb
  have hhigh : ∀ {b : UInt8}, ¬ b.toNat < 0x80 → ¬ b < 0x80 :=
    fun hb => mt UInt8.lt_iff_toNat_lt.1 hb
  -- by the encoding: the code pages are tables, the user's own encoding is
  -- a shift
  cases e with
  | singleByte page =>
      cases h
      refine ⟨fun b hb => ?_, fun b hb => ?_⟩
      · rw [CodePage.codePoint, if_pos (hlow hb)]
        exact hself _ hb
      · rw [CodePage.codePoint, if_neg (hhigh hb), List.getD_eq_getElem?_getD]
        cases hcode : page.upperHalf[b.toNat - 0x80]? with
        | none => exact (by decide : 0x80 ≤ (Char.ofNat 0xFFFD).toNat)
        | some n => exact le_of_mem_upperHalf (List.mem_of_getElem? hcode)
  | userDefined =>
      cases h
      refine ⟨fun b hb => ?_, fun b hb => ?_⟩
      · rw [if_pos (hlow hb)]
        exact hself _ hb
      · rw [if_neg (hhigh hb)]
        exact hprivate _ b.toNat_lt (Nat.le_of_not_lt hb)
  | utf8 | multiByte | iso2022jp | utf16be | utf16le | replacement => cases h

end Encoding

namespace Delimited

variable {d : Dialect Char} (h : d.IsAscii)
include h

/-- UTF-8 spells characters with bytes. -/
theorem transcribes_utf8 : Transcribes String.utf8EncodeChar d d.encode := by
  intro c
  by_cases hc : c.toNat < 0x80
  · have hsame : ∀ {s : Char}, s.toNat < 0x80 →
        (c = s ↔ UInt8.ofNat c.toNat = UInt8.ofNat s.toNat) := fun hs => (ofNat_inj hc hs).symm
    exact .inl ⟨_, Utf8.encodeChar_of_ascii hc, hsame h.separator, hsame h.quote,
      hsame h.carriageReturn, hsame h.newline⟩
  · have hother : ∀ {s : Char}, s.toNat < 0x80 → c ≠ s := by
      rintro s hs rfl
      exact hc hs
    have hbyte : ∀ b ∈ String.utf8EncodeChar c, ∀ {s : Char}, s.toNat < 0x80 →
        b ≠ UInt8.ofNat s.toNat := by
      rintro b hb s hs rfl
      have hle := Utf8.le_of_mem_encodeChar hc hb
      rw [UInt8.toNat_ofNat_of_lt' (Nat.lt_trans hs (by decide))] at hle
      exact absurd hs (Nat.not_lt.2 hle)
    exact .inr ⟨⟨hother h.separator, hother h.quote, hother h.carriageReturn, hother h.newline⟩,
      String.utf8EncodeChar_ne_nil, fun b hb => ⟨hbyte b hb h.separator, hbyte b hb h.quote,
        hbyte b hb h.carriageReturn, hbyte b hb h.newline⟩⟩

/-- An encoding of one byte each spells bytes with characters. -/
theorem transcribes_decodeByte {decodeByte : UInt8 → Char}
    (hbytes : Encoding.Bytewise decodeByte) :
    Transcribes (fun b => [decodeByte b]) d.encode d := by
  intro b
  have hsame : ∀ {s : Char}, s.toNat < 0x80 →
      (b = UInt8.ofNat s.toNat ↔ decodeByte b = s) := by
    intro s hs
    have hvalue : (UInt8.ofNat s.toNat).toNat = s.toNat :=
      UInt8.toNat_ofNat_of_lt' (Nat.lt_trans hs (by decide))
    constructor
    · rintro rfl
      rw [← Char.toNat_inj, hbytes.ascii _ (hvalue.symm ▸ hs), hvalue]
    · intro hchar
      by_cases hb : b.toNat < 0x80
      · rw [← UInt8.toNat_inj, hvalue, ← hchar, hbytes.ascii b hb]
      · have hle := hbytes.high b hb
        rw [hchar] at hle
        exact absurd hs (Nat.not_lt.2 hle)
  exact .inl ⟨_, rfl, hsame h.separator, hsame h.quote, hsame h.carriageReturn, hsame h.newline⟩

/-- What is split first and decoded then is what is decoded first and
split then, whatever the decoders of other encodings. -/
theorem records_decode (decoders : Encoding.Decoders) {e : Encoding} {bytes : List UInt8}
    (hformed : e.WellFormed bytes) :
    (records d.encode bytes).map (·.map fun field => String.ofList (e.decode decoders field))
      = (records d (e.decode decoders bytes)).map (·.map String.ofList) := by
  -- an encoding with a byte for every character
  have hsingle : ∀ {decodeByte : UInt8 → Char}, Encoding.Bytewise decodeByte →
      (∀ field, e.decode decoders field = field.map decodeByte) →
      (records d.encode bytes).map (·.map fun field => String.ofList (e.decode decoders field))
        = (records d (e.decode decoders bytes)).map (·.map String.ofList) := by
    intro decodeByte hbytes hdecode
    have hspell : ∀ field : List UInt8, field.flatMap (fun b => [decodeByte b])
        = e.decode decoders field := fun field =>
      (List.flatMap_pure_eq_map decodeByte field).trans (hdecode field).symm
    rw [← hspell bytes, records_spell (transcribes_decodeByte h hbytes), List.map_map]
    refine List.map_congr_left fun record _ => ?_
    rw [Function.comp_apply, List.map_map]
    exact List.map_congr_left fun field _ => congrArg String.ofList (hspell field).symm
  cases hformed with
  | utf8 text =>
      show _ = (records d (Utf8.decode (Utf8.encode text))).map _
      rw [Utf8.decode_encode, Utf8.encode, records_spell (transcribes_utf8 h), List.map_map]
      refine List.map_congr_left fun record _ => ?_
      rw [Function.comp_apply, List.map_map]
      exact List.map_congr_left fun field _ =>
        congrArg String.ofList (Utf8.decode_encode field)
  | singleByte page =>
      exact hsingle (Encoding.bytewise_decodeByte (e := .singleByte page) rfl) fun _ => rfl
  | userDefined =>
      exact hsingle (Encoding.bytewise_decodeByte (e := .userDefined) rfl) fun _ => rfl

end Delimited

end FlatQuery
