/-
What can be relied on in every configuration of files that is accepted.
However it came about, it has been validated (`Accepted.valid`); so its
options keep the two symbols as they are and have the encoding that the
label names, and the separator is neither the quote nor the end of a
line (`Usable`).

Nothing is said of a quote that ends lines, and such a quote is
accepted. Files can be written in quotes and read back exactly if the
quote ends no lines (`usable_of_accepted`); where it does, not even the
first value of a row can have a separator in it.
-/
import FlatQuery.Cli
import FlatQuery.Proofs.Scan.Backends

namespace FlatQuery

open Result Delimited

-- =========================================================== validation

namespace Config

theorem validated_eq_ok {c c' : Config} :
    c.validated = .ok c' ↔ c.validate = .ok () ∧ c = c' := by
  show (fun _ => c) <$> c.validate = .ok c' ↔ _
  rw [map_eq_ok]
  exact ⟨fun ⟨_, h, heq⟩ => ⟨h, heq⟩, fun ⟨h, heq⟩ => ⟨(), h, heq⟩⟩

/-- The files of a usable configuration are usable. -/
theorem valid_data {c : Config} (h : c.validate = .ok ()) : c.data.Valid := by
  obtain ⟨⟨⟩, hdata, -⟩ := bind_eq_ok.1 h
  exact DataConfig.validate_eq_ok.1 hdata

theorem valid_of_validated {c c' : Config} (h : c.validated = .ok c') : c'.data.Valid := by
  obtain ⟨hvalid, rfl⟩ := validated_eq_ok.1 h
  exact valid_data hvalid

end Config

theorem Catalog.valid_of_ofDirectory {disk : Disk} {decoders : Encoding.Decoders}
    {c : DataConfig} {catalog : Catalog} (h : Catalog.ofDirectory disk decoders c = .ok catalog) :
    catalog.config.Valid := by
  obtain ⟨⟨⟩, hvalid, hopened⟩ := bind_eq_ok.1 h
  have hconfig : catalog.config = c := by
    dsimp only at hopened
    split at hopened
    · cases hopened
    · split at hopened
      · cases hopened
      · cases hopened
        rfl
  rw [hconfig]
  exact DataConfig.validate_eq_ok.1 hvalid

theorem Cli.during_eq_ok {α : Type} {context : String} {x : Result α} {a : α} :
    Cli.during context x = .ok a ↔ x = .ok a := by
  cases x with
  | error e => exact ⟨nofun, nofun⟩
  | ok b => exact ⟨fun h => congrArg _ (Except.ok.inj h), fun h => congrArg _ (Except.ok.inj h)⟩

namespace DataConfig

variable {c : DataConfig} {decoders : Encoding.Decoders}

/-- The configurations of files that are accepted: by themselves, with
the directory they name, or in a configuration of the engine that was
loaded, put together or asked for on the command line. -/
inductive Accepted : DataConfig → Prop where
  | checked {c : DataConfig} (h : c.validate = .ok ()) : Accepted c
  | directory {disk : Disk} {decoders : Encoding.Decoders} {c : DataConfig} {catalog : Catalog}
      (h : Catalog.ofDirectory disk decoders c = .ok catalog) : Accepted catalog.config
  | engine {disk : Disk} {decoders : Encoding.Decoders} {config : Config} {catalog : Catalog}
      (h : Catalog.ofConfig disk decoders config = .ok catalog) : Accepted catalog.config
  | environment {vars : Config.Variables} {config : Config}
      (h : Config.fromVariables vars = .ok config) : Accepted config.data
  | file {disk : Disk} {vars : Config.Variables} {path : String} {config : Config}
      (h : Config.File.load disk vars path = .ok config) : Accepted config.data
  | settings {base : Config} {settings : List Config.Setting} {config : Config}
      (h : (base.setAll settings).validated = .ok config) : Accepted config.data
  | arguments {disk : Disk} {vars : Config.Variables} {options : Cli.Options} {config : Config}
      (h : Cli.config disk vars options = .ok config) : Accepted config.data

/-- Every way to a configuration ends in its validation. -/
theorem Accepted.valid (h : c.Accepted) : c.Valid := by
  -- by the way it was accepted; each of them ends in a validation
  cases h with
  | checked h => exact validate_eq_ok.1 h
  | directory h => exact Catalog.valid_of_ofDirectory h
  | engine h =>
      obtain ⟨catalog, hopened, heq⟩ := bind_eq_ok.1 h
      cases heq
      have hvalid := Catalog.valid_of_ofDirectory hopened
      exact hvalid
  | environment h =>
      obtain ⟨_, -, hset⟩ := bind_eq_ok.1 h
      obtain ⟨_, -, hvalidated⟩ := bind_eq_ok.1 hset
      exact Config.valid_of_validated hvalidated
  | file h =>
      unfold Config.File.load at h
      split at h
      · cases h
      · split at h
        · cases h
        · obtain ⟨_, -, hvalidated⟩ := bind_eq_ok.1 h
          exact Config.valid_of_validated hvalidated
  | settings h => exact Config.valid_of_validated h
  | @arguments disk vars options config h =>
      unfold Cli.config at h
      cases hbase : Cli.baseConfig disk vars options with
      | error failure =>
          rw [hbase] at h
          cases h
      | ok base =>
          rw [hbase] at h
          exact Config.valid_of_validated (Cli.during_eq_ok.1 h)

-- ============================================================== options

/-- What reading files relies on: nothing is lost of the symbols and the
encoding, and the separator cannot be taken for anything else. -/
structure Usable (c : DataConfig) (decoders : Encoding.Decoders) : Prop where
  separator : (c.options decoders).separator.toNat = c.separator.toNat
  quote : (c.options decoders).quote.toNat = c.quote.toNat
  encoding : Encoding.ofLabel? c.encoding = some (c.options decoders).encoding
  compatible : (c.options decoders).encoding.isAsciiCompatible = true
  distinct : (c.options decoders).separator ≠ (c.options decoders).quote
  separates : (c.options decoders).dialect.isLineEnd (c.options decoders).separator = false

/-- A symbol ends lines as a byte if it ends lines as a character. -/
theorem isLineEnd_ofNat (c : DataConfig) (decoders : Encoding.Decoders) {x : Char}
    (hx : x.toNat < 0x80) :
    (c.options decoders).dialect.isLineEnd (UInt8.ofNat x.toNat) = true ↔ x = '\r' ∨ x = '\n' := by
  have hreturn : (13 : UInt8) = UInt8.ofNat '\r'.toNat := by decide
  have hnewline : (10 : UInt8) = UInt8.ofNat '\n'.toNat := by decide
  rw [isLineEnd_iff, Options.dialect, hreturn, hnewline, ofNat_inj hx (by decide),
    ofNat_inj hx (by decide)]

theorem Valid.usable (h : c.Valid) (decoders : Encoding.Decoders) : c.Usable decoders := by
  obtain ⟨e, he⟩ := h.encoding
  obtain ⟨hlabel, hcompatible⟩ := fileEncoding_eq_ok.1 he
  have hnarrow : ∀ {x : Char}, x.toNat < 0x80 → (UInt8.ofNat x.toNat).toNat = x.toNat :=
    fun hx => UInt8.toNat_ofNat_of_lt' (Nat.lt_trans hx (by decide))
  exact {
    separator := hnarrow h.separator
    quote := hnarrow h.quote
    encoding := by rw [encoding_options he, hlabel]
    compatible := by rw [encoding_options he, hcompatible]
    distinct := ofNat_ne h.separator h.quote h.distinct
    separates := Bool.eq_false_iff.2 fun hend =>
      ((isLineEnd_ofNat c decoders h.separator).1 hend).elim h.carriageReturn h.newline }

-- ========================================================= in quotes

/-- Whether files can be written in quotes. A table and a file that has
its columns and rows with every value in quotes are scanned alike,
whatever is in the values. -/
def Restores (c : DataConfig) (decoders : Encoding.Decoders) : Prop :=
  ∀ (sheet : Sheet UInt8) (table : Table), (∀ line ∈ sheet.lines, line.Quoted) →
    (c.options decoders).columns sheet.header.values = table.columns →
    (if c.hasHeader then sheet.rows else sheet.lines).map
        (fun line => (c.options decoders).decode line.values) = table.rows.toList →
    ∀ (disk : Disk) (path : String) (number : Nat), disk.open? path = .ok number →
      disk.bytes number = sheet.text (c.options decoders).dialect →
    ∀ name aliasName, ∃ s, Scan.ofFile disk name aliasName path (c.options decoders) = .ok s
      ∧ s.shown = (Scan.ofTable name aliasName table).shown
      ∧ ∀ history : List (Disk × Scan.Operation),
        (∀ step ∈ history, step.1.Keeps path number (sheet.text (c.options decoders).dialect)) →
        (∀ step ∈ history, ∀ row, step.2 ≠ .fetch row) →
        s.trace history = (Scan.ofTable name aliasName table).trace history

/-- A quote that ends no lines protects every value. -/
theorem Valid.restores (h : c.Valid) (hquote : c.quote ≠ '\r' ∧ c.quote ≠ '\n')
    (decoders : Encoding.Decoders) : c.Restores decoders := by
  have husable := h.usable decoders
  have hprotects : (c.options decoders).dialect.isLineEnd (c.options decoders).quote = false :=
    Bool.eq_false_iff.2 fun hend =>
      ((isLineEnd_ofNat c decoders h.quote).1 hend).elim hquote.1 hquote.2
  intro sheet table hsheet hcolumns hvalues disk path number hopen hbytes name aliasName
  obtain ⟨hnames, hrows, hunmarked⟩ := read_quoted (o := c.options decoders)
    ⟨husable.distinct, husable.separates, hprotects⟩ (by rw [husable.quote]; exact h.quote) hsheet
  obtain ⟨s, hs, hmirrors⟩ :=
    Scan.exists_mirrors (hnames.trans hcolumns) hopen hbytes name aliasName
  refine ⟨s, hs, hmirrors.shown_eq, fun history hdisks hoperations => ?_⟩
  exact hmirrors.trace_eq (hrows.trans hvalues) hunmarked hdisks hoperations

/-- A header with nothing in its quotes, and no rows. -/
def emptyName : Sheet UInt8 := ⟨[], ⟨[.quoted []], .newline, []⟩, []⟩

/-- If quotes end lines, a pair of them is nothing. -/
theorem names_emptyName (h : c.Valid) (hquote : c.quote = '\r' ∨ c.quote = '\n') :
    (c.options decoders).names (emptyName.text (c.options decoders).dialect) = [] := by
  have hend : (c.options decoders).dialect.isLineEnd (c.options decoders).quote = true :=
    (isLineEnd_ofNat c decoders h.quote).2 hquote
  have hblank : ∀ b ∈ emptyName.text (c.options decoders).dialect,
      (c.options decoders).dialect.isLineEnd b = true :=
    List.forall_mem_cons.2 ⟨hend, List.forall_mem_cons.2 ⟨hend, List.forall_mem_singleton.2 rfl⟩⟩
  have hnone : record? (c.options decoders).dialect (emptyName.text (c.options decoders).dialect)
      = none := by
    rw [← List.append_nil (emptyName.text (c.options decoders).dialect)]
    exact first_blank hblank []
  have hkept : dropMark (emptyName.text (c.options decoders).dialect)
      = emptyName.text (c.options decoders).dialect := by
    refine dropMark_eq_self (not_mark_cons ?_ _)
    exact lt_of_eq_of_lt (h.usable decoders).quote h.quote
  rw [Options.names, hkept, hnone]
  rfl

theorem exists_table (name : String) (rows : List (List String))
    (h : ∀ row ∈ rows, row.length = 1) :
    ∃ table : Table, table.columns = [name] ∧ table.rows.toList = rows :=
  ⟨⟨[name], rows.toArray, rfl, h⟩, rfl, rfl⟩

/-- The columns of a table and of a file cannot agree if quotes end
lines. -/
theorem Valid.not_restores (h : c.Valid) (hquote : c.quote = '\r' ∨ c.quote = '\n') :
    ¬ c.Restores decoders := by
  intro hrestores
  -- a file of the empty name: a quoted field whose quotes end lines, so
  -- the text says something else than the sheet
  obtain ⟨disk, hopen, hbytes⟩ : ∃ disk : Disk, disk.open? "t" = .ok 0
      ∧ disk.bytes 0 = emptyName.text (c.options decoders).dialect := by
    have htext : emptyName.text (c.options decoders).dialect
        = [UInt8.ofNat c.quote.toNat, UInt8.ofNat c.quote.toNat, 10] := rfl
    rcases hquote with hquote | hquote
    · rw [htext, hquote]
      exact ⟨Scan.diskOf "\r\r\n", eq_ok_of_toOption (by decide +kernel), by decide +kernel⟩
    · rw [htext, hquote]
      exact ⟨Scan.diskOf "\n\n\n", eq_ok_of_toOption (by decide +kernel), by decide +kernel⟩
  obtain ⟨name, hname⟩ : ∃ name, (c.options decoders).columns emptyName.header.values = [name] := by
    unfold Options.columns
    split
    · exact ⟨_, rfl⟩
    · exact ⟨_, rfl⟩
  have hwidth : ∀ row ∈ (if c.hasHeader then emptyName.rows else emptyName.lines).map
      (fun line => (c.options decoders).decode line.values), row.length = 1 := by
    cases c.hasHeader with
    | true => exact List.forall_mem_nil _
    | false => exact List.forall_mem_singleton.2 rfl
  obtain ⟨table, htable, hrows⟩ := exists_table name _ hwidth
  have hsheet : ∀ line ∈ emptyName.lines, line.Quoted :=
    List.forall_mem_singleton.2 ⟨List.forall_mem_singleton.2 rfl, List.cons_ne_nil _ _⟩
  obtain ⟨s, hs, hshown, -⟩ :=
    hrestores emptyName table hsheet (hname.trans htable.symm) hrows.symm disk "t" 0 hopen hbytes
      "t" "t"
  obtain ⟨source, -, rfl⟩ := Scan.ofFile_eq_ok hopen hbytes hs
  have hcolumns : (c.options decoders).names (emptyName.text (c.options decoders).dialect)
      = table.columns :=
    congrArg Scan.Shown.columns hshown
  rw [names_emptyName h hquote, htable] at hcolumns
  cases hcolumns

/-- Every accepted configuration is usable, but for a quote that ends
lines. Its options have the symbols and the encoding that it names, and
its separator neither opens quotes nor ends lines. Every value can be
written in quotes and read back exactly if the quote ends no lines
either; if it does, no text has a record whose first value has a
separator or a line end in it. -/
theorem usable_of_accepted (h : c.Accepted) (decoders : Encoding.Decoders) :
    c.Usable decoders
      ∧ (c.Restores decoders ↔ c.quote ≠ '\r' ∧ c.quote ≠ '\n')
      ∧ (c.quote = '\r' ∨ c.quote = '\n' →
        ∀ bytes, ∀ record ∈ records (c.options decoders).dialect bytes,
          ∃ value values, record = value :: values ∧ (c.options decoders).dialect.Plain value) := by
  have hvalid := h.valid
  refine ⟨hvalid.usable decoders,
    ⟨fun hrestores => ?_, fun hquote => hvalid.restores hquote decoders⟩,
    fun hquote bytes => ?_⟩
  · exact not_or.1 fun hquote => hvalid.not_restores hquote hrestores
  · exact plain_first ((isLineEnd_ofNat c decoders hvalid.quote).2 hquote) bytes

/-- Commas, single quotes, and an encoding under one of its older names. -/
def latinVariables : Config.Variables := fun name =>
  [("POLLYDB_SEPARATOR", ","), ("POLLYDB_QUOTE", "'"), ("POLLYDB_ENCODING", " Latin1 ")].lookup name

/-- The configuration that they describe reads everything in quotes. -/
theorem usable_of_accepted_latin :
    ∃ config, Config.fromVariables latinVariables = .ok config
      ∧ ∀ decoders, config.data.options decoders
          = ⟨','.toUInt8, '\''.toUInt8, true, .singleByte .windows1252, decoders⟩
        ∧ config.data.Usable decoders ∧ config.data.Restores decoders := by
  have hrun : (Config.fromVariables latinVariables).toOption.map Config.data
      = some ⟨"./data", ',', '\'', true, " Latin1 "⟩ := by
    decide +kernel
  obtain ⟨config, hconfig, hdata⟩ := Option.map_eq_some_iff.1 hrun
  have hloaded := eq_ok_of_toOption hconfig
  have hencoding : config.data.fileEncoding = .ok (.singleByte .windows1252) := by
    rw [hdata]
    exact eq_ok_of_toOption (by decide +kernel)
  refine ⟨config, hloaded, fun decoders => ?_⟩
  obtain ⟨husable, hrestores, -⟩ := usable_of_accepted (.environment hloaded) decoders
  refine ⟨?_, husable, hrestores.2 (by rw [hdata]; decide)⟩
  unfold options
  rw [hencoding, hdata]
  rfl

/-- One column, `a;b`. -/
def pairedName : Sheet UInt8 :=
  ⟨[], ⟨[.quoted (Text.Utf8.encode "a;b".toList)], .carriageReturn, []⟩, []⟩

/-- A newline is accepted as the quote, and the quotes around a name with
a separator do not keep it together. -/
theorem newline_quote_accepted :
    ∃ config, ((Config.preset .development).setAll [.quote '\n']).validated = .ok config
      ∧ config.data.quote = '\n' ∧ ¬ config.data.Restores Encoding.asciiOnly
      ∧ let o := config.data.options Encoding.asciiOnly
        o.columns pairedName.header.values = ["a;b"]
          ∧ o.names (pairedName.text o.dialect) = ["a", "b"] := by
  have hrun : (((Config.preset .development).setAll [.quote '\n']).validated.toOption.map
      fun config =>
        let o := config.data.options Encoding.asciiOnly
        (config.data.quote, o.columns pairedName.header.values,
          o.names (pairedName.text o.dialect)))
      = some ('\n', ["a;b"], ["a", "b"]) := by
    decide +kernel
  obtain ⟨config, hconfig, heq⟩ := Option.map_eq_some_iff.1 hrun
  obtain ⟨hquote, heq⟩ := Prod.mk.inj heq
  obtain ⟨hcolumns, hnames⟩ := Prod.mk.inj heq
  have hbuilt := eq_ok_of_toOption hconfig
  have hvalid := (Accepted.settings hbuilt).valid
  exact ⟨config, hbuilt, hquote, hvalid.not_restores (.inr hquote), hcolumns, hnames⟩

end DataConfig

end FlatQuery
