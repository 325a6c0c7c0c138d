/-
A file as text. A scan splits the bytes of a file and decodes each field.
Read the other way round, the file is decoded as a whole and the text is
split as characters, by the same symbols (`DataConfig.split`); the first
record gives the columns and the others the rows, and selecting goes
through the rows (`Delimited.choose`). In an encoding in which bytes of
ASCII are ASCII wherever they stand, both ways give the same columns and
rows, and so they find the same rows or blame the same one
(`select_decoded`).
-/
import FlatQuery.Proofs.Delimited.Transcribed
import FlatQuery.Proofs.Scan.File

namespace FlatQuery

open Text Result

-- =============================================================== texts

namespace DataConfig

variable (c : DataConfig) (text : List Char)

/-- The records of a text, split as characters. -/
def split : List (List String) :=
  (Delimited.records c.symbols text).map (·.map String.ofList)

/-- The column names of a text: those its first record gives, or one for
every field of it. -/
def columns : List String :=
  match c.split text with
  | [] => []
  | first :: _ =>
    if c.hasHeader then first.map fun name => lowercase (trim name)
    else (List.range first.length).map fun i => s!"col{i}"

/-- The rows of a text. -/
def rows : List (List String) :=
  if c.hasHeader then (c.split text).tail else c.split text

end DataConfig

namespace Delimited

/-- Of numbered rows, the numbers of those that are admitted, if every
row is so wide; else number and width of the first that is not. -/
def choose (width : Nat) (admits : List String → Bool) (rows : List (List String × Nat)) :
    Except (Nat × Nat) (List Nat) :=
  match rows.find? fun (row, _) => row.length ≠ width with
  | some (row, i) => .error (i, row.length)
  | none => .ok ((rows.filter fun (row, _) => admits row).map Prod.snd)

/-- The numbers of the rows of a relation that are admitted; a row of
another width is blamed. -/
def chooseFrom (name : String) (width : Nat) (admits : List String → Bool)
    (rows : List (List String)) : Result (List Nat) :=
  match choose width admits rows.zipIdx with
  | .ok found => .ok found
  | .error (row, found) => .error (.malformedRow name row width found)

/-- The first row is taken or not, or is blamed if its width is another. -/
theorem choose_cons (width : Nat) (admits : List String → Bool) (row : List String) (i : Nat)
    (rows : List (List String × Nat)) :
    choose width admits ((row, i) :: rows)
      = if row.length = width then
          (choose width admits rows).map ((if admits row then [i] else []) ++ ·)
        else .error (i, row.length) := by
  unfold choose
  by_cases hwidth : row.length = width
  · rw [if_pos hwidth, List.find?_cons_of_neg (by simpa using hwidth), List.filter_cons]
    cases rows.find? fun (row, _) => row.length ≠ width with
    | some found => rfl
    | none =>
        dsimp only
        by_cases hadmits : admits row = true
        · rw [if_pos hadmits, if_pos hadmits]
          rfl
        · rw [if_neg hadmits, if_neg hadmits]
          rfl
  · rw [if_neg hwidth, List.find?_cons_of_pos (by simpa using hwidth)]

-- ================================================== names and rows

section
variable {c : DataConfig} {e : Encoding} {decoders : Encoding.Decoders} {bytes : List UInt8}

/-- A file has the columns and the rows of its text. -/
theorem names_rows_decoded (hvalid : c.Valid) (he : c.fileEncoding = .ok e)
    (hformed : e.WellFormed (dropMark bytes)) :
    (c.options decoders).names bytes = c.columns (e.decode decoders (dropMark bytes))
      ∧ (c.options decoders).rows bytes = c.rows (e.decode decoders (dropMark bytes)) := by
  -- fields are decoded one by one, in the encoding of the configuration
  have hdecode : ∀ record, (c.options decoders).decode record
      = record.map fun field => String.ofList (e.decode decoders field) := by
    intro record
    rw [Options.decode, DataConfig.encoding_options he]
    rfl
  have hsplit : c.split (e.decode decoders (dropMark bytes))
      = (records (c.options decoders).dialect (dropMark bytes)).map
        (c.options decoders).decode := by
    rw [funext hdecode]
    exact (records_decode (isAscii_symbols hvalid) decoders hformed).symm
  have hheader : (c.options decoders).hasHeader = c.hasHeader := rfl
  unfold DataConfig.columns DataConfig.rows Options.names Options.rows Options.body
  rw [hsplit, hheader]
  -- a file without a record has no header to give
  cases hrecord : record? (c.options decoders).dialect (dropMark bytes) with
  | none =>
      have hnone : records (c.options decoders).dialect (dropMark bytes) = [] := by
        rw [records, cuts_of_none _ hrecord]
        rfl
      refine ⟨by rw [hnone]; rfl, ?_⟩
      cases c.hasHeader with
      | false => rfl
      | true =>
          show (records (c.options decoders).dialect (dropMark bytes)).map _ = _
          rw [hnone]
          rfl
  | some found =>
      obtain ⟨first, rest⟩ := found
      have hsome := (starts_of_some _ hrecord).2
      constructor
      · rw [hsome, List.map_cons]
        show (c.options decoders).columns first = _
        rw [Options.columns, hheader, ← (c.options decoders).length_decode]
      · cases c.hasHeader with
        | false => rfl
        | true =>
            show (records (c.options decoders).dialect rest).map _ = _
            rw [hsome]
            rfl

end

-- =========================================================== selecting

namespace Source

variable {o : Options} {path : String} {number : Nat} {bytes : List UInt8} {disk : Disk}
  {s : Source}

/-- A walk chooses among the rows ahead. -/
theorem walk_eq (width : Nat) (admits : List String → Bool) {stream : Stream}
    (h : Stream.View bytes stream) (hbytes : disk.bytes stream.file = bytes)
    (positions matching : Array Nat) :
    (walk disk o width admits stream positions matching).map (·.matching.toList)
      = (choose width admits
          (((records o.dialect (stream.ahead bytes)).map o.decode).zipIdx positions.size)).map
            (matching.toList ++ ·) := by
  fun_induction walk disk o width admits stream positions matching with
  | case1 stream positions matching after hread =>
      obtain ⟨hrecord, -⟩ := Stream.readRecord_eq o.dialect h hbytes hread
      rw [records, cuts_of_none _ hrecord]
      exact congrArg Except.ok (List.append_nil _).symm
  | case2 stream positions matching record after hread hwidth ih =>
      obtain ⟨hrecord, -, hsettled, hfile⟩ := Stream.readRecord_eq o.dialect h hbytes hread
      have hlength := (o.length_decode record).trans hwidth
      have hrest := ih hsettled.toView (by rw [hfile, hbytes])
      rw [hsettled.ahead_eq, Array.size_push] at hrest
      rw [(starts_of_some _ hrecord).2, List.map_cons, List.zipIdx_cons, choose_cons,
        if_pos hlength]
      refine Eq.trans hrest ?_
      cases choose width admits
          (((records o.dialect (bytes.drop after.position)).map o.decode).zipIdx
            (positions.size + 1)) with
      | error fault => rfl
      -- the row's number is put in front or left out
      | ok found =>
          by_cases hadmits : admits (o.decode record) = true
          · simp [hadmits, Except.map]
          · simp [hadmits, Except.map]
  | case3 stream positions matching record after hread hwidth =>
      obtain ⟨hrecord, -⟩ := Stream.readRecord_eq o.dialect h hbytes hread
      have hlength := o.length_decode record
      rw [(starts_of_some _ hrecord).2, List.map_cons, List.zipIdx_cons, choose_cons,
        if_neg (by rw [hlength]; exact hwidth), hlength]
      rfl

/-- A source that has read nothing finds what is to be found in its
rows. -/
theorem select_eq (h : Opened o path number bytes s) (hdisk : disk.Keeps path number bytes)
    (hopen : disk.open? path = .ok number) (name : String) (width : Nat)
    (admits : List String → Bool) :
    (s.select disk name width admits).1.map Array.toList
      = chooseFrom name width admits (o.rows bytes) := by
  cases hacquire : s.acquire disk with
  | mk acquired s₁ =>
      unfold select
      rw [hacquire]
      rcases acquire_spec hdisk h.path hacquire with
        ⟨hnone, -, e, rfl⟩ | ⟨stream, rfl, hstream⟩
      · -- the file is there
        unfold acquire openStream at hacquire
        rw [hnone, h.path, hopen] at hacquire
        cases hacquire
      · obtain ⟨-, hoptions, hstart, -⟩ := acquire_fields hacquire
        obtain ⟨hview, hfile, -, hahead⟩ := ahead_start h hdisk.contents
          (hstream.imp (·.1) (·.2.1))
        have hwalk := walk_eq (o := o) width admits hview
          (by rw [hfile]; exact hdisk.contents) #[] #[]
        have hchosen : choose width admits (o.rows bytes).zipIdx
            = (walk disk o width admits (stream.seek disk o.dialect (o.bodyStart bytes))
              #[] #[]).map (·.matching.toList) := by
          rw [hwalk, hahead]
          exact (congrFun Except.map_id _).symm
        dsimp only
        rw [hoptions, h.options, hstart, h.dataStart, chooseFrom, hchosen]
        cases walk disk o width admits (stream.seek disk o.dialect (o.bodyStart bytes))
            #[] #[] with
        | error fault => rfl
        | ok selection => rfl

end Source

end Delimited

namespace Scan

open Delimited

variable {c : DataConfig} {e : Encoding} {disk : Disk} {path : String} {number : Nat}
  {bytes : List UInt8}

/-- A scan that has found nothing finds what its source finds. -/
theorem found_of_select {s : Scan} {source : Source} (h : s.backend = .file source)
    (hphase : s.phase = .unselected) (disk : Disk) (filter : Option Predicate) :
    (s.select disk filter).1.map (fun _ => (s.select disk filter).2.matching.toList)
      = (source.select disk s.name s.columns.length (s.admits filter)).1.map Array.toList := by
  have hexpect : s.expect .select [.unselected] = .ok () := by
    unfold expect
    rw [hphase]
    rfl
  unfold Scan.select
  rw [hexpect, selectRows_file h]
  cases (source.select disk s.name s.columns.length (s.admits filter)).1 with
  | error fault => rfl
  | ok found => rfl

/-- Splitting before decoding corrupts no text. Of a file that is well
formed in the encoding of a usable configuration, a mark at its
beginning aside, a scan has the columns of the decoded text, split as
characters by the same symbols, and is refused if those are not
distinct. Selecting finds the rows of the text, field by field: whatever
lets rows through, the rows found are those rows of the text that are
let through, and a row that is blamed is the text's. From a file in
UTF-8 the text is decoded without a character replaced. -/
theorem select_decoded (hvalid : c.validate = .ok ()) (he : c.fileEncoding = .ok e)
    (hopen : disk.open? path = .ok number) (hbytes : disk.bytes number = bytes)
    (hformed : e.WellFormed (dropMark bytes)) (decoders : Encoding.Decoders)
    (name aliasName : String) :
    (ofFile disk name aliasName path (c.options decoders)).map Scan.columns
        = (Columns.checkDistinct (c.columns (e.decode decoders (dropMark bytes)))).map
          (fun _ => c.columns (e.decode decoders (dropMark bytes)))
      ∧ (∀ s, ofFile disk name aliasName path (c.options decoders) = .ok s →
        (∃ source, s.backend = .file source ∧ ∀ admits,
          (source.select disk name s.columns.length admits).1.map Array.toList
            = chooseFrom name s.columns.length admits (c.rows (e.decode decoders (dropMark bytes))))
        ∧ ∀ filter,
          (s.select disk filter).1.map (fun _ => (s.select disk filter).2.matching.toList)
            = chooseFrom name s.columns.length (s.admits filter)
              (c.rows (e.decode decoders (dropMark bytes))))
      ∧ (e = .utf8 → Utf8.encode (e.decode decoders (dropMark bytes)) = dropMark bytes) := by
  obtain ⟨hnames, hrows⟩ := names_rows_decoded (DataConfig.validate_eq_ok.1 hvalid) he hformed
  refine ⟨?_, fun s hs => ?_, ?_⟩
  · obtain ⟨source, -, -, hfile⟩ := Source.ofFile_eq hopen hbytes (c.options decoders)
    rw [← hnames, ofFile, hfile]
    cases Columns.checkDistinct ((c.options decoders).names bytes) with
    | error fault => rfl
    | ok => rfl
  · obtain ⟨source, hopened, rfl⟩ := ofFile_eq_ok hopen hbytes hs
    have hkeeps : disk.Keeps path number bytes :=
      ⟨hbytes, fun n hn => Except.ok.inj (hn.symm.trans hopen)⟩
    have hselect := fun admits => Source.select_eq hopened hkeeps hopen name
      ((c.options decoders).names bytes).length admits
    rw [hrows] at hselect
    exact ⟨⟨source, rfl, hselect⟩, fun filter =>
      (found_of_select rfl rfl disk filter).trans (hselect _)⟩
  · rintro rfl
    generalize dropMark bytes = content at hformed ⊢
    cases hformed with
    | utf8 text => exact congrArg Utf8.encode (Utf8.decode_encode text)

/-- A file with a mark, letters of several bytes, and a separator between
quotes. -/
def accents : String := "\ufeffÄ;b\n\"é;ü\";2\n"

/-- It has the one row that its text has. -/
theorem select_decoded_accents :
    ∃ s, ofFile (diskOf accents) "t" "t" "t"
          ((DataConfig.ofDirectory ".").options Encoding.asciiOnly) = .ok s
      ∧ s.columns = ["ä", "b"]
      ∧ ∀ filter, (s.select (diskOf accents) filter).1.map
          (fun _ => (s.select (diskOf accents) filter).2.matching.toList)
        = chooseFrom "t" 2 (s.admits filter) [["é;ü", "2"]] := by
  have hcontent : dropMark ((diskOf accents).bytes 0)
      = Utf8.encode "Ä;b\n\"é;ü\";2\n".toList := by decide +kernel
  have hformed : Encoding.utf8.WellFormed (dropMark ((diskOf accents).bytes 0)) := by
    rw [hcontent]
    exact .utf8 _
  have hencoding : (DataConfig.ofDirectory ".").fileEncoding = .ok .utf8 :=
    eq_ok_of_toOption (by decide +kernel)
  have hopen : (diskOf accents).open? "t" = .ok 0 := eq_ok_of_toOption (by decide +kernel)
  obtain ⟨hcolumns, hfound, -⟩ := select_decoded
    (c := DataConfig.ofDirectory ".") (eq_ok_of_toOption (by decide +kernel)) hencoding hopen rfl
    hformed Encoding.asciiOnly "t" "t"
  have hnames : (DataConfig.ofDirectory ".").columns
      (Encoding.utf8.decode Encoding.asciiOnly (dropMark ((diskOf accents).bytes 0)))
        = ["ä", "b"] := by
    decide +kernel
  have hrows : (DataConfig.ofDirectory ".").rows
      (Encoding.utf8.decode Encoding.asciiOnly (dropMark ((diskOf accents).bytes 0)))
        = [["é;ü", "2"]] := by
    decide +kernel
  rw [hnames] at hcolumns
  have hdistinct : Columns.checkDistinct ["ä", "b"] = .ok () :=
    eq_ok_of_toOption (by decide +kernel)
  rw [hdistinct] at hcolumns
  obtain ⟨s, hs, hnamed⟩ := map_eq_ok.1 hcolumns
  rw [hrows] at hfound
  refine ⟨s, hs, hnamed, fun filter => ?_⟩
  have hfilter := (hfound s hs).2 filter
  rw [hnamed] at hfilter
  exact hfilter

end Scan

end FlatQuery
