/-
Where the rows of a file are. The rows are the records of its text
behind the header; their number, width and values are facts about the
bytes alone (`Options.rows`). Before rows are selected a source is at
the first of them (`Opened`). Selecting walks over all of them and notes
for each a position that leads to its text, and afterwards the source
always knows which row its stream is at, if it is at one (`Located`).

A position leads to a row's text up to a byte-order mark. Where no row
begins with one (`Unmarked`), a row reads the same in whatever order
rows are asked for (`fetch_spec`).
-/
import Mathlib.Data.List.Forall2
import FlatQuery.Delimited.Source
import FlatQuery.Proofs.Delimited.View
import FlatQuery.Proofs.Result

namespace FlatQuery

open Text

/-- A disk on which a file that was opened still has these bytes, and no
other file has its name. The name may be gone. -/
structure Disk.Keeps (path : String) (number : Nat) (bytes : List UInt8) (disk : Disk) :
    Prop where
  contents : disk.bytes number = bytes
  name : ∀ n, disk.open? path = .ok n → n = number

namespace Delimited

open FlatQuery.Delimited.Stream

/-- No record begins with a byte-order mark, the one aside that the file
begins with. -/
def Unmarked (d : Dialect UInt8) (bytes : List UInt8) : Prop :=
  ∀ text ∈ starts d (dropMark bytes), ¬ mark <+: text

instance (d : Dialect UInt8) (bytes : List UInt8) : Decidable (Unmarked d bytes) :=
  inferInstanceAs (Decidable (∀ text ∈ starts d (dropMark bytes), ¬ mark <+: text))

-- ========================================================== of the bytes

namespace Options

variable (o : Options) (bytes : List UInt8)

/-- The text of a file behind its header. -/
def body : List UInt8 :=
  if o.hasHeader then
    ((record? o.dialect (dropMark bytes)).map Prod.snd).getD (dropMark bytes)
  else dropMark bytes

/-- Where that text starts, if a header stands before it. -/
def bodyStart : Nat :=
  if o.hasHeader && (record? o.dialect (dropMark bytes)).isSome then
    bytes.length - (o.body bytes).length
  else 0

/-- The column names of a file. -/
def names : List String :=
  ((record? o.dialect (dropMark bytes)).map fun found => o.columns found.1).getD []

/-- The values of the rows of a file. -/
def rows : List (List String) := (records o.dialect (o.body bytes)).map o.decode

variable {o bytes} in
/-- A header is as long as the position behind it. -/
theorem drop_bodyStart (h : o.bodyStart bytes ≠ 0) :
    bytes.drop (o.bodyStart bytes) = o.body bytes := by
  have hsuffix : o.body bytes <:+ bytes := by
    unfold body
    split
    · cases hrecord : record? o.dialect (dropMark bytes) with
      | none => exact dropMark_suffix bytes
      | some found =>
          exact (suffix_of_record? _ hrecord).trans (dropMark_suffix bytes)
    · exact dropMark_suffix bytes
  have hstart : o.bodyStart bytes = bytes.length - (o.body bytes).length := by
    unfold bodyStart at h ⊢
    split
    · rfl
    · next hno =>
      rw [if_neg hno] at h
      exact absurd rfl h
  rw [hstart]
  exact (List.suffix_iff_eq_drop.1 hsuffix).symm

theorem bodyStart_le : o.bodyStart bytes ≤ bytes.length := by
  unfold bodyStart
  split
  · exact Nat.sub_le ..
  · exact Nat.zero_le _

variable {o bytes} in
theorem body_of_bodyStart_eq_zero (h : o.bodyStart bytes = 0) :
    o.body bytes = dropMark bytes := by
  cases hheader : o.hasHeader with
  | false =>
      rw [body, hheader]
      rfl
  | true =>
      cases hrecord : record? o.dialect (dropMark bytes) with
      | none =>
          rw [body, hheader, hrecord]
          rfl
      | some found =>
          obtain ⟨record, rest⟩ := found
          have hbody : o.body bytes = rest := by
            rw [body, hheader, hrecord]
            rfl
          rw [bodyStart, hheader, hrecord, hbody] at h
          have hstart : bytes.length - rest.length = 0 := h
          have hshorter := length_of_record? _ hrecord
          have hle := length_dropMark_le bytes
          omega

theorem length_decode (record : Record UInt8) : (o.decode record).length = record.length :=
  List.length_map ..

end Options

variable {o : Options} {bytes : List UInt8}

/-- A position from which reading gives this text. -/
def Leads (bytes : List UInt8) (position : Nat) (text : List UInt8) : Prop :=
  bytes.drop position = text ∨ position = 0 ∧ dropMark bytes = text

-- ============================================================ a source

/-- A source that has its column names and no rows yet. -/
structure Opened (o : Options) (path : String) (number : Nat) (bytes : List UInt8)
    (s : Source) : Prop where
  path : s.path = path
  options : s.options = o
  dataStart : s.dataStart = o.bodyStart bytes
  positions : s.positions = #[]
  stream : ∀ stream, s.stream = some stream → Settled bytes stream ∧ stream.file = number
    ∧ (o.bodyStart bytes ≠ 0 → stream.position = o.bodyStart bytes)

/-- A source that knows where each row is, and which one its stream is
at, if it is at one. -/
structure Located (o : Options) (path : String) (number : Nat) (bytes : List UInt8)
    (s : Source) : Prop where
  path : s.path = path
  options : s.options = o
  positions : List.Forall₂ (Leads bytes) s.positions.toList (starts o.dialect (o.body bytes))
  stream : ∀ stream, s.stream = some stream → Settled bytes stream ∧ stream.file = number
  next : ∀ stream row, s.stream = some stream → s.nextRow = some row →
    ∀ text, (starts o.dialect (o.body bytes))[row]? = some text →
      bytes.drop stream.position = text

namespace Source

variable {path : String} {number : Nat} {disk : Disk} {s : Source}

/-- A source without a stream opens its file, if that is there. -/
theorem acquire_spec (hdisk : disk.Keeps path number bytes) (hpath : s.path = path)
    {result : Result Stream} {s' : Source} (h : s.acquire disk = (result, s')) :
    s.stream = none ∧ s' = { s with nextRow := none } ∧ (∃ e, result = .error e)
      ∨ ∃ stream, result = .ok stream
        ∧ (s.stream = some stream ∧ s' = s
          ∨ s.stream = none ∧ stream = .ofFile number ∧ s' = { s with nextRow := none }) := by
  unfold acquire at h
  cases hstream : s.stream with
  | some stream =>
      rw [hstream] at h
      cases h
      exact .inr ⟨stream, rfl, .inl ⟨rfl, rfl⟩⟩
  | none =>
      rw [hstream] at h
      cases h
      unfold openStream
      rw [hpath]
      cases hopen : disk.open? path with
      | error fault => exact .inl ⟨rfl, rfl, _, rfl⟩
      | ok n =>
          rw [hdisk.name n hopen]
          exact .inr ⟨_, rfl, .inr ⟨rfl, rfl, rfl⟩⟩

/-- Opening a file anew changes nothing but which row is next. -/
theorem acquire_fields {result : Result Stream} {s' : Source}
    (h : s.acquire disk = (result, s')) :
    s'.path = s.path ∧ s'.options = s.options ∧ s'.dataStart = s.dataStart
      ∧ s'.positions = s.positions := by
  unfold acquire at h
  split at h
  · cases h
    exact ⟨rfl, rfl, rfl, rfl⟩
  · cases h
    exact ⟨rfl, rfl, rfl, rfl⟩

-- ============================================================== opening

/-- The position behind a header is where the body starts. -/
theorem position_eq_bodyStart {stream : Stream} (h : Settled bytes stream)
    {record : Record UInt8} (hheader : o.hasHeader = true)
    (hrecord : record? o.dialect (dropMark bytes) = some (record, bytes.drop stream.position)) :
    stream.position = o.bodyStart bytes := by
  have hbody : o.body bytes = bytes.drop stream.position := by
    rw [Options.body, hheader, hrecord]
    rfl
  have hbounded := h.bounded
  rw [Options.bodyStart, hheader, hrecord, hbody, List.length_drop]
  show stream.position = bytes.length - (bytes.length - stream.position)
  omega

/-- Only a header that is there comes before the rows. -/
theorem header_of_bodyStart_ne_zero {text : List UInt8} {first : Option (Record UInt8)}
    (h : o.bodyStart bytes ≠ 0)
    (hrecord : record? o.dialect (dropMark bytes) = first.map (·, text)) :
    o.hasHeader = true ∧ ∃ record, first = some record := by
  cases hheader : o.hasHeader with
  | false =>
      rw [Options.bodyStart, hheader] at h
      exact absurd rfl h
  | true =>
      cases first with
      | none =>
          rw [Options.bodyStart, hheader, hrecord] at h
          exact absurd rfl h
      | some record => exact ⟨rfl, record, rfl⟩

/-- Opening a file reads its column names and nothing else, and leaves it
open. -/
theorem ofFile_eq (hopen : disk.open? path = .ok number)
    (hbytes : disk.bytes number = bytes) (o : Options) :
    ∃ s, Opened o path number bytes s ∧ s.stream.isSome = true
      ∧ Source.ofFile disk path o
        = (Columns.checkDistinct (o.names bytes)).map fun _ => (o.names bytes, s) := by
  -- the first record is read to learn the names, and where it ends the
  -- rows begin if it is a header
  cases hread : (Stream.ofFile number).readRecord disk o.dialect with
  | mk first after =>
      obtain ⟨hrecord, -, hsettled, hfile⟩ :=
        readRecord_eq o.dialect (view_ofFile bytes number) hbytes hread
      have hahead : ahead bytes (.ofFile number) = dropMark bytes := rfl
      rw [hahead] at hrecord
      have hnames : (first.map o.columns).getD [] = o.names bytes := by
        rw [Options.names, hrecord, Option.map_map]
        rfl
      -- without a header, or without any record, the rows begin where the
      -- stream was
      have hstart : (if first.isSome && o.hasHeader then after.position
          else (Stream.ofFile number).position) = o.bodyStart bytes := by
        cases first with
        | none =>
            rw [Options.bodyStart, hrecord]
            cases o.hasHeader <;> rfl
        | some record =>
            cases hheader : o.hasHeader with
            | true => exact position_eq_bodyStart hsettled hheader hrecord
            | false =>
                rw [Options.bodyStart, hheader]
                rfl
      refine ⟨⟨path, o, some after, o.bodyStart bytes, #[], none⟩, ⟨rfl, rfl, rfl, rfl, ?_⟩, rfl,
        ?_⟩
      -- the stream that opening leaves is the one behind that record
      · rintro stream hstream
        cases hstream
        refine ⟨hsettled, hfile, fun hne => ?_⟩
        rw [← hstart] at hne ⊢
        split
        · rfl
        · next hno =>
          rw [if_neg hno] at hne
          exact absurd rfl hne
      · unfold Source.ofFile openStream
        rw [hopen]
        dsimp only
        rw [Result.ok_bind, hread]
        dsimp only
        rw [hnames, hstart]
        cases Columns.checkDistinct (o.names bytes) <;> rfl

-- ============================================================ selecting

/-- Before rows are selected, jumping to where they start leads to the
text behind the header. -/
theorem ahead_start (h : Opened o path number bytes s) (hbytes : disk.bytes number = bytes)
    {stream : Stream} (hstream : s.stream = some stream ∨ stream = .ofFile number) :
    View bytes (stream.seek disk o.dialect (o.bodyStart bytes))
      ∧ (stream.seek disk o.dialect (o.bodyStart bytes)).file = number
      ∧ Leads bytes (stream.seek disk o.dialect (o.bodyStart bytes)).position
        (ahead bytes (stream.seek disk o.dialect (o.bodyStart bytes)))
      ∧ ahead bytes (stream.seek disk o.dialect (o.bodyStart bytes)) = o.body bytes := by
  -- whether the stream was kept from before or is a new one, before the
  -- jump it has read something
  have hready : Settled bytes (stream.primedStream disk o.dialect)
      ∧ (stream.primedStream disk o.dialect).file = number
      ∧ (o.bodyStart bytes ≠ 0 →
        (stream.primedStream disk o.dialect).position = o.bodyStart bytes) := by
    rcases hstream with hstream | rfl
    · obtain ⟨hsettled, hfile, hposition⟩ := h.stream stream hstream
      unfold primedStream
      rw [if_pos hsettled.primed]
      exact ⟨hsettled, hfile, hposition⟩
    · obtain ⟨hsettled, hfile⟩ := settled_primedStream o.dialect (view_ofFile bytes number)
        nofun hbytes
      refine ⟨hsettled, hfile, fun hne => ?_⟩
      cases hread : (Stream.ofFile number).readRecord disk o.dialect with
      | mk first after =>
          obtain ⟨hrecord, -⟩ := readRecord_eq o.dialect (view_ofFile bytes number) hbytes hread
          have hafter : (Stream.ofFile number).primedStream disk o.dialect = after := by
            rw [primedStream, hread]
            rfl
          rw [hafter] at hsettled ⊢
          obtain ⟨hheader, record, rfl⟩ := header_of_bodyStart_ne_zero hne hrecord
          exact position_eq_bodyStart hsettled hheader hrecord
  obtain ⟨hsettled, hfile, hposition⟩ := hready
  rw [position_seek]
  obtain ⟨hview, hfile', hahead⟩ := ahead_seek o.dialect hsettled (o.bodyStart_le bytes)
  -- rows from the beginning: a mark there is dropped by a fresh stream,
  -- and by one that has not moved; rows behind a header: the stream is
  -- there already
  by_cases hzero : o.bodyStart bytes = 0
  · have hbody := Options.body_of_bodyStart_eq_zero hzero
    rw [hzero] at hview hfile' hahead ⊢
    rw [List.drop_zero] at hahead
    rcases hahead with hahead | ⟨hahead, hempty⟩
    · exact ⟨hview, hfile'.trans hfile, .inr ⟨rfl, hahead.symm⟩, hahead.trans hbody.symm⟩
    · refine ⟨hview, hfile'.trans hfile, .inl hahead.symm, ?_⟩
      rw [hahead, hbody, hempty rfl]
      rfl
  · have hsame := hposition hzero
    rw [seek_of_position o.dialect hsame, hsettled.ahead_eq, hsame] at *
    exact ⟨hsettled.toView, hfile, .inl rfl, Options.drop_bodyStart hzero⟩

/-- What a walk over the rows notes. -/
structure Walked (o : Options) (number : Nat) (bytes : List UInt8) (admits : List String → Bool)
    (text : List UInt8) (positions matching : Array Nat) (found : Selection) : Prop where
  located : ∃ more, found.positions.toList = positions.toList ++ more
    ∧ List.Forall₂ (Leads bytes) more (starts o.dialect text)
  admitted : found.matching.toList = matching.toList
    ++ ((((records o.dialect text).map o.decode).zipIdx positions.size).filter
      fun (row, _) => admits row).map Prod.snd
  stream : Settled bytes found.stream ∧ found.stream.file = number

/-- A walk gets over all rows if they have the width, and notes where
each of them is and which are admitted. -/
theorem walk_spec (width : Nat) (admits : List String → Bool) {stream : Stream}
    (h : View bytes stream) (hfile : stream.file = number)
    (hbytes : disk.bytes number = bytes)
    (hleads : Leads bytes stream.position (ahead bytes stream))
    (positions matching : Array Nat) :
    (∀ found, walk disk o width admits stream positions matching = .ok found →
        (∀ record ∈ records o.dialect (ahead bytes stream), record.length = width)
          ∧ Walked o number bytes admits (ahead bytes stream) positions matching found)
      ∧ ((∀ record ∈ records o.dialect (ahead bytes stream), record.length = width) →
        ∃ found, walk disk o width admits stream positions matching = .ok found) := by
  fun_induction walk disk o width admits stream positions matching with
  -- no record ahead: nothing more is noted
  | case1 stream positions matching after hread =>
      obtain ⟨hrecord, -, hsettled, hfile'⟩ :=
        readRecord_eq o.dialect h (by rw [hfile, hbytes]) hread
      have hnone : cuts o.dialect (ahead bytes stream) = [] := cuts_of_none _ hrecord
      refine ⟨?_, fun _ => ⟨_, rfl⟩⟩
      rintro found ⟨⟩
      rw [records, hnone]
      refine ⟨List.forall_mem_nil _,
        ⟨⟨[], (List.append_nil _).symm, ?_⟩, ?_, hsettled, hfile'.trans hfile⟩⟩
      · rw [starts, hnone]
        exact .nil
      · rw [records, hnone]
        exact (List.append_nil _).symm
  -- a record of the right width: its position is noted, and its number if
  -- the row is admitted
  | case2 stream positions matching record after hread hwidth ih =>
      obtain ⟨hrecord, -, hsettled, hfile'⟩ :=
        readRecord_eq o.dialect h (by rw [hfile, hbytes]) hread
      obtain ⟨hstarts, hrecords⟩ := starts_of_some _ hrecord
      obtain ⟨hfound, hgoes⟩ :=
        ih hsettled.toView (hfile'.trans hfile) (.inl hsettled.ahead_eq.symm)
      rw [hsettled.ahead_eq] at hfound hgoes
      rw [hrecords, List.forall_mem_cons]
      refine ⟨fun found hwalk => ?_, fun hall => hgoes hall.2⟩
      obtain ⟨hwidths, ⟨more, hmore, hleads'⟩, hadmitted, hstream⟩ := hfound found hwalk
      refine ⟨⟨hwidth, hwidths⟩, ⟨⟨stream.position :: more, ?_, ?_⟩, ?_, hstream⟩⟩
      · rw [hmore, Array.toList_push, List.append_assoc]
        rfl
      · rw [hstarts]
        exact .cons hleads hleads'
      · rw [hadmitted, hrecords, List.map_cons, List.zipIdx_cons, List.filter_cons,
          Array.size_push]
        by_cases hadmits : admits (o.decode record) = true
        · simp [hadmits]
        · simp [hadmits]
  -- a record of another width ends the walk
  | case3 stream positions matching record after hread hwidth =>
      obtain ⟨hrecord, -⟩ := readRecord_eq o.dialect h (by rw [hfile, hbytes]) hread
      rw [(starts_of_some _ hrecord).2, List.forall_mem_cons]
      refine ⟨fun found hwalk => ?_, fun hall => absurd hall.1 hwidth⟩
      cases hwalk

/-- What selecting does to a source. If it finds rows, all rows have the
width, the rows found are those that are admitted, and each row can be
fetched; if it fails, the source can be asked again. -/
theorem select_spec (h : Opened o path number bytes s) (hdisk : disk.Keeps path number bytes)
    {name : String} {width : Nat} {admits : List String → Bool}
    {result : Result (Array Nat)} {s' : Source}
    (hselect : s.select disk name width admits = (result, s')) :
    (∀ matching, result = .ok matching →
        (∀ row ∈ o.rows bytes, row.length = width)
          ∧ matching.toList
            = ((o.rows bytes).zipIdx.filter fun (row, _) => admits row).map Prod.snd
          ∧ Located o path number bytes s' ∧ s'.stream.isSome = true)
      ∧ (∀ e, result = .error e → Opened o path number bytes s')
      ∧ (s.stream.isSome = true → (∀ row ∈ o.rows bytes, row.length = width) →
        ∃ matching, result = .ok matching) := by
  cases hacquire : s.acquire disk with
  | mk acquired s₁ =>
      unfold select at hselect
      rw [hacquire] at hselect
      -- a file that cannot be opened leaves the source as it was; else the
      -- walk begins at the rows
      rcases acquire_spec hdisk h.path hacquire with
        ⟨hnone, rfl, e, rfl⟩ | ⟨stream, rfl, hstream⟩
      · cases hselect
        refine ⟨nofun, fun _ _ => ⟨h.path, h.options, h.dataStart, h.positions, h.stream⟩, ?_⟩
        intro hsome
        rw [hnone] at hsome
        cases hsome
      · obtain ⟨hpath, hoptions, hstart, hpositions⟩ := acquire_fields hacquire
        rw [h.path] at hpath
        rw [h.positions] at hpositions
        obtain ⟨hview, hfile, hleads, hahead⟩ := ahead_start h hdisk.contents
          (hstream.imp (·.1) (·.2.1))
        obtain ⟨hfound, hgoes⟩ := walk_spec width admits hview hfile hdisk.contents
          hleads #[] #[]
        have hwidths : (∀ record ∈ records o.dialect (o.body bytes), record.length = width)
            ↔ ∀ row ∈ o.rows bytes, row.length = width := by
          rw [Options.rows, List.forall_mem_map]
          simp only [Options.length_decode]
        rw [hahead] at hfound hgoes
        dsimp only at hselect
        rw [hoptions, h.options, hstart, h.dataStart] at hselect
        cases hwalk : walk disk o width admits (stream.seek disk o.dialect (o.bodyStart bytes))
            #[] #[] with
        -- the walk met a row of another width, so not all of them have
        -- this one
        | error fault =>
            rw [hwalk] at hselect
            cases hselect
            refine ⟨nofun, fun _ _ => ⟨hpath, rfl, rfl, hpositions, nofun⟩, fun _ hall => ?_⟩
            obtain ⟨found, hok⟩ := hgoes (hwidths.2 hall)
            rw [hwalk] at hok
            cases hok
        | ok found =>
            rw [hwalk] at hselect
            cases hselect
            obtain ⟨hall, ⟨positions, hnoted, hleads'⟩, hadmitted, hsettled, hfile'⟩ :=
              hfound found hwalk
            -- what the walk noted are the positions of all rows
            rw [List.nil_append] at hnoted
            rw [← hnoted] at hleads'
            refine ⟨?_, nofun, fun _ _ => ⟨_, rfl⟩⟩
            rintro matching ⟨⟩
            refine ⟨hwidths.1 hall, hadmitted, ⟨hpath, rfl, hleads', ?_, ?_⟩, rfl⟩
            · rintro stream ⟨⟩
              exact ⟨hsettled, hfile'⟩
            · -- the stream is behind the last row
              rintro stream row ⟨⟩ ⟨⟩ text htext
              have hbehind : (starts o.dialect (o.body bytes)).length ≤ found.positions.size :=
                Nat.le_of_eq (hleads'.length_eq.symm.trans Array.length_toList)
              rw [List.getElem?_eq_none hbehind] at htext
              cases htext

-- ============================================================= fetching

/-- The rows are records of the file. -/
theorem mem_starts_of_body {text : List UInt8}
    (h : text ∈ starts o.dialect (o.body bytes)) : text ∈ starts o.dialect (dropMark bytes) := by
  cases hheader : o.hasHeader with
  | false =>
      rw [Options.body, hheader] at h
      exact h
  | true =>
      cases hrecord : record? o.dialect (dropMark bytes) with
      | none =>
          rw [Options.body, hheader, hrecord] at h
          exact h
      | some found =>
          rw [Options.body, hheader, hrecord] at h
          rw [(starts_of_some _ hrecord).1]
          exact List.mem_cons_of_mem _ h

/-- Where no row begins with a mark, a jump to a row is as good as reading
up to it. -/
theorem ahead_row {text : List UInt8} {record : Record UInt8} {rest : List UInt8}
    (hrecord : record? o.dialect text = some (record, rest)) (htext : ¬ mark <+: text)
    {position : Nat} (hleads : Leads bytes position text) {stream : Stream}
    (h : Settled bytes (stream.primedStream disk o.dialect)) :
    View bytes (stream.seek disk o.dialect position)
      ∧ (stream.seek disk o.dialect position).file
        = (stream.primedStream disk o.dialect).file
      ∧ ahead bytes (stream.seek disk o.dialect position) = text := by
  -- a position behind the end would lead to nothing, where no record
  -- begins
  have hposition : position ≤ bytes.length := by
    rcases hleads with hdrop | ⟨rfl, -⟩
    · by_contra hbeyond
      rw [List.drop_of_length_le (by omega)] at hdrop
      rw [← hdrop] at hrecord
      cases hrecord
    · exact Nat.zero_le _
  obtain ⟨hview, hfile, hahead⟩ := ahead_seek o.dialect h hposition
  refine ⟨hview, hfile, ?_⟩
  -- the rest behind the position, which no mark begins, or the very
  -- beginning of the file
  rcases hleads with hdrop | ⟨rfl, hfirst⟩
  · rcases hahead with hahead | ⟨hahead, -⟩
    · rw [hahead, hdrop, dropMark_eq_self htext]
    · rw [hahead, hdrop]
  · rcases hahead with hahead | ⟨hahead, hempty⟩
    · exact hahead.trans hfirst
    · rw [hahead, ← hfirst, hempty rfl]
      rfl

/-- A position is that of a row, and behind the row comes the next. -/
theorem exists_row (h : Located o path number bytes s) {row position : Nat}
    (hposition : s.positions[row]? = some position) :
    ∃ text record rest, (starts o.dialect (o.body bytes))[row]? = some text
      ∧ Leads bytes position text ∧ record? o.dialect text = some (record, rest)
      ∧ (o.rows bytes)[row]? = some (o.decode record)
      ∧ ∀ text', (starts o.dialect (o.body bytes))[row + 1]? = some text' → rest = text' := by
  obtain ⟨hrow, rfl⟩ := Array.getElem?_eq_some_iff.1 hposition
  have hlength := h.positions.length_eq
  rw [Array.length_toList] at hlength
  have hleads := h.positions.get (i := row) (by simpa using hrow) (hlength ▸ hrow)
  -- the row is one of the cuts, and what was noted for it leads to its
  -- text
  obtain ⟨⟨text, record⟩, hcut⟩ : ∃ cut, (cuts o.dialect (o.body bytes))[row]? = some cut :=
    ⟨_, List.getElem?_eq_getElem (by rw [hlength, starts, List.length_map] at hrow; exact hrow)⟩
  obtain ⟨rest, hrecord, hbehind⟩ := record?_of_cuts o.dialect hcut
  have hstart : (starts o.dialect (o.body bytes))[row]? = some text := by
    rw [starts, List.getElem?_map, hcut]
    rfl
  refine ⟨text, record, rest, hstart, ?_, hrecord, ?_, fun text' htext' => ?_⟩
  · rw [← Option.some.inj ((List.getElem?_eq_getElem (hlength ▸ hrow)).symm.trans hstart)]
    simpa using hleads
  · rw [Options.rows, records, List.map_map, List.getElem?_map, hcut]
    rfl
  -- the next row is what is left behind this one
  · rw [starts, List.getElem?_map, ← Nat.add_zero (row + 1), ← List.getElem?_drop, hbehind]
      at htext'
    cases hrest : record? o.dialect rest with
    | none =>
        rw [cuts_of_none _ hrest] at htext'
        cases htext'
    | some found =>
        rw [cuts_of_some _ hrest] at htext'
        exact Option.some.inj htext'

theorem rows_eq_none (h : Located o path number bytes s) {row : Nat}
    (hposition : s.positions[row]? = none) : (o.rows bytes)[row]? = none := by
  have hlength := h.positions.length_eq
  rw [Array.length_toList, starts, List.length_map] at hlength
  rw [Array.getElem?_eq_none_iff, hlength] at hposition
  rw [List.getElem?_eq_none_iff, Options.rows, records, List.length_map, List.length_map]
  exact hposition

/-- The stream that a row is read from, which is the one at hand or has
jumped to the row, is at the row's text. -/
theorem stream_at_row (h : Located o path number bytes s) (hbytes : disk.bytes number = bytes)
    (hunmarked : Unmarked o.dialect bytes) {row position : Nat} {text rest : List UInt8}
    {record : Record UInt8} (hstart : (starts o.dialect (o.body bytes))[row]? = some text)
    (hleads : Leads bytes position text) (hrecord : record? o.dialect text = some (record, rest))
    {stream : Stream} {s₁ : Source} (hstream : s.stream = some stream ∧ s₁ = s
      ∨ s.stream = none ∧ stream = .ofFile number ∧ s₁ = { s with nextRow := none }) :
    ∃ stream', (if s₁.nextRow = some row then stream
        else stream.seek disk o.dialect position) = stream'
      ∧ View bytes stream' ∧ stream'.file = number ∧ ahead bytes stream' = text := by
  split
  · next hnext =>
    rcases hstream with ⟨hsome, rfl⟩ | ⟨-, -, rfl⟩
    · obtain ⟨hsettled, hfile⟩ := h.stream stream hsome
      refine ⟨stream, rfl, hsettled.toView, hfile, ?_⟩
      rw [hsettled.ahead_eq]
      exact h.next stream row hsome hnext text hstart
    · cases hnext
  · have hprimed : Settled bytes (stream.primedStream disk o.dialect)
        ∧ (stream.primedStream disk o.dialect).file = number := by
      rcases hstream with ⟨hsome, -⟩ | ⟨-, rfl, -⟩
      · obtain ⟨hsettled, hfile⟩ := h.stream stream hsome
        rw [primedStream, if_pos hsettled.primed]
        exact ⟨hsettled, hfile⟩
      · exact settled_primedStream o.dialect (view_ofFile bytes number) nofun hbytes
    have hmem := mem_starts_of_body (List.mem_of_getElem? hstart)
    obtain ⟨hview, hfile, hahead⟩ :=
      ahead_row hrecord (hunmarked text hmem) hleads hprimed.1
    exact ⟨_, rfl, hview, hfile.trans hprimed.2, hahead⟩

/-- What fetching does to a source in which no row begins with a mark: it
gives the values of the row, unless the file had to be opened again and
was not there. -/
theorem fetch_spec (h : Located o path number bytes s) (hdisk : disk.Keeps path number bytes)
    (hunmarked : Unmarked o.dialect bytes) {aliasName : String} {row : Nat}
    {result : Result (List String)} {s' : Source}
    (hfetch : s.fetch disk aliasName row = (result, s')) :
    Located o path number bytes s'
      ∧ (∀ values, result = .ok values → (o.rows bytes)[row]? = some values)
      ∧ (s.stream.isSome = true → s'.stream.isSome = true
        ∧ result = match (o.rows bytes)[row]? with
          | some values => .ok values
          | none => .error (.rowNotFound aliasName row)) := by
  unfold fetch at hfetch
  cases hposition : s.positions[row]? with
  | none =>
      rw [hposition] at hfetch
      cases hfetch
      rw [rows_eq_none h hposition]
      exact ⟨h, nofun, fun hsome => ⟨hsome, rfl⟩⟩
  | some position =>
      obtain ⟨text, record, rest, hstart, hleads, hrecord, hvalues, hbehind⟩ :=
        exists_row h hposition
      rw [hposition] at hfetch
      cases hacquire : s.acquire disk with
      | mk acquired s₁ =>
          rw [hacquire] at hfetch
          rcases acquire_spec hdisk h.path hacquire with
            ⟨hnone, rfl, e, rfl⟩ | ⟨stream, rfl, hstream⟩
          · cases hfetch
            refine ⟨⟨h.path, h.options, h.positions, h.stream, nofun⟩, nofun, fun hsome => ?_⟩
            rw [hnone] at hsome
            cases hsome
          · obtain ⟨hpath, hoptions, -, hpositions⟩ := acquire_fields hacquire
            obtain ⟨stream', hstream', hview, hfile, hahead⟩ :=
              stream_at_row h hdisk.contents hunmarked hstart hleads hrecord hstream
            dsimp only at hfetch
            rw [hoptions, h.options, hstream'] at hfetch
            cases hread : stream'.readRecord disk o.dialect with
            | mk found after =>
                obtain ⟨hfound, -, hsettled, hfile'⟩ :=
                  readRecord_eq o.dialect hview (by rw [hfile, hdisk.contents]) hread
                rw [hahead, hrecord] at hfound
                obtain ⟨record', rfl, heq⟩ := Option.map_eq_some_iff.1 hfound.symm
                cases heq
                rw [hread] at hfetch
                cases hfetch
                rw [hvalues]
                refine ⟨⟨hpath.trans h.path, rfl, ?_, ?_, ?_⟩, ?_, fun _ => ⟨rfl, rfl⟩⟩
                · show List.Forall₂ (Leads bytes) s₁.positions.toList _
                  rw [hpositions]
                  exact h.positions
                · rintro stream ⟨⟩
                  exact ⟨hsettled, hfile'.trans hfile⟩
                · rintro stream row' ⟨⟩ ⟨⟩ text' htext'
                  exact hbehind text' htext'
                · rintro values ⟨⟩
                  rfl

end Source

end Delimited

end FlatQuery
