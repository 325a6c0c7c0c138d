/-
Rows in memory and the same rows in a file. A scan of a table and a scan
of a file with its rows differ in their backends alone, and the backend
of the latter is ready for whatever the phase allows (`Mirrors`). Every
operation keeps this and answers the same on both (`Mirrors.perform`),
so no history tells the one from the other (`Mirrors.trace_eq`), and
that goes for every way of writing the table down
(`trace_ofFile_eq_trace_ofTable`).

Fetching by itself is left out. It heeds no phase, and a file gives no
rows before selecting has found where they are.
-/
import FlatQuery.Proofs.Delimited.Encoded
import FlatQuery.Proofs.Scan.File
import FlatQuery.Proofs.Scan.Memory

namespace FlatQuery.Scan

open Delimited Delimited.Source Text

-- ======================================================= observations

/-- What a scan shows of itself. -/
structure Shown where
  name : String
  aliasName : String
  columns : List String
  phase : Phase
  matching : Array Nat
  selected : List String
  deriving DecidableEq, Repr

def shown (s : Scan) : Shown :=
  ⟨s.name, s.aliasName, s.columns, s.phase, s.matching, s.selected⟩

/-- The answers to a history, each with what the scan shows after it. -/
def trace (s : Scan) :
    List (Disk × Operation) → List (Result (Option (List String)) × Shown)
  | [] => []
  | (disk, operation) :: history =>
    ((s.perform disk operation).1, (s.perform disk operation).2.shown)
      :: (s.perform disk operation).2.trace history

-- ============================================================= mirrors

/-- The scan, with its rows in a file. -/
def onFile (t : Scan) (source : Source) : Scan := { t with backend := .file source }

/-- A source that has what a scan in this phase may ask for, and need not
open its file again. -/
structure Ready (o : Options) (path : String) (number : Nat) (bytes : List UInt8)
    (phase : Phase) (source : Source) : Prop where
  opened : phase = .unselected → Opened o path number bytes source
  located : phase = .selected ∨ phase = .reading → Located o path number bytes source
  stream : phase ≠ .stopped → source.stream.isSome = true

/-- The scan of a file `s` is the scan of a table `t` but for the
backend. -/
structure Mirrors (o : Options) (path : String) (number : Nat) (bytes : List UInt8)
    (table : Table) (s t : Scan) : Prop where
  memory : Over table t
  source : ∃ source, s = t.onFile source ∧ Ready o path number bytes t.phase source

section
variable {o : Options} {path : String} {number : Nat} {bytes : List UInt8} {table : Table}
  {s t : Scan} {disk : Disk}

/-- What is asked of both is refused by both. -/
theorem expect_onFile (t : Scan) (source : Source) (request : Request) (allowed : List Phase) :
    (t.onFile source).expect request allowed = t.expect request allowed := rfl

/-- The columns to read do not depend on the backend. -/
theorem startRead_onFile (t : Scan) (source : Source) (columns : List String) :
    (t.onFile source).startRead columns
      = ((t.startRead columns).1, (t.startRead columns).2.onFile source) := by
  have houtcome : (do
        t.expect .startRead [.selected, .reading]
        Columns.resolve (t.onFile source).aliasName (t.onFile source).columns columns)
      = (do
        t.expect .startRead [.selected, .reading]
        Columns.resolve t.aliasName t.columns columns) := rfl
  unfold startRead
  dsimp only
  rw [expect_onFile, houtcome]
  cases (do
      t.expect .startRead [.selected, .reading]
      Columns.resolve t.aliasName t.columns columns : Result (List Nat)) with
  | error e => rfl
  | ok ids => rfl

/-- Scans that mirror one another show the same. -/
theorem Mirrors.shown_eq (h : Mirrors o path number bytes table s t) : s.shown = t.shown := by
  obtain ⟨-, source, rfl, -⟩ := h
  rfl

/-- At first a source is opened. -/
theorem ready_unselected {source : Source} (hopened : Opened o path number bytes source)
    (hstream : source.stream.isSome = true) : Ready o path number bytes .unselected source where
  opened := fun _ => hopened
  located := fun h => by simp at h
  stream := fun _ => hstream

/-- Nothing is asked of a source that was let go of. -/
theorem ready_stopped (source : Source) : Ready o path number bytes .stopped source where
  opened := nofun
  located := fun h => by simp at h
  stream := fun h => absurd rfl h

/-- Once rows were selected, it matters that they can be fetched. -/
theorem ready_iff {phase : Phase} (hphase : phase = .selected ∨ phase = .reading)
    {source : Source} : Ready o path number bytes phase source
      ↔ Located o path number bytes source ∧ source.stream.isSome = true := by
  constructor
  · intro h
    refine ⟨h.located hphase, h.stream ?_⟩
    rcases hphase with rfl | rfl
    · nofun
    · nofun
  · rintro ⟨hlocated, hstream⟩
    refine ⟨?_, fun _ => hlocated, fun _ => hstream⟩
    rcases hphase with rfl | rfl
    · nofun
    · nofun

-- ========================================================== operations

/-- The columns are asked for with the same answer, and the scans still mirror
one another. -/
theorem Mirrors.startRead (h : Mirrors o path number bytes table s t) (columns : List String) :
    ∃ s', s.startRead columns = ((t.startRead columns).1, s')
      ∧ Mirrors o path number bytes table s' (t.startRead columns).2 := by
  obtain ⟨hmemory, source, rfl, hready⟩ := h
  refine ⟨_, startRead_onFile t source columns, hmemory.startRead columns, source, rfl, ?_⟩
  unfold Scan.startRead
  dsimp only
  split
  · exact hready
  · next ids houtcome =>
    obtain ⟨⟨⟩, hexpect, -⟩ := Result.bind_eq_ok.1 houtcome
    have hphase : t.phase = .selected ∨ t.phase = .reading := by
      simpa using phase_of_expect hexpect
    exact (ready_iff (.inr rfl)).2 ((ready_iff hphase).1 hready)

/-- Stopping lets go of the file, and both have stopped. -/
theorem Mirrors.stop (h : Mirrors o path number bytes table s t) :
    Mirrors o path number bytes table s.stop t.stop := by
  obtain ⟨hmemory, source, rfl, hready⟩ := h
  refine ⟨hmemory.stop, ?_⟩
  by_cases hphase : t.phase = .stopped
  · have hkept : t.stop = t := if_pos hphase
    have hkept' : (t.onFile source).stop = t.onFile source := if_pos hphase
    rw [hkept, hkept']
    exact ⟨source, rfl, hready⟩
  · have hstop : (t.onFile source).stop = t.stop.onFile source.release := by
      unfold Scan.stop
      rw [if_neg hphase, if_neg (show (t.onFile source).phase ≠ .stopped from hphase)]
      rfl
    have hstopped : t.stop.phase = .stopped := by
      unfold Scan.stop
      rw [if_neg hphase]
    rw [hstop, hstopped]
    exact ⟨_, rfl, ready_stopped _⟩

/-- Selecting takes over what the backend finds. -/
theorem select_of_ok {filter : Option Predicate} {rows : Array Nat} {backend : Backend}
    (hexpect : t.expect .select [.unselected] = .ok ())
    (hfound : t.selectRows disk filter = (.ok rows, backend)) :
    t.select disk filter
      = (.ok (), { t with backend := backend, matching := rows, phase := .selected }) := by
  unfold Scan.select
  rw [hexpect]
  dsimp only
  rw [hfound]

/-- Before rows were selected, both backends find the rows that the
filter admits. -/
theorem selectRows_onFile (hmemory : Over table t) {source : Source}
    (hready : Ready o path number bytes .unselected source)
    (hrows : o.rows bytes = table.rows.toList) (hdisk : disk.Keeps path number bytes)
    (filter : Option Predicate) :
    ∃ rows source', t.selectRows disk filter = (.ok rows, t.backend)
      ∧ (t.onFile source).selectRows disk filter = (.ok rows, .file source')
      ∧ Ready o path number bytes .selected source' := by
  have hwidth : ∀ row ∈ o.rows bytes, row.length = t.columns.length := by
    rw [hrows, hmemory.columns]
    exact table.rectangular
  cases hselect : source.select disk t.name t.columns.length (t.admits filter) with
  | mk result source' =>
      obtain ⟨hfound, -, hgoes⟩ := select_spec (hready.opened rfl) hdisk hselect
      -- a file may fail where a table does not: for a row of another width, or if it is gone
      obtain ⟨rows, rfl⟩ := hgoes (hready.stream nofun) hwidth
      obtain ⟨-, hadmitted, hserves⟩ := hfound rows rfl
      refine ⟨rows, source', ?_, ?_, (ready_iff (.inl rfl)).2 hserves⟩
      · rw [hrows] at hadmitted
        unfold Scan.selectRows
        rw [hmemory.backend]
        dsimp only
        rw [← hadmitted, Array.toArray_toList]
      · rw [selectRows_file rfl]
        show ((source.select disk t.name t.columns.length (t.admits filter)).1,
          Backend.file (source.select disk t.name t.columns.length (t.admits filter)).2) = _
        rw [hselect]

/-- A selection passes over the rows of the file as over those of the table,
and so keeps the same. -/
theorem Mirrors.select (h : Mirrors o path number bytes table s t)
    (hrows : o.rows bytes = table.rows.toList) (hdisk : disk.Keeps path number bytes)
    (filter : Option Predicate) :
    ∃ s', s.select disk filter = ((t.select disk filter).1, s')
      ∧ Mirrors o path number bytes table s' (t.select disk filter).2 := by
  obtain ⟨hmemory, source, rfl, hready⟩ := h
  have hafter := hmemory.moved (moved_select disk filter _)
  cases hexpect : t.expect .select [.unselected] with
  | error e =>
      have hrefused : t.select disk filter = (.error e, t) := by
        unfold Scan.select
        rw [hexpect]
      have hrefused' : (t.onFile source).select disk filter = (.error e, t.onFile source) := by
        unfold Scan.select
        rw [expect_onFile, hexpect]
      rw [hrefused, hrefused']
      exact ⟨_, rfl, hmemory, source, rfl, hready⟩
  | ok u =>
      have hphase : t.phase = .unselected := List.mem_singleton.1 (phase_of_expect hexpect)
      rw [hphase] at hready
      obtain ⟨rows, source', htable, hfile, hready'⟩ :=
        selectRows_onFile hmemory hready hrows hdisk filter
      rw [select_of_ok hexpect htable] at hafter ⊢
      exact ⟨_, select_of_ok hexpect hfile, hafter, source', rfl, hready'⟩

section
variable (hrows : o.rows bytes = table.rows.toList) (hunmarked : Unmarked o.dialect bytes)
  (hdisk : disk.Keeps path number bytes)
include hrows hunmarked hdisk

/-- Both give the same for a row once rows were selected. -/
theorem Mirrors.fetch (h : Mirrors o path number bytes table s t)
    (hphase : t.phase = .selected ∨ t.phase = .reading) (row : Nat) :
    ∃ s', s.fetch disk row = ((t.fetch disk row).1, s')
      ∧ Mirrors o path number bytes table s' t := by
  obtain ⟨hmemory, source, rfl, hready⟩ := h
  obtain ⟨hlocated, hstream⟩ := (ready_iff hphase).1 hready
  obtain ⟨hlocated', -, hgiven⟩ := fetch_spec hlocated hdisk hunmarked
    (Prod.eta (source.fetch disk t.aliasName row)).symm
  obtain ⟨hstream', hanswer⟩ := hgiven hstream
  have hsame : (source.fetch disk t.aliasName row).1 = (t.fetch disk row).1 := by
    rw [hanswer, hrows, Array.getElem?_toList, Scan.fetch, hmemory.backend]
    dsimp only
    cases table.rows[row]? with
    | some values => rfl
    | none => rfl
  have hfetch : (t.onFile source).fetch disk row
      = ((t.fetch disk row).1, t.onFile (source.fetch disk t.aliasName row).2) := by
    rw [fetch_file rfl, ← hsame]
    rfl
  exact ⟨_, hfetch, hmemory, _, rfl, (ready_iff hphase).2 ⟨hlocated', hstream'⟩⟩

/-- A row is fetched from the file as it stands in the table. -/
theorem Mirrors.readRow (h : Mirrors o path number bytes table s t) (row : Nat) :
    ∃ s', s.readRow disk row = ((t.readRow disk row).1, s')
      ∧ Mirrors o path number bytes table s' t := by
  obtain ⟨source, hs, -⟩ := h.source
  have hexpect' : s.expect .read [.selected, .reading] = t.expect .read [.selected, .reading] := by
    rw [hs, expect_onFile]
  have hmatching : s.matching = t.matching := by rw [hs]; rfl
  have hname : s.aliasName = t.aliasName := by rw [hs]; rfl
  unfold Scan.readRow
  rw [hexpect', hmatching, hname]
  cases hexpect : t.expect .read [.selected, .reading] with
  | error e => exact ⟨s, rfl, h⟩
  | ok u =>
      dsimp only
      have hphase : t.phase = .selected ∨ t.phase = .reading := by
        simpa using phase_of_expect hexpect
      split
      · exact h.fetch hrows hunmarked hdisk hphase row
      · exact ⟨s, rfl, h⟩

/-- And so are the values asked of it. -/
theorem Mirrors.read (h : Mirrors o path number bytes table s t) (row : Nat) :
    ∃ s', s.read disk row = ((t.read disk row).1, s')
      ∧ Mirrors o path number bytes table s' t := by
  obtain ⟨source, hs, -⟩ := h.source
  have hexpect' : s.expect .read [.reading] = t.expect .read [.reading] := by
    rw [hs, expect_onFile]
  obtain ⟨s', hrow, hafter⟩ := h.readRow hrows hunmarked hdisk row
  have hkept := h.memory.readRow_snd disk row
  obtain ⟨source', hs', -⟩ := hafter.source
  unfold Scan.read
  rw [hexpect', hrow]
  cases t.expect .read [.reading] with
  | error e => exact ⟨s, rfl, h⟩
  | ok u =>
      cases hread : t.readRow disk row with
      | mk answer t' =>
          rw [hread] at hkept
          obtain rfl : t' = t := hkept
          cases answer with
          | error e => exact ⟨s', rfl, hafter⟩
          | ok values =>
              refine ⟨s', ?_, hafter⟩
              rw [hs']
              rfl

/-- The next selected row is the same, and the cursors stay together. -/
theorem Mirrors.next (h : Mirrors o path number bytes table s t) :
    ∃ s', s.next disk = ((t.next disk).1, s')
      ∧ Mirrors o path number bytes table s' (t.next disk).2 := by
  obtain ⟨source, hs, -⟩ := h.source
  have hexpect' : s.expect .advance [.reading] = t.expect .advance [.reading] := by
    rw [hs, expect_onFile]
  have hrow : s.matching[s.cursor]? = t.matching[t.cursor]? := by rw [hs]; rfl
  unfold Scan.next
  rw [hexpect', hrow]
  cases t.expect .advance [.reading] with
  | error e => exact ⟨s, rfl, h⟩
  | ok u =>
      dsimp only
      cases t.matching[t.cursor]? with
      | none => exact ⟨s, rfl, h⟩
      | some row =>
          dsimp only
          obtain ⟨s', hread', hafter⟩ := h.read hrows hunmarked hdisk row
          have hkept := h.memory.read_snd disk row
          rw [hread']
          cases hread : t.read disk row with
          | mk answer t' =>
              rw [hread] at hkept
              obtain rfl : t' = t := hkept
              cases answer with
              | error e => exact ⟨s', rfl, hafter⟩
              | ok values =>
                  obtain ⟨hmemory, source', rfl, hready⟩ := hafter
                  exact ⟨_, rfl, hmemory.withCursor _, source', rfl, hready⟩

/-- Every operation answers the same on both, and leaves them as alike as
they were. -/
theorem Mirrors.perform (h : Mirrors o path number bytes table s t) {operation : Operation}
    (hoperation : ∀ row, operation ≠ .fetch row) :
    ∃ s', s.perform disk operation = ((t.perform disk operation).1, s')
      ∧ Mirrors o path number bytes table s' (t.perform disk operation).2 := by
  cases operation with
  | select filter =>
      obtain ⟨s', hselect, hafter⟩ := h.select hrows hdisk filter
      refine ⟨s', ?_, hafter⟩
      rw [Scan.perform, hselect]
      rfl
  | startRead columns =>
      obtain ⟨s', hstart, hafter⟩ := h.startRead columns
      refine ⟨s', ?_, hafter⟩
      rw [Scan.perform, hstart]
      rfl
  | fetch row => exact absurd rfl (hoperation row)
  | readRow row =>
      obtain ⟨s', hread, hafter⟩ := h.readRow hrows hunmarked hdisk row
      refine ⟨s', ?_, ?_⟩
      · rw [Scan.perform, hread]
        rfl
      · show Mirrors o path number bytes table s' (t.readRow disk row).2
        rw [h.memory.readRow_snd]
        exact hafter
  | read row =>
      obtain ⟨s', hread, hafter⟩ := h.read hrows hunmarked hdisk row
      refine ⟨s', ?_, ?_⟩
      · rw [Scan.perform, hread]
        rfl
      · show Mirrors o path number bytes table s' (t.read disk row).2
        rw [h.memory.read_snd]
        exact hafter
  | next => exact h.next hrows hunmarked hdisk
  | stop => exact ⟨s.stop, rfl, h.stop⟩

end

/-- No history tells the two scans from each other. -/
theorem Mirrors.trace_eq (h : Mirrors o path number bytes table s t)
    (hrows : o.rows bytes = table.rows.toList) (hunmarked : Unmarked o.dialect bytes)
    {history : List (Disk × Operation)}
    (hdisks : ∀ step ∈ history, step.1.Keeps path number bytes)
    (hoperations : ∀ step ∈ history, ∀ row, step.2 ≠ .fetch row) :
    s.trace history = t.trace history := by
  induction history generalizing s t with
  | nil => rfl
  | cons step history ih =>
      obtain ⟨disk, operation⟩ := step
      obtain ⟨hdisk, hdisks⟩ := List.forall_mem_cons.1 hdisks
      obtain ⟨hoperation, hoperations⟩ := List.forall_mem_cons.1 hoperations
      obtain ⟨s', hperform, hafter⟩ := h.perform hrows hunmarked hdisk hoperation
      rw [trace, trace, hperform]
      dsimp only
      rw [hafter.shown_eq, ih hafter hdisks hoperations]

/-- A scan of a file with the columns of a table opens and mirrors the
table's scan. -/
theorem exists_mirrors (hnames : o.names bytes = table.columns)
    (hopen : disk.open? path = .ok number) (hbytes : disk.bytes number = bytes)
    (name aliasName : String) :
    ∃ s, ofFile disk name aliasName path o = .ok s
      ∧ Mirrors o path number bytes table s (ofTable name aliasName table) := by
  have hdistinct : Columns.checkDistinct table.columns = .ok () := by
    rw [Columns.checkDistinct, table.distinct]
  obtain ⟨source, hopened, hstream, hsource⟩ := Source.ofFile_eq hopen hbytes o
  rw [hnames, hdistinct] at hsource
  refine ⟨(ofTable name aliasName table).onFile source, ?_,
    over_ofTable name aliasName table, source, rfl, ready_unselected hopened hstream⟩
  unfold ofFile
  rw [hsource]
  rfl

end

-- ============================================================= sheets

/-- A sheet that has the columns of a table as its header and the rows as
its rows. -/
structure Shows (sheet : Sheet Char) (table : Table) : Prop where
  header : sheet.header.row = table.columns
  rows : sheet.rows.map Line.row = table.rows.toList

instance (sheet : Sheet Char) (table : Table) : Decidable (Shows sheet table) :=
  decidable_of_iff (sheet.header.row = table.columns
      ∧ sheet.rows.map Line.row = table.rows.toList)
    ⟨fun h => ⟨h.1, h.2⟩, fun h => ⟨h.header, h.rows⟩⟩

/-- A table that was written down as a sheet in UTF-8 reads like the table
in memory, however it was written: a scan of the file opens, and then
gives the same answers and shows the same of itself, whatever it is
asked. -/
theorem trace_ofFile_eq_trace_ofTable {table : Table}
    (hnames : ∀ name ∈ table.columns, trim name = name ∧ lowercase name = name)
    {c : DataConfig} (hvalid : c.validate = .ok ())
    (hquote : c.quote ≠ '\r' ∧ c.quote ≠ '\n') (hheader : c.hasHeader = true)
    (hencoding : c.fileEncoding = .ok .utf8) {decoders : Encoding.Decoders} {sheet : Sheet Char}
    (hshows : Shows sheet table) (hclean : sheet.Clean c.symbols)
    {disk : Disk} {path : String} {number : Nat} (hopen : disk.open? path = .ok number)
    (hbytes : disk.bytes number = c.file sheet) (name aliasName : String) :
    ∃ s, ofFile disk name aliasName path (c.options decoders) = .ok s
      ∧ s.shown = (ofTable name aliasName table).shown
      ∧ ∀ history : List (Disk × Operation),
        (∀ step ∈ history, step.1.Keeps path number (c.file sheet)) →
        (∀ step ∈ history, ∀ row, step.2 ≠ .fetch row) →
        s.trace history = (ofTable name aliasName table).trace history := by
  obtain ⟨hcolumns, hrows, hunmarked⟩ :=
    read_file (reads_options hvalid hquote hheader hencoding decoders) hclean
  have hsame : (c.options decoders).names (c.file sheet) = table.columns := by
    rw [hcolumns, hshows.header]
    refine (List.map_congr_left fun name hname => ?_).trans (List.map_id _)
    rw [(hnames name hname).1, (hnames name hname).2]
    rfl
  obtain ⟨s, hs, hmirrors⟩ := exists_mirrors hsame hopen hbytes name aliasName
  refine ⟨s, hs, hmirrors.shown_eq, fun history hdisks hoperations => ?_⟩
  exact hmirrors.trace_eq (hrows.trans hshows.rows) hunmarked hdisks hoperations

-- ============================================================= a table

/-- Two towns, one of them with a name that needs quotes. -/
def townsTable : Table where
  columns := ["id", "town"]
  rows := #[["1", "a;\"b\""], ["2", ""]]
  distinct := by decide
  rectangular := by decide

/-- One way to write them down. -/
def townsSheet : Sheet Char where
  blanks := [.newline]
  header := ⟨[.bare "id".toList, .quoted "town".toList], .both, []⟩
  rows := [
    ⟨[.bare "1".toList, .quoted "a;\"b\"".toList], .carriageReturn, [.both, .newline]⟩,
    ⟨[.quoted "2".toList, .bare []], .newline, []⟩]

def townsConfig : DataConfig := .ofDirectory "data"

def townsDisk : Disk := diskOf (String.ofList (townsSheet.text townsConfig.symbols))

/-- Selecting, reading on, going back, and going on after the end. -/
def townsHistory : List (Disk × Operation) :=
  [.select none, .startRead ["town"], .next, .next, .next, .readRow 0, .read 7, .stop, .next].map
    fun operation => (townsDisk, operation)

/-- The file and the table give the same rows and refuse the same. -/
theorem trace_ofFile_eq_trace_ofTable_towns :
    ∃ s, ofFile townsDisk "towns" "t" "t" (townsConfig.options Encoding.asciiOnly) = .ok s
      ∧ s.trace townsHistory = (ofTable "towns" "t" townsTable).trace townsHistory
      ∧ (s.trace townsHistory).map (·.1.toOption)
        = [some none, some none, some (some ["a;\"b\""]), some (some [""]), some none,
          some (some ["1", "a;\"b\""]), none, some none, none] := by
  have hopen : townsDisk.open? "t" = .ok 0 := Result.eq_ok_of_toOption (by decide +kernel)
  have hnames : ∀ name ∈ townsTable.columns, trim name = name ∧ lowercase name = name := by
    decide +kernel
  have hvalid : townsConfig.validate = .ok () := by decide +kernel
  have hencoding : townsConfig.fileEncoding = .ok .utf8 := by decide +kernel
  have hshows : Shows townsSheet townsTable := by decide +kernel
  have hclean : townsSheet.Clean townsConfig.symbols := by decide +kernel
  obtain ⟨s, hs, -, htrace⟩ := trace_ofFile_eq_trace_ofTable hnames hvalid (by decide) rfl
    hencoding hshows hclean hopen rfl "towns" "t"
  have hkeeps : ∀ step ∈ townsHistory,
      step.1.Keeps "t" 0 (townsConfig.file townsSheet) := by
    refine List.forall_mem_map.2 fun operation _ => ?_
    exact keeps_diskOf hopen
  have hoperations : ∀ step ∈ townsHistory, ∀ row, step.2 ≠ .fetch row := by
    refine List.forall_mem_map.2 fun operation hmem row hfetch => ?_
    rw [show operation = .fetch row from hfetch] at hmem
    simp at hmem
  have hsame := htrace townsHistory hkeeps hoperations
  refine ⟨s, hs, hsame, ?_⟩
  rw [hsame]
  decide +kernel

end FlatQuery.Scan
