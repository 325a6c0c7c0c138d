/-
Scans of files that stay as they are. Until rows are selected such a
scan waits at the beginning of its rows (`Waiting`); from then on it
serves them (`Serving`), whatever it is asked, in whatever order, and
whether the file is still under its name or not. Each of the two is kept
by whatever an operation makes of the scan, and selecting leads from the
one to the other.

So long as no row begins with a byte-order mark, a row that is given is
the row that selecting found there (`retrieved_as_selected`), and so it
has a value for every column (`Serving.full`). A row that does begin
with one loses it when it is reached by a jump
(`mark_lost_by_jump`).
-/
import FlatQuery.Proofs.Columns.Position
import FlatQuery.Proofs.Delimited.Located
import FlatQuery.Proofs.Scan.History

namespace FlatQuery.Scan

open Delimited Delimited.Source

variable {o : Options} {path : String} {number : Nat} {bytes : List UInt8} {disk : Disk}
  {s t : Scan}

-- =========================================================== operations

section
variable {source : Source}

/-- A scan of a file fetches from its source. -/
theorem fetch_file (h : s.backend = .file source) (disk : Disk) (row : Nat) :
    s.fetch disk row = ((source.fetch disk s.aliasName row).1,
      { s with backend := .file (source.fetch disk s.aliasName row).2 }) := by
  unfold fetch
  rw [h]

/-- A scan of a file selects through its source. -/
theorem selectRows_file (h : s.backend = .file source) (disk : Disk)
    (filter : Option Predicate) :
    s.selectRows disk filter
      = ((source.select disk s.name s.columns.length (s.admits filter)).1,
        .file (source.select disk s.name s.columns.length (s.admits filter)).2) := by
  unfold selectRows
  rw [h]

/-- Stopping lets the file go. -/
theorem stop_file (h : s.backend = .file source) :
    s.stop = s ∧ s.phase = .stopped
      ∨ s.stop = { s with backend := .file source.release, phase := .stopped } := by
  unfold stop
  split
  · next hphase => exact .inl ⟨rfl, hphase⟩
  · rw [h]
    exact .inr rfl

end

-- ============================================================== waiting

/-- A scan of a file; as long as it has found no rows, it is at the
beginning of them. -/
structure Waiting (o : Options) (path : String) (number : Nat) (bytes : List UInt8)
    (s : Scan) : Prop where
  source : ∃ source, s.backend = .file source
    ∧ (s.phase = .unselected → Opened o path number bytes source)
  selects : Selects s

/-- What was made of a file has its source opened and nothing selected. -/
theorem ofFile_eq_ok (hopen : disk.open? path = .ok number)
    (hbytes : disk.bytes number = bytes) {name aliasName : String}
    (h : ofFile disk name aliasName path o = .ok s) :
    ∃ source, Opened o path number bytes source
      ∧ s = ofBackend name aliasName (o.names bytes) (.file source) := by
  obtain ⟨source, hopened, -, hfile⟩ := Source.ofFile_eq hopen hbytes o
  unfold ofFile at h
  rw [hfile] at h
  obtain ⟨⟨columns, source'⟩, hfound, hs⟩ := Result.bind_eq_ok.1 h
  obtain ⟨-, -, heq⟩ := Result.map_eq_ok.1 hfound
  cases heq
  exact ⟨source, hopened, (Except.ok.inj hs).symm⟩

/-- And so it waits for a selection. -/
theorem waiting_ofFile (hopen : disk.open? path = .ok number)
    (hbytes : disk.bytes number = bytes) {name aliasName : String}
    (h : ofFile disk name aliasName path o = .ok s) : Waiting o path number bytes s := by
  obtain ⟨source, hopened, hs⟩ := ofFile_eq_ok hopen hbytes h
  rw [hs]
  exact ⟨⟨source, rfl, fun _ => hopened⟩, ⟨rfl, nofun⟩⟩

/-- A source without rows has none to fetch. -/
theorem fetch_of_opened {source : Source} (h : Opened o path number bytes source)
    (aliasName : String) (row : Nat) : (source.fetch disk aliasName row).2 = source := by
  unfold Source.fetch
  rw [h.positions]
  rfl

/-- Every move keeps this while the file stays as it is: a failed selection
lets go of the reader, and the source is as it was opened. -/
theorem Waiting.moved (h : Waiting o path number bytes s) (hdisk : disk.Keeps path number bytes)
    (hmoved : Moved disk s t) : Waiting o path number bytes t := by
  obtain ⟨⟨source, hsource, hopened⟩, hselects⟩ := h
  cases hmoved with
  | stayed => exact ⟨⟨source, hsource, hopened⟩, hselects⟩
  | fetched row cursor =>
      rw [fetch_file hsource]
      refine ⟨⟨_, rfl, fun hphase => ?_⟩, ⟨hselects.names, hselects.bounded⟩⟩
      rw [fetch_of_opened (hopened hphase)]
      exact hopened hphase
  | rejected filter backend e hphase hfound =>
      rw [selectRows_file hsource] at hfound
      obtain ⟨he, rfl⟩ := Prod.mk.inj hfound
      obtain ⟨-, hfailed, -⟩ := select_spec (hopened hphase) hdisk
        (Prod.eta (source.select disk s.name s.columns.length (s.admits filter))).symm
      exact ⟨⟨_, rfl, fun _ => hfailed e he⟩, ⟨hselects.names, hselects.bounded⟩⟩
  | selected filter backend rows hphase hfound =>
      rw [selectRows_file hsource] at hfound
      obtain ⟨-, rfl⟩ := Prod.mk.inj hfound
      exact ⟨⟨_, rfl, nofun⟩, ⟨hselects.names, hselects.bounded⟩⟩
  | started columns ids hphase hresolved =>
      exact ⟨⟨source, hsource, nofun⟩, ⟨rfl, Columns.lt_of_mem_resolve hresolved⟩⟩
  | stopped =>
      rcases stop_file hsource with ⟨hstop, -⟩ | hstop
      · rw [hstop]
        exact ⟨⟨source, hsource, hopened⟩, hselects⟩
      · rw [hstop]
        exact ⟨⟨_, rfl, nofun⟩, ⟨hselects.names, hselects.bounded⟩⟩

-- ============================================================== serving

/-- A scan of a file that has found its rows. -/
structure Serving (o : Options) (path : String) (number : Nat) (bytes : List UInt8)
    (s : Scan) : Prop where
  source : ∃ source, s.backend = .file source ∧ Located o path number bytes source
  phase : s.phase ≠ .unselected
  width : ∀ row ∈ o.rows bytes, row.length = s.columns.length
  selects : Selects s

/-- Selecting finds the rows that the filter admits. -/
theorem Waiting.select (h : Waiting o path number bytes s) (hdisk : disk.Keeps path number bytes)
    {filter : Option Predicate} (hselect : s.select disk filter = (.ok (), t)) :
    Serving o path number bytes t
      ∧ t.matching.toList
        = ((o.rows bytes).zipIdx.filter fun (row, _) => t.admits filter row).map Prod.snd := by
  obtain ⟨⟨source, hsource, hopened⟩, hselects⟩ := h
  unfold Scan.select at hselect
  split at hselect
  · cases hselect
  · next hexpect =>
    have hphase : s.phase = .unselected := List.mem_singleton.1 (phase_of_expect hexpect)
    rw [selectRows_file hsource] at hselect
    split at hselect
    · cases hselect
    · next rows backend hfound =>
      obtain ⟨hrows, rfl⟩ := Prod.mk.inj hfound
      cases hselect
      obtain ⟨hspec, -⟩ := select_spec (hopened hphase) hdisk (Prod.eta _).symm
      obtain ⟨hwidth, hmatching, hlocated, -⟩ := hspec rows hrows
      exact ⟨⟨⟨_, rfl, hlocated⟩, nofun, hwidth, ⟨hselects.names, hselects.bounded⟩⟩, hmatching⟩

/-- A scan that serves its rows goes on doing so. -/
theorem Serving.moved (h : Serving o path number bytes s)
    (hunmarked : Unmarked o.dialect bytes) (hdisk : disk.Keeps path number bytes)
    (hmoved : Moved disk s t) : Serving o path number bytes t := by
  obtain ⟨⟨source, hsource, hlocated⟩, hphase, hwidth, hselects⟩ := h
  cases hmoved with
  | stayed => exact ⟨⟨source, hsource, hlocated⟩, hphase, hwidth, hselects⟩
  | fetched row cursor =>
      rw [fetch_file hsource]
      obtain ⟨hlocated', -⟩ := fetch_spec hlocated hdisk hunmarked (Prod.eta _).symm
      exact ⟨⟨_, rfl, hlocated'⟩, hphase, hwidth, ⟨hselects.names, hselects.bounded⟩⟩
  | rejected filter backend e hunselected => exact absurd hunselected hphase
  | selected filter backend rows hunselected => exact absurd hunselected hphase
  | started columns ids hselected hresolved =>
      exact ⟨⟨source, hsource, hlocated⟩, nofun, hwidth,
        ⟨rfl, Columns.lt_of_mem_resolve hresolved⟩⟩
  | stopped =>
      rcases stop_file hsource with ⟨hstop, -⟩ | hstop
      · rw [hstop]
        exact ⟨⟨source, hsource, hlocated⟩, hphase, hwidth, hselects⟩
      · rw [hstop]
        refine ⟨⟨_, rfl, ?_⟩, nofun, hwidth, ⟨hselects.names, hselects.bounded⟩⟩
        exact ⟨hlocated.path, hlocated.options, hlocated.positions, nofun, nofun⟩

/-- What a serving scan gives for a row is the row of the file. -/
theorem Serving.fetch_ok (h : Serving o path number bytes s)
    (hunmarked : Unmarked o.dialect bytes) (hdisk : disk.Keeps path number bytes)
    {row : Nat} {values : List String} (hfetch : s.fetch disk row = (.ok values, t)) :
    (o.rows bytes)[row]? = some values := by
  obtain ⟨source, hsource, hlocated⟩ := h.source
  rw [fetch_file hsource] at hfetch
  exact (fetch_spec hlocated hdisk hunmarked (Prod.eta _).symm).2.1 values
    (Prod.mk.inj hfetch).1

/-- A row that is found again is as wide as selecting found it. -/
theorem Serving.full (h : Serving o path number bytes s)
    (hunmarked : Unmarked o.dialect bytes) (hdisk : disk.Keeps path number bytes) :
    s.Full disk :=
  fun _ values _ hfetch => h.width values (List.mem_of_getElem? (h.fetch_ok hunmarked hdisk hfetch))

-- ========================================================== small files

/-- A disk with one file, `t`, of this text. -/
def diskOf (text : String) : Disk := Disk.empty.write [['t'.toUInt8]] text.toUTF8.data

/-- Semicolons between fields, double quotes around them, and a header. -/
def plainOptions : Options := ⟨';'.toUInt8, '"'.toUInt8, true, .utf8, Encoding.asciiOnly⟩

/-- Two rows of two columns. -/
def pairs : String := "a;b\n1;2\n3;4\n"

/-- A row with a byte-order mark at its beginning. -/
def markedRow : String := "a\n1\n\ufeff2\n"

/-- The scan of a small file once rows were selected. -/
def selectedOf (text : String) (filter : Option Predicate) : Option Scan :=
  match ofFile (diskOf text) "t" "t" "t" plainOptions with
  | .ok s =>
    match s.select (diskOf text) filter with
    | (.ok (), t) => some t
    | (.error _, _) => none
  | .error _ => none

theorem keeps_diskOf {text : String} (hopen : (diskOf text).open? "t" = .ok 0) :
    (diskOf text).Keeps "t" 0 ((diskOf text).bytes 0) :=
  ⟨rfl, fun _ h => Except.ok.inj (h.symm.trans hopen)⟩

theorem exists_of_selectedOf {text : String} {filter : Option Predicate} {t : Scan}
    (h : selectedOf text filter = some t) :
    ∃ s, ofFile (diskOf text) "t" "t" "t" plainOptions = .ok s
      ∧ s.select (diskOf text) filter = (.ok (), t) := by
  unfold selectedOf at h
  split at h
  · next s hs =>
    split at h
    · next t' hselect =>
      cases h
      exact ⟨s, hs, hselect⟩
    · cases h
  · cases h

-- ============================================================ retrieval

section
variable (hopen : disk.open? path = .ok number) (hbytes : disk.bytes number = bytes)
  {name aliasName : String} (hfile : ofFile disk name aliasName path o = .ok s)
include hopen hbytes hfile

/-- Whatever it was asked, a scan can still be asked for its rows. -/
theorem waiting_after {before : List (Disk × Operation)}
    (hbefore : ∀ step ∈ before, step.1.Keeps path number bytes) :
    Waiting o path number bytes (s.after before) :=
  after_induction (Waiting o path number bytes) hbefore (waiting_ofFile hopen hbytes hfile)
    fun _ _ _ hdisk hs hmoved => hs.moved hdisk hmoved

/-- After rows were selected, at any time and after any other requests,
a scan serves them. -/
theorem serving_after (hunmarked : Unmarked o.dialect bytes)
    {before since : List (Disk × Operation)}
    (hbefore : ∀ step ∈ before, step.1.Keeps path number bytes)
    {now : Disk} (hnow : now.Keeps path number bytes) {filter : Option Predicate}
    (hselect : (s.after before).select now filter = (.ok (), t))
    (hsince : ∀ step ∈ since, step.1.Keeps path number bytes) :
    Serving o path number bytes (t.after since) := by
  have hwaiting := waiting_after hopen hbytes hfile hbefore
  exact after_induction (Serving o path number bytes) hsince (hwaiting.select hnow hselect).1
    fun disk s t hdisk hs hmoved => hs.moved hunmarked hdisk hmoved

/-- Every way to a row of a file gives the values that selecting found
there and showed to the filter, or those of them that are to be read; in
whatever order rows are asked for, and however often. No row but the
first of the file may begin with a byte-order mark. -/
theorem retrieved_as_selected (hunmarked : Unmarked o.dialect bytes)
    {before since : List (Disk × Operation)}
    (hbefore : ∀ step ∈ before, step.1.Keeps path number bytes)
    {now : Disk} (hnow : now.Keeps path number bytes) {filter : Option Predicate}
    (hselect : (s.after before).select now filter = (.ok (), t))
    (hsince : ∀ step ∈ since, step.1.Keeps path number bytes)
    {later : Disk} (hlater : later.Keeps path number bytes) :
    t.matching.toList
        = ((o.rows bytes).zipIdx.filter fun (row, _) => t.admits filter row).map Prod.snd
      ∧ (∀ row values u, (t.after since).fetch later row = (.ok values, u) →
        (o.rows bytes)[row]? = some values)
      ∧ (∀ row values u, (t.after since).readRow later row = (.ok values, u) →
        (o.rows bytes)[row]? = some values)
      ∧ (∀ row values u, (t.after since).read later row = (.ok values, u) →
        ∃ record, (o.rows bytes)[row]? = some record
          ∧ (t.after since).project record = .ok values)
      ∧ ∀ values u, (t.after since).next later = (.ok (some values), u) →
        ∃ row record, (t.after since).matching[(t.after since).cursor]? = some row
          ∧ (o.rows bytes)[row]? = some record
          ∧ (t.after since).project record = .ok values := by
  have hserving := serving_after hopen hbytes hfile hunmarked hbefore hnow hselect hsince
  have hwaiting := waiting_after hopen hbytes hfile hbefore
  refine ⟨(hwaiting.select hnow hselect).2, ?_, ?_, ?_, ?_⟩
  · intro row values u hfetch
    exact hserving.fetch_ok hunmarked hlater hfetch
  · intro row values u hread
    exact hserving.fetch_ok hunmarked hlater (readRow_ok hread)
  · intro row values u hread
    obtain ⟨record, hfetch, hvalues⟩ := read_ok hread
    exact ⟨record, hserving.fetch_ok hunmarked hlater hfetch, hvalues⟩
  · intro values u hnext
    obtain ⟨row, record, v, hrow, hfetch, hvalues, -⟩ := next_ok hnext
    exact ⟨row, record, hrow, hserving.fetch_ok hunmarked hlater hfetch, hvalues⟩

end

/-- A row that was read before, and then the row before it, is read once
more. -/
theorem retrieved_as_selected_again :
    ∃ s t u, ofFile (diskOf pairs) "t" "t" "t" plainOptions = .ok s
      ∧ s.select (diskOf pairs) none = (.ok (), t)
      ∧ (t.after [(diskOf pairs, .fetch 1), (diskOf pairs, .readRow 0)]).fetch (diskOf pairs) 1
        = (.ok ["3", "4"], u)
      ∧ (plainOptions.rows ((diskOf pairs).bytes 0))[1]? = some ["3", "4"] := by
  have hrun : ((selectedOf pairs none).map fun t =>
      ((t.after [(diskOf pairs, .fetch 1), (diskOf pairs, .readRow 0)]).fetch
        (diskOf pairs) 1).1.toOption) = some (some ["3", "4"]) := by
    decide +kernel
  obtain ⟨t, hselected, hread⟩ := Option.map_eq_some_iff.1 hrun
  obtain ⟨s, hs, hselect⟩ := exists_of_selectedOf hselected
  have hopen : (diskOf pairs).open? "t" = .ok 0 :=
    Result.eq_ok_of_toOption (by decide +kernel)
  have hkeeps := keeps_diskOf hopen
  obtain ⟨u, hfetch⟩ : ∃ u, (t.after [(diskOf pairs, .fetch 1),
      (diskOf pairs, .readRow 0)]).fetch (diskOf pairs) 1 = (.ok ["3", "4"], u) :=
    ⟨_, Prod.ext (Result.eq_ok_of_toOption hread) rfl⟩
  have hstart : (s.after []).select (diskOf pairs) none = (.ok (), t) := hselect
  have hnone : ∀ step ∈ ([] : List (Disk × Operation)),
      step.1.Keeps "t" 0 ((diskOf pairs).bytes 0) := nofun
  have hsince : ∀ step ∈ [(diskOf pairs, Operation.fetch 1), (diskOf pairs, .readRow 0)],
      step.1.Keeps "t" 0 ((diskOf pairs).bytes 0) :=
    List.forall_mem_cons.2 ⟨hkeeps, List.forall_mem_singleton.2 hkeeps⟩
  have hexact := retrieved_as_selected hopen rfl hs (by decide +kernel) hnone hkeeps hstart
    hsince hkeeps
  exact ⟨s, t, u, hs, hselect, hfetch, hexact.2.1 1 ["3", "4"] u hfetch⟩

/-- A row that begins with a byte-order mark is admitted with the mark,
and read without it: to read it the stream jumps there. -/
theorem mark_lost_by_jump :
    ∃ s t, ofFile (diskOf markedRow) "t" "t" "t" plainOptions = .ok s
      ∧ s.select (diskOf markedRow)
          (some (.ofFunction fun b => .ok (b.get? "t.a" == some "\ufeff2"))) = (.ok (), t)
      ∧ t.matching = #[1]
      ∧ (t.readRow (diskOf markedRow) 1).1 = .ok ["2"] := by
  have hrun : ((selectedOf markedRow
      (some (.ofFunction fun b => .ok (b.get? "t.a" == some "\ufeff2")))).map fun t =>
        (t.matching, (t.readRow (diskOf markedRow) 1).1.toOption))
      = some (#[1], some ["2"]) := by decide +kernel
  obtain ⟨t, hselected, hrows⟩ := Option.map_eq_some_iff.1 hrun
  obtain ⟨s, hs, hselect⟩ := exists_of_selectedOf hselected
  obtain ⟨hmatching, hread⟩ := Prod.mk.inj hrows
  exact ⟨s, t, hs, hselect, hmatching, Result.eq_ok_of_toOption hread⟩

end FlatQuery.Scan
