/-
A whole result over tables in memory. Every entry of the join index is
read once, in order, into the values of its columns
(`intoResult_eq`). A scan of a table gives for an entry what the table
has there and stays as it is, so nothing moves but the reader itself
(`collect_eq`). The columns have to be ones that the scans read.
-/
import FlatQuery.Proofs.Join.Enumeration
import FlatQuery.Proofs.Reader.Entry

namespace FlatQuery.Reader

open Join Result

-- ========================================================== one entry

/-- Scans of tables in memory that are being read. -/
def Reading (scans : List Scan) : Prop :=
  ∀ scan ∈ scans, scan.InMemory ∧ scan.phase = .reading

theorem Reading.selects {scans : List Scan} (h : Reading scans) : ∀ s ∈ scans, s.Selects := by
  intro s hs
  obtain ⟨table, hover⟩ := (h s hs).1.exists_over
  exact hover.selects

/-- What the scan of this number reads for an entry. -/
def fields (scans : List Scan) (rows : List Nat) (scan : Nat) : List String :=
  match scans[scan]?, rows[scan]? with
  | some s, some row => s.picked (s.record row)
  | _, _ => []

/-- The values of the columns for one entry. -/
def line (scans : List Scan) (columns : List OutputColumn)
    (rows : List Nat) : List String :=
  columns.map fun column => (fields scans rows column.scan).getD column.position ""

variable {scans : List Scan} {rows : List Nat}

/-- A row is given as its table has it. -/
theorem gives_eq (disk : Disk) (hscans : Reading scans) (hrows : Matching scans rows)
    {column : OutputColumn} (hfits : Fits scans column) :
    gives disk scans rows column.scan = .ok (fields scans rows column.scan) := by
  obtain ⟨s, hs, -⟩ := hfits
  obtain ⟨hlt, -⟩ := List.getElem?_eq_some_iff.1 hs
  have hrow := List.getElem?_eq_getElem (hrows.length_eq ▸ hlt)
  obtain ⟨hmemory, hphase⟩ := hscans s (List.mem_of_getElem? hs)
  obtain ⟨table, hover⟩ := hmemory.exists_over
  have hread := hover.read_eq disk hphase (forall₂_getElem? hrows hrow hs)
  have hvisit := visit_eq_ok.2 ⟨hs, hrow⟩
  simp only [gives, hvisit, hread, fields, hs, hrow]

/-- Scans that stay as they are when they are read do so for any entry. -/
theorem collect_snd {disk : Disk} (hstill : ∀ s ∈ scans, ∀ row, (s.read disk row).2 = s)
    (rows : List Nat) (columns : List OutputColumn) (fetched : Fetched) :
    (collect disk rows columns fetched scans).2 = scans := by
  refine collect_induction (P := (· = scans)) ?_ rows columns fetched rfl
  rintro scans' scan s row rfl hs
  obtain ⟨hlt, hget⟩ := List.getElem?_eq_some_iff.1 hs
  -- the scan is put back as it was
  rw [hstill s (List.mem_of_getElem? hs) row, ← hget, List.set_getElem_self]

/-- Every column of an entry gets its value, and no scan moves. -/
theorem collect_eq (disk : Disk) (hscans : Reading scans) (hrows : Matching scans rows)
    {columns : List OutputColumn} (hfits : ∀ column ∈ columns, Fits scans column) :
    collect disk rows columns [] scans = (.ok (line scans columns rows), scans) := by
  have hvalue : ∀ column ∈ columns,
      (gives disk scans rows column.scan >>= (indexed · column.position))
        = .ok ((fields scans rows column.scan).getD column.position "") := by
    intro column hcolumn
    have hgives := gives_eq disk hscans hrows (hfits column hcolumn)
    have hlt := (hfits column hcolumn).lt_length hgives
    have hvalue := List.getElem?_eq_getElem hlt
    rw [hgives, ok_bind, indexed_eq_ok.2 hvalue, List.getD_eq_getElem?_getD, hvalue]
    rfl
  refine Prod.ext ?_ (collect_snd (fun s hs row => ?_) rows columns [])
  · rw [collect_fst]
    exact mapM_of_forall hvalue
  · obtain ⟨table, hover⟩ := (hscans s hs).1.exists_over
    exact hover.read_snd disk row

-- ======================================================== all entries

/-- A read takes the entry at hand with all its values. -/
theorem read_eq (disk : Disk) {r : Reader} (hopen : r.closed = false)
    (hscans : Reading r.scans) (hentry : r.index.rows[r.nextEntry]? = some rows)
    (hrows : Matching r.scans rows) (hfits : ∀ column ∈ r.columns, Fits r.scans column) :
    r.read disk = (.ok true, { r with
      nextEntry := r.nextEntry + 1
      current := some (line r.scans r.columns rows) }) := by
  have hcollect : collect disk rows r.columns [] r.scans
      = (.ok (line r.scans r.columns rows), r.scans) := collect_eq disk hscans hrows hfits
  unfold read
  simp only [hopen, hentry, hcollect]
  rfl

/-- Behind the last entry there is none. -/
theorem read_end (disk : Disk) {r : Reader} (hopen : r.closed = false)
    (hentry : r.index.rows[r.nextEntry]? = none) :
    r.read disk = (.ok false, { r with current := none }) := by
  unfold read
  simp only [hopen, hentry]
  rfl

/-- Draining reads the entries that are left, one after the other. -/
theorem drain_eq (disk : Disk) {r : Reader} (hopen : r.closed = false)
    (hscans : Reading r.scans)
    (hentries : ∀ rows ∈ r.index.rows.toList, Matching r.scans rows)
    (hfits : ∀ column ∈ r.columns, Fits r.scans column)
    {left : List (List Nat)} (hleft : r.index.rows.toList.drop r.nextEntry = left)
    (done : Array (List String)) :
    (r.drain disk done).1
      = .ok (done ++ (left.map (line r.scans r.columns)).toArray) := by
  induction left generalizing r done with
  | nil =>
      have hentry : r.index.rows[r.nextEntry]? = none := by
        rw [← Array.getElem?_toList, List.getElem?_eq_none_iff]
        exact List.drop_eq_nil_iff.1 hleft
      have hread := read_end disk hopen hentry
      unfold drain
      split
      · next h => rw [hread] at h; cases h
      · simp
      · next h => rw [hread] at h; cases h
  | cons rows left ih =>
      have hentry : r.index.rows[r.nextEntry]? = some rows := by
        rw [← Array.getElem?_toList, ← List.head?_drop, hleft]
        rfl
      have hrows := hentries rows (Array.mem_toList_iff.2 (Array.mem_of_getElem? hentry))
      have hread := read_eq disk hopen hscans hentry hrows hfits
      have hrest : r.index.rows.toList.drop (r.nextEntry + 1) = left := by
        rw [← List.tail_drop, hleft]
        rfl
      unfold drain
      split
      · next h => rw [hread] at h; cases h
      · next h => rw [hread] at h; cases h
      · next h =>
        rw [hread] at h
        cases h
        let r' : Reader := { r with
          nextEntry := r.nextEntry + 1
          current := some (line r.scans r.columns rows) }
        have hdrain := ih (r := r') hopen hscans hentries hfits hrest
          (done.push (line r.scans r.columns rows))
        refine hdrain.trans ?_
        simp [r']

/-- The whole result has a line for every entry, in their order. -/
theorem intoResult_eq (disk : Disk) (hscans : Reading scans) (index : JoinIndex)
    (hentries : ∀ rows ∈ index.rows.toList, Matching scans rows)
    {columns : List OutputColumn} (hfits : ∀ column ∈ columns, Fits scans column) :
    (ofIndex scans index columns).intoResult disk
      = .ok ⟨columns.map OutputColumn.name, index.rows.toList.map (line scans columns)⟩ := by
  have hdrain := drain_eq disk (r := ofIndex scans index columns) rfl hscans hentries hfits rfl #[]
  rw [intoResult, hdrain]
  simp [ofIndex, columnNames, Except.map]

end FlatQuery.Reader
