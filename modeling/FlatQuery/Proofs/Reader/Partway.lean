/-
A result that is read row by row for a while and then taken whole. Over
tables in memory a reader is at every moment as good as a new one on the
rows that it has left (`Steady`, `left`): each read takes the first of
these, on whatever disk, and what is taken whole at the end is what no
read took (`readEach_eq`, `intoResult_left`).
-/
import FlatQuery.Proofs.Reader.Whole

namespace FlatQuery.Reader

open Join

/-- Reads once on each of these disks: what every read answers with the
row that is current after it, and the reader after the last. -/
def readEach (r : Reader) : List Disk → List (Result Bool × Option (List String)) × Reader
  | [] => ([], r)
  | disk :: disks =>
    let (answer, r') := r.read disk
    let (answers, last) := r'.readEach disks
    ((answer, r'.current) :: answers, last)

/-- Not closed, over tables in memory, with a matching row of each for
every entry and with columns that they read. -/
structure Steady (r : Reader) : Prop where
  isOpen : r.closed = false
  reading : Reading r.scans
  matching : ∀ rows ∈ r.index.rows.toList, Matching r.scans rows
  fits : ∀ column ∈ r.columns, Fits r.scans column

/-- The rows that are still to be read. -/
def left (r : Reader) : List (List String) :=
  (r.index.rows.toList.drop r.nextEntry).map (line r.scans r.columns)

theorem length_of_mem_left {r : Reader} : ∀ row ∈ r.left, row.length = r.fieldCount := by
  intro row hrow
  obtain ⟨rows, -, rfl⟩ := List.mem_map.1 hrow
  exact List.length_map _

namespace Steady

variable {r : Reader}

-- ============================================================ one read

/-- With no row left, a read finds none and the reader stays. -/
theorem read_nil (h : r.Steady) (hleft : r.left = []) (disk : Disk) :
    r.read disk = (.ok false, { r with current := none }) := by
  refine read_end disk h.isOpen ?_
  rw [← Array.getElem?_toList, List.getElem?_eq_none_iff]
  exact List.drop_eq_nil_iff.1 (List.map_eq_nil_iff.1 hleft)

/-- A read takes the first of the rows that are left. -/
theorem read_cons (h : r.Steady) {row : List String} {rest : List (List String)}
    (hleft : r.left = row :: rest) (disk : Disk) :
    ∃ r', r.read disk = (.ok true, r') ∧ r'.current = some row ∧ r'.Steady
      ∧ r'.left = rest ∧ r'.columns = r.columns := by
  obtain ⟨rows, entries, hentries, rfl, rfl⟩ := List.map_eq_cons_iff.1 hleft
  have hentry : r.index.rows[r.nextEntry]? = some rows := by
    rw [← Array.getElem?_toList, ← List.head?_drop, hentries]
    rfl
  have hmatching := h.matching rows (Array.mem_toList_iff.2 (Array.mem_of_getElem? hentry))
  have hread := read_eq disk h.isOpen h.reading hentry hmatching h.fits
  refine ⟨_, hread, rfl, ⟨h.isOpen, h.reading, h.matching, h.fits⟩, ?_, rfl⟩
  show (r.index.rows.toList.drop (r.nextEntry + 1)).map _ = _
  rw [← List.tail_drop, hentries]
  rfl

-- ========================================================== many reads

/-- Reads take the rows that are left, one after the other, and answer
no once there is none; they leave the others. -/
theorem readEach_eq (h : r.Steady) (disks : List Disk) :
    (r.readEach disks).1
        = (r.left.take disks.length).map (fun row => (.ok true, some row))
          ++ List.replicate (disks.length - r.left.length) (.ok false, none)
      ∧ (r.readEach disks).2.Steady
      ∧ (r.readEach disks).2.left = r.left.drop disks.length
      ∧ (r.readEach disks).2.columns = r.columns := by
  induction disks generalizing r with
  | nil => exact ⟨by simp [readEach], h, rfl, rfl⟩
  | cons disk disks ih =>
      unfold readEach
      rcases hleft : r.left with _ | ⟨row, rest⟩
      · -- the reader stays where it is, so the other reads find nothing either
        have hstill : Steady { r with current := none } :=
          ⟨h.isOpen, h.reading, h.matching, h.fits⟩
        have hnone : left { r with current := none } = [] := hleft
        obtain ⟨hanswers, hsteady, hlast, hcolumns⟩ := ih hstill
        rw [hnone] at hanswers hlast
        rw [h.read_nil hleft disk]
        refine ⟨?_, hsteady, by simpa using hlast, hcolumns⟩
        dsimp only
        rw [hanswers]
        simp [List.replicate_succ]
      · obtain ⟨r', hread, hcurrent, hsteady', hrest, hcolumns'⟩ := h.read_cons hleft disk
        obtain ⟨hanswers, hsteady, hlast, hcolumns⟩ := ih hsteady'
        rw [hrest] at hanswers hlast
        rw [hread]
        refine ⟨?_, hsteady, hlast, hcolumns.trans hcolumns'⟩
        dsimp only
        rw [hanswers, hcurrent]
        simp

/-- What is taken whole are the rows that are left. -/
theorem intoResult_left (h : r.Steady) (disk : Disk) :
    r.intoResult disk = .ok ⟨r.columnNames, r.left⟩ := by
  rw [intoResult, drain_eq disk h.isOpen h.reading h.matching h.fits rfl #[]]
  simp [left, Except.map]

end Steady

/-- The first value of the current row. -/
theorem getValue_zero {r : Reader} {value : String} {values : List String}
    (hcurrent : r.current = some (value :: values))
    (hlength : (value :: values).length = r.fieldCount) : r.getValue 0 = .ok value := by
  obtain ⟨first, others, hcolumns⟩ := List.exists_cons_of_length_eq_add_one hlength.symm
  rw [getValue, hcurrent, column, hcolumns]
  rfl

end FlatQuery.Reader
