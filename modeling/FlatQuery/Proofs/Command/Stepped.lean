/-
The readers that statements give, stepped through in any order. Opening
a relation leaves its scan ready to read, and a join only reads rows, so
every scan of a new reader is being read (`unread_of_executeReader`) and
the reader obeys its state machine from then on
(`orderly_of_executeReader`). Nothing is assumed of the relations, which
may be files, nor of the disks, on which the files may change or go.
-/
import FlatQuery.Proofs.Command.Faults
import FlatQuery.Proofs.Command.Placed
import FlatQuery.Proofs.Reader.Machine

namespace FlatQuery

open Result

-- =============================================================== joining

/-- A join leaves its scans in their phase, also if it fails. -/
theorem Join.allIn_execute (predicate : Predicate) (disk : Disk) (limit : Option Nat)
    {phase : Scan.Phase} {scans : List Scan} (h : Reader.AllIn phase scans) :
    Reader.AllIn phase (execute predicate disk limit scans).2.scans := by
  exact h.of_phases (map_observing _ predicate (fun _ _ => rfl) disk limit () scans)

-- =============================================================== opening

theorem Scan.phase_of_startRead {columns : List String} {s : Scan}
    (h : (s.startRead columns).1 = .ok ()) : (s.startRead columns).2.phase = .reading := by
  unfold startRead at h ⊢
  dsimp only at h ⊢
  split
  · next heq => rw [heq] at h; cases h
  · rfl

namespace Command

variable {disk : Disk}

/-- A relation that is opened is being read. -/
theorem phase_of_openRelation {catalog : Catalog} {q : Query} {r : Relation} {scan : Scan}
    (h : openRelation disk catalog q r = .ok scan) : scan.phase = .reading := by
  obtain ⟨opened, -, h⟩ := bind_eq_ok.1 h
  obtain ⟨_, -, h⟩ := bind_eq_ok.1 h
  obtain ⟨_, hstart, h⟩ := bind_eq_ok.1 h
  rw [← Except.ok.inj h]
  exact Scan.phase_of_startRead hstart

/-- A reader that is given has been asked nothing yet, and reads all its
scans. -/
theorem unread_of_executeReader {c : Command} {reader : Reader}
    (h : c.executeReader disk = .ok reader) : reader.Unread := by
  obtain ⟨q, -, h⟩ := bind_eq_ok.1 h
  obtain ⟨_, -, h⟩ := bind_eq_ok.1 h
  obtain ⟨scans, hscans, h⟩ := bind_eq_ok.1 h
  obtain ⟨index, -, h⟩ := bind_eq_ok.1 h
  obtain ⟨columns, -, h⟩ := bind_eq_ok.1 h
  rw [← Except.ok.inj h]
  have hreading : Reader.AllIn .reading scans := by
    intro scan hscan
    obtain ⟨r, -, hr⟩ := exists_of_mem_mapM hscans scan hscan
    exact phase_of_openRelation hr
  exact ⟨rfl, rfl, rfl, Join.allIn_execute _ disk _ hreading⟩

/-- Readers obey their state machine. Whatever statement gave a reader on
whatever catalogue, and whatever it was asked since, on disks that may
change in between: a row is current exactly as long as the last read
answered yes and no close came after it, with a value for each field;
values are those of this row; entries are visited in order and none
twice; the scans are read until the reader is closed and stopped
afterwards, when nothing changes any more; a read that fails leaves no
row and the reader open; and looking changes nothing. The run stops only
in a read for which a scan has fetched a row that was cut short. -/
theorem orderly_of_executeReader {c : Command} {reader : Reader}
    (h : c.executeReader disk = .ok reader) (history : List (Disk × Reader.Operation)) :
    reader.Orderly history :=
  (unread_of_executeReader h).orderly (placed_of_executeReader h) history

/-- A file with two rows. -/
def pairsText : String := "a;b\n1;2\n3;4\n"

/-- The file as a relation. -/
def pairsCatalog : Catalog := ⟨.ofDirectory "data", Encoding.asciiOnly, none, [("t", .file "t")]⟩

/-- The file is emptied under the reader. The first read fails and leaves
no row; the second, with the file back, visits the second entry, whose
row is current until the reader is closed. If the first line is only cut
short, the first read stops the run, and it does so for a row that lacks
the second value. -/
theorem orderly_of_executeReader_pairs :
    let full := Scan.diskOf pairsText
    let empty := Scan.diskOf ""
    let short := Scan.diskOf "a;b\n1\n3;4\n"
    ∃ reader, executeReader full ⟨"select t.b from t", pairsCatalog⟩ = .ok reader
      ∧ (reader.read empty).1 = .error (.rowNotFound "t" 0)
      ∧ (reader.after [(empty, .read)]).current = none
      ∧ (reader.after [(empty, .read)]).getValue 5 = .error .noCurrentRow
      ∧ (reader.after [(empty, .read), (full, .read)]).current = some ["4"]
      ∧ reader.visited [(empty, .read), (full, .read)] = reader.index.rows.toList
      ∧ (reader.after [(empty, .read), (full, .read)]).getValue 5
        = .error (.columnOutOfRange 5 1)
      ∧ (reader.read short).1 = .error (.outOfBounds 1 1)
      ∧ (∃ s ∈ reader.scans, ∃ row, s.Lacks short row 1 1)
      ∧ reader.Orderly [(empty, .read), (full, .read), (empty, .close), (full, .read)] := by
  intro full empty short
  -- what the reads answer, by running the model; what follows from it, by
  -- the theorem
  have hrun : (executeReader full ⟨"select t.b from t", pairsCatalog⟩).toOption.map
      (fun reader => ((reader.read empty).1, (reader.read short).1, reader.fieldCount))
        = some (.error (.rowNotFound "t" 0), .error (.outOfBounds 1 1), 1) := by
    decide +kernel
  have hlater : (executeReader full ⟨"select t.b from t", pairsCatalog⟩).toOption.map
      (fun reader => (reader.index.rows.toList,
        reader.visited [(empty, .read), (full, .read)],
        (reader.after [(empty, .read), (full, .read)]).current))
        = some ([[0], [1]], [[0], [1]], some ["4"]) := by
    decide +kernel
  obtain ⟨reader, hreader, hfound⟩ := Option.map_eq_some_iff.1 hrun
  simp only [Prod.mk.injEq] at hfound
  obtain ⟨hread, hstop, hfields⟩ := hfound
  rw [hreader, Option.map_some, Option.some.injEq, Prod.mk.injEq, Prod.mk.injEq] at hlater
  obtain ⟨hindex, hvisited, hcurrent⟩ := hlater
  replace hreader := eq_ok_of_toOption hreader
  have horderly := orderly_of_executeReader hreader
  obtain ⟨hnone, -⟩ := (horderly []).failure empty _ hread
  obtain ⟨_, _, s, row, -, hs, -, hlacks⟩ := (horderly []).stops short 1 1 hstop
  have hvalue := (horderly [(empty, .read)]).value 5
  have hvalue' := (horderly [(empty, .read), (full, .read)]).value 5
  rw [show (reader.after [(empty, .read)]).current = none from hnone] at hvalue
  rw [hcurrent, hfields] at hvalue'
  exact ⟨reader, hreader, hread, hnone, hvalue, hcurrent, hvisited.trans hindex.symm, hvalue',
    hstop, ⟨s, List.mem_of_getElem? hs, row, hlacks⟩, horderly _⟩

end Command

end FlatQuery
