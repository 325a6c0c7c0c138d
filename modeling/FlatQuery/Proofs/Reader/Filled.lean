/-
Rows that are full. So long as a file stays as it is and no row of it
begins with a byte-order mark, every way to a row gives a value for each
column that is asked for, and nothing reaches outside of a row: not the
scan, and not a reader over it (`retrieved_in_full`).

No width is looked at once rows are selected. A row that is cut short
after that, or that a mark splits anew, is given as it is, and to read
it stops the run; the closed statement says so of two small files.
-/
import FlatQuery.Proofs.Bindings.Rebinding
import FlatQuery.Proofs.Reader.Machine

namespace FlatQuery

-- ============================================================== readers

namespace Reader

variable {disk : Disk} {r : Reader}

/-- The row that a read leaves has a value for each column. -/
theorem length_of_read {row : List String} (h : (r.read disk).2.current = some row) :
    row.length = r.fieldCount := by
  rcases read_cases disk r with ⟨-, hread⟩ | ⟨rows, outcome, scans, -, hcollect, hread⟩
  · rw [hread] at h
    cases h
  · rw [hread] at h
    cases outcome with
    | error => cases h
    | ok values =>
        cases h
        exact length_of_collect hcollect

/-- Over scans whose rows are full no read stops the run. -/
theorem Placed.read_ne_outOfBounds (h : r.Placed) (hfull : ∀ scan ∈ r.scans, scan.Full disk)
    (index length : Nat) : (r.read disk).1 ≠ .error (.outOfBounds index length) := by
  intro hstop
  obtain ⟨rows, scan, s, row, -, hs, -, hlacks⟩ := h.read_stops hstop
  exact (hfull s (List.mem_of_getElem? hs)).not_lacks row index length hlacks

end Reader

-- ================================================================ scans

namespace Scan

open Delimited

variable {o : Options} {path : String} {number : Nat} {bytes : List UInt8} {disk : Disk}
  {s t : Scan}

/-- A full row covers every name that it is bound to. -/
theorem Full.get?_bind (h : s.Full disk) {row : Nat} {values : List String}
    (hfetch : s.fetch disk row = (.ok values, t)) (bindings : Bindings) :
    ∀ key ∈ s.keys, (s.bind values bindings).get? key = (s.bind values .empty).get? key := by
  intro key hkey
  refine Bindings.get?_bindAll_of_mem bindings .empty ?_ hkey
  rw [h row values t hfetch, s.keys_eq, List.length_map]

/-- A row that is given has a value for every column, in every way to
it: binding it leaves no column with a value of an earlier row, of the
columns to read none is missing, and so no read of the scan stops the
run. Neither does a read of a reader, so long as its other scans give
full rows too; the row that it leaves has a value for each field. -/
theorem retrieved_in_full (hopen : disk.open? path = .ok number)
    (hbytes : disk.bytes number = bytes) {name aliasName : String}
    (hfile : ofFile disk name aliasName path o = .ok s) (hunmarked : Unmarked o.dialect bytes)
    {before since : List (Disk × Operation)}
    (hbefore : ∀ step ∈ before, step.1.Keeps path number bytes)
    {now : Disk} (hnow : now.Keeps path number bytes) {filter : Option Predicate}
    (hselect : (s.after before).select now filter = (.ok (), t))
    (hsince : ∀ step ∈ since, step.1.Keeps path number bytes)
    {later : Disk} (hlater : later.Keeps path number bytes) :
    (∀ row values u, (t.after since).fetch later row = (.ok values, u) →
        values.length = (t.after since).columns.length)
      ∧ (∀ row values u, (t.after since).readRow later row = (.ok values, u) →
        values.length = (t.after since).columns.length
          ∧ ∀ bindings, ∀ key ∈ (t.after since).keys,
            ((t.after since).bind values bindings).get? key
              = ((t.after since).bind values .empty).get? key)
      ∧ (∀ row values u, (t.after since).read later row = (.ok values, u) →
        values.length = (t.after since).selected.length)
      ∧ (∀ values u, (t.after since).next later = (.ok (some values), u) →
        values.length = (t.after since).selected.length)
      ∧ (∀ row index length,
        ((t.after since).read later row).1 ≠ .error (.outOfBounds index length))
      ∧ (∀ index length, ((t.after since).next later).1 ≠ .error (.outOfBounds index length))
      ∧ ∀ r : Reader, r.Placed →
        (∀ scan ∈ r.scans, scan = t.after since ∨ scan.Full later) →
        (∀ index length, (r.read later).1 ≠ .error (.outOfBounds index length))
          ∧ ∀ row, (r.read later).2.current = some row → row.length = r.fieldCount := by
  -- the scan still serves the rows of the file, and those are full
  have hserving := serving_after hopen hbytes hfile hunmarked hbefore hnow hselect hsince
  have hfull : (t.after since).Full later := hserving.full hunmarked hlater
  have hselects := hserving.selects
  refine ⟨hfull, ?_, ?_, ?_, hfull.read_ne_outOfBounds hselects,
    hfull.next_ne_outOfBounds hselects, ?_⟩
  · intro row values u hread
    have hfetch := readRow_ok hread
    exact ⟨hfull row values u hfetch, fun bindings => hfull.get?_bind hfetch bindings⟩
  · intro row values u hread
    obtain ⟨record, -, hproject⟩ := read_ok hread
    exact (length_of_project hproject).trans hselects.length_selected.symm
  · intro values u hnext
    obtain ⟨row, record, v, -, -, hproject, -⟩ := next_ok hnext
    exact (length_of_project hproject).trans hselects.length_selected.symm
  · intro r hplaced hscans
    have hall : ∀ scan ∈ r.scans, scan.Full later := by
      intro scan hscan
      rcases hscans scan hscan with rfl | hother
      · exact hfull
      · exact hother
    exact ⟨hplaced.read_ne_outOfBounds hall, fun row hrow => Reader.length_of_read hrow⟩

/-- A full row is bound over a row of other values. -/
theorem retrieved_in_full_rebound :
    ∃ s t u, ofFile (diskOf pairs) "t" "t" "t" plainOptions = .ok s
      ∧ s.select (diskOf pairs) none = (.ok (), t)
      ∧ t.readRow (diskOf pairs) 1 = (.ok ["3", "4"], u)
      ∧ ["3", "4"].length = t.columns.length
      ∧ ∀ bindings, ∀ key ∈ t.keys,
        (t.bind ["3", "4"] bindings).get? key = (t.bind ["3", "4"] .empty).get? key := by
  have hrun : ((selectedOf pairs none).map fun t =>
      (t.readRow (diskOf pairs) 1).1.toOption) = some (some ["3", "4"]) := by
    decide +kernel
  obtain ⟨t, hselected, hread⟩ := Option.map_eq_some_iff.1 hrun
  obtain ⟨s, hs, hselect⟩ := exists_of_selectedOf hselected
  have hopen : (diskOf pairs).open? "t" = .ok 0 :=
    Result.eq_ok_of_toOption (by decide +kernel)
  have hkeeps := keeps_diskOf hopen
  obtain ⟨u, hrow⟩ : ∃ u, t.readRow (diskOf pairs) 1 = (.ok ["3", "4"], u) :=
    ⟨_, Prod.ext (Result.eq_ok_of_toOption hread) rfl⟩
  have hstart : (s.after []).select (diskOf pairs) none = (.ok (), t) := hselect
  have hnone : ∀ step ∈ ([] : List (Disk × Operation)),
      step.1.Keeps "t" 0 ((diskOf pairs).bytes 0) := nofun
  have hfull := retrieved_in_full hopen rfl hs (by decide +kernel) hnone hkeeps hstart hnone
    hkeeps
  obtain ⟨hlength, hbound⟩ := hfull.2.1 1 ["3", "4"] u hrow
  exact ⟨s, t, u, hs, hselect, hrow, hlength, hbound⟩

/-- The same rows with a value missing. -/
def cutShort : String := "a;b\n1\n3;4\n"

/-- A second row that begins with a byte-order mark before a quote, so
that the quote opens nothing. -/
def markedPair : String := "a;b\n1;2\n\ufeff\"x;y\"\n"

/-- A row is given short if its line was cut short after selecting, and
also, in a file that stays as it is, if it begins with a byte-order mark
before a quote. To read it stops the run at the value that it lacks. -/
theorem rows_given_short :
    (∃ s t, ofFile (diskOf pairs) "t" "t" "t" plainOptions = .ok s
      ∧ s.select (diskOf pairs) none = (.ok (), t)
      ∧ t.columns.length = 2
      ∧ (t.readRow (diskOf cutShort) 0).1 = .ok ["1"]
      ∧ ((t.startRead []).2.read (diskOf cutShort) 0).1 = .error (.outOfBounds 1 1))
      ∧ ∃ s t, ofFile (diskOf markedPair) "t" "t" "t" plainOptions = .ok s
        ∧ s.select (diskOf markedPair) none = (.ok (), t)
        ∧ t.columns.length = 2
        ∧ (t.readRow (diskOf markedPair) 1).1 = .ok ["x;y"]
        ∧ ((t.startRead []).2.read (diskOf markedPair) 1).1 = .error (.outOfBounds 1 1) := by
  constructor
  · have hrun : ((selectedOf pairs none).map fun t =>
        (t.columns.length, (t.readRow (diskOf cutShort) 0).1,
          ((t.startRead []).2.read (diskOf cutShort) 0).1))
        = some (2, .ok ["1"], .error (.outOfBounds 1 1)) := by decide +kernel
    obtain ⟨t, hselected, hrows⟩ := Option.map_eq_some_iff.1 hrun
    obtain ⟨s, hs, hselect⟩ := exists_of_selectedOf hselected
    simp only [Prod.mk.injEq] at hrows
    exact ⟨s, t, hs, hselect, hrows⟩
  · have hrun : ((selectedOf markedPair none).map fun t =>
        (t.columns.length, (t.readRow (diskOf markedPair) 1).1,
          ((t.startRead []).2.read (diskOf markedPair) 1).1))
        = some (2, .ok ["x;y"], .error (.outOfBounds 1 1)) := by decide +kernel
    obtain ⟨t, hselected, hrows⟩ := Option.map_eq_some_iff.1 hrun
    obtain ⟨s, hs, hselect⟩ := exists_of_selectedOf hselected
    simp only [Prod.mk.injEq] at hrows
    exact ⟨s, t, hs, hselect, hrows⟩

end Scan

end FlatQuery
