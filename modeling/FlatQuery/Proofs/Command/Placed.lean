/-
Where the columns of a result stand. A relation is opened with columns
of its own to read, a join names a row of every scan in each entry
(`Join.length_of_mem_execute`), and the columns of the result are taken
from those that the scans read (`fits_of_outputColumns`). So a reader
that is given reaches outside of nothing but rows that were cut short
(`placed_of_executeReader`).
-/
import FlatQuery.Command
import FlatQuery.Proofs.Join.Course
import FlatQuery.Proofs.Reader.Entry

namespace FlatQuery

open Result

/-- Starting to read leaves columns of the relation to read. -/
theorem Scan.selects_of_startRead {columns : List String} {s : Scan}
    (h : (s.startRead columns).1 = .ok ()) : (s.startRead columns).2.Selects := by
  unfold startRead at h ⊢
  dsimp only at h ⊢
  split
  · next heq => rw [heq] at h; cases h
  · next ids houtcome =>
    obtain ⟨-, -, hresolved⟩ := bind_eq_ok.1 houtcome
    exact ⟨rfl, Columns.lt_of_mem_resolve hresolved⟩

namespace Command

open Reader

variable {disk : Disk} {scans : List Scan}

/-- An opened relation reads columns of its own. -/
theorem selects_of_openRelation {catalog : Catalog} {q : Query} {r : Relation} {scan : Scan}
    (h : openRelation disk catalog q r = .ok scan) : scan.Selects := by
  obtain ⟨opened, -, h⟩ := bind_eq_ok.1 h
  obtain ⟨_, -, h⟩ := bind_eq_ok.1 h
  obtain ⟨_, hstart, h⟩ := bind_eq_ok.1 h
  rw [← Except.ok.inj h]
  exact Scan.selects_of_startRead hstart

-- ============================================================== columns

/-- Names are looked for among the columns to read. -/
theorem fits_projectedColumn (hscans : ∀ s ∈ scans, s.Selects) {c : Column}
    {column : OutputColumn} (h : projectedColumn scans c = .ok column) : Fits scans column := by
  unfold projectedColumn at h
  split at h
  · cases h
  · next scan i hfound =>
    split at h
    · cases h
    · next position hposition =>
      cases h
      obtain ⟨-, hi, hscan⟩ := List.mem_zipIdx (List.mem_of_find?_eq_some hfound)
      have hget : scans[i]? = some scan := by
        rw [hscan, List.getElem?_eq_getElem (by simpa using hi)]
        rfl
      refine ⟨scan, hget, ?_⟩
      rw [← (hscans scan (List.mem_of_getElem? hget)).length_selected]
      exact Columns.lt_of_position? hposition

/-- The columns of the wildcard are those of the scans, each at its place. -/
theorem fits_wildcardColumns (hscans : ∀ s ∈ scans, s.Selects) :
    ∀ column ∈ wildcardColumns scans, Fits scans column := by
  intro column hcolumn
  obtain ⟨⟨scan, i⟩, hscan, hcolumn⟩ := List.mem_flatMap.1 hcolumn
  obtain ⟨⟨name, position⟩, hname, rfl⟩ := List.mem_map.1 hcolumn
  have hget : scans[i]? = some scan := List.mem_zipIdx_iff_getElem?.1 hscan
  have hposition : scan.selected[position]? = some name := List.mem_zipIdx_iff_getElem?.1 hname
  refine ⟨scan, hget, ?_⟩
  rw [← (hscans scan (List.mem_of_getElem? hget)).length_selected]
  exact (List.getElem?_eq_some_iff.1 hposition).1

/-- Every column of a result is one that its scan reads. -/
theorem fits_of_outputColumns (hscans : ∀ s ∈ scans, s.Selects) {q : Query}
    {columns : List OutputColumn} (h : outputColumns q scans = .ok columns) :
    ∀ column ∈ columns, Fits scans column := by
  unfold outputColumns at h
  split at h
  · rw [← Except.ok.inj h]
    exact fits_wildcardColumns hscans
  · intro column hcolumn
    obtain ⟨c, -, hc⟩ := exists_of_mem_mapM h column hcolumn
    exact fits_projectedColumn hscans hc

-- ============================================================== readers

/-- Whatever gave a reader, its columns and entries are in place. -/
theorem placed_of_executeReader {c : Command} {reader : Reader}
    (h : c.executeReader disk = .ok reader) : reader.Placed := by
  obtain ⟨q, -, h⟩ := bind_eq_ok.1 h
  obtain ⟨_, -, h⟩ := bind_eq_ok.1 h
  obtain ⟨scans, hscans, h⟩ := bind_eq_ok.1 h
  obtain ⟨index, hindex, h⟩ := bind_eq_ok.1 h
  obtain ⟨columns, hcolumns, h⟩ := bind_eq_ok.1 h
  rw [← Except.ok.inj h]
  -- a join moves backends only, so it keeps the layouts of the scans it was given
  have hlayouts : (Join.execute q.predicate.toPredicate disk c.catalog.maxCombinations
      scans).2.scans.map Scan.layout = scans.map Scan.layout :=
    Join.map_observing (fun _ _ => ()) _ (fun _ _ => rfl) _ _ _ _
  have hselects : ∀ s ∈ (Join.execute q.predicate.toPredicate disk
      c.catalog.maxCombinations scans).2.scans, s.Selects := by
    intro s hs
    obtain ⟨s', hs', hlayout⟩ :=
      List.mem_map.1 (hlayouts ▸ List.mem_map_of_mem (f := Scan.layout) hs)
    obtain ⟨r, -, hr⟩ := exists_of_mem_mapM hscans s' hs'
    exact (selects_of_openRelation hr).of_layout hlayout.symm
  constructor
  case entries =>
    have hlength := congrArg List.length hlayouts
    rw [List.length_map, List.length_map] at hlength
    intro rows hrows
    exact (Join.length_of_mem_execute _ hindex rows hrows).trans hlength.symm
  case columns => exact fits_of_outputColumns hselects hcolumns
  case selects => exact hselects

end Command

end FlatQuery
