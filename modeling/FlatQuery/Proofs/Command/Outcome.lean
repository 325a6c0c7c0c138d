/-
When a SELECT over tables in memory answers, and what. It does so
exactly when it has no full join, its relations are registered, they
have the columns they are asked for, and the rows that pass by
themselves have no more combinations than the limit (`Runnable`). Then
it answers what its query means (`executeQuery_eq_ok`).

A run that answers has answered at every step, and each step accounts
for one of these conditions.
-/
import FlatQuery.Proofs.Command.Product
import FlatQuery.Proofs.Join.Course
import FlatQuery.Proofs.Reader.Partway

namespace FlatQuery

open Text Statement Result

-- ========================================================= requirements

/-- Reading began, so the columns asked for were found. -/
theorem Scan.resolve_of_startRead {columns : List String} {s : Scan}
    (h : (s.startRead columns).1 = .ok ()) :
    ∃ ids, Columns.resolve s.aliasName s.columns columns = .ok ids := by
  unfold startRead at h
  dsimp only at h
  split at h
  · cases h
  · next ids hids =>
    obtain ⟨-, -, hids⟩ := bind_eq_ok.1 hids
    exact ⟨ids, hids⟩

namespace Command

/-- What a query needs of the tables and the limit. -/
structure Runnable (tables : List (String × Table)) (limit : Option Nat) (q : Query) :
    Prop where
  roles : ∀ r ∈ q.relations, r.role ≠ .full
  registered : ∀ r ∈ q.relations, (Catalog.registered? tables r.name).isSome = true
  supplied : ∀ i ∈ inputs tables q, Supplied q i
  few : ∀ n, limit = some n → Join.counted ((inputs tables q).map (opened q)) ≤ n

variable {tables : List (String × Table)} {limit : Option Nat} {disk : Disk}

/-- Past the checks no relation is joined in full, and each is in the
catalogue. -/
theorem roles_of_checkRelations {catalog : Catalog} {q : Query}
    (h : checkRelations catalog q = .ok ()) :
    ∀ r ∈ q.relations, r.role ≠ .full ∧ catalog.contains r.name = true := by
  unfold checkRelations at h
  dsimp only at h
  split at h
  · cases h
  · next hfull =>
    split at h
    · cases h
    · next hmissing =>
      intro r hr
      have hrole := List.find?_eq_none.1 hfull r hr
      have hname := List.find?_eq_none.1 hmissing r hr
      exact ⟨by simpa using hrole, by simpa using hname⟩

/-- A relation that is opened has the columns it is asked for. -/
theorem supplied_of_openRelation {catalog : Catalog} {q : Query} {i : Input} {scan : Scan}
    (horigin : catalog.origin? i.relation.name = some (.table i.table))
    (h : openRelation disk catalog q i.relation = .ok scan) : Supplied q i := by
  have hopen : catalog.openScan disk i.relation.name i.relation.aliasName
      = .ok (.ofTable (lowercase i.relation.name) i.relation.aliasName i.table) := by
    rw [Catalog.openScan, horigin]
  have hselect := (Scan.over_ofTable (lowercase i.relation.name) i.relation.aliasName
    i.table).select_eq disk
      ((q.predicate.restrictedTo i.relation.aliasName).map Chain.toPredicate) rfl
  unfold openRelation at h
  rw [hopen, ok_bind] at h
  simp only [hselect, ok_bind] at h
  obtain ⟨_, hstart, -⟩ := bind_eq_ok.1 h
  obtain ⟨ids, hids⟩ := Scan.resolve_of_startRead hstart
  exact Columns.isSome_of_resolve hids

theorem origin_of_mem_inputs {q : Query} : ∀ i ∈ inputs tables q,
    (Catalog.registering tables limit).origin? i.relation.name
      = some (.table i.table) := by
  intro i hi
  rw [Catalog.origin?_registering, table_of_mem_inputs i hi]
  rfl

/-- A statement that gives a reader is accepted, and has what it needs. -/
theorem runnable_of_executeReader {text : String} {reader : Reader}
    (h : executeReader disk ⟨text, Catalog.registering tables limit⟩ = .ok reader) :
    ∃ q, Query.parse text = .ok q ∧ Runnable tables limit q := by
  -- the steps of making a reader, each of which has answered
  obtain ⟨q, hparse, hreader⟩ := bind_eq_ok.1 h
  obtain ⟨_, hcheck, hreader⟩ := bind_eq_ok.1 hreader
  obtain ⟨scans, hscans, hreader⟩ := bind_eq_ok.1 hreader
  obtain ⟨index, hindex, -⟩ := bind_eq_ok.1 hreader
  have hroles := roles_of_checkRelations hcheck
  have hregistered : ∀ r ∈ q.relations,
      (Catalog.registered? tables r.name).isSome = true := by
    intro r hr
    have hcontains := (hroles r hr).2
    rw [Catalog.contains, Catalog.origin?_registering, Option.isSome_map] at hcontains
    exact hcontains
  have hrelations := map_relation_inputs hregistered
  have hsupplied : ∀ i ∈ inputs tables q, Supplied q i := by
    intro i hi
    obtain ⟨scan, -, hscan⟩ := exists_result_of_mapM hscans i.relation
      (hrelations ▸ List.mem_map_of_mem hi)
    exact supplied_of_openRelation (origin_of_mem_inputs i hi) hscan
  -- the scans are then those of the inputs, and the join over them was
  -- within the limit
  rw [← hrelations, mapM_openRelation disk origin_of_mem_inputs hsupplied] at hscans
  obtain rfl := Except.ok.inj hscans
  exact ⟨q, hparse, fun r hr => (hroles r hr).1, hregistered, hsupplied,
    Join.counted_le_of_execute hindex⟩

-- =============================================================== answers

/-- The reader of a query: its accepted combinations are the entries. -/
def readerOf (q : Query) (is : List Input) (columns : List OutputColumn) : Reader :=
  .ofIndex (is.map (opened q)) ⟨is.length, (accepted q is).toArray⟩ columns

/-- A reader of columns that the scans read is steady. -/
theorem steady_readerOf {q : Query} (hq : Accepted q) (h : Runnable tables limit q)
    {columns : List OutputColumn}
    (hcolumns : outputColumns q ((inputs tables q).map (opened q)) = .ok columns) :
    (readerOf q (inputs tables q) columns).Steady where
  isOpen := rfl
  reading := reading_opened h.supplied
  matching := fun rows hrows =>
    matching_of_mem_accepted hq (map_relation_inputs h.registered)
      (by simpa [readerOf, Reader.ofIndex] using hrows)
  fits := fits_of_outputColumns (reading_opened h.supplied).selects hcolumns

/-- A statement that has what it needs gives the reader of its query. -/
theorem executeReader_of_runnable (disk : Disk) {text : String} {q : Query}
    (hparse : Query.parse text = .ok q) (h : Runnable tables limit q) :
    ∃ columns, executeReader disk ⟨text, Catalog.registering tables limit⟩
        = .ok (readerOf q (inputs tables q) columns)
      ∧ (readerOf q (inputs tables q) columns).Steady
      ∧ columns.map OutputColumn.name = headers q (inputs tables q)
      ∧ ∀ rows, InRange (inputs tables q) rows →
          Reader.line ((inputs tables q).map (opened q)) columns rows
            = values q (inputs tables q) rows := by
  have hq := accepted_of_parse hparse
  have hrelations := map_relation_inputs h.registered
  have hunlimited : ∀ n, (none : Option Nat) = some n →
      ((inputs tables q).map fun i => (candidates q i).length).prod ≤ n := nofun
  obtain ⟨state, hjoin, hscans⟩ := execute_opened disk hq hrelations h.supplied hunlimited
  rw [← Join.execute_of_counted_le h.few] at hjoin
  obtain ⟨columns, houtput, hnames, hvalues⟩ := outputColumns_eq hq hrelations h.supplied
  refine ⟨columns, ?_, steady_readerOf hq h houtput, hnames, hvalues⟩
  unfold executeReader
  simp only [hparse, ok_bind, checkRelations_eq_ok h.roles h.registered]
  rw [← hrelations, mapM_openRelation disk origin_of_mem_inputs h.supplied, ok_bind]
  simp only [Catalog.registering, hjoin, hscans, houtput, ok_bind]
  rfl

/-- A statement that has what it needs is answered. -/
theorem executeQuery_of_runnable (disk : Disk) {text : String} {q : Query}
    (hparse : Query.parse text = .ok q) (h : Runnable tables limit q) :
    executeQuery disk ⟨text, Catalog.registering tables limit⟩
      = .ok (answer q (inputs tables q)) := by
  obtain ⟨columns, hreader, hsteady, hnames, hvalues⟩ := executeReader_of_runnable disk hparse h
  have hlines : (accepted q (inputs tables q)).map
      (Reader.line ((inputs tables q).map (opened q)) columns)
        = (accepted q (inputs tables q)).map (values q (inputs tables q)) :=
    List.map_congr_left fun rows hrows => hvalues rows (inRange_of_mem_accepted hrows)
  unfold executeQuery
  rw [hreader, ok_bind, hsteady.intoResult_left disk]
  have hleft : (readerOf q (inputs tables q) columns).left
      = (accepted q (inputs tables q)).map (values q (inputs tables q)) := hlines
  rw [hleft, show (readerOf q (inputs tables q) columns).columnNames
    = headers q (inputs tables q) from hnames]
  rfl

/-- A statement has a result exactly if it parses to a query that can run, and
then the reference says which. -/
theorem executeQuery_eq_ok {text : String} {result : QueryResult} :
    executeQuery disk ⟨text, Catalog.registering tables limit⟩ = .ok result
      ↔ ∃ q, Query.parse text = .ok q ∧ Runnable tables limit q
          ∧ result = answer q (inputs tables q) := by
  constructor
  · intro h
    obtain ⟨reader, hreader, -⟩ := bind_eq_ok.1 h
    obtain ⟨q, hparse, hrunnable⟩ := runnable_of_executeReader hreader
    rw [executeQuery_of_runnable disk hparse hrunnable] at h
    exact ⟨q, hparse, hrunnable, (Except.ok.inj h).symm⟩
  · rintro ⟨q, hparse, hrunnable, rfl⟩
    exact executeQuery_of_runnable disk hparse hrunnable

/-- A statement is answered exactly if it has what it needs. -/
theorem exists_answer_iff {text : String} {q : Query} (hparse : Query.parse text = .ok q) :
    (∃ result, executeQuery disk ⟨text, Catalog.registering tables limit⟩ = .ok result)
      ↔ Runnable tables limit q := by
  constructor
  · rintro ⟨result, hresult⟩
    obtain ⟨q', hparse', hrunnable, -⟩ := executeQuery_eq_ok.1 hresult
    obtain rfl := Except.ok.inj (hparse.symm.trans hparse')
    exact hrunnable
  · intro hrunnable
    exact ⟨_, executeQuery_of_runnable disk hparse hrunnable⟩

end Command

end FlatQuery
