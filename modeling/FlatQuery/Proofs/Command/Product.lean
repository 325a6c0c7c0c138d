/-
Running a SELECT over tables in memory gives what the query means: the
rows of the whole cross product that the condition chain accepts, in
order, column by column (`executeQuery_eq_answer`).

The stages are taken one by one. Every relation is opened as a scan of
its table that matches the rows which pass by themselves (`opened`,
`mapM_openRelation`). The join goes through the combinations of these
rows, each bound as the reference binds it (`bound_opened`). The columns
are found where the reference reads them (`outputColumns_eq`), and the
reader lays the accepted combinations out.
-/
import FlatQuery.Proofs.Catalog.Registered
import FlatQuery.Proofs.Columns.Position
import FlatQuery.Proofs.Command.Placed
import FlatQuery.Proofs.Command.Reference
import FlatQuery.Proofs.Reader.Whole

namespace FlatQuery.Command

open Text Statement Result

-- ============================================================== inputs

/-- The relations of a query with the tables registered for them. -/
def inputs (tables : List (String × Table)) (q : Query) : List Input :=
  q.relations.filterMap fun r => (Catalog.registered? tables r.name).map (⟨r, ·⟩)

theorem table_of_mem_inputs {tables : List (String × Table)} {q : Query} :
    ∀ i ∈ inputs tables q, Catalog.registered? tables i.relation.name = some i.table := by
  intro i hi
  obtain ⟨r, -, hr⟩ := List.mem_filterMap.1 hi
  obtain ⟨table, htable, rfl⟩ := Option.map_eq_some_iff.1 hr
  exact htable

theorem map_relation_inputs {tables : List (String × Table)} {q : Query}
    (h : ∀ r ∈ q.relations, (Catalog.registered? tables r.name).isSome = true) :
    (inputs tables q).map Input.relation = q.relations := by
  unfold inputs
  generalize q.relations = relations at h ⊢
  induction relations with
  | nil => rfl
  | cons r relations ih =>
      obtain ⟨hr, hrelations⟩ := List.forall_mem_cons.1 h
      obtain ⟨table, htable⟩ := Option.isSome_iff_exists.1 hr
      rw [List.filterMap_cons_some (by rw [htable]; rfl), List.map_cons, ih hrelations]

/-- The columns that a relation is asked for. -/
def requested (q : Query) (i : Input) : List String :=
  if q.wildcard then [] else i.relation.columnNames

/-- Every column that the relation is asked for exists. -/
def Supplied (q : Query) (i : Input) : Prop :=
  ∀ name ∈ requested q i, (Columns.position? i.table.columns name).isSome = true

/-- Where every reference has a column, every relation has what it is
asked for. -/
theorem supplied_of_references {q : Query} (hq : Accepted q) {i : Input}
    (hi : i.relation ∈ q.relations)
    (h : q.wildcard = true ∨ ∀ ref ∈ q.references, ref.relation = i.aliasName →
      ∃ column ∈ i.table.columns, sameFolded column ref.column = true) :
    Supplied q i := by
  unfold Supplied requested
  rcases h with h | h
  · rw [if_pos h]
    exact fun name hname => absurd hname List.not_mem_nil
  · intro name hname
    split at hname
    · cases hname
    · obtain ⟨column, hcolumn, hsame⟩ :=
        h ⟨i.aliasName, name⟩ ((hq.coherent.known _ hi name).1 hname) rfl
      exact Columns.isSome_position?.2 ⟨column, hcolumn, hsame⟩

-- ============================================================== scans

/-- The scan of a relation when the join begins. -/
def opened (q : Query) (i : Input) : Scan :=
  { Scan.ofTable (lowercase i.relation.name) i.aliasName i.table with
    matching := (candidates q i).toArray
    phase := .reading
    selectedIds := Columns.places i.table.columns (requested q i)
    selected := (Columns.places i.table.columns (requested q i)).filterMap
      (i.table.columns[·]?) }

/-- Opening, filtering and starting to read, one after the other. -/
theorem opened_eq (disk : Disk) {q : Query} {i : Input} (h : Supplied q i) :
    let scan := Scan.ofTable (lowercase i.relation.name) i.aliasName i.table
    let filter := (q.predicate.restrictedTo i.aliasName).map Chain.toPredicate
    (scan.select disk filter).1 = .ok ()
      ∧ (scan.select disk filter).2.startRead (requested q i) = (.ok (), opened q i) := by
  intro scan filter
  have hselect :=
    (Scan.over_ofTable (lowercase i.relation.name) i.aliasName i.table).select_eq
    disk filter rfl
  have hadmitted : scan.admitted filter i.table = candidates q i := by
    refine List.filter_congr fun row _ => ?_
    show scan.admits ((q.predicate.restrictedTo i.aliasName).map Chain.toPredicate) _ = _
    unfold admitted
    cases q.predicate.restrictedTo i.aliasName <;> rfl
  have hplaces := Columns.resolve_eq_ok i.aliasName h
  rw [hselect]
  refine ⟨rfl, ?_⟩
  rw [hadmitted]
  exact (Scan.startRead_eq rfl hplaces).trans rfl

theorem inMemory_opened {q : Query} {i : Input} (h : Supplied q i) :
    (opened q i).InMemory := by
  have hmemory := Scan.InMemory.startRead (requested q i)
    (.select .empty ((q.predicate.restrictedTo i.aliasName).map Chain.toPredicate)
      (.ofTable (lowercase i.relation.name) i.aliasName i.table))
  rw [(opened_eq .empty h).2] at hmemory
  exact hmemory

theorem openRelation_eq (disk : Disk) {catalog : Catalog} {q : Query} {i : Input}
    (horigin : catalog.origin? i.relation.name = some (.table i.table))
    (h : Supplied q i) :
    openRelation disk catalog q i.relation = .ok (opened q i) := by
  obtain ⟨hselect, hstart⟩ := opened_eq disk h
  have hopen : catalog.openScan disk i.relation.name i.aliasName
      = .ok (.ofTable (lowercase i.relation.name) i.aliasName i.table) := by
    rw [Catalog.openScan, horigin]
  unfold openRelation
  rw [show i.relation.aliasName = i.aliasName from rfl, hopen]
  simp only [ok_bind]
  rw [hselect, ok_bind]
  rw [show (if q.wildcard then [] else i.relation.columnNames) = requested q i from rfl,
    hstart]
  rfl

theorem mapM_openRelation (disk : Disk) {catalog : Catalog} {q : Query} {is : List Input}
    (horigin : ∀ i ∈ is, catalog.origin? i.relation.name = some (.table i.table))
    (h : ∀ i ∈ is, Supplied q i) :
    (is.map Input.relation).mapM (openRelation disk catalog q)
      = .ok (is.map (opened q)) := by
  induction is with
  | nil => rfl
  | cons i is ih =>
      obtain ⟨ho, hos⟩ := List.forall_mem_cons.1 horigin
      obtain ⟨hi, his⟩ := List.forall_mem_cons.1 h
      exact mapM_cons_eq_ok.2 ⟨_, openRelation_eq disk ho hi, _, ih hos his, rfl⟩

-- =============================================================== join

/-- The join binds a combination as the reference does. -/
theorem bound_opened (q : Query) (is : List Input) (rows : List Nat) :
    Join.bound (is.map (opened q)) rows = bindTuple is rows := by
  unfold Join.bound Join.bindRows bindTuple
  rw [List.zip_map_left, List.foldl_map]
  rfl

theorem combinations_opened (q : Query) {is : List Input} (h : is ≠ []) :
    Join.combinations (is.map (opened q)) = tuples (is.map (candidates q)) := by
  rw [Join.combinations, if_neg (by simpa using h), List.map_map]
  exact congrArg tuples (List.map_congr_left fun i _ => rfl)

-- ============================================================ columns

/-- A row of each input. -/
abbrev InRange (is : List Input) (rows : List Nat) : Prop :=
  List.Forall₂ (fun i row => row < i.table.rows.size) is rows

private theorem flatMap_zipIdx_eq {α β γ : Type} {f : α × Nat → List γ}
    {g : α × β → List γ}
    {as : List α} {bs : List β} (hlength : as.length = bs.length) (start : Nat)
    (h : ∀ k a b, as[k]? = some a → bs[k]? = some b → f (a, start + k) = g (a, b)) :
    (as.zipIdx start).flatMap f = (as.zip bs).flatMap g := by
  induction as generalizing bs start with
  | nil => rfl
  | cons a as ih =>
      obtain ⟨b, bs, rfl⟩ := List.exists_cons_of_length_eq_add_one hlength.symm
      rw [List.zipIdx_cons, List.zip_cons_cons, List.flatMap_cons, List.flatMap_cons,
        ← h 0 a b rfl rfl, ih (by simpa using hlength) (start + 1) fun k a b ha hb => ?_]
      · rfl
      · rw [← h (k + 1) a b (by simpa using ha) (by simpa using hb)]
        congr 2
        omega

/-- What the scan of an input reads. -/
theorem fields_opened (q : Query) {is : List Input} {rows : List Nat} {k : Nat}
    {i : Input}
    {row : Nat} (hi : is[k]? = some i) (hrow : rows[k]? = some row) :
    Reader.fields (is.map (opened q)) rows k
      = (Columns.places i.table.columns (requested q i)).filterMap ((i.fields row)[·]?) := by
  unfold Reader.fields
  rw [List.getElem?_map, hi, hrow]
  rfl

theorem length_fields {i : Input} {row : Nat} (h : row < i.table.rows.size) :
    (i.fields row).length = i.table.columns.length := by
  have hover := Scan.over_ofTable i.relation.name i.aliasName i.table
  have hlength := hover.length_record h
  rw [hover.record_eq] at hlength
  exact hlength.trans (List.length_map _)

/-- What every column of every scan is called. -/
theorem map_name_wildcardColumns (scans : List Scan) :
    (wildcardColumns scans).map OutputColumn.name
      = scans.flatMap fun scan => scan.selected.map fun name =>
          if scans.length > 1 then scan.aliasName ++ "." ++ name else name := by
  rw [wildcardColumns, List.map_flatMap]
  conv_rhs => rw [← List.zipIdx_map_fst 0 scans, List.flatMap_map]
  refine List.flatMap_congr fun p _ => ?_
  conv_rhs => rw [← List.zipIdx_map_fst 0 p.1.selected, List.map_map]
  rw [List.map_map, List.zipIdx_map_fst]
  rfl

/-- Every column of every relation. -/
theorem wildcardColumns_eq {q : Query} (hq : q.wildcard = true) (is : List Input) :
    (wildcardColumns (is.map (opened q))).map OutputColumn.name = headers q is
      ∧ ∀ rows, InRange is rows →
          Reader.line (is.map (opened q)) (wildcardColumns (is.map (opened q))) rows
            = values q is rows := by
  -- a star asks for nothing by name, so every scan selects all its columns
  -- in order
  have hplaces : ∀ i : Input, Columns.places i.table.columns (requested q i)
      = List.range i.table.columns.length := by
    intro i
    rw [requested, if_pos hq]
    rfl
  have hselected : ∀ i, (opened q i).selected = i.table.columns := by
    intro i
    show (Columns.places _ _).filterMap _ = _
    rw [hplaces]
    exact Columns.filterMap_range_getElem? _
  constructor
  · rw [headers, if_pos hq, map_name_wildcardColumns, List.flatMap_map, List.length_map]
    refine List.flatMap_congr fun i _ => ?_
    rw [hselected]
    rfl
  · intro rows hrows
    unfold Reader.line wildcardColumns
    rw [values, if_pos hq, List.map_flatMap, List.zipIdx_map, List.flatMap_map]
    refine flatMap_zipIdx_eq hrows.length_eq 0 fun k i row hi hrow => ?_
    have hlength := length_fields (forall₂_getElem? hrows hi hrow)
    have hfields : Reader.fields (is.map (opened q)) rows k = i.fields row := by
      rw [fields_opened q hi hrow, hplaces, ← hlength]
      exact Columns.filterMap_range_getElem? _
    show ((opened q i).selected.zipIdx.map _).map _ = i.fields row
    rw [hselected, List.map_map, Nat.zero_add]
    refine List.ext_getElem (by simp [hlength]) fun p hp hp' => ?_
    simp [hfields, hp']

private theorem find?_zipIdx {α : Type} {p : α → Bool} {as : List α} {k : Nat} {a : α}
    (h : as.findIdx? p = some k) (ha : as[k]? = some a) :
    as.zipIdx.find? (fun x => p x.1) = some (a, k) := by
  obtain ⟨hk, hp, hfirst⟩ := List.findIdx?_eq_some_iff_getElem.1 h
  obtain ⟨-, rfl⟩ := List.getElem?_eq_some_iff.1 ha
  refine List.find?_eq_some_iff_getElem.2
    ⟨hp, k, by simpa using hk, by simp, fun j hj => ?_⟩
  simpa using hfirst j hj

/-- The relation of a projected column is among the inputs. -/
theorem exists_input_of_projection {q : Query} (hq : Accepted q) {is : List Input}
    (hrelations : is.map Input.relation = q.relations) {c : Column}
    (hc : c ∈ q.projection) :
    ∃ k i, is.findIdx? (·.aliasName = c.relation) = some k ∧ is[k]? = some i
      ∧ i.aliasName = c.relation := by
  have halias : c.relation ∈ is.map Input.aliasName := by
    have := (hq.projection c hc).relation
    rw [Query.aliases, ← hrelations, List.map_map] at this
    exact this
  obtain ⟨k, hk⟩ : ∃ k, is.findIdx? (·.aliasName = c.relation) = some k := by
    rw [← Option.isSome_iff_exists, List.findIdx?_isSome, List.any_eq_true]
    obtain ⟨i, hi, heq⟩ := List.mem_map.1 halias
    exact ⟨i, hi, by simpa using heq⟩
  obtain ⟨hlt, hfound, -⟩ := List.findIdx?_eq_some_iff_getElem.1 hk
  exact ⟨k, is[k], hk, List.getElem?_eq_getElem hlt, by simpa using hfound⟩

/-- A relation is asked for the columns that are projected under its
alias. -/
theorem mem_requested_of_projection {q : Query} (hq : Accepted q)
    (hw : q.wildcard = false) {i : Input} (hi : i.relation ∈ q.relations) {c : Column}
    (hc : c ∈ q.projection) (hrelation : i.aliasName = c.relation) :
    c.name ∈ requested q i := by
  rw [requested, hw]
  refine (hq.coherent.known i.relation hi c.name).2 ?_
  refine List.mem_append_left _ (List.mem_map.2 ⟨c, hc, ?_⟩)
  rw [← hrelation]
  rfl

/-- A projected column is found where the reference reads it. -/
theorem projectedColumn_eq {q : Query} (hq : Accepted q) (hw : q.wildcard = false)
    {is : List Input} (hrelations : is.map Input.relation = q.relations)
    (hsupplied : ∀ i ∈ is, Supplied q i) {c : Column} (hc : c ∈ q.projection) :
    ∃ column, projectedColumn (is.map (opened q)) c = .ok column
      ∧ column.name = c.outputName
      ∧ ∀ rows, InRange is rows →
          (Reader.fields (is.map (opened q)) rows column.scan).getD column.position ""
            = cell is rows c := by
  obtain ⟨k, i, hk, hi, hrelation⟩ := exists_input_of_projection hq hrelations hc
  have hmem : i ∈ is := List.mem_of_getElem? hi
  -- the relation was asked for the column, so it has it
  have hrequested : c.name ∈ requested q i :=
    mem_requested_of_projection hq hw (hrelations ▸ List.mem_map_of_mem hmem) hc hrelation
  obtain ⟨place, hplace⟩ :=
    Option.isSome_iff_exists.1 (hsupplied i hmem c.name hrequested)
  have hplaces : place ∈ Columns.places i.table.columns (requested q i) := by
    rw [Columns.places, if_neg (by simpa using List.ne_nil_of_mem hrequested)]
    exact List.mem_filterMap.2 ⟨c.name, hrequested, hplace⟩
  obtain ⟨position, hposition⟩ : ∃ position,
      Columns.position? (opened q i).selected c.name = some position := by
    obtain ⟨position, hposition, -⟩ := Columns.exists_position?_selected i.table.distinct
      i.table.columns rfl Columns.lt_of_mem_places hplace hplaces
    exact ⟨position, hposition⟩
  have hscan : (is.map (opened q)).findIdx? (·.aliasName = c.relation) = some k := by
    rw [List.findIdx?_map]
    exact hk
  refine ⟨⟨c.outputName, k, position, c.logicalType⟩, ?_, rfl, fun rows hrows => ?_⟩
  · unfold projectedColumn
    rw [find?_zipIdx hscan (a := opened q i) (by rw [List.getElem?_map, hi]; rfl)]
    simp only [hposition]
  · obtain ⟨hlt, -⟩ := List.getElem?_eq_some_iff.1 hi
    obtain ⟨row, hrow⟩ : ∃ row, rows[k]? = some row :=
      ⟨_, List.getElem?_eq_getElem (hrows.length_eq ▸ hlt)⟩
    have hlength := length_fields (forall₂_getElem? hrows hi hrow)
    obtain ⟨position', hposition', hvalue⟩ := Columns.exists_position?_selected
      i.table.distinct _ hlength Columns.lt_of_mem_places hplace hplaces
    obtain rfl : position = position' := Option.some.inj (hposition.symm.trans hposition')
    rw [fields_opened q hi hrow, hvalue, cell, Columns.find?_zip hk hi hrow]
    simp only [hplace]

/-- The columns of the result are found, under the names and with the
values of the reference. -/
theorem outputColumns_eq {q : Query} (hq : Accepted q) {is : List Input}
    (hrelations : is.map Input.relation = q.relations)
    (hsupplied : ∀ i ∈ is, Supplied q i) :
    ∃ columns, outputColumns q (is.map (opened q)) = .ok columns
      ∧ columns.map OutputColumn.name = headers q is
      ∧ ∀ rows, InRange is rows →
          Reader.line (is.map (opened q)) columns rows = values q is rows := by
  cases hw : q.wildcard with
  | true =>
      obtain ⟨hnames, hvalues⟩ := wildcardColumns_eq hw is
      exact ⟨_, by rw [outputColumns, if_pos hw], hnames, hvalues⟩
  | false =>
      have hall : ∀ list : List Column, (∀ c ∈ list, c ∈ q.projection) →
          ∃ columns, list.mapM (projectedColumn (is.map (opened q))) = .ok columns
            ∧ columns.map OutputColumn.name = list.map Column.outputName
            ∧ ∀ rows, InRange is rows →
                Reader.line (is.map (opened q)) columns rows
                  = list.map (cell is rows) := by
        -- the result of a list of columns, built up column by column; the
        -- projection is one of these lists
        intro list hlist
        induction list with
        | nil => exact ⟨[], rfl, rfl, fun _ _ => rfl⟩
        | cons c list ih =>
            obtain ⟨hc, hrest⟩ := List.forall_mem_cons.1 hlist
            obtain ⟨column, hcolumn, hname, hvalue⟩ :=
              projectedColumn_eq hq hw hrelations hsupplied hc
            obtain ⟨columns, hcolumns, hnames, hvalues⟩ := ih hrest
            refine ⟨column :: columns, mapM_cons_eq_ok.2 ⟨_, hcolumn, _, hcolumns, rfl⟩,
              ?_, ?_⟩
            · rw [List.map_cons, List.map_cons, hname, hnames]
            · intro rows hrows
              rw [List.map_cons, ← hvalue rows hrows, ← hvalues rows hrows]
              rfl
      obtain ⟨columns, hcolumns, hnames, hvalues⟩ := hall q.projection fun c hc => hc
      refine ⟨columns, ?_, ?_, fun rows hrows => ?_⟩
      · rw [outputColumns, hw]
        exact hcolumns
      · rw [headers, hw]
        exact hnames
      · rw [values, hw]
        exact hvalues rows hrows

-- ============================================================= running

/-- A query without a full join, all of whose relations are registered,
is not refused. -/
theorem checkRelations_eq_ok {tables : List (String × Table)} {limit : Option Nat}
    {q : Query}
    (hroles : ∀ r ∈ q.relations, r.role ≠ .full)
    (hregistered : ∀ r ∈ q.relations, (Catalog.registered? tables r.name).isSome = true) :
    checkRelations (Catalog.registering tables limit) q = .ok () := by
  have hfull : q.relations.find? (·.role = .full) = none :=
    List.find?_eq_none.2 fun r hr => by simpa using hroles r hr
  have hmissing : q.relations.find?
      (!(Catalog.registering tables limit).contains ·.name) = none := by
    refine List.find?_eq_none.2 fun r hr => ?_
    rw [Catalog.contains, Catalog.origin?_registering, Option.isSome_map,
      hregistered r hr]
    simp
  unfold checkRelations
  rw [hfull, hmissing]
  rfl

theorem reading_opened {q : Query} {is : List Input} (h : ∀ i ∈ is, Supplied q i) :
    Reader.Reading (is.map (opened q)) := by
  intro scan hscan
  obtain ⟨i, hi, rfl⟩ := List.mem_map.1 hscan
  exact ⟨inMemory_opened (h i hi), rfl⟩

/-- The join accepts the combinations of the reference, and leaves the
scans as they are. -/
theorem execute_opened (disk : Disk) {limit : Option Nat} {q : Query} (hq : Accepted q)
    {is : List Input} (hrelations : is.map Input.relation = q.relations)
    (hsupplied : ∀ i ∈ is, Supplied q i)
    (hlimit : ∀ n, limit = some n → (is.map fun i => (candidates q i).length).prod ≤ n) :
    ∃ state, Join.execute q.predicate.toPredicate disk limit (is.map (opened q))
        = (.ok ⟨is.length, (accepted q is).toArray⟩, state)
      ∧ state.scans = is.map (opened q) := by
  have hne : is ≠ [] := by
    rintro rfl
    exact hq.relations_ne hrelations.symm
  have hcombinations := combinations_opened q hne
  -- what the join asks of its scans and of its predicate, and how many
  -- combinations there are
  have hready : Join.Ready (is.map (opened q)) := fun scan hscan =>
    (reading_opened hsupplied scan hscan).imp_right .inr
  have hfew : ∀ n, limit = some n → (Join.combinations (is.map (opened q))).length ≤ n := by
    intro n hn
    rw [hcombinations, tuples.length_eq, List.map_map]
    exact hlimit n hn
  have hjoin := Join.observing_eq (fun (_ : Unit) _ => ()) q.predicate.toPredicate disk ()
    hready hq.validate_eq_ok hfew
  have haccepted : Join.accepted q.predicate.toPredicate (is.map (opened q))
      (Join.combinations (is.map (opened q))) = accepted q is := by
    rw [Join.accepted, hcombinations, ← filter_candidates hq hrelations]
    exact List.filter_congr fun rows _ => by rw [bound_opened]
  rw [haccepted, List.length_map] at hjoin
  exact ⟨_, hjoin, (Join.foldl_visit _ _ _ _).1⟩

/-- An accepted combination has a matching row of each scan. -/
theorem matching_of_mem_accepted {q : Query} (hq : Accepted q) {is : List Input}
    (hrelations : is.map Input.relation = q.relations) {rows : List Nat}
    (h : rows ∈ accepted q is) : Join.Matching (is.map (opened q)) rows := by
  rw [← filter_candidates hq hrelations] at h
  have hrows := tuples.mem_iff.1 (List.mem_filter.1 h).1
  rw [List.forall₂_map_right_iff] at hrows
  exact List.forall₂_map_right_iff.2 hrows

/-- An accepted combination has a row of each relation. -/
theorem inRange_of_mem_accepted {q : Query} {is : List Input} {rows : List Nat}
    (h : rows ∈ accepted q is) : InRange is rows := by
  have hrows := tuples.mem_iff.1 (List.mem_filter.1 h).1
  rw [List.forall₂_map_right_iff] at hrows
  exact (hrows.imp fun _ _ hrow => List.mem_range.1 hrow).flip

/-- Accepted combinations come in lexicographic order, each once. -/
theorem pairwise_accepted (q : Query) (is : List Input) :
    (accepted q is).Pairwise (· < ·) := by
  refine List.Pairwise.filter _ (tuples.pairwise_lt fun list hlist => ?_)
  obtain ⟨i, -, rfl⟩ := List.mem_map.1 hlist
  exact List.pairwise_lt_range

/-- A SELECT over tables in memory answers what its query means. Whatever
was registered, in whatever order, and whatever the limit for joins: a
statement without a full join, whose relations are registered, whose
columns exist, and whose filtered relations have no more combinations
than the limit allows, runs. It gives the values of its columns for the
combinations of all rows that its condition chain accepts, in
lexicographic order. -/
theorem executeQuery_eq_answer (disk : Disk) (tables : List (String × Table))
    (limit : Option Nat) {text : String} {q : Query} (hparse : Query.parse text = .ok q)
    (hroles : ∀ r ∈ q.relations, r.role ≠ .full)
    (hregistered : ∀ r ∈ q.relations, (Catalog.registered? tables r.name).isSome = true)
    (hcolumns : q.wildcard = true ∨ ∀ i ∈ inputs tables q, ∀ ref ∈ q.references,
      ref.relation = i.aliasName →
        ∃ column ∈ i.table.columns, sameFolded column ref.column = true)
    (hlimit : ∀ n, limit = some n →
      ((inputs tables q).map fun i => (candidates q i).length).prod ≤ n) :
    executeQuery disk ⟨text, Catalog.registering tables limit⟩
        = .ok (answer q (inputs tables q))
      ∧ (accepted q (inputs tables q)).Pairwise (· < ·) := by
  have hq := accepted_of_parse hparse
  have hrelations := map_relation_inputs hregistered
  -- what the statement's own checks and openings need, each of it from the
  -- assumptions
  have htables : ∀ i ∈ inputs tables q,
      (Catalog.registering tables limit).origin? i.relation.name
        = some (.table i.table) := by
    intro i hi
    rw [Catalog.origin?_registering, table_of_mem_inputs i hi]
    rfl
  have hsupplied : ∀ i ∈ inputs tables q, Supplied q i := fun i hi =>
    supplied_of_references hq (hrelations ▸ List.mem_map_of_mem hi)
      (hcolumns.imp id fun h => h i hi)
  -- then the join, its columns, and the lines that are read from it
  obtain ⟨state, hjoin, hscans⟩ := execute_opened disk hq hrelations hsupplied hlimit
  obtain ⟨columns, houtput, hnames, hvalues⟩ := outputColumns_eq hq hrelations hsupplied
  have hresult := Reader.intoResult_eq disk (reading_opened hsupplied)
    ⟨(inputs tables q).length, (accepted q (inputs tables q)).toArray⟩
    (fun rows hrows => matching_of_mem_accepted hq hrelations (by simpa using hrows))
    (fits_of_outputColumns (reading_opened hsupplied).selects houtput)
  have hlines : (accepted q (inputs tables q)).map
      (Reader.line ((inputs tables q).map (opened q)) columns)
        = (accepted q (inputs tables q)).map (values q (inputs tables q)) :=
    List.map_congr_left fun rows hrows => hvalues rows (inRange_of_mem_accepted hrows)
  refine ⟨?_, pairwise_accepted q _⟩
  unfold executeQuery executeReader
  simp only [hparse, ok_bind, checkRelations_eq_ok hroles hregistered]
  rw [← hrelations, mapM_openRelation disk htables hsupplied, ok_bind]
  simp only [Catalog.registering, hjoin, hscans, houtput, ok_bind]
  refine hresult.trans ?_
  rw [hnames, hlines]
  rfl

/-- Two tables, one of them registered a second time under another
spelling of its name. -/
def town : List (String × Table) :=
  [("Homes", ⟨["owner"], #[], by decide +kernel, by decide +kernel⟩),
    ("people", ⟨["Id", "Name"], #[["1", "ann"], ["2", "bob"], ["3", "cy"]],
      by decide +kernel, by decide +kernel⟩),
    ("HOMES", ⟨["owner", "city"], #[["2", "rome"], ["1", "oslo"], ["2", "oslo"]],
      by decide +kernel, by decide +kernel⟩)]

/-- Of three people and three homes two of which are in one city, two
pairs belong together; the limit allows the six pairs left to join. -/
theorem executeQuery_eq_answer_town :
    let text := "select p.name as who, h.city from people p join homes h on p.id = h.owner
      where h.city = 'oslo'"
    let q : Query := {
      projection := [⟨"p", "name", some "who", .text⟩, ⟨"h", "city", none, .text⟩]
      relations := [.knowing .leading "people" "p" ["name", "id"],
        .knowing .inner "homes" "h" ["city", "owner"]]
      conditions := [⟨.and, ⟨"p", "id"⟩, .equal, .column ⟨"h", "owner"⟩⟩,
        ⟨.and, ⟨"h", "city"⟩, .equal, .text "oslo"⟩]
      wildcard := false }
    Query.parse text = .ok q
      ∧ ((inputs town q).map fun i => (candidates q i).length).prod = 6
      ∧ executeQuery .empty ⟨text, Catalog.registering town (some 6)⟩
          = .ok ⟨["who", "city"], [["ann", "oslo"], ["bob", "oslo"]]⟩ := by
  intro text q
  have hparse : Query.parse text = .ok q := Result.eq_ok_of_toOption (by decide +kernel)
  have hcount : ((inputs town q).map fun i => (candidates q i).length).prod = 6 := by
    decide +kernel
  obtain ⟨hrun, -⟩ := executeQuery_eq_answer .empty town (some 6) hparse (by decide)
    (by decide +kernel) (.inr (by decide +kernel))
    (fun n hn => hcount ▸ Nat.le_of_eq (Option.some.inj hn))
  refine ⟨hparse, hcount, hrun.trans (congrArg _ ?_)⟩
  decide +kernel

end FlatQuery.Command
