/-
The names of a result and the places they stand at. To go from a place to
its name and back leads to the same place where no name is repeated
(`Reader.inverse_iff`), and the names are told apart by different means:
the select list admits no output name twice, a single relation has no
column twice, and a star over several relations puts every column under
the alias of its relation.

The last is not enough. An alias that was not written is the name of the
relation and may hold points, as may a column that was not named in the
statement; so what is read at one point of the text may be an alias with
a column at another (`Straddling`). This is all that can go wrong
(`inverse_of_executeReader`).
-/
import FlatQuery.Proofs.Command.Product
import FlatQuery.Proofs.Join.Course
import FlatQuery.Proofs.Statement.WellFormed
import FlatQuery.Proofs.Text.Folding

namespace FlatQuery

open Text Statement Result

-- ============================================================== readers

namespace Reader

/-- Every place is the place of its name. -/
def Inverse (r : Reader) : Prop :=
  ∀ i < r.fieldCount, ∃ name, r.getName i = .ok name ∧ r.getOrdinal name = .ok i

/-- A name is given for each place of the result. -/
theorem getName_eq_ok {r : Reader} {i : Nat} {name : String} :
    r.getName i = .ok name ↔ r.columnNames[i]? = some name := by
  unfold getName column columnNames
  rw [List.getElem?_map]
  cases r.columns[i]? with
  | none => exact iff_of_false nofun nofun
  | some c => simp [Except.map]

/-- A place is given for each name of the result. -/
theorem getOrdinal_eq_ok {r : Reader} {i : Nat} {name : String} :
    r.getOrdinal name = .ok i ↔ Columns.position? r.columnNames name = some i := by
  have hposition : Columns.position? r.columnNames name
      = r.columns.findIdx? (sameFolded ·.name name) := List.findIdx?_map
  rw [hposition]
  unfold getOrdinal
  cases r.columns.findIdx? (sameFolded ·.name name) with
  | none => exact iff_of_false nofun nofun
  | some j => simp

/-- The two undo each other exactly if no name is repeated. -/
theorem inverse_iff {r : Reader} : r.Inverse ↔ Columns.repeated? r.columnNames = none := by
  have hlength : r.columnNames.length = r.fieldCount := List.length_map _
  constructor
  · intro h
    rw [Columns.repeated?_eq_none_iff, List.pairwise_iff_getElem]
    intro i j hi hj hlt
    obtain ⟨name, hname, hordinal⟩ := h j (hlength ▸ hj)
    obtain ⟨_, rfl⟩ := List.getElem?_eq_some_iff.1 (getName_eq_ok.1 hname)
    -- the name is found at its own place, so at none before it
    obtain ⟨_, -, hfirst⟩ :=
      List.findIdx?_eq_some_iff_getElem.1 (getOrdinal_eq_ok.1 hordinal)
    exact Bool.eq_false_iff.2 (hfirst i hlt)
  · intro h i hi
    have hname := List.getElem?_eq_getElem (hlength.symm ▸ hi : i < r.columnNames.length)
    exact ⟨_, getName_eq_ok.2 hname,
      getOrdinal_eq_ok.2 (Columns.position?_of_getElem? h hname)⟩

end Reader

-- ========================================================= select lists

namespace Statement

/-- A resolved column is written in lowercase. -/
theorem small_of_resolve {q : Query} {token : String} {ref : ColumnRef}
    (h : resolve q token = .ok ref) : ∀ c ∈ ref.column.toList, IsSmall c := by
  rw [resolve_eq] at h
  split at h
  · cases h
  split at h
  · split at h
    · cases h
    · next found hfound =>
      split at h
      · obtain rfl := Except.ok.inj h
        obtain ⟨htext, -⟩ := ColumnRef.parse?_eq_some hfound
        intro c hc
        refine isSmall_of_mem_lowercase (s := token) c ?_
        rw [htext]
        exact List.mem_append_right _ (List.mem_cons_of_mem _ hc)
      · cases h
  · split at h
    · cases h
    · split at h
      · obtain rfl := Except.ok.inj h
        exact isSmall_of_mem_lowercase
      · cases h

/-- So is an output name. -/
theorem small_of_item {tokens : List String} {i : Item} (h : item tokens = .ok i) :
    ∀ name, i.aliasName = some name → ∀ c ∈ name.toList, IsSmall c := by
  unfold item at h
  dsimp only at h
  split at h
  · cases h
  · split at h
    · cases h
    · obtain rfl := Except.ok.inj h
      exact nofun
  · split at h
    · obtain rfl := Except.ok.inj h
      rintro name ⟨⟩
      exact isSmall_of_mem_lowercase
    · cases h
  · cases h

/-- Output names are in lowercase, whether they were given or are those
of the columns. -/
theorem small_outputs_of_parse {text : String} {q : Query} (h : Query.parse text = .ok q) :
    ∀ column ∈ q.projection, ∀ c ∈ column.outputName.toList, IsSmall c := by
  obtain ⟨-, d, q₀, chains, -, -, houtline, -, rfl⟩ := parse_eq_ok.1 h
  obtain ⟨projection, q₁, -, -, hsources, hitems⟩ := outline_eq_ok.1 houtline
  rw [Query.projection_foldl_addCondition]
  have hnone : ∀ column ∈ q₁.projection, ∀ c ∈ column.outputName.toList, IsSmall c := by
    rw [(foldlM_addSource hsources Query.coherent_empty).2.2]
    exact fun column hcolumn => absurd hcolumn List.not_mem_nil
  rcases addItems_eq_ok.1 hitems with ⟨-, rfl⟩ | ⟨list, hlist, hadd⟩
  · exact hnone
  · refine foldlM_induction
      (fun q => ∀ column ∈ q.projection, ∀ c ∈ column.outputName.toList, IsSmall c)
      hadd hnone ?_
    intro i hi b b' hb hstep
    obtain ⟨ref, href, hstep⟩ := addItem_eq_ok.1 hstep
    obtain ⟨-, rfl⟩ := Query.addProjection_eq_ok.1 hstep
    refine List.forall_mem_append.2 ⟨hb, List.forall_mem_singleton.2 ?_⟩
    cases halias : i.aliasName with
    | none => exact small_of_resolve href
    | some name =>
        obtain ⟨tokens, -, hitem⟩ := exists_of_mem_mapM (mapM_item_of_items hlist) i hi
        exact small_of_item hitem name halias

end Statement

-- ================================================================ stars

/-- The alias of one relation goes on behind a point from that of
another, which has a column that begins as the alias goes on, and then
names a column of the first. -/
def Straddling (scans : List Scan) : Prop :=
  ∃ s ∈ scans, ∃ t ∈ scans, ∃ rest : String, t.aliasName = s.aliasName ++ "." ++ rest
    ∧ ∃ c ∈ s.columns, ∃ d ∈ t.columns, sameFolded c (rest ++ "." ++ d) = true

theorem ne_append_point {a : String} (rest : String) : a ≠ a ++ "." ++ rest := by
  intro h
  have hlength := congrArg (·.toList.length) h
  simp at hlength

/-- What an alias with a column has in front of that of a shorter alias
belongs to the column of the latter. -/
theorem exists_rest {a b c d : String} (hb : ∀ ch ∈ b.toList, IsSmall ch) (hne : b ≠ a)
    {more : List Char} (hmore : b.toList = a.toList ++ more)
    (h : '.' :: c.toList.map foldChar = more ++ '.' :: d.toList.map foldChar) :
    ∃ rest, b = a ++ "." ++ rest ∧ sameFolded c (rest ++ "." ++ d) = true := by
  cases more with
  | nil => exact absurd (String.toList_inj.1 (hmore.trans (List.append_nil _))) hne
  | cons point rest =>
      obtain ⟨rfl, hrest⟩ := List.cons.inj h
      have hsmall : ∀ ch ∈ rest, IsSmall ch := fun ch hch =>
        hb ch (hmore ▸ List.mem_append_right _ (List.mem_cons_of_mem _ hch))
      refine ⟨String.ofList rest, ?_, ?_⟩
      · rw [← String.toList_inj, hmore]
        simp
      · have hpoint : foldChar '.' = '.' := by decide
        rw [Columns.sameFolded_iff, hrest]
        simp [map_foldChar_of_small hsmall, hpoint]

/-- Two relations give a column one name only if the alias of the one
goes on from that of the other. -/
theorem straddling_of_sameFolded {s t : Scan} (hs : ∀ ch ∈ s.aliasName.toList, IsSmall ch)
    (ht : ∀ ch ∈ t.aliasName.toList, IsSmall ch) (hne : s.aliasName ≠ t.aliasName)
    {c d : String} (hc : c ∈ s.columns) (hd : d ∈ t.columns)
    (h : sameFolded (s.aliasName ++ "." ++ c) (t.aliasName ++ "." ++ d) = true)
    {scans : List Scan} (hmem : s ∈ scans) (hmem' : t ∈ scans) : Straddling scans := by
  have hpoint : ".".toList.map foldChar = ['.'] := by decide
  rw [Columns.sameFolded_iff] at h
  simp only [String.toList_append, List.map_append, map_foldChar_of_small hs,
    map_foldChar_of_small ht, hpoint, List.append_assoc, List.singleton_append] at h
  rcases List.append_eq_append_iff.1 h with ⟨more, hmore, hrest⟩ | ⟨more, hmore, hrest⟩
  · obtain ⟨rest, halias, hsame⟩ := exists_rest ht hne.symm hmore hrest
    exact ⟨s, hmem, t, hmem', rest, halias, c, hc, d, hd, hsame⟩
  · obtain ⟨rest, halias, hsame⟩ := exists_rest hs hne hmore hrest
    exact ⟨t, hmem', s, hmem, rest, halias, d, hd, c, hc, hsame⟩

variable {scans : List Scan}

/-- The names of all columns under the aliases of their relations are
distinct unless a column straddles. -/
theorem repeated?_qualified_iff (hnodup : (scans.map Scan.aliasName).Nodup)
    (hsmall : ∀ s ∈ scans, ∀ ch ∈ s.aliasName.toList, IsSmall ch)
    (hdistinct : ∀ s ∈ scans, Columns.repeated? s.columns = none) :
    Columns.repeated? (scans.flatMap fun s => s.columns.map (s.aliasName ++ "." ++ ·)) = none
      ↔ ¬ Straddling scans := by
  rw [Columns.repeated?_eq_none_iff, List.pairwise_flatMap]
  constructor
  -- two names that straddle the dot are the same name of two relations
  · rintro ⟨-, hapart⟩ ⟨s, hs, t, ht, rest, halias, c, hc, d, hd, hsame⟩
    have hne : s ≠ t := by
      rintro rfl
      exact ne_append_point rest halias
    have : Std.Symm fun s t : Scan => ∀ a ∈ s.columns.map (s.aliasName ++ "." ++ ·),
        ∀ b ∈ t.columns.map (t.aliasName ++ "." ++ ·), sameFolded a b = false :=
      ⟨fun s t h a ha b hb => sameFolded_comm a b ▸ h b hb a ha⟩
    have hdifferent := hapart.forall hs ht hne _ (List.mem_map_of_mem hc) _
      (List.mem_map_of_mem hd)
    have hname : t.aliasName ++ "." ++ d = s.aliasName ++ "." ++ (rest ++ "." ++ d) := by
      rw [halias]
      simp only [String.append_assoc]
    rw [hname, sameFolded_append, hsame] at hdifferent
    cases hdifferent
  · intro hnot
    refine ⟨fun s hs => ?_, ?_⟩
    -- within a relation the columns differ, and the prefix they share does
    -- not matter
    · rw [List.pairwise_map]
      refine (Columns.repeated?_eq_none_iff.1 (hdistinct s hs)).imp fun {c d} h => ?_
      rw [sameFolded_append]
      exact h
    -- two relations share a name only by straddling
    · refine (List.pairwise_map.1 hnodup).imp_of_mem fun {s t} hs ht hne => ?_
      intro name hname name' hname'
      obtain ⟨c, hc, rfl⟩ := List.mem_map.1 hname
      obtain ⟨d, hd, rfl⟩ := List.mem_map.1 hname'
      refine Bool.eq_false_iff.2 fun hsame => hnot ?_
      exact straddling_of_sameFolded (hsmall s hs) (hsmall t ht) hne hc hd hsame hs ht

/-- A star names every column once unless one straddles. -/
theorem repeated?_star_iff (hnodup : (scans.map Scan.aliasName).Nodup)
    (hsmall : ∀ s ∈ scans, ∀ ch ∈ s.aliasName.toList, IsSmall ch)
    (hdistinct : ∀ s ∈ scans, Columns.repeated? s.columns = none)
    (hselected : ∀ s ∈ scans, s.selected = s.columns) :
    Columns.repeated? ((Command.wildcardColumns scans).map OutputColumn.name) = none
      ↔ ¬ Straddling scans := by
  rw [Command.map_name_wildcardColumns]
  by_cases hseveral : scans.length > 1
  · rw [← repeated?_qualified_iff hnodup hsmall hdistinct]
    have hnames : (scans.flatMap fun scan => scan.selected.map fun name =>
          if scans.length > 1 then scan.aliasName ++ "." ++ name else name)
        = scans.flatMap fun s => s.columns.map (s.aliasName ++ "." ++ ·) := by
      refine List.flatMap_congr fun s hs => ?_
      simp only [if_pos hseveral, hselected s hs]
    rw [hnames]
  · rcases scans with _ | ⟨s, _ | ⟨t, rest⟩⟩
    · refine iff_of_true rfl ?_
      rintro ⟨s, hs, -⟩
      cases hs
    · -- the columns of a single relation go by their own names
      have hs := List.mem_singleton_self s
      refine iff_of_true ?_ ?_
      · simpa [hselected s hs] using hdistinct s hs
      · rintro ⟨s', hs', t', ht', rest, halias, -⟩
        rw [List.mem_singleton.1 hs', List.mem_singleton.1 ht'] at halias
        exact ne_append_point rest halias
    · exact absurd (by simp) hseveral

/-- Relations with an alias that holds no point are safe. -/
theorem not_straddling_of_aliases (h : ∀ s ∈ scans, '.' ∉ s.aliasName.toList) :
    ¬ Straddling scans := by
  rintro ⟨s, -, t, ht, rest, halias, -⟩
  refine h t ht ?_
  rw [halias]
  simp

-- ============================================================== opening

theorem Scan.fields_select (disk : Disk) (filter : Option Predicate) (s : Scan) :
    (s.select disk filter).2.aliasName = s.aliasName
      ∧ (s.select disk filter).2.columns = s.columns := by
  unfold select
  split
  · exact ⟨rfl, rfl⟩
  · split <;> exact ⟨rfl, rfl⟩

/-- A scan that is told to read nothing in particular reads every
column. -/
theorem Scan.fields_startRead {columns : List String} {s : Scan}
    (h : (s.startRead columns).1 = .ok ()) :
    (s.startRead columns).2.aliasName = s.aliasName
      ∧ (s.startRead columns).2.columns = s.columns
      ∧ (columns = [] → (s.startRead columns).2.selected = s.columns) := by
  unfold startRead at h ⊢
  dsimp only at h ⊢
  split
  · next heq => rw [heq] at h; cases h
  · next ids hids =>
    refine ⟨rfl, rfl, ?_⟩
    rintro rfl
    obtain ⟨-, -, hresolve⟩ := bind_eq_ok.1 hids
    obtain rfl := Except.ok.inj hresolve
    exact Columns.filterMap_range_getElem? s.columns

theorem Catalog.fields_openScan {disk : Disk} {c : Catalog} {name aliasName : String}
    {scan : Scan} (h : c.openScan disk name aliasName = .ok scan) :
    scan.aliasName = aliasName ∧ Columns.repeated? scan.columns = none := by
  unfold openScan at h
  split at h
  · next path _ =>
    obtain ⟨⟨columns, source⟩, hsource, h⟩ := bind_eq_ok.1 h
    obtain ⟨stream, -, hsource⟩ := bind_eq_ok.1 hsource
    obtain ⟨⟨⟩, hdistinct, hsource⟩ := bind_eq_ok.1 hsource
    obtain rfl := Except.ok.inj h
    obtain ⟨rfl, -⟩ := Prod.mk.inj (Except.ok.inj hsource)
    refine ⟨rfl, ?_⟩
    unfold Columns.checkDistinct at hdistinct
    split at hdistinct
    · cases hdistinct
    · next hnone => exact hnone
  · next table _ =>
    obtain rfl := Except.ok.inj h
    exact ⟨rfl, table.distinct⟩
  · cases h

namespace Command

variable {disk : Disk} {c : Command} {q : Query}

/-- An opened relation is under its alias, has no column twice, and reads all
of them for the wildcard. -/
theorem fields_openRelation {r : Relation} {scan : Scan}
    (h : openRelation disk c.catalog q r = .ok scan) :
    scan.aliasName = r.aliasName ∧ Columns.repeated? scan.columns = none
      ∧ (q.wildcard = true → scan.selected = scan.columns) := by
  obtain ⟨opened, hopen, h⟩ := bind_eq_ok.1 h
  obtain ⟨_, -, h⟩ := bind_eq_ok.1 h
  obtain ⟨_, hstart, h⟩ := bind_eq_ok.1 h
  obtain ⟨haliasName, hdistinct⟩ := Catalog.fields_openScan hopen
  obtain ⟨hselectAlias, hselectColumns⟩ := opened.fields_select disk
    ((q.predicate.restrictedTo r.aliasName).map Chain.toPredicate)
  obtain ⟨hstartAlias, hstartColumns, hselected⟩ := Scan.fields_startRead hstart
  rw [← Except.ok.inj h]
  have hcolumns := hstartColumns.trans hselectColumns
  refine ⟨hstartAlias.trans (hselectAlias.trans haliasName),
    (congrArg Columns.repeated? hcolumns).trans hdistinct, fun hstar => ?_⟩
  exact (hselected (if_pos hstar)).trans hstartColumns.symm

/-- A projected column has its output name. -/
theorem name_projectedColumn {scans : List Scan} {column : Column} {found : OutputColumn}
    (h : projectedColumn scans column = .ok found) : found.name = column.outputName := by
  unfold projectedColumn at h
  split at h
  · cases h
  · split at h
    · cases h
    · rw [← Except.ok.inj h]

/-- What the scans of a new reader are called, and what they read. -/
theorem fields_joined {scans : List Scan} (hq : Accepted q)
    (hscans : q.relations.mapM (openRelation disk c.catalog q) = .ok scans)
    {joined : List Scan} (hkept : joined.map (fun s => (s.aliasName, s.columns, s.selected))
      = scans.map fun s => (s.aliasName, s.columns, s.selected)) :
    (joined.map Scan.aliasName).Nodup
      ∧ ∀ s ∈ joined, (∀ ch ∈ s.aliasName.toList, IsSmall ch)
        ∧ Columns.repeated? s.columns = none
        ∧ (q.wildcard = true → s.selected = s.columns) := by
  have haliases : joined.map Scan.aliasName = q.aliases := by
    have hfirst := congrArg (List.map Prod.fst) hkept
    rw [List.map_map, List.map_map] at hfirst
    exact hfirst.trans (map_of_mapM (fun _ _ _ hr => (fields_openRelation hr).1) hscans)
  refine ⟨haliases ▸ hq.coherent.aliases, fun s hs => ⟨?_, ?_⟩⟩
  · exact (hq.named _ (haliases ▸ List.mem_map_of_mem hs)).small
  · obtain ⟨s', hs', hsame⟩ := List.mem_map.1 (hkept ▸ List.mem_map_of_mem hs)
    obtain ⟨r, -, hr⟩ := exists_of_mem_mapM hscans s' hs'
    obtain ⟨-, hdistinct, hselected⟩ := fields_openRelation hr
    rw [Prod.mk.injEq, Prod.mk.injEq] at hsame
    rw [← hsame.2.1, ← hsame.2.2]
    exact ⟨hdistinct, hselected⟩

/-- Output names of a select list are distinct, also if the case of
letters is ignored. -/
theorem repeated?_outputs (hparse : Query.parse c.text = .ok q) :
    Columns.repeated? (q.projection.map Column.outputName) = none := by
  have hsmall := small_outputs_of_parse hparse
  rw [Columns.repeated?_eq_none_iff, List.pairwise_map]
  refine (List.pairwise_map.1 (accepted_of_parse hparse).coherent.outputs).imp_of_mem ?_
  intro a b ha hb hne
  exact Bool.eq_false_iff.2 fun hsame =>
    hne ((sameFolded_iff_of_small (hsmall a ha) (hsmall b hb)).1 hsame)

/-- To go from a place to its name and back leads to the same place.
Whatever statement gave a reader on whatever catalogue, of tables or of
files: for a select list this holds always, and for a star it holds
unless, of two relations, the alias of the one goes on behind a point
from that of the other and a column of the latter goes on alike. -/
theorem inverse_of_executeReader {reader : Reader} (h : c.executeReader disk = .ok reader) :
    ∃ q, Query.parse c.text = .ok q
      ∧ (reader.Inverse ↔ ¬ (q.wildcard = true ∧ Straddling reader.scans)) := by
  obtain ⟨q, hparse, h⟩ := bind_eq_ok.1 h
  obtain ⟨_, -, h⟩ := bind_eq_ok.1 h
  obtain ⟨scans, hscans, h⟩ := bind_eq_ok.1 h
  obtain ⟨index, -, h⟩ := bind_eq_ok.1 h
  obtain ⟨columns, hcolumns, h⟩ := bind_eq_ok.1 h
  obtain rfl := Except.ok.inj h
  refine ⟨q, hparse, ?_⟩
  -- the join has moved the backends of the scans only
  obtain ⟨hnodup, hfields⟩ := fields_joined (accepted_of_parse hparse) hscans
    (Join.map_observing (fun _ _ => ()) q.predicate.toPredicate (fun _ _ => rfl) disk
      c.catalog.maxCombinations () scans)
  rw [Reader.inverse_iff]
  unfold outputColumns at hcolumns
  cases hstar : q.wildcard with
  | true =>
      rw [if_pos hstar] at hcolumns
      obtain rfl := Except.ok.inj hcolumns
      refine (repeated?_star_iff hnodup (fun s hs => (hfields s hs).1)
        (fun s hs => (hfields s hs).2.1) (fun s hs => (hfields s hs).2.2 hstar)).trans ?_
      rw [and_iff_right rfl]
      rfl
  | false =>
      rw [hstar] at hcolumns
      have hnames : columns.map OutputColumn.name = q.projection.map Column.outputName :=
        map_of_mapM (fun _ _ _ => name_projectedColumn) hcolumns
      refine iff_of_true ?_ (fun hboth => Bool.false_ne_true hboth.1)
      exact (congrArg Columns.repeated? hnames).trans (repeated?_outputs hparse)

/-- A relation whose name goes on from that of another, which has a
column with a point. -/
def dotted : List (String × Table) :=
  [("a", ⟨["b.c"], #[["1"]], by decide +kernel, by decide +kernel⟩),
    ("a.b", ⟨["c"], #[["2"]], by decide +kernel, by decide +kernel⟩)]

/-- Under an alias of its own the second relation is told apart. -/
theorem inverse_of_executeReader_aliased :
    ∃ reader, executeReader .empty ⟨"select * from a join a.b as x",
        Catalog.registering dotted none⟩ = .ok reader
      ∧ reader.columnNames = ["a.b.c", "x.c"] ∧ reader.Inverse := by
  have hrun : (executeReader .empty ⟨"select * from a join a.b as x",
      Catalog.registering dotted none⟩).toOption.map
        (fun reader => (reader.columnNames, reader.scans.map Scan.aliasName))
      = some (["a.b.c", "x.c"], ["a", "x"]) := by
    decide +kernel
  obtain ⟨reader, hreader, hfound⟩ := Option.map_eq_some_iff.1 hrun
  obtain ⟨hnames, haliases⟩ := Prod.mk.inj hfound
  replace hreader := eq_ok_of_toOption hreader
  obtain ⟨q, -, hinverse⟩ := inverse_of_executeReader hreader
  have hplain : ∀ s ∈ reader.scans, '.' ∉ s.aliasName.toList := by
    have hall : ∀ a ∈ reader.scans.map Scan.aliasName, '.' ∉ a.toList := by
      rw [haliases]
      decide
    exact fun s hs => hall _ (List.mem_map_of_mem hs)
  exact ⟨reader, hreader, hnames, hinverse.2 fun h => not_straddling_of_aliases hplain h.2⟩

/-- Under the names of the relations two columns have one name, and the
second is not found. -/
theorem not_inverse_dotted :
    ∃ reader, executeReader .empty ⟨"select * from a join a.b",
        Catalog.registering dotted none⟩ = .ok reader
      ∧ reader.columnNames = ["a.b.c", "a.b.c"]
      ∧ reader.getOrdinal "a.b.c" = .ok 0 ∧ ¬ reader.Inverse := by
  have hrun : (executeReader .empty ⟨"select * from a join a.b",
      Catalog.registering dotted none⟩).toOption.map Reader.columnNames
      = some ["a.b.c", "a.b.c"] := by
    decide +kernel
  obtain ⟨reader, hreader, hnames⟩ := Option.map_eq_some_iff.1 hrun
  refine ⟨reader, eq_ok_of_toOption hreader, hnames, ?_, fun h => ?_⟩
  · rw [Reader.getOrdinal_eq_ok, hnames]
    decide
  · rw [Reader.inverse_iff, hnames] at h
    revert h
    decide

end Command

end FlatQuery
