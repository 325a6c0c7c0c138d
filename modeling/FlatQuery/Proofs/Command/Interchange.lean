/-
The order of relations does not matter to the rows of a result, as a
multiset, nor to whether there is a result (`executeQuery_reordered`).

A combination of rows is taken as a list of relations paired with rows
(`pairings`). What the conditions and the columns find in it they find
under an alias, and an alias is that of one pair only, so neither looks
at the order of the pairs (`judged_perm`); and in another order of the
relations the combinations are the same but for that order. What a query
needs to be run is said of its relations one by one, or of the product
of their sizes.
-/
import FlatQuery.Proofs.Command.Outcome
import FlatQuery.Proofs.Statement.Reordered

namespace FlatQuery.Command

open Text Statement Result

-- ============================================================= pairings

/-- The relation, but for its role and what it knows. -/
def Input.bare (i : Input) : Input :=
  ⟨.ofName .inner i.relation.name i.relation.aliasName, i.table⟩

/-- Every combination of relations with a row each. -/
def pairings (is : List Input) : List (List (Input × Nat)) :=
  tuples (is.map fun i => (List.range i.table.rows.size).map (i, ·))

/-- Whether the conditions accept a combination, and its columns. -/
def judged (q : Query) (pairs : List (Input × Nat)) : Bool × List String :=
  (q.predicate.toPredicate.holds (bindTuple (pairs.map Prod.fst) (pairs.map Prod.snd)),
    values q (pairs.map Prod.fst) (pairs.map Prod.snd))

/-- Pairing rows with inputs is the same as drawing rows and putting the
inputs beside them. -/
theorem pairings_eq (is : List Input) : pairings is = (product is).map is.zip := by
  unfold pairings product
  induction is with
  | nil => rfl
  | cons i is ih =>
      rw [List.map_cons, List.map_cons, tuples, tuples, List.map_flatMap, List.flatMap_map, ih]
      refine List.flatMap_congr fun row _ => ?_
      rw [List.map_map, List.map_map]
      rfl

/-- A combination has a row for each input. -/
theorem length_of_mem_product {is : List Input} {rows : List Nat} (h : rows ∈ product is) :
    rows.length = is.length := by
  rw [tuples.length_of_mem h, List.length_map]

theorem fst_of_mem_pairings {is : List Input} {pairs : List (Input × Nat)}
    (h : pairs ∈ pairings is) : pairs.map Prod.fst = is := by
  rw [pairings_eq] at h
  obtain ⟨rows, hrows, rfl⟩ := List.mem_map.1 h
  exact List.map_fst_zip (Nat.le_of_eq (length_of_mem_product hrows).symm)

/-- The rows of an answer, read off the pairings. -/
theorem rows_answer (q : Query) (is : List Input) :
    (answer q is).rows = (((pairings is).map (judged q)).filter Prod.fst).map Prod.snd := by
  have hjudged : (product is).map (judged q ∘ is.zip) = (product is).map fun rows =>
      (q.predicate.toPredicate.holds (bindTuple is rows), values q is rows) := by
    refine List.map_congr_left fun rows hrows => ?_
    have hlength := length_of_mem_product hrows
    show judged q (is.zip rows) = _
    unfold judged
    rw [List.map_fst_zip (Nat.le_of_eq hlength.symm), List.map_snd_zip (Nat.le_of_eq hlength)]
  rw [pairings_eq, List.map_map, hjudged, List.filter_map, List.map_map]
  rfl

-- The role of a relation and what it knows are not looked at.

theorem product_bare (is : List Input) : product (is.map Input.bare) = product is := by
  unfold product
  rw [List.map_map]
  rfl

/-- What is bound is under the alias and of the table, so the rest of an input
does not matter. -/
theorem bindTuple_bare (is : List Input) : bindTuple (is.map Input.bare) = bindTuple is := by
  funext rows
  unfold bindTuple
  rw [List.zip_map_left, List.foldl_map]
  rfl

theorem cell_bare (is : List Input) : cell (is.map Input.bare) = cell is := by
  funext rows c
  unfold cell
  rw [List.zip_map_left, List.find?_map]
  have hsame : ((fun p : Input × Nat => decide (p.1.aliasName = c.relation))
      ∘ Prod.map Input.bare id) = fun p => decide (p.1.aliasName = c.relation) := rfl
  rw [hsame]
  cases (is.zip rows).find? (·.1.aliasName = c.relation) <;> rfl

theorem values_bare (q : Query) (is : List Input) : values q (is.map Input.bare) = values q is := by
  funext rows
  unfold values
  rw [cell_bare, List.zip_map_left, List.flatMap_map]
  rfl

theorem headers_bare (q : Query) (is : List Input) :
    headers q (is.map Input.bare) = headers q is := by
  unfold headers
  rw [List.flatMap_map, List.length_map]
  rfl

/-- Nor does it matter to the answer as a whole. -/
theorem answer_bare (q : Query) (is : List Input) :
    answer q (is.map Input.bare) = answer q is := by
  unfold answer accepted
  rw [headers_bare, values_bare, product_bare, bindTuple_bare]

-- ================================================================ order

variable {pairs pairs' : List (Input × Nat)}

/-- What is resolved stays so among relations in another order. -/
theorem resolved_perm {aliases aliases' : List String} (h : aliases'.Perm aliases)
    {ref : ColumnRef} (href : Resolved aliases ref) : Resolved aliases' ref := by
  obtain ⟨hrelation, hcolumn, hplain⟩ := href
  refine ⟨h.mem_iff.2 hrelation, hcolumn, hplain.imp (fun honly => ?_) id⟩
  exact List.perm_singleton.1 (honly ▸ h)

/-- An alias finds the pair that it belongs to. -/
theorem find?_of_mem (hnodup : (pairs.map (·.1.aliasName)).Nodup) {p : Input × Nat}
    (hp : p ∈ pairs) : pairs.find? (·.1.aliasName = p.1.aliasName) = some p := by
  cases hfind : pairs.find? (·.1.aliasName = p.1.aliasName) with
  | none => exact absurd (decide_eq_true rfl) (List.find?_eq_none.1 hfind p hp)
  | some found =>
      have hmem := List.mem_of_find?_eq_some hfind
      have halias := List.find?_some hfind
      rw [decide_eq_true_eq] at halias
      rw [List.inj_on_of_nodup_map hnodup hmem hp halias]

/-- An alias finds its only pair, wherever it stands. -/
theorem find?_perm (h : pairs'.Perm pairs) (hnodup : (pairs.map (·.1.aliasName)).Nodup)
    (aliasName : String) :
    pairs'.find? (·.1.aliasName = aliasName) = pairs.find? (·.1.aliasName = aliasName) := by
  cases hfind : pairs.find? (·.1.aliasName = aliasName) with
  | none =>
      rw [List.find?_eq_none] at hfind ⊢
      exact fun p hp => hfind p (h.mem_iff.1 hp)
  | some p =>
      have hp := List.mem_of_find?_eq_some hfind
      have halias := List.find?_some hfind
      rw [decide_eq_true_eq] at halias
      rw [← halias]
      exact find?_of_mem ((h.map _).nodup_iff.2 hnodup) (h.mem_iff.2 hp)

theorem zip_fst_snd (pairs : List (Input × Nat)) :
    (pairs.map Prod.fst).zip (pairs.map Prod.snd) = pairs :=
  (List.zip_of_prod rfl rfl).symm

/-- A reference finds in a combination what it finds in the row of its
own relation. -/
theorem lookup_paired {q : Query} (hq : Accepted q)
    (haliases : (pairs.map (·.1.aliasName)).Perm q.aliases) {ref : ColumnRef}
    (href : Resolved q.aliases ref) {i : Input} {row : Nat} (hmem : (i, row) ∈ pairs)
    (hi : i.aliasName = ref.relation) :
    ref.lookup (bindTuple (pairs.map Prod.fst) (pairs.map Prod.snd))
      = ref.lookup (i.bind row .empty) := by
  have hall : ((pairs.map Prod.fst).map Input.aliasName).Perm q.aliases := by
    rw [List.map_map]
    exact haliases
  refine (lookup_bindTuple (hall.nodup_iff.2 hq.coherent.aliases)
    (fun a ha => hq.named a (hall.mem_iff.1 ha)) ?_ (resolved_perm hall href) ?_ hi).symm
  · rw [List.length_map, List.length_map]
  · rw [zip_fst_snd]
    exact hmem

/-- The conditions and the columns do not look at the order of the
pairs. -/
theorem judged_perm {q : Query} (hq : Accepted q) (hlisted : q.wildcard = false)
    (haliases : (pairs.map (·.1.aliasName)).Perm q.aliases) (h : pairs'.Perm pairs) :
    judged q pairs' = judged q pairs := by
  have haliases' : (pairs'.map (·.1.aliasName)).Perm q.aliases := (h.map _).trans haliases
  have hlookup : ∀ c ∈ q.conditions, ∀ ref ∈ c.references,
      ref.lookup (bindTuple (pairs'.map Prod.fst) (pairs'.map Prod.snd))
        = ref.lookup (bindTuple (pairs.map Prod.fst) (pairs.map Prod.snd)) := by
    intro c hc ref href
    have hresolved := (hq.conditions c hc).resolved ref href
    obtain ⟨⟨i, row⟩, hmem, hi⟩ :=
      List.mem_map.1 (haliases.mem_iff.2 hresolved.relation)
    rw [lookup_paired hq haliases hresolved hmem hi,
      lookup_paired hq haliases' hresolved (h.mem_iff.2 hmem) hi]
  have hcell : cell (pairs'.map Prod.fst) (pairs'.map Prod.snd)
      = cell (pairs.map Prod.fst) (pairs.map Prod.snd) := by
    funext c
    unfold cell
    rw [zip_fst_snd, zip_fst_snd, find?_perm h (haliases.nodup_iff.2 hq.coherent.aliases)]
  unfold judged values
  rw [hlisted, hcell, Prod.mk.injEq]
  refine ⟨?_, rfl⟩
  rw [Bool.eq_iff_iff, Chain.holds_iff, Chain.holds_iff, Chain.evaluate_congr hlookup]

/-- In another order the relations have the same rows. -/
theorem rows_answer_perm {q : Query} (hq : Accepted q) (hlisted : q.wildcard = false)
    {is js : List Input} (haliases : is.map Input.aliasName = q.aliases)
    (h : (js.map Input.bare).Perm (is.map Input.bare)) :
    (answer q js).rows.Perm (answer q is).rows := by
  rw [← answer_bare q is, ← answer_bare q js, rows_answer, rows_answer]
  refine (List.Perm.filter _ ?_).map _
  refine tuples.map_perm (h.map _) fun pairs' hpairs' pairs hpairs hperm => ?_
  refine judged_perm hq hlisted (.of_eq ?_) hperm
  calc pairs.map (·.1.aliasName)
      = (pairs.map Prod.fst).map Input.aliasName := by
        rw [List.map_map]
        rfl
    _ = (is.map Input.bare).map Input.aliasName := by rw [fst_of_mem_pairings hpairs]
    _ = is.map Input.aliasName := by
        rw [List.map_map]
        rfl
    _ = q.aliases := haliases

-- ========================================================= requirements

/-- The requirement on columns, told by the references of the query. -/
theorem supplied_iff {q : Query} (hq : Accepted q) (hlisted : q.wildcard = false) {i : Input}
    (hi : i.relation ∈ q.relations) :
    Supplied q i ↔ ∀ ref ∈ q.references, ref.relation = i.aliasName →
      (Columns.position? i.table.columns ref.column).isSome = true := by
  have hknown : ∀ name, name ∈ i.relation.columnNames
      ↔ (⟨i.aliasName, name⟩ : ColumnRef) ∈ q.references := hq.coherent.known i.relation hi
  unfold Supplied requested
  rw [hlisted]
  constructor
  · rintro h ⟨relation, column⟩ href rfl
    exact h column ((hknown column).2 href)
  · intro h name hname
    exact h _ ((hknown name).1 hname) rfl

/-- Counting multiplies the radices in any order. -/
theorem combinations_perm {radices radices' : List Nat} (h : radices'.Perm radices) :
    (Odometer.ofRadices radices').combinations = (Odometer.ofRadices radices).combinations := by
  have hempty : radices'.isEmpty = radices.isEmpty := by
    rw [Bool.eq_iff_iff, List.isEmpty_iff_length_eq_zero, List.isEmpty_iff_length_eq_zero,
      h.length_eq]
  rw [Odometer.combinations_eq, Odometer.combinations_eq]
  unfold Odometer.ofRadices
  dsimp only
  rw [hempty, h.prod_eq]

section

variable {tables : List (String × Table)} {q q' : Query}

/-- The inputs are settled by what the relations are called. -/
theorem map_bare_inputs (tables : List (String × Table)) (q : Query) :
    (inputs tables q).map Input.bare
      = (q.sources.map Source.called).filterMap fun called =>
          (Catalog.registered? tables called.1).map (⟨.ofName .inner called.1 called.2, ·⟩) := by
  unfold inputs Query.sources
  rw [List.map_filterMap, List.map_map, List.filterMap_map]
  refine List.filterMap_congr fun r _ => ?_
  show Option.map Input.bare (Option.map _ _) = Option.map _ _
  rw [Option.map_map]
  rfl

/-- Relations in one order, called alike, stand for the same tables. -/
theorem map_bare_congr (tables : List (String × Table)) (h : q'.sources = q.sources) :
    (inputs tables q').map Input.bare = (inputs tables q).map Input.bare := by
  rw [map_bare_inputs, map_bare_inputs, h]

/-- Inputs that agree up to order have for each alias the same table. -/
theorem exists_input_of_bare {is js : List Input}
    (h : (js.map Input.bare).Perm (is.map Input.bare)) :
    ∀ j ∈ js, ∃ i ∈ is, i.aliasName = j.aliasName ∧ i.table = j.table := by
  intro j hj
  obtain ⟨i, hi, hbare⟩ := List.mem_map.1 (h.mem_iff.1 (List.mem_map_of_mem hj))
  have halias : i.bare.aliasName = j.bare.aliasName := by rw [hbare]
  have htable : i.bare.table = j.bare.table := by rw [hbare]
  exact ⟨i, hi, halias, htable⟩

/-- As many rows pass by themselves, so as many combinations are
counted. -/
theorem counted_congr (hcandidates : candidates q' = candidates q)
    (h : ((inputs tables q').map Input.bare).Perm ((inputs tables q).map Input.bare)) :
    Join.counted ((inputs tables q').map (opened q'))
      = Join.counted ((inputs tables q).map (opened q)) := by
  have hsizes : ∀ q : Query,
      (((inputs tables q).map (opened q)).map Scan.matching).map Array.size
        = ((inputs tables q).map Input.bare).map fun i => (candidates q i).length := by
    intro q
    rw [List.map_map, List.map_map, List.map_map]
    rfl
  unfold Join.counted
  rw [hsizes, hsizes, hcandidates]
  exact combinations_perm (h.map _)

theorem candidates_congr (h : q'.conditions = q.conditions) : candidates q' = candidates q := by
  unfold candidates admitted Query.predicate
  rw [h]

/-- Relations that are called alike stand for the same tables. -/
theorem inputs_perm (h : Alike q q') :
    ((inputs tables q').map Input.bare).Perm ((inputs tables q).map Input.bare) := by
  rw [map_bare_inputs, map_bare_inputs]
  exact h.called.filterMap _

/-- Alike queries name the same tables, which are registered for both. -/
theorem registered_alike (h : Alike q q')
    (hq : ∀ r ∈ q.relations, (Catalog.registered? tables r.name).isSome = true) :
    ∀ r ∈ q'.relations, (Catalog.registered? tables r.name).isSome = true := by
  intro r hr
  have hcalled : (r.name, r.aliasName) ∈ q.sources.map Source.called :=
    h.called.mem_iff.1 (List.mem_map_of_mem (List.mem_map_of_mem hr))
  obtain ⟨s, hs, hsame⟩ := List.mem_map.1 hcalled
  obtain ⟨r₀, hr₀, rfl⟩ := List.mem_map.1 hs
  exact (Prod.mk.inj hsame).1 ▸ hq r₀ hr₀

theorem registered_iff_sources (tables : List (String × Table)) (h : q'.sources = q.sources) :
    (∀ r ∈ q'.relations, r.role ≠ .full
        ∧ (Catalog.registered? tables r.name).isSome = true)
      ↔ ∀ r ∈ q.relations, r.role ≠ .full
        ∧ (Catalog.registered? tables r.name).isSome = true := by
  have hsources : ∀ q : Query, (∀ r ∈ q.relations, r.role ≠ .full
        ∧ (Catalog.registered? tables r.name).isSome = true)
      ↔ ∀ s ∈ q.sources, s.role ≠ .full
        ∧ (Catalog.registered? tables s.name).isSome = true := by
    intro q
    unfold Query.sources
    rw [List.forall_mem_map]
    rfl
  rw [hsources, hsources, h]

/-- What one query can be run on, the other can. -/
theorem runnable_alike {limit : Option Nat} (hq : Accepted q) (hq' : Accepted q')
    (h : Alike q q') (hrun : Runnable tables limit q) : Runnable tables limit q' := by
  have hreferences : q'.references = q.references := by
    unfold Query.references
    rw [h.projection, h.conditions]
  have hregistered := registered_alike h hrun.registered
  have hrelations := map_relation_inputs hrun.registered
  have hrelations' := map_relation_inputs hregistered
  refine ⟨?_, hregistered, ?_, ?_⟩
  · exact fun r hr => h.plain' r.source (List.mem_map_of_mem hr)
  · intro i' hi'
    obtain ⟨i, hi, halias, htable⟩ := exists_input_of_bare (inputs_perm h) i' hi'
    have hsupplied := (supplied_iff hq h.listed (hrelations ▸ List.mem_map_of_mem hi)).1
      (hrun.supplied i hi)
    refine (supplied_iff hq' h.listed' (hrelations' ▸ List.mem_map_of_mem hi')).2 ?_
    rw [hreferences, ← halias, ← htable]
    exact hsupplied
  · intro n hn
    rw [counted_congr (candidates_congr h.conditions) (inputs_perm h)]
    exact hrun.few n hn

/-- Alike queries have the same columns, and the same rows but for their
order. -/
theorem answer_alike (hq : Accepted q) (h : Alike q q')
    (hrelations : (inputs tables q).map Input.relation = q.relations) :
    (answer q' (inputs tables q')).columns = (answer q (inputs tables q)).columns
      ∧ (answer q' (inputs tables q')).rows.Perm (answer q (inputs tables q)).rows := by
  have haliases : (inputs tables q).map Input.aliasName = q.aliases := by
    rw [Query.aliases, ← hrelations, List.map_map]
    rfl
  have hjudged : judged q' = judged q := by
    funext pairs
    unfold judged values Query.predicate
    rw [h.conditions, h.projection, h.listed, h.listed']
  have hrows : (answer q' (inputs tables q')).rows = (answer q (inputs tables q')).rows := by
    rw [rows_answer, rows_answer, hjudged]
  constructor
  · unfold answer headers
    rw [h.listed, h.listed', h.projection]
    rfl
  · rw [hrows]
    exact rows_answer_perm hq h.listed haliases (inputs_perm h)

end

-- ============================================================= reordering

variable {disk : Disk} {tables : List (String × Table)} {limit : Option Nat}
variable {text text' : String} {d d' : Draft}

/-- If a statement is answered, so it is with its relations in another
order. -/
theorem exists_answer_of_reordered (hd : Draft.ofText text = .ok d)
    (hd' : Draft.ofText text' = .ok d') (h : Reordered d d')
    (hlisted : d.projection ≠ some ["*"]) {result : QueryResult}
    (hresult : executeQuery disk ⟨text, Catalog.registering tables limit⟩ = .ok result) :
    ∃ result', executeQuery disk ⟨text', Catalog.registering tables limit⟩ = .ok result'
      ∧ result'.columns = result.columns ∧ result'.rows.Perm result.rows := by
  obtain ⟨q, hparse, hrun, rfl⟩ := executeQuery_eq_ok.1 hresult
  obtain ⟨q', hparse', halike⟩ := parse_reordered hd hd' h hlisted hparse
  have hq := accepted_of_parse hparse
  have hrun' := runnable_alike hq (accepted_of_parse hparse') halike hrun
  refine ⟨_, executeQuery_eq_ok.2 ⟨q', hparse', hrun', rfl⟩, ?_⟩
  exact answer_alike hq halike (map_relation_inputs hrun.registered)

/-- The order of relations does not matter. Whatever tables are
registered and whatever the limit for joins: of two statements with one
select list and one list of conditions that name the same relations
under the same aliases, none in a full join, the one is answered if the
other is. The answers have the same columns, and the same rows as often. -/
theorem executeQuery_reordered (disk : Disk) (tables : List (String × Table))
    (limit : Option Nat) (hd : Draft.ofText text = .ok d)
    (hd' : Draft.ofText text' = .ok d') (h : Reordered d d')
    (hlisted : d.projection ≠ some ["*"]) :
    ((∃ result, executeQuery disk ⟨text, Catalog.registering tables limit⟩ = .ok result)
        ↔ ∃ result', executeQuery disk ⟨text', Catalog.registering tables limit⟩
            = .ok result')
      ∧ ∀ result result',
          executeQuery disk ⟨text, Catalog.registering tables limit⟩ = .ok result →
          executeQuery disk ⟨text', Catalog.registering tables limit⟩ = .ok result' →
            result'.columns = result.columns ∧ result'.rows.Perm result.rows := by
  have hlisted' : d'.projection ≠ some ["*"] := h.projection ▸ hlisted
  -- what holds of one statement against the other holds the other way
  -- round, so an answer of either gives one of both
  refine ⟨⟨?_, ?_⟩, ?_⟩
  · rintro ⟨result, hresult⟩
    obtain ⟨result', hresult', -⟩ := exists_answer_of_reordered hd hd' h hlisted hresult
    exact ⟨result', hresult'⟩
  · rintro ⟨result', hresult'⟩
    obtain ⟨result, hresult, -⟩ :=
      exists_answer_of_reordered hd' hd h.symm hlisted' hresult'
    exact ⟨result, hresult⟩
  · intro result result' hresult hresult'
    obtain ⟨found, hfound, hsame⟩ := exists_answer_of_reordered hd hd' h hlisted hresult
    obtain rfl := Except.ok.inj (hfound.symm.trans hresult')
    exact hsame

/-- One table twice, in two orders: the pairs are grouped by the one or by
the other. -/
theorem executeQuery_reordered_town :
    let text := "select p.id, o.id as k from people p join people o where o.id <> p.id"
    let text' := "select p.id, o.id as k from people as o join people p where o.id <> p.id"
    let rows := [["1", "2"], ["1", "3"], ["2", "1"], ["2", "3"], ["3", "1"], ["3", "2"]]
    executeQuery .empty ⟨text, Catalog.registering town (some 9)⟩ = .ok ⟨["id", "k"], rows⟩
      ∧ ∃ rows', executeQuery .empty ⟨text', Catalog.registering town (some 9)⟩
            = .ok ⟨["id", "k"], rows'⟩
          ∧ rows'.Perm rows ∧ rows'.head? = some ["2", "1"] := by
  intro text text' rows
  have hrun : executeQuery .empty ⟨text, Catalog.registering town (some 9)⟩
      = .ok ⟨["id", "k"], rows⟩ := eq_ok_of_toOption (by decide +kernel)
  have hd : Draft.ofText text = .ok _ :=
    eq_ok_of_toOption (a := ⟨some ["p.id", ",", "o.id", "as", "k"],
      [⟨.leading, "people", "p"⟩, ⟨.inner, "people", "o"⟩],
      [["o.id", "<>", "p.id"]]⟩) (by decide +kernel)
  have hd' : Draft.ofText text' = .ok _ :=
    eq_ok_of_toOption (a := ⟨some ["p.id", ",", "o.id", "as", "k"],
      [⟨.leading, "people", "o"⟩, ⟨.inner, "people", "p"⟩],
      [["o.id", "<>", "p.id"]]⟩) (by decide +kernel)
  obtain ⟨hiff, hsame⟩ := executeQuery_reordered .empty town (some 9) hd hd'
    ⟨rfl, rfl, by decide, by decide, by decide⟩ (by decide)
  obtain ⟨⟨columns', rows'⟩, hrun'⟩ := hiff.1 ⟨_, hrun⟩
  obtain ⟨hcolumns, hrows⟩ := hsame _ _ hrun hrun'
  dsimp only at hcolumns hrows
  subst hcolumns
  refine ⟨hrun, rows', hrun', hrows, ?_⟩
  have hhead : (executeQuery .empty ⟨text', Catalog.registering town (some 9)⟩).toOption.map
      (·.rows.head?) = some (some ["2", "1"]) := by decide +kernel
  rw [hrun'] at hhead
  exact Option.some.inj hhead

end FlatQuery.Command
