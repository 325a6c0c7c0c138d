/-
A star against the list of all columns. The two statements put out the
same rows (`rows_starred`), and what the one needs to be run the other
needs too, with one thing more on the side of the list: it asks every
relation for the columns that conditions name, so these have to exist
(`runnable_starred`). To the star they may be missing, and then the
condition is simply not met.
-/
import FlatQuery.Proofs.Command.Interchange
import FlatQuery.Proofs.Statement.Spelled

namespace FlatQuery.Command

open Text Statement Result

/-- The columns of the table that is registered under a name. -/
def columnsOf (tables : List (String × Table)) (name : String) : List String :=
  (Catalog.registered? tables name).elim [] Table.columns

/-- Every column that a condition names is one of its relation. -/
def Grounded (tables : List (String × Table)) (q : Query) : Prop :=
  ∀ c ∈ q.conditions, ∀ ref ∈ c.references, ∀ i ∈ inputs tables q,
    i.aliasName = ref.relation → (Columns.position? i.table.columns ref.column).isSome = true

-- ================================================================ cells

/-- The cells of all columns of a relation are the values of its row. -/
theorem map_cell_columns {is : List Input} {rows : List Nat}
    (hnodup : (is.map Input.aliasName).Nodup) (hrows : InRange is rows) {i : Input} {row : Nat}
    (hmem : (i, row) ∈ is.zip rows) :
    i.table.columns.map (fun name => cell is rows ⟨i.aliasName, name, none, .text⟩)
      = i.fields row := by
  have haliases : ((is.zip rows).map (·.1.aliasName)).Nodup := by
    have hfst : (is.zip rows).map Prod.fst = is :=
      List.map_fst_zip (Nat.le_of_eq hrows.length_eq)
    rw [← hfst, List.map_map] at hnodup
    exact hnodup
  have hfind := find?_of_mem haliases hmem
  have hlength : (i.fields row).length = i.table.columns.length :=
    length_fields (List.forall₂_iff_zip.1 hrows |>.2 hmem)
  refine List.ext_getElem (by rw [List.length_map, hlength]) fun k hk hk' => ?_
  rw [List.length_map] at hk
  have hposition := Columns.position?_of_getElem? i.table.distinct
    (List.getElem?_eq_getElem hk)
  rw [List.getElem_map, cell, hfind]
  simp only [hposition]
  rw [List.getD_eq_getElem?_getD, List.getElem?_eq_getElem hk']
  rfl

section

variable {tables : List (String × Table)} {q q' : Query}

/-- Where all relations are registered, their columns are those of the
inputs. -/
theorem spelling_inputs (hrelations : (inputs tables q).map Input.relation = q.relations) :
    spelling (columnsOf tables) q.sources
      = (inputs tables q).flatMap fun i => i.table.columns.map (⟨i.aliasName, ·⟩) := by
  unfold spelling Query.sources
  rw [← hrelations, List.map_map, List.flatMap_map]
  refine List.flatMap_congr fun i hi => ?_
  have hcolumns : columnsOf tables i.relation.name = i.table.columns := by
    rw [columnsOf, table_of_mem_inputs i hi]
    rfl
  show (columnsOf tables i.relation.name).map _ = _
  rw [hcolumns]
  rfl

theorem map_aliasName_inputs (hrelations : (inputs tables q).map Input.relation = q.relations) :
    (inputs tables q).map Input.aliasName = q.aliases := by
  rw [Query.aliases, ← hrelations, List.map_map]
  rfl

-- ================================================================= rows

/-- The list accepts the combinations that the star accepts. -/
theorem accepted_starred {columns : List ColumnRef} (h : Starred columns q q') :
    accepted q' (inputs tables q') = accepted q (inputs tables q) := by
  have hbare := map_bare_congr tables h.sources
  unfold accepted Query.predicate
  rw [← product_bare, ← bindTuple_bare, hbare, product_bare, bindTuple_bare, h.conditions]

/-- The columns of the list have the values of the star. -/
theorem values_starred (hq : Accepted q)
    (hrelations : (inputs tables q).map Input.relation = q.relations)
    (h : Starred (spelling (columnsOf tables) q.sources) q q') {rows : List Nat}
    (hrows : InRange (inputs tables q) rows) :
    values q' (inputs tables q') rows = values q (inputs tables q) rows := by
  have hnodup : ((inputs tables q).map Input.aliasName).Nodup :=
    map_aliasName_inputs hrelations ▸ hq.coherent.aliases
  have hcell : cell (inputs tables q') = cell (inputs tables q) := by
    rw [← cell_bare, map_bare_congr tables h.sources, cell_bare]
  have hfst : ((inputs tables q).zip rows).map Prod.fst = inputs tables q :=
    List.map_fst_zip (Nat.le_of_eq hrows.length_eq)
  calc values q' (inputs tables q') rows
      = q'.projection.map (cell (inputs tables q) rows) := by
        rw [values, h.listed, hcell]
        rfl
    _ = (q'.projection.map Column.reference).map
          fun ref => cell (inputs tables q) rows ⟨ref.relation, ref.column, none, .text⟩ := by
        rw [List.map_map]
        rfl
    _ = (((inputs tables q).zip rows).map Prod.fst).flatMap fun i => i.table.columns.map
          fun name => cell (inputs tables q) rows ⟨i.aliasName, name, none, .text⟩ := by
        rw [h.projection, spelling_inputs hrelations, List.map_flatMap, hfst]
        refine List.flatMap_congr fun i _ => ?_
        rw [List.map_map]
        rfl
    _ = ((inputs tables q).zip rows).flatMap fun p => p.1.fields p.2 := by
        rw [List.flatMap_map]
        exact List.flatMap_congr fun p hp => map_cell_columns hnodup hrows hp
    _ = values q (inputs tables q) rows := by
        rw [values, if_pos h.star]

/-- A star and the list of all columns put out the same rows. -/
theorem rows_starred (hq : Accepted q)
    (hrelations : (inputs tables q).map Input.relation = q.relations)
    (h : Starred (spelling (columnsOf tables) q.sources) q q') :
    (answer q' (inputs tables q')).rows = (answer q (inputs tables q)).rows := by
  unfold answer
  rw [accepted_starred h]
  exact List.map_congr_left fun rows hrows =>
    values_starred hq hrelations h (inRange_of_mem_accepted hrows)

-- ========================================================= requirements

/-- The list asks for columns that there are, if those in conditions are. -/
theorem supplied_starred (hq : Accepted q) (hq' : Accepted q')
    (hrelations : (inputs tables q).map Input.relation = q.relations)
    (hrelations' : (inputs tables q').map Input.relation = q'.relations)
    (h : Starred (spelling (columnsOf tables) q.sources) q q') :
    (∀ i' ∈ inputs tables q', Supplied q' i') ↔ Grounded tables q := by
  have hsupplied : ∀ i' ∈ inputs tables q', Supplied q' i' ↔
      ∀ ref ∈ q'.references, ref.relation = i'.aliasName →
        (Columns.position? i'.table.columns ref.column).isSome = true := fun i' hi' =>
    supplied_iff hq' h.listed (hrelations' ▸ List.mem_map_of_mem hi')
  have hbare := List.Perm.of_eq (map_bare_congr tables h.sources)
  constructor
  · intro hall c hc ref href i hi hrelation
    obtain ⟨i', hi', halias, htable⟩ := exists_input_of_bare hbare.symm i hi
    have hmem : ref ∈ q'.references := by
      refine List.mem_append_right _ (List.mem_flatMap.2 ⟨c, ?_, href⟩)
      rw [h.conditions]
      exact hc
    rw [← htable]
    exact (hsupplied i' hi').1 (hall i' hi') ref hmem (hrelation.symm.trans halias.symm)
  · intro hgrounded i' hi'
    refine (hsupplied i' hi').2 fun ref href hrelation => ?_
    obtain ⟨i, hi, halias, htable⟩ := exists_input_of_bare hbare i' hi'
    rw [← htable]
    rcases List.mem_append.1 href with hlisted | hcompared
    · -- a column of the list is one of the table under its alias
      have hspelled : ref ∈ spelling (columnsOf tables) q.sources := h.projection ▸ hlisted
      rw [spelling_inputs hrelations] at hspelled
      obtain ⟨i₀, hi₀, hname⟩ := List.mem_flatMap.1 hspelled
      obtain ⟨name, hmem, rfl⟩ := List.mem_map.1 hname
      have hnodup : ((inputs tables q).map Input.aliasName).Nodup :=
        map_aliasName_inputs hrelations ▸ hq.coherent.aliases
      obtain rfl := List.inj_on_of_nodup_map hnodup hi₀ hi (hrelation.trans halias.symm)
      obtain ⟨k, hk⟩ := List.mem_iff_getElem?.1 hmem
      rw [Columns.position?_of_getElem? i₀.table.distinct hk]
      rfl
    -- a column of a condition is there by assumption
    · obtain ⟨c, hc, hrefc⟩ := List.mem_flatMap.1 hcompared
      rw [h.conditions] at hc
      exact hgrounded c hc ref hrefc i hi (halias.trans hrelation.symm)

/-- What the list needs is what the star needs, and that conditions name
columns that there are. -/
theorem runnable_starred {limit : Option Nat} (hq : Accepted q) (hq' : Accepted q')
    (h : Starred (spelling (columnsOf tables) q.sources) q q') :
    Runnable tables limit q' ↔ Runnable tables limit q ∧ Grounded tables q := by
  have hcounted := counted_congr (candidates_congr h.conditions)
    (.of_eq (map_bare_congr tables h.sources))
  have hregistered := registered_iff_sources tables h.sources
  constructor
  · intro hrun
    obtain ⟨hroles, hnames⟩ := forall₂_and.1
      (hregistered.1 fun r hr => ⟨hrun.roles r hr, hrun.registered r hr⟩)
    have hgrounded := (supplied_starred hq hq' (map_relation_inputs hnames)
      (map_relation_inputs hrun.registered) h).1 hrun.supplied
    refine ⟨⟨hroles, hnames, fun i hi name hname => ?_, fun n hn => ?_⟩, hgrounded⟩
    · -- the star asks for nothing by name
      rw [requested, if_pos h.star] at hname
      cases hname
    · rw [← hcounted]
      exact hrun.few n hn
  · rintro ⟨hrun, hgrounded⟩
    obtain ⟨hroles, hnames⟩ := forall₂_and.1
      (hregistered.2 fun r hr => ⟨hrun.roles r hr, hrun.registered r hr⟩)
    refine ⟨hroles, hnames, ?_, fun n hn => ?_⟩
    · exact (supplied_starred hq hq' (map_relation_inputs hrun.registered)
        (map_relation_inputs hnames) h).2 hgrounded
    · rw [hcounted]
      exact hrun.few n hn

end

-- ============================================================ the star

/-- A star equals the list of all columns. Whatever tables are registered
and whatever the limit for joins: of two accepted statements that differ
in the select list, the one a star and the other every column of every
relation in order, the list is answered exactly if the star is and every
column that a condition names exists. Where both are answered, they have
the same rows. -/
theorem executeQuery_spelled (disk : Disk) (tables : List (String × Table))
    (limit : Option Nat) {text text' : String} {d d' : Draft} {q q' : Query}
    (hd : Draft.ofText text = .ok d) (hd' : Draft.ofText text' = .ok d')
    (h : Spelled (columnsOf tables) d d') (hparse : Query.parse text = .ok q)
    (hparse' : Query.parse text' = .ok q') :
    ((∃ result', executeQuery disk ⟨text', Catalog.registering tables limit⟩ = .ok result')
        ↔ (∃ result, executeQuery disk ⟨text, Catalog.registering tables limit⟩ = .ok result)
          ∧ Grounded tables q)
      ∧ ∀ result result',
          executeQuery disk ⟨text, Catalog.registering tables limit⟩ = .ok result →
          executeQuery disk ⟨text', Catalog.registering tables limit⟩ = .ok result' →
            result'.rows = result.rows := by
  have hstarred := starred_of_parse hd hd' h hparse hparse'
  have hq := accepted_of_parse hparse
  have hrunnable : Runnable tables limit q' ↔ Runnable tables limit q ∧ Grounded tables q :=
    runnable_starred hq (accepted_of_parse hparse') hstarred
  refine ⟨?_, fun result result' hresult hresult' => ?_⟩
  · rw [exists_answer_iff hparse, exists_answer_iff hparse', hrunnable]
  · have hrun := (exists_answer_iff hparse).1 ⟨result, hresult⟩
    have hrun' := (exists_answer_iff hparse').1 ⟨result', hresult'⟩
    rw [executeQuery_of_runnable disk hparse hrun] at hresult
    rw [executeQuery_of_runnable disk hparse' hrun'] at hresult'
    rw [← Except.ok.inj hresult, ← Except.ok.inj hresult']
    exact rows_starred hq (map_relation_inputs hrun.registered) hstarred

/-- One table joined with itself; the list is written in two cases. -/
theorem executeQuery_spelled_town :
    let text := "select * from homes h join homes k on h.city = 'rome'"
    let text' := "select h.owner as a, H.City as b, k.owner as c, k.city as d
      from homes h join homes k on h.city = 'rome'"
    let rows := [["2", "rome", "2", "rome"], ["2", "rome", "1", "oslo"], ["2", "rome", "2", "oslo"]]
    executeQuery .empty ⟨text, Catalog.registering town none⟩
        = .ok ⟨["h.owner", "h.city", "k.owner", "k.city"], rows⟩
      ∧ ∃ columns, executeQuery .empty ⟨text', Catalog.registering town none⟩
        = .ok ⟨columns, rows⟩ := by
  intro text text' rows
  let sources : List Source := [⟨.leading, "homes", "h"⟩, ⟨.inner, "homes", "k"⟩]
  let groups := [["h.city", "=", "'rome'"]]
  let tokens := ["h.owner", "as", "a", ",", "H.City", "as", "b", ",", "k.owner", "as", "c", ",",
    "k.city", "as", "d"]
  let list : List Item := [⟨"h.owner", some "a"⟩, ⟨"H.City", some "b"⟩, ⟨"k.owner", some "c"⟩,
    ⟨"k.city", some "d"⟩]
  let q : Query := {
    projection := []
    relations := [.knowing .leading "homes" "h" ["city"], .knowing .inner "homes" "k" []]
    conditions := [⟨.and, ⟨"h", "city"⟩, .equal, .text "rome"⟩]
    wildcard := true }
  have hd : Draft.ofText text = .ok ⟨some ["*"], sources, groups⟩ :=
    eq_ok_of_toOption (by decide +kernel)
  have hd' : Draft.ofText text' = .ok ⟨some tokens, sources, groups⟩ :=
    eq_ok_of_toOption (by decide +kernel)
  have hitems : items tokens = .ok (some list) := eq_ok_of_toOption (by decide +kernel)
  have hspelled : Spelled (columnsOf town) ⟨some ["*"], sources, groups⟩
      ⟨some tokens, sources, groups⟩ :=
    ⟨rfl, rfl, rfl, tokens, list, rfl, hitems, by decide +kernel⟩
  have hparse : Query.parse text = .ok q := by
    rw [parse_eq_bind, hd, ok_bind]
    exact eq_ok_of_toOption (by decide +kernel)
  have hparsed : (Query.parse text').toOption.isSome = true := by
    rw [parse_eq_bind, hd', ok_bind]
    decide +kernel
  have hrun : executeQuery .empty ⟨text, Catalog.registering town none⟩
      = .ok ⟨["h.owner", "h.city", "k.owner", "k.city"], rows⟩ := by
    rw [executeQuery, executeReader, hparse]
    exact eq_ok_of_toOption (by decide +kernel)
  obtain ⟨q', hq'⟩ := Option.isSome_iff_exists.1 hparsed
  have hgrounded : Grounded town q := by
    unfold Grounded
    decide +kernel
  obtain ⟨hanswered, hrows⟩ := executeQuery_spelled .empty town none hd hd' hspelled hparse
    (eq_ok_of_toOption hq')
  obtain ⟨⟨columns, rows'⟩, hrun'⟩ := hanswered.2 ⟨⟨_, hrun⟩, hgrounded⟩
  obtain rfl : rows' = rows := hrows _ _ hrun hrun'
  exact ⟨hrun, columns, hrun'⟩

/-- A table without the column that a condition names. -/
def bareTown : List (String × Table) :=
  [("t", ⟨["id"], #[["1"], ["2"]], by decide, by decide⟩)]

/-- The star takes a missing column for a condition that is not met; the
list of all columns is refused. -/
theorem star_overlooks_missing_column :
    let text := "select * from t where t.zip = '1'"
    let text' := "select t.id as a from t where t.zip = '1'"
    (∃ d d', Draft.ofText text = .ok d ∧ Draft.ofText text' = .ok d'
        ∧ Spelled (columnsOf bareTown) d d')
      ∧ (∃ q, Query.parse text = .ok q) ∧ (∃ q', Query.parse text' = .ok q')
      ∧ executeQuery .empty ⟨text, Catalog.registering bareTown none⟩ = .ok ⟨["id"], []⟩
      ∧ executeQuery .empty ⟨text', Catalog.registering bareTown none⟩
        = .error (.unknownColumn "zip" "t") := by
  intro text text'
  let sources : List Source := [⟨.leading, "t", "t"⟩]
  let groups := [["t.zip", "=", "'1'"]]
  let tokens := ["t.id", "as", "a"]
  have hd : Draft.ofText text = .ok ⟨some ["*"], sources, groups⟩ :=
    eq_ok_of_toOption (by decide +kernel)
  have hd' : Draft.ofText text' = .ok ⟨some tokens, sources, groups⟩ :=
    eq_ok_of_toOption (by decide +kernel)
  have hitems : items tokens = .ok (some [⟨"t.id", some "a"⟩]) :=
    eq_ok_of_toOption (by decide +kernel)
  have hspelled : Spelled (columnsOf bareTown) ⟨some ["*"], sources, groups⟩
      ⟨some tokens, sources, groups⟩ :=
    ⟨rfl, rfl, rfl, tokens, _, rfl, hitems, by decide +kernel⟩
  let conditions : List Condition := [⟨.and, ⟨"t", "zip"⟩, .equal, .text "1"⟩]
  have hparse : Query.parse text
      = .ok ⟨[], [.knowing .leading "t" "t" ["zip"]], conditions, true⟩ := by
    rw [parse_eq_bind, hd, ok_bind]
    exact eq_ok_of_toOption (by decide +kernel)
  have hparse' : Query.parse text' = .ok ⟨[⟨"t", "id", some "a", .text⟩],
      [.knowing .leading "t" "t" ["id", "zip"]], conditions, false⟩ := by
    rw [parse_eq_bind, hd', ok_bind]
    exact eq_ok_of_toOption (by decide +kernel)
  refine ⟨⟨_, _, hd, hd', hspelled⟩, ⟨_, hparse⟩, ⟨_, hparse'⟩, ?_, ?_⟩
  · rw [executeQuery, executeReader, hparse]
    decide +kernel
  · rw [executeQuery, executeReader, hparse']
    decide +kernel

end FlatQuery.Command
