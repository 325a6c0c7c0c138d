/-
A statement that asks for every column by a star, and one that spells
the columns out, each under the alias of its relation, and is the same
otherwise (`Spelled`). Both accepted, they give queries with the same
relations and the same conditions; the columns of the second are those
that were spelled out (`starred_of_parse`).

A spelled column holds a point, so it is read as the reference around
that point, whatever else stands in the text (`qualified_of_resolve`).
-/
import FlatQuery.Proofs.Statement.Printed
import FlatQuery.Proofs.Statement.Reordered

namespace FlatQuery

open Text Token Result

namespace Statement

-- ========================================================== vocabulary

/-- The columns of relations, each under the alias of its relation, if
`columns` gives those of a name. -/
def spelling (columns : String → List String) (sources : List Source) : List ColumnRef :=
  sources.flatMap fun s => (columns s.name).map (⟨s.aliasName, ·⟩)

/-- Two drafts that differ in the select list: a star, and the columns of
all relations in their order, written as `alias.column` in any case and
with whatever output names. -/
structure Spelled (columns : String → List String) (d d' : Draft) : Prop where
  star : d.projection = some ["*"]
  sources : d'.sources = d.sources
  groups : d'.groups = d.groups
  list : ∃ tokens list, d'.projection = some tokens ∧ items tokens = .ok (some list)
    ∧ list.map (fun i => lowercase i.column)
      = (spelling columns d.sources).map ColumnRef.qualified

/-- A query for every column, and another that has these columns instead
and is the same otherwise. -/
structure Starred (columns : List ColumnRef) (q q' : Query) : Prop where
  star : q.wildcard = true
  listed : q'.wildcard = false
  sources : q'.sources = q.sources
  conditions : q'.conditions = q.conditions
  projection : q'.projection.map Column.reference = columns

-- ============================================================== columns

/-- A name with a point is read as the reference around it. -/
theorem qualified_of_resolve {q : Query} {token : String} {ref : ColumnRef}
    (h : resolve q token = .ok ref) (hpoint : '.' ∈ (lowercase token).toList) :
    ref.qualified = lowercase token
      ∧ '.' ∉ ref.relation.toList ∧ '.' ∉ ref.column.toList := by
  rw [resolve_eq] at h
  split at h
  · cases h
  · rw [if_pos (List.contains_iff_mem.2 hpoint)] at h
    split at h
    · cases h
    · next found hfound =>
      split at h
      · obtain rfl := Except.ok.inj h
        obtain ⟨htext, -, -, hrelation, hcolumn⟩ := ColumnRef.parse?_eq_some hfound
        refine ⟨?_, hrelation, hcolumn⟩
        rw [← String.toList_inj, ColumnRef.toList_qualified, htext]
      · cases h

/-- References whose parts have no point are told apart by their text. -/
theorem qualified_inj {ref ref' : ColumnRef} (hrelation : '.' ∉ ref.relation.toList)
    (hcolumn : '.' ∉ ref.column.toList) (h : ref'.qualified = ref.qualified) : ref' = ref := by
  rw [← String.toList_inj, ColumnRef.toList_qualified, ColumnRef.toList_qualified] at h
  have hsame := eq_of_append_point hrelation hcolumn h
  rw [hsame, List.append_cancel_left_eq, List.cons.injEq] at h
  obtain ⟨relation, column⟩ := ref
  obtain ⟨relation', column'⟩ := ref'
  rw [ColumnRef.mk.injEq, ← String.toList_inj, ← String.toList_inj]
  exact ⟨hsame, h.2⟩

/-- Items that spell columns out add these columns. -/
theorem foldlM_addItem_spelled {list : List Item} {columns : List ColumnRef} {q q' : Query}
    (hlist : list.map (fun i => lowercase i.column) = columns.map ColumnRef.qualified)
    (h : list.foldlM addItem q = .ok q') :
    q'.projection.map Column.reference = q.projection.map Column.reference ++ columns := by
  induction list generalizing columns q with
  | nil =>
      obtain rfl := Except.ok.inj h
      rw [List.map_eq_nil_iff.1 hlist.symm, List.append_nil]
  | cons i list ih =>
      obtain ⟨q₁, hadd, hrest⟩ := foldlM_cons_eq_ok.1 h
      obtain ⟨column, columns, rfl, hcolumn, hcolumns⟩ := List.map_eq_cons_iff.1 hlist.symm
      replace hcolumn : column.qualified = lowercase i.column := hcolumn
      obtain ⟨ref, href, hadd⟩ := addItem_eq_ok.1 hadd
      obtain ⟨-, rfl⟩ := Query.addProjection_eq_ok.1 hadd
      have hpoint : '.' ∈ (lowercase i.column).toList := by
        rw [← hcolumn, ColumnRef.toList_qualified]
        exact List.mem_append_right _ (List.mem_cons_self ..)
      obtain ⟨hqualified, hrelation, hname⟩ := qualified_of_resolve href hpoint
      obtain rfl := qualified_inj hrelation hname (hcolumn.trans hqualified.symm)
      rw [ih hcolumns.symm hrest, List.map_append, List.append_assoc]
      rfl

-- ============================================================ statements

/-- A star and a spelled list give the same query but for its columns. -/
theorem starred_of_parse {text text' : String} {d d' : Draft} {q q' : Query}
    {columns : String → List String} (hd : Draft.ofText text = .ok d)
    (hd' : Draft.ofText text' = .ok d') (h : Spelled columns d d')
    (hq : Query.parse text = .ok q) (hq' : Query.parse text' = .ok q') :
    Starred (spelling columns q.sources) q q' := by
  rw [parse_eq_bind, hd, ok_bind, toQuery_eq] at hq
  rw [parse_eq_bind, hd', ok_bind, toQuery_eq] at hq'
  obtain ⟨q₀, hq₀, hgroups⟩ := bind_eq_ok.1 hq
  obtain ⟨chains, hchains, rfl⟩ := foldlM_groups_eq_ok.1 hgroups
  obtain ⟨q₀', hq₀', hgroups'⟩ := bind_eq_ok.1 hq'
  obtain ⟨chains', hchains', rfl⟩ := foldlM_groups_eq_ok.1 hgroups'
  have hsources := (outline_fields hq₀).1
  have hsources' := (outline_fields hq₀').1
  obtain ⟨tokens, list, htokens, hitems, hlist⟩ := h.list
  -- before its columns are added, either query has its relations only
  obtain ⟨projection, q₁, hprojection, -, hadded, hadd⟩ := outline_eq_ok.1 hq₀
  obtain ⟨projection', q₁', hprojection', -, hadded', hadd'⟩ := outline_eq_ok.1 hq₀'
  obtain ⟨-, hnone', -, hwildcard'⟩ := Query.foldlM_addSource_fields hadded'
  have hstar : q₀ = q₁.setWildcard := by
    obtain rfl := Option.some.inj (h.star.symm.trans hprojection)
    rcases addItems_eq_ok.1 hadd with ⟨-, hq₀⟩ | ⟨_, hsome, -⟩
    · exact hq₀
    · cases hsome
  have hcolumns : list.foldlM addItem q₁' = .ok q₀' := by
    obtain rfl := Option.some.inj (htokens.symm.trans hprojection')
    rcases addItems_eq_ok.1 hadd' with ⟨hsome, -⟩ | ⟨list', hlist', hadd'⟩
    · cases hitems.symm.trans hsome
    · obtain rfl := Option.some.inj (Except.ok.inj (hitems.symm.trans hlist'))
      exact hadd'
  have hsame : conditions q₀' .and = conditions q₀ .and := by
    refine funext fun tokens => conditions_congr (.of_eq ?_) .and tokens
    rw [Query.aliases_eq, Query.aliases_eq, hsources, hsources', h.sources]
  rw [hsame, h.groups, hchains] at hchains'
  obtain rfl := Except.ok.inj hchains'
  constructor
  case star => rw [Query.wildcard_foldl_addCondition, hstar]; rfl
  case listed =>
    rw [Query.wildcard_foldl_addCondition, (foldlM_addItem_fields hcolumns).2.1, hwildcard']
    rfl
  case sources =>
    rw [Query.sources_foldl_addCondition, Query.sources_foldl_addCondition, hsources, hsources',
      h.sources]
  case conditions =>
    rw [Query.conditions_foldl_addCondition, Query.conditions_foldl_addCondition,
      conditions_outline hq₀, conditions_outline hq₀']
  case projection =>
    rw [Query.projection_foldl_addCondition, Query.sources_foldl_addCondition, hsources,
      foldlM_addItem_spelled hlist hcolumns, hnone']
    rfl

end Statement

end FlatQuery
