/-
Statements that name the same relations in another order. Names are
resolved by the aliases, whatever their order, so the one is accepted if
the other is, and the two queries differ in their relations only
(`parse_reordered`).

The stages of reading are taken one by one. Relations can be added if
their aliases are distinct, in any order; to the two queries that come
of it the select list adds the same columns, and the lists of conditions
are read as the same terms.
-/
import FlatQuery.Proofs.Statement.WellFormed

namespace FlatQuery

open Token Result

namespace Statement

-- ========================================================== vocabulary

/-- The draft of a statement. -/
def Draft.ofText (text : String) : Result Draft := do
  draft (dropSemicolons (← tokenize text))

theorem parse_eq_bind (text : String) :
    Query.parse text = Draft.ofText text >>= Draft.toQuery := by
  unfold Query.parse Draft.ofText
  rw [bind_assoc]

/-- The name and the alias of a relation. -/
def Source.called (s : Source) : String × String := (s.name, s.aliasName)

/-- Two drafts that differ in the order of their relations, none of them
in a full join. -/
structure Reordered (d d' : Draft) : Prop where
  projection : d'.projection = d.projection
  groups : d'.groups = d.groups
  called : (d'.sources.map Source.called).Perm (d.sources.map Source.called)
  plain : ∀ s ∈ d.sources, s.role ≠ .full
  plain' : ∀ s ∈ d'.sources, s.role ≠ .full

/-- A query with columns of its own, and another that differs from it in
the order of the relations, none of them in a full join. -/
structure Alike (q q' : Query) : Prop where
  projection : q'.projection = q.projection
  conditions : q'.conditions = q.conditions
  listed : q.wildcard = false
  listed' : q'.wildcard = false
  called : (q'.sources.map Source.called).Perm (q.sources.map Source.called)
  plain' : ∀ s ∈ q'.sources, s.role ≠ .full

theorem Reordered.symm {d d' : Draft} (h : Reordered d d') : Reordered d' d :=
  ⟨h.projection.symm, h.groups.symm, h.called.symm, h.plain', h.plain⟩

/-- The same relations in another order are called the same. -/
theorem map_aliasName_perm {l l' : List Source}
    (h : (l'.map Source.called).Perm (l.map Source.called)) :
    (l'.map (·.aliasName)).Perm (l.map (·.aliasName)) := by
  have hsnd : ∀ l : List Source, l.map (·.aliasName) = (l.map Source.called).map Prod.snd := by
    intro l
    rw [List.map_map]
    rfl
  rw [hsnd, hsnd]
  exact h.map Prod.snd

-- =========================================================== relations

/-- Relations with distinct aliases can be added. -/
theorem exists_foldlM_addSource {sources : List Source} {q : Query}
    (h : (q.aliases ++ sources.map (·.aliasName)).Nodup) :
    ∃ q', sources.foldlM addSource q = .ok q' := by
  induction sources generalizing q with
  | nil => exact ⟨q, rfl⟩
  | cons s sources ih =>
      have hfree : s.aliasName ∉ q.aliases := by
        intro hmem
        rw [List.map_cons] at h
        exact (List.nodup_append.1 h).2.2 _ hmem _ (List.mem_cons_self ..) rfl
      obtain ⟨q₁, hq₁⟩ : ∃ q₁, addSource q s = .ok q₁ :=
        ⟨_, Query.addRelationWithRole_eq_ok.2 ⟨hfree, rfl⟩⟩
      obtain ⟨q', hq'⟩ := ih (q := q₁) (by
        rw [Query.aliases_addRelationWithRole hq₁, List.append_assoc]
        exact h)
      exact ⟨q', foldlM_cons_eq_ok.2 ⟨q₁, hq₁, hq'⟩⟩

/-- They are accepted in any order, for only their aliases are compared. -/
theorem addSources_reordered {sources sources' : List Source} {q : Query}
    (h : (sources'.map Source.called).Perm (sources.map Source.called))
    (hq : sources.foldlM addSource .empty = .ok q) :
    ∃ q', sources'.foldlM addSource .empty = .ok q' ∧ q'.aliases.Perm q.aliases := by
  have haliases := map_aliasName_perm h
  obtain ⟨hcoherent, hall, -⟩ := foldlM_addSource hq Query.coherent_empty
  have hnodup : (Query.empty.aliases ++ sources'.map (·.aliasName)).Nodup := by
    have hdistinct := hcoherent.aliases
    rw [hall] at hdistinct
    exact haliases.nodup_iff.2 hdistinct
  obtain ⟨q', hq'⟩ := exists_foldlM_addSource hnodup
  obtain ⟨-, hall', -⟩ := foldlM_addSource hq' Query.coherent_empty
  exact ⟨q', hq', by rw [hall, hall']; exact haliases⟩

-- ========================================================= select lists

/-- The same column is added to queries with the same aliases. -/
theorem addItem_reordered {i : Item} {a a' b : Query} (haliases : a'.aliases.Perm a.aliases)
    (hprojection : a'.projection = a.projection) (h : addItem a i = .ok b) :
    ∃ b', addItem a' i = .ok b' ∧ b'.aliases.Perm b.aliases
      ∧ b'.projection = b.projection := by
  obtain ⟨ref, href, hadd⟩ := addItem_eq_ok.1 h
  rw [← resolve_congr haliases] at href
  have hsame := Query.aliases_addProjection hadd
  obtain ⟨hfree, hb⟩ := Query.addProjection_eq_ok.1 hadd
  rw [← hprojection] at hfree
  have hadd' := Query.addProjection_eq_ok.2 ⟨hfree, rfl⟩
  refine ⟨_, addItem_eq_ok.2 ⟨ref, href, hadd'⟩, ?_, ?_⟩
  · rw [Query.aliases_addProjection hadd', hsame]
    exact haliases
  · rw [hb, ← hprojection]

/-- The select list resolves alike over them. -/
theorem foldlM_addItem_reordered {list : List Item} {a a' b : Query}
    (haliases : a'.aliases.Perm a.aliases) (hprojection : a'.projection = a.projection)
    (h : list.foldlM addItem a = .ok b) :
    ∃ b', list.foldlM addItem a' = .ok b' ∧ b'.projection = b.projection := by
  induction list generalizing a a' with
  | nil =>
      obtain rfl := Except.ok.inj h
      exact ⟨a', rfl, hprojection⟩
  | cons i list ih =>
      obtain ⟨a₁, hstep, hrest⟩ := foldlM_cons_eq_ok.1 h
      obtain ⟨a₁', hstep', haliases₁, hprojection₁⟩ :=
        addItem_reordered haliases hprojection hstep
      obtain ⟨b', hrest', hfinal⟩ := ih haliases₁ hprojection₁ hrest
      exact ⟨b', foldlM_cons_eq_ok.2 ⟨a₁', hstep', hrest'⟩, hfinal⟩

/-- Only a star stands for every column. -/
theorem items_eq_none {tokens : List String} (h : items tokens = .ok none) :
    tokens = ["*"] := by
  unfold items at h
  split at h
  · assumption
  split at h
  · cases h
  · obtain ⟨list, -, heq⟩ := bind_eq_ok.1 h
    cases heq

-- ========================================================== statements

/-- Reordered drafts have the same columns. -/
theorem outline_reordered {d d' : Draft} {q : Query} (h : Reordered d d')
    (hlisted : d.projection ≠ some ["*"]) (hq : d.outline = .ok q) :
    ∃ q', d'.outline = .ok q' ∧ q'.projection = q.projection
      ∧ q.wildcard = false ∧ q'.wildcard = false := by
  obtain ⟨projection, q₁, hprojection, hne, hsources, hitems⟩ := outline_eq_ok.1 hq
  obtain ⟨q₁', hsources', haliases⟩ := addSources_reordered h.called hsources
  obtain ⟨-, hprojection₁, -, hwildcard₁⟩ := Query.foldlM_addSource_fields hsources
  obtain ⟨-, hprojection₁', -, hwildcard₁'⟩ := Query.foldlM_addSource_fields hsources'
  rcases addItems_eq_ok.1 hitems with ⟨hstar, -⟩ | ⟨list, hlist, hadd⟩
  · exact absurd (hprojection.trans (congrArg some (items_eq_none hstar))) hlisted
  · obtain ⟨q', hadd', hsame⟩ :=
      foldlM_addItem_reordered haliases (hprojection₁'.trans hprojection₁.symm) hadd
    have hne' : d'.sources ≠ [] := by
      intro hnil
      have hlength := h.called.length_eq
      rw [List.length_map, List.length_map, hnil] at hlength
      exact hne (List.length_eq_zero_iff.1 hlength.symm)
    have hitems' : addItems q₁' projection = .ok q' :=
      addItems_eq_ok.2 (.inr ⟨list, hlist, hadd'⟩)
    refine ⟨q', outline_eq_ok.2 ⟨projection, q₁', h.projection.trans hprojection, hne',
      hsources', hitems'⟩, hsame, ?_, ?_⟩
    · exact (foldlM_addItem_fields hadd).2.1.trans hwildcard₁
    · exact (foldlM_addItem_fields hadd').2.1.trans hwildcard₁'

/-- If a statement is accepted, so it is with its relations in another
order, and the queries are alike. -/
theorem parse_reordered {text text' : String} {d d' : Draft} {q : Query}
    (hd : Draft.ofText text = .ok d) (hd' : Draft.ofText text' = .ok d')
    (h : Reordered d d') (hlisted : d.projection ≠ some ["*"])
    (hq : Query.parse text = .ok q) :
    ∃ q', Query.parse text' = .ok q' ∧ Alike q q' := by
  rw [parse_eq_bind, hd, ok_bind, toQuery_eq] at hq
  obtain ⟨q₀, hq₀, hgroups⟩ := bind_eq_ok.1 hq
  obtain ⟨chains, hchains, rfl⟩ := foldlM_groups_eq_ok.1 hgroups
  obtain ⟨q₀', hq₀', hprojection, hwildcard, hwildcard'⟩ :=
    outline_reordered h hlisted hq₀
  have hsources := (outline_fields hq₀).1
  have hsources' := (outline_fields hq₀').1
  have haliases : q₀'.aliases.Perm q₀.aliases := by
    rw [Query.aliases_eq, Query.aliases_eq, hsources, hsources']
    exact map_aliasName_perm h.called
  have hsame : conditions q₀' .and = conditions q₀ .and :=
    funext fun tokens => conditions_congr haliases .and tokens
  rw [← hsame, ← h.groups] at hchains
  refine ⟨chains.flatten.foldl Query.addCondition q₀', ?_, ?_⟩
  · rw [parse_eq_bind, hd', ok_bind, toQuery_eq]
    exact bind_eq_ok.2 ⟨q₀', hq₀', foldlM_groups_eq_ok.2 ⟨chains, hchains, rfl⟩⟩
  · constructor
    · rw [Query.projection_foldl_addCondition, Query.projection_foldl_addCondition]
      exact hprojection
    · rw [Query.conditions_foldl_addCondition, Query.conditions_foldl_addCondition,
        conditions_outline hq₀, conditions_outline hq₀']
    · rw [Query.wildcard_foldl_addCondition]
      exact hwildcard
    · rw [Query.wildcard_foldl_addCondition]
      exact hwildcard'
    · rw [Query.sources_foldl_addCondition, Query.sources_foldl_addCondition, hsources,
        hsources']
      exact h.called
    · rw [Query.sources_foldl_addCondition, hsources']
      exact h.plain'

end Statement

end FlatQuery
