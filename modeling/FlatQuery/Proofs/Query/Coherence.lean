/-
The invariant of the query model. Whatever is added to a query, and in
whatever order: no two relations have one alias, no two columns one
output name, and every relation keeps exactly the columns that the
projection and the conditions refer to under its alias, each once and
each under that alias.

Each operation has one lemma for what it answers and leaves, and one for
the invariant. A relation changes only by references; what one reference
does is said once (`addReference_eq`), and what a run of them does to one
relation likewise (`mem_columnNames_foldl_addReference`).
-/
import Mathlib.Data.List.Nodup
import FlatQuery.Query
import FlatQuery.Proofs.Result

namespace FlatQuery

open Result

/-- Which column it is, apart from the name it is put out under. -/
def Column.reference (c : Column) : ColumnRef := ⟨c.relation, c.name⟩

-- ========================================================== relations

namespace Relation

/-- A relation that keeps columns of its own. -/
def knowing (role : Role) (name aliasName : String) (columns : List String) : Relation :=
  ⟨role, name, aliasName, columns.map (.ofName aliasName)⟩

/-- A relation has the columns whose names it keeps. -/
theorem hasColumn_iff (r : Relation) (name : String) :
    r.hasColumn name = true ↔ name ∈ r.columnNames := by
  unfold hasColumn columnNames
  rw [List.any_eq_true, List.mem_map]
  simp only [decide_eq_true_eq]

/-- What a reference adds: its column if that is a column of the relation
and not yet kept, and else nothing. Every other lemma on references goes
through this one. -/
theorem addReference_eq (r : Relation) (c : ColumnRef) :
    r.addReference c
      = if c.relation = r.aliasName ∧ c.column ∉ r.columnNames then
          { r with columns := r.columns ++ [.ofName r.aliasName c.column] }
        else r := by
  unfold addReference addColumn
  by_cases hr : c.relation = r.aliasName
  · by_cases hc : c.column ∈ r.columnNames
    · rw [if_pos hr, if_pos ((r.hasColumn_iff _).2 hc), if_neg fun h => h.2 hc]
    · rw [if_pos hr, if_neg ((r.hasColumn_iff _).not.2 hc), if_pos ⟨hr, hc⟩]
  · rw [if_neg hr, if_neg fun h => hr h.1]

section
variable {β : Type} {part : Relation → β}

/-- A reference changes the columns and nothing else: a part of the
relation that does not look at them is what it was. -/
theorem part_addReference (hpart : ∀ r columns, part { r with columns := columns } = part r)
    (r : Relation) (c : ColumnRef) : part (r.addReference c) = part r := by
  rw [addReference_eq]
  split
  · exact hpart r _
  · rfl

/-- So it is with a run of references. -/
theorem part_foldl_addReference
    (hpart : ∀ r columns, part { r with columns := columns } = part r)
    (refs : List ColumnRef) (r : Relation) : part (refs.foldl addReference r) = part r := by
  induction refs generalizing r with
  | nil => rfl
  | cons c refs ih => exact (ih _).trans (part_addReference hpart r c)

end

@[simp] theorem aliasName_addReference (r : Relation) (c : ColumnRef) :
    (r.addReference c).aliasName = r.aliasName :=
  part_addReference (fun _ _ => rfl) r c

theorem aliasName_foldl_addReference (refs : List ColumnRef) (r : Relation) :
    (refs.foldl addReference r).aliasName = r.aliasName :=
  part_foldl_addReference (fun _ _ => rfl) refs r

/-- A reference tells a relation of its own column, and nothing else. -/
theorem mem_columnNames_addReference (r : Relation) (c : ColumnRef) (name : String) :
    name ∈ (r.addReference c).columnNames
      ↔ name ∈ r.columnNames ∨ ⟨r.aliasName, name⟩ = c := by
  obtain ⟨relation, column⟩ := c
  rw [addReference_eq, ColumnRef.mk.injEq]
  split
  · next h =>
    obtain ⟨rfl, -⟩ := h
    simp [columnNames, Column.ofName]
  · next h =>
    -- a reference that adds nothing is to another relation or repeats a column
    refine ⟨Or.inl, ?_⟩
    rintro (hname | ⟨rfl, rfl⟩)
    · exact hname
    · exact not_not.1 fun hnew => h ⟨rfl, hnew⟩

/-- No name comes in twice: one that is kept already is not added. -/
theorem nodup_addReference {r : Relation} (h : r.columnNames.Nodup) (c : ColumnRef) :
    (r.addReference c).columnNames.Nodup := by
  rw [addReference_eq]
  split
  · next hnew =>
    rw [columnNames, List.map_append, List.map_singleton]
    exact List.concat_eq_append ▸ h.concat hnew.2
  · exact h

/-- What a reference adds stands under the alias of the relation. -/
theorem own_addReference {r : Relation} (h : ∀ k ∈ r.columns, k.relation = r.aliasName)
    (c : ColumnRef) :
    ∀ k ∈ (r.addReference c).columns, k.relation = (r.addReference c).aliasName := by
  rw [addReference_eq]
  split
  · intro k hk
    rcases List.mem_append.1 hk with hk | hk
    · exact h k hk
    · rw [List.mem_singleton.1 hk]
      rfl
  · exact h

/-- After a run of references a relation knows what it knew and its own
columns among them. -/
theorem mem_columnNames_foldl_addReference (refs : List ColumnRef) (r : Relation)
    (name : String) :
    name ∈ (refs.foldl addReference r).columnNames
      ↔ name ∈ r.columnNames ∨ ⟨r.aliasName, name⟩ ∈ refs := by
  -- the alias never changes, so the relation may change along the run
  induction refs generalizing r with
  | nil => simp
  | cons c refs ih =>
      rw [List.foldl_cons, ih, mem_columnNames_addReference, aliasName_addReference,
        List.mem_cons, or_assoc]

/-- A run adds no name twice either, the names it adds itself included. -/
theorem nodup_foldl_addReference (refs : List ColumnRef) {r : Relation}
    (h : r.columnNames.Nodup) : (refs.foldl addReference r).columnNames.Nodup := by
  induction refs generalizing r with
  | nil => exact h
  | cons c refs ih => exact ih (nodup_addReference h c)

/-- All that a run adds stands under the alias of the relation. -/
theorem own_foldl_addReference (refs : List ColumnRef) {r : Relation}
    (h : ∀ k ∈ r.columns, k.relation = r.aliasName) :
    ∀ k ∈ (refs.foldl addReference r).columns,
      k.relation = (refs.foldl addReference r).aliasName := by
  induction refs generalizing r with
  | nil => exact h
  | cons c refs ih => exact ih (own_addReference h c)

end Relation

namespace Query

-- ============================================================ aliases

/-- The aliases of the relations, in order. -/
def aliases (q : Query) : List String := q.relations.map (·.aliasName)

/-- An alias is taken if a relation has it. -/
theorem relation?_isSome_iff (q : Query) (aliasName : String) :
    (q.relation? aliasName).isSome = true ↔ aliasName ∈ q.aliases := by
  unfold relation? aliases
  rw [List.find?_isSome, List.mem_map]
  simp only [decide_eq_true_eq]

/-- A run of references reaches every relation. -/
theorem foldl_reference (refs : List ColumnRef) (relations : List Relation) :
    refs.foldl reference relations
      = relations.map fun r => refs.foldl Relation.addReference r := by
  induction refs generalizing relations with
  | nil => simp
  | cons c refs ih =>
      rw [List.foldl_cons, ih, reference, List.map_map]
      rfl

-- ===================================================== what is answered

/-- An output name is taken if a column is put out under it. -/
theorem projectionColumn?_isSome_iff (q : Query) (outputName : String) :
    (q.projectionColumn? outputName).isSome = true
      ↔ outputName ∈ q.projection.map Column.outputName := by
  unfold projectionColumn?
  rw [List.find?_isSome, List.mem_map]
  simp only [decide_eq_true_eq]

/-- A call that is accepted gives the query it leaves. -/
theorem accepted_eq_ok {called : Result Unit × Query} {q : Query} :
    accepted called = .ok q ↔ called = (.ok (), q) := by
  obtain ⟨answer, q'⟩ := called
  rcases answer with e | ⟨⟨⟩⟩
  · exact iff_of_false nofun nofun
  · simp [accepted, Except.map]

/-- A taken output name is refused and nothing changes; a free one is
taken, by a column that its relation learns of. -/
theorem addProjection_eq (q : Query) (c : Column) :
    q.addProjection c
      = if c.outputName ∈ q.projection.map Column.outputName then
          (.error (.ambiguous .column c.outputName), q)
        else (.ok (), { q with
          projection := q.projection ++ [c]
          relations := reference q.relations ⟨c.relation, c.name⟩ }) := by
  unfold addProjection
  simp only [projectionColumn?_isSome_iff]

/-- Projecting succeeds exactly if the output name is free. -/
theorem addProjection_eq_ok {q q' : Query} {c : Column} :
    accepted (q.addProjection c) = .ok q'
      ↔ c.outputName ∉ q.projection.map Column.outputName
        ∧ q' = { q with
            projection := q.projection ++ [c]
            relations := reference q.relations ⟨c.relation, c.name⟩ } := by
  rw [accepted_eq_ok, addProjection_eq]
  split
  · next htaken => exact iff_of_false nofun fun h => h.1 htaken
  · next hfree => simp only [Prod.mk.injEq, true_and, hfree, not_false_eq_true, eq_comm]

/-- A taken alias is refused and nothing changes; a free one is taken, by
a relation that knows what was referred to before it came. -/
theorem addRelationWithRole_eq (q : Query) (role : Role) (name aliasName : String) :
    q.addRelationWithRole role name aliasName
      = if aliasName ∈ q.aliases then (.error (.ambiguous .relation aliasName), q)
        else (.ok (), { q with relations := q.relations
          ++ [q.references.foldl Relation.addReference (.ofName role name aliasName)] }) := by
  unfold addRelationWithRole
  simp only [relation?_isSome_iff]

/-- Likewise a relation comes in exactly if its alias is free. -/
theorem addRelationWithRole_eq_ok {q q' : Query} {role : Role} {name aliasName : String} :
    accepted (q.addRelationWithRole role name aliasName) = .ok q'
      ↔ aliasName ∉ q.aliases
        ∧ q' = { q with relations := q.relations
            ++ [q.references.foldl Relation.addReference (.ofName role name aliasName)] } := by
  rw [accepted_eq_ok, addRelationWithRole_eq]
  split
  · next htaken => exact iff_of_false nofun fun h => h.1 htaken
  · next hfree => simp only [Prod.mk.injEq, true_and, hfree, not_false_eq_true, eq_comm]

/-- Columns take no alias. -/
theorem aliases_addProjection {q q' : Query} {c : Column}
    (h : accepted (q.addProjection c) = .ok q') : q'.aliases = q.aliases := by
  obtain ⟨-, rfl⟩ := addProjection_eq_ok.1 h
  simp [aliases, reference]

/-- A relation takes its alias, behind those of the others. -/
theorem aliases_addRelationWithRole {q q' : Query} {role : Role} {name aliasName : String}
    (h : accepted (q.addRelationWithRole role name aliasName) = .ok q') :
    q'.aliases = q.aliases ++ [aliasName] := by
  obtain ⟨-, rfl⟩ := addRelationWithRole_eq_ok.1 h
  simp [aliases, Relation.aliasName_foldl_addReference, Relation.ofName]

/-- Nor does a term. -/
@[simp] theorem aliases_addCondition (q : Query) (c : Condition) :
    (q.addCondition c).aliases = q.aliases := by
  simp [addCondition, aliases, foldl_reference, Relation.aliasName_foldl_addReference]

/-- Terms are appended in order, and a run of them touches neither the
columns put out nor the aliases. -/
theorem conditions_foldl_addCondition (terms : List Condition) (q : Query) :
    (terms.foldl addCondition q).conditions = q.conditions ++ terms := by
  induction terms generalizing q with
  | nil => exact (List.append_nil _).symm
  | cons c terms ih =>
      rw [List.foldl_cons, ih, addCondition, List.append_assoc]
      rfl

theorem projection_foldl_addCondition (terms : List Condition) (q : Query) :
    (terms.foldl addCondition q).projection = q.projection := by
  induction terms generalizing q with
  | nil => rfl
  | cons c terms ih => exact ih (q.addCondition c)

theorem aliases_foldl_addCondition (terms : List Condition) (q : Query) :
    (terms.foldl addCondition q).aliases = q.aliases := by
  induction terms generalizing q with
  | nil => rfl
  | cons c terms ih => rw [List.foldl_cons, ih, aliases_addCondition]

-- ====================================================== the invariant

/-- What holds of a query whatever was added to it. -/
structure Coherent (q : Query) : Prop where
  aliases : q.aliases.Nodup
  outputs : (q.projection.map Column.outputName).Nodup
  columns : ∀ r ∈ q.relations, r.columnNames.Nodup
  own : ∀ r ∈ q.relations, ∀ c ∈ r.columns, c.relation = r.aliasName
  known : ∀ r ∈ q.relations, ∀ name,
    name ∈ r.columnNames ↔ ⟨r.aliasName, name⟩ ∈ q.references

/-- Nothing has been asked for, so there is nothing to be coherent
about. -/
theorem coherent_empty : empty.Coherent where
  aliases := List.nodup_nil
  outputs := List.nodup_nil
  columns := fun r hr => by cases hr
  own := fun r hr => by cases hr
  known := fun r hr => by cases hr

/-- References keep relations coherent with the longer list of
references, in whatever place the new ones stand in it. -/
private theorem known_foldl_reference {relations : List Relation}
    (refs : List ColumnRef) {old new : List ColumnRef}
    (hknown : ∀ r ∈ relations, ∀ name,
      name ∈ r.columnNames ↔ ⟨r.aliasName, name⟩ ∈ old)
    (hnew : ∀ c, c ∈ new ↔ c ∈ old ∨ c ∈ refs) :
    ∀ r ∈ refs.foldl reference relations, ∀ name,
      name ∈ r.columnNames ↔ ⟨r.aliasName, name⟩ ∈ new := by
  rw [foldl_reference]
  intro r hr name
  obtain ⟨r₀, hr₀, rfl⟩ := List.mem_map.1 hr
  rw [Relation.mem_columnNames_foldl_addReference, Relation.aliasName_foldl_addReference,
    hknown r₀ hr₀, hnew]

/-- Since every relation takes references by itself, what one keeps
distinct all keep distinct. -/
private theorem columns_foldl_reference {relations : List Relation}
    (refs : List ColumnRef)
    (h : ∀ r ∈ relations, r.columnNames.Nodup) :
    ∀ r ∈ refs.foldl reference relations, r.columnNames.Nodup := by
  rw [foldl_reference]
  intro r hr
  obtain ⟨r₀, hr₀, rfl⟩ := List.mem_map.1 hr
  exact Relation.nodup_foldl_addReference refs (h r₀ hr₀)

/-- Likewise for the alias that the columns stand under. -/
private theorem own_foldl_reference {relations : List Relation}
    (refs : List ColumnRef)
    (h : ∀ r ∈ relations, ∀ c ∈ r.columns, c.relation = r.aliasName) :
    ∀ r ∈ refs.foldl reference relations, ∀ c ∈ r.columns, c.relation = r.aliasName := by
  rw [foldl_reference]
  intro r hr
  obtain ⟨r₀, hr₀, rfl⟩ := List.mem_map.1 hr
  exact Relation.own_foldl_addReference refs (h r₀ hr₀)

/-- An accepted column keeps the invariant: the references of the query
grow in the middle, and membership does not see where. -/
theorem Coherent.addProjection {q q' : Query} {c : Column} (hq : q.Coherent)
    (h : accepted (q.addProjection c) = .ok q') : q'.Coherent := by
  have haliases := aliases_addProjection h
  obtain ⟨hfree, rfl⟩ := addProjection_eq_ok.1 h
  refine ⟨haliases ▸ hq.aliases, ?_, ?_, ?_, ?_⟩
  · rw [List.map_append, List.map_singleton]
    exact List.concat_eq_append ▸ hq.outputs.concat hfree
  · exact columns_foldl_reference [⟨c.relation, c.name⟩] hq.columns
  · exact own_foldl_reference [⟨c.relation, c.name⟩] hq.own
  · refine known_foldl_reference [⟨c.relation, c.name⟩] hq.known ?_
    intro ref
    simp only [references, List.map_append, List.map_cons, List.map_nil, List.mem_append,
      List.mem_singleton]
    exact or_right_comm

/-- An accepted relation keeps the invariant: it starts with no column
and takes in every reference of the query. -/
-- the new output name is not among the others
theorem Coherent.addRelationWithRole {q q' : Query} {role : Role}
    {name aliasName : String}
    (hq : q.Coherent) (h : accepted (q.addRelationWithRole role name aliasName) = .ok q') :
    q'.Coherent := by
  have haliases := aliases_addRelationWithRole h
  obtain ⟨hfree, rfl⟩ := addRelationWithRole_eq_ok.1 h
  refine ⟨?_, hq.outputs, ?_, ?_, ?_⟩
  · rw [haliases]
    exact List.concat_eq_append ▸ hq.aliases.concat hfree
  · intro r hr
    rcases List.mem_append.1 hr with hr | hr
    · exact hq.columns r hr
    · rw [List.mem_singleton.1 hr]
      exact Relation.nodup_foldl_addReference _ List.nodup_nil
  · intro r hr
    rcases List.mem_append.1 hr with hr | hr
    · exact hq.own r hr
    · rw [List.mem_singleton.1 hr]
      exact Relation.own_foldl_addReference _ nofun
  · intro r hr column
    rcases List.mem_append.1 hr with hr | hr
    · exact hq.known r hr column
    · rw [List.mem_singleton.1 hr, Relation.mem_columnNames_foldl_addReference,
        Relation.aliasName_foldl_addReference]
      simp [Relation.ofName, Relation.columnNames, references]

/-- A term is never refused; every relation learns of both its sides. -/
theorem Coherent.addCondition {q : Query} (hq : q.Coherent) (c : Condition) :
    (q.addCondition c).Coherent := by
  refine ⟨(aliases_addCondition q c).symm ▸ hq.aliases, hq.outputs, ?_, ?_, ?_⟩
  · exact columns_foldl_reference c.references hq.columns
  · exact own_foldl_reference c.references hq.own
  · refine known_foldl_reference c.references hq.known ?_
    intro ref
    simp only [Query.addCondition, references, List.flatMap_append, List.flatMap_cons,
      List.flatMap_nil, List.append_nil, List.mem_append, or_assoc]

/-- A star names no column. -/
theorem Coherent.setWildcard {q : Query} (hq : q.Coherent) : q.setWildcard.Coherent :=
  ⟨hq.aliases, hq.outputs, hq.columns, hq.own, hq.known⟩

theorem Coherent.foldl_addCondition {q : Query} (hq : q.Coherent)
    (terms : List Condition) :
    (terms.foldl Query.addCondition q).Coherent := by
  induction terms generalizing q with
  | nil => exact hq
  | cons c terms ih => exact ih (hq.addCondition c)

end Query

end FlatQuery
