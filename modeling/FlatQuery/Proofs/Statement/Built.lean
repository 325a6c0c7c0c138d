/-
Queries as a caller builds them: the relations first, then the select
list or the wildcard, then the terms (`Query.build`). Each kind of step
adds to its own part of the query and leaves the others, so a built
query has the relations, columns and terms it was built from.
-/
import FlatQuery.Proofs.Statement.Stages

namespace FlatQuery

open Result

-- ============================================================ building

/-- A column to put out, perhaps under a name of its own. -/
structure Output where
  relation : String
  name : String
  aliasName : Option String
  deriving DecidableEq, Repr

/-- The column that is put out, of type text. -/
def Output.column (o : Output) : Column := ⟨o.relation, o.name, o.aliasName, .text⟩

/-- The relation as a clause names it, without what it knows. -/
def Relation.source (r : Relation) : Statement.Source := ⟨r.role, r.name, r.aliasName⟩

namespace Query

/-- The relations as clauses name them. -/
def sources (q : Query) : List Statement.Source := q.relations.map Relation.source

def addOutput (q : Query) (o : Output) : Result Query :=
  Query.accepted (q.addProjectionColumn o.relation o.name o.aliasName)

/-- Puts out these columns, or every column. -/
def addOutputs (q : Query) : Option (List Output) → Result Query
  | none => .ok q.setWildcard
  | some outputs => outputs.foldlM addOutput q

/-- The query with these relations, these columns and these terms, if
every one can be added. -/
def build (sources : List Statement.Source) (outputs : Option (List Output))
    (terms : List Condition) : Result Query := do
  let q ← sources.foldlM Statement.addSource .empty
  let q ← q.addOutputs outputs
  return terms.foldl addCondition q

/-- A query is built in three stages. -/
theorem build_eq_ok {sources : List Statement.Source} {outputs : Option (List Output)}
    {terms : List Condition} {q : Query} :
    build sources outputs terms = .ok q
      ↔ ∃ q₁ q₀, sources.foldlM Statement.addSource .empty = .ok q₁
          ∧ q₁.addOutputs outputs = .ok q₀ ∧ q = terms.foldl addCondition q₀ := by
  unfold build
  rw [bind_eq_ok]
  simp only [bind_eq_ok]
  constructor
  · rintro ⟨q₁, h₁, q₀, h₀, h⟩
    exact ⟨q₁, q₀, h₁, h₀, (Except.ok.inj h).symm⟩
  · rintro ⟨q₁, q₀, h₁, h₀, rfl⟩
    exact ⟨q₁, h₁, q₀, h₀, rfl⟩

-- ============================================================== sources

/-- References do not change what a relation is and how it is called. -/
theorem source_foldl_addReference (refs : List ColumnRef) (r : Relation) :
    (refs.foldl Relation.addReference r).source = r.source :=
  Relation.part_foldl_addReference (fun _ _ => rfl) refs r

/-- References do not change what clauses name. -/
theorem map_source_foldl_reference (refs : List ColumnRef) (relations : List Relation) :
    (refs.foldl reference relations).map Relation.source
      = relations.map Relation.source := by
  rw [foldl_reference, List.map_map]
  exact List.map_congr_left fun r _ => source_foldl_addReference refs r

/-- The aliases are those of the sources. -/
theorem aliases_eq (q : Query) : q.aliases = q.sources.map (·.aliasName) := by
  unfold aliases sources
  rw [List.map_map]
  rfl

theorem sources_foldl_addCondition (terms : List Condition) (q : Query) :
    (terms.foldl addCondition q).sources = q.sources := by
  induction terms generalizing q with
  | nil => rfl
  | cons c terms ih =>
      rw [List.foldl_cons, ih]
      exact map_source_foldl_reference c.references q.relations

theorem wildcard_foldl_addCondition (terms : List Condition) (q : Query) :
    (terms.foldl addCondition q).wildcard = q.wildcard := by
  induction terms generalizing q with
  | nil => rfl
  | cons c terms ih => exact ih (q.addCondition c)

/-- Adding relations adds them, and nothing else. -/
theorem foldlM_addSource_fields {sources : List Statement.Source} {q q' : Query}
    (h : sources.foldlM Statement.addSource q = .ok q') :
    q'.sources = q.sources ++ sources ∧ q'.projection = q.projection
      ∧ q'.conditions = q.conditions ∧ q'.wildcard = q.wildcard := by
  induction sources generalizing q with
  | nil =>
      obtain rfl := Except.ok.inj h
      exact ⟨(List.append_nil _).symm, rfl, rfl, rfl⟩
  | cons s sources ih =>
      obtain ⟨q₁, hadd, hrest⟩ := foldlM_cons_eq_ok.1 h
      obtain ⟨-, rfl⟩ := addRelationWithRole_eq_ok.1 hadd
      obtain ⟨hsources, hprojection, hconditions, hwildcard⟩ := ih hrest
      refine ⟨?_, hprojection, hconditions, hwildcard⟩
      rw [hsources, Query.sources, List.map_append, List.map_singleton,
        source_foldl_addReference, List.append_assoc]
      rfl

/-- Adding columns adds them, and nothing else that is printed. -/
theorem foldlM_addOutput_fields {outputs : List Output} {q q' : Query}
    (h : outputs.foldlM addOutput q = .ok q') :
    q'.projection = q.projection ++ outputs.map Output.column ∧ q'.sources = q.sources
      ∧ q'.conditions = q.conditions ∧ q'.wildcard = q.wildcard := by
  induction outputs generalizing q with
  | nil =>
      obtain rfl := Except.ok.inj h
      exact ⟨(List.append_nil _).symm, rfl, rfl, rfl⟩
  | cons o outputs ih =>
      obtain ⟨q₁, hadd, hrest⟩ := foldlM_cons_eq_ok.1 h
      obtain ⟨-, rfl⟩ := addProjection_eq_ok.1 hadd
      obtain ⟨hprojection, hsources, hconditions, hwildcard⟩ := ih hrest
      refine ⟨?_, ?_, hconditions, hwildcard⟩
      · rw [hprojection, List.append_assoc]
        rfl
      · rw [hsources]
        exact map_source_foldl_reference [⟨o.relation, o.name⟩] q.relations

/-- Adding columns or asking for every one leaves relations and terms. -/
theorem addOutputs_fields {outputs : Option (List Output)} {q q' : Query}
    (h : q.addOutputs outputs = .ok q') :
    q'.sources = q.sources ∧ q'.conditions = q.conditions := by
  cases outputs with
  | none =>
      obtain rfl := Except.ok.inj h
      exact ⟨rfl, rfl⟩
  | some outputs =>
      obtain ⟨-, hsources, hconditions, -⟩ := foldlM_addOutput_fields h
      exact ⟨hsources, hconditions⟩

end Query

end FlatQuery
