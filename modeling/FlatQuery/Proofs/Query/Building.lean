/-
Queries built call by call. A caller adds relations, columns and terms
in any order and goes on after a refusal; what is built is coherent
after every call (`coherent_built`).

A call takes names, and it is refused exactly if one of them is taken
already; then the query is the one it was. If it is accepted, the query
has grown by what the call says and by nothing else (`Grown`), so the
registered columns can be told from the columns and terms that were
added, whichever came first.
-/
import FlatQuery.Proofs.Query.Coherence

namespace FlatQuery

-- ========================================================= registration

/-- The columns that a relation keeps, each under the alias it is kept
with. -/
def Relation.registered (r : Relation) : List ColumnRef := r.columns.map Column.reference

/-- A kept column is written as the reference that it is. -/
theorem Relation.qualifiedColumns_eq (r : Relation) :
    r.qualifiedColumns = r.registered.map ColumnRef.qualified := by
  rw [registered, List.map_map]
  rfl

/-- A reference is its two names. -/
theorem ColumnRef.mk_eq_iff {relation column : String} {ref : ColumnRef} :
    ⟨relation, column⟩ = ref ↔ relation = ref.relation ∧ column = ref.column := by
  obtain ⟨r, c⟩ := ref
  exact ColumnRef.mk.injEq .. ▸ Iff.rfl

namespace Query

/-- A column is put out, or stands on a side of a term. -/
def RefersTo (q : Query) (ref : ColumnRef) : Prop :=
  (∃ c ∈ q.projection, c.relation = ref.relation ∧ c.name = ref.column)
    ∨ ∃ c ∈ q.conditions, c.left = ref ∨ c.right = .column ref

theorem mem_references_iff {q : Query} {ref : ColumnRef} :
    ref ∈ q.references ↔ q.RefersTo ref := by
  -- a term refers to its left side, and to its right side if that is a
  -- column
  have hterm : ∀ c : Condition, ref ∈ c.references ↔ c.left = ref ∨ c.right = .column ref := by
    rintro ⟨connective, left, comparator, right⟩
    cases right <;> simp [Condition.references, eq_comm]
  unfold references RefersTo
  rw [List.mem_append, List.mem_map, List.mem_flatMap]
  simp only [hterm, ColumnRef.mk_eq_iff]

/-- All that a relation keeps carries its alias, so the names tell the
columns apart. -/
theorem Coherent.registered_eq {q : Query} (h : q.Coherent) {r : Relation}
    (hr : r ∈ q.relations) : r.registered = r.columnNames.map (⟨r.aliasName, ·⟩) := by
  rw [Relation.registered, Relation.columnNames, List.map_map]
  refine List.map_congr_left fun c hc => ?_
  rw [Column.reference, h.own r hr c hc]
  rfl

/-- No column is kept twice, whatever alias it is kept with. -/
theorem Coherent.nodup_registered {q : Query} (h : q.Coherent) {r : Relation}
    (hr : r ∈ q.relations) : r.registered.Nodup := by
  rw [h.registered_eq hr]
  exact (h.columns r hr).map fun _ _ heq => (ColumnRef.mk.inj heq).2

/-- A relation was told of what the query refers to under its alias. -/
theorem Coherent.mem_registered_iff {q : Query} (h : q.Coherent) {r : Relation}
    (hr : r ∈ q.relations) (ref : ColumnRef) :
    ref ∈ r.registered ↔ ref.relation = r.aliasName ∧ q.RefersTo ref := by
  rw [← mem_references_iff, h.registered_eq hr, List.mem_map]
  constructor
  · rintro ⟨name, hname, rfl⟩
    exact ⟨rfl, (h.known r hr name).1 hname⟩
  · rintro ⟨halias, href⟩
    refine ⟨ref.column, (h.known r hr ref.column).2 ?_, ?_⟩
    · rw [← halias]
      exact href
    · rw [← halias]

-- ================================================================ calls

/-- What can be asked of a query that is being built. -/
inductive Call where
  | addRelation (name aliasName : String)
  | addRelationWithRole (role : Role) (name aliasName : String)
  | addProjectionColumn (relation name : String) (aliasName : Option String)
  | addProjection (c : Column)
  | addCondition (c : Condition)
  | setWildcard
  deriving DecidableEq, Repr

namespace Call

/-- The aliases that a call takes. -/
def aliases : Call → List String
  | addRelation _ aliasName => [aliasName]
  | addRelationWithRole _ _ aliasName => [aliasName]
  | _ => []

/-- The columns that a call puts out; their output names are taken. -/
def columns : Call → List Column
  | addProjectionColumn relation name aliasName => [⟨relation, name, aliasName, .text⟩]
  | addProjection c => [c]
  | _ => []

/-- The terms that a call appends. -/
def terms : Call → List Condition
  | addCondition c => [c]
  | _ => []

end Call

/-- The answer to a call, and the query the caller has after it. -/
def call (q : Query) : Call → Result Unit × Query
  | .addRelation name aliasName => q.addRelation name aliasName
  | .addRelationWithRole role name aliasName => q.addRelationWithRole role name aliasName
  | .addProjectionColumn relation name aliasName => q.addProjectionColumn relation name aliasName
  | .addProjection c => q.addProjection c
  | .addCondition c => (.ok (), q.addCondition c)
  | .setWildcard => (.ok (), q.setWildcard)

/-- The query after calls made one after the other on an empty one. -/
def built (calls : List Call) : Query := calls.foldl (fun q c => (q.call c).2) .empty

/-- A call takes a name that is taken. -/
def Refused (q : Query) (c : Call) (e : Error) : Prop :=
  (∃ a ∈ c.aliases, a ∈ q.aliases ∧ e = .ambiguous .relation a)
    ∨ ∃ o ∈ c.columns, o.outputName ∈ q.projection.map Column.outputName
        ∧ e = .ambiguous .column o.outputName

/-- What the parts of a query are after a call. -/
structure Grown (q : Query) (c : Call) (q' : Query) : Prop where
  aliases : q'.aliases = q.aliases ++ c.aliases
  projection : q'.projection = q.projection ++ c.columns
  conditions : q'.conditions = q.conditions ++ c.terms
  wildcard : q'.wildcard = (q.wildcard || decide (c = .setWildcard))

/-- What comes of a call: it is refused and the query stays, or no name of
it is taken and the query grows. -/
inductive Outcome (q : Query) (c : Call) : Result Unit × Query → Prop where
  | refused (e : Error) (taken : Refused q c e) : Outcome q c (.error e, q)
  | accepted (q' : Query) (free : ∀ e, ¬ Refused q c e) (grown : Grown q c q') :
      Outcome q c (.ok (), q')

variable {q : Query} {c : Call}

-- ============================================================ answers

/-- Both calls that add a relation end here: they differ in the role that
they give it, and the outcome does not mention roles. -/
theorem outcome_addRelationWithRole {role : Role} {name aliasName : String}
    (haliases : c.aliases = [aliasName]) (hcolumns : c.columns = []) (hterms : c.terms = [])
    (hwildcard : c ≠ .setWildcard) :
    Outcome q c (q.addRelationWithRole role name aliasName) := by
  rw [addRelationWithRole_eq]
  split
  · next htaken =>
    refine .refused _ (.inl ⟨aliasName, ?_, htaken, rfl⟩)
    rw [haliases]
    exact List.mem_singleton_self _
  · next hfree =>
    have hadd : accepted (q.addRelationWithRole role name aliasName) = .ok _ :=
      addRelationWithRole_eq_ok.2 ⟨hfree, rfl⟩
    have hgrown := aliases_addRelationWithRole hadd
    refine .accepted _ ?_ ⟨?_, ?_, ?_, ?_⟩
    · rintro e (⟨a, ha, ha', -⟩ | ⟨o, ho, -⟩)
      · rw [haliases, List.mem_singleton] at ha
        exact hfree (ha ▸ ha')
      · rw [hcolumns] at ho
        cases ho
    · rw [hgrown, haliases]
    · rw [hcolumns, List.append_nil]
    · rw [hterms, List.append_nil]
    · simp [hwildcard]

/-- Both calls that put a column out end here. -/
theorem outcome_addProjection {o : Column} (haliases : c.aliases = [])
    (hcolumns : c.columns = [o]) (hterms : c.terms = []) (hwildcard : c ≠ .setWildcard) :
    Outcome q c (q.addProjection o) := by
  rw [addProjection_eq]
  split
  · next htaken =>
    refine .refused _ (.inr ⟨o, ?_, htaken, rfl⟩)
    rw [hcolumns]
    exact List.mem_singleton_self _
  · next hfree =>
    have hgrown := aliases_addProjection (addProjection_eq_ok.2 ⟨hfree, rfl⟩)
    refine .accepted _ ?_ ⟨?_, ?_, ?_, ?_⟩
    · rintro e (⟨a, ha, -⟩ | ⟨o', ho', htaken', -⟩)
      · rw [haliases] at ha
        cases ha
      · rw [hcolumns, List.mem_singleton] at ho'
        exact hfree (ho' ▸ htaken')
    · rw [hgrown, haliases, List.append_nil]
    · rw [hcolumns]
    · rw [hterms, List.append_nil]
    · simp [hwildcard]

/-- A call that takes no names is not refused. -/
theorem not_refused (haliases : c.aliases = []) (hcolumns : c.columns = []) (e : Error) :
    ¬ Refused q c e := by
  rintro (⟨a, ha, -⟩ | ⟨o, ho, -⟩)
  · rw [haliases] at ha
    cases ha
  · rw [hcolumns] at ho
    cases ho

/-- A call takes at most one name, so it is refused in one way. -/
theorem Refused.unique {e e' : Error} (h : Refused q c e) (h' : Refused q c e') : e = e' := by
  have hsingle : ∀ {a a' : String}, a ∈ c.aliases → a' ∈ c.aliases → a = a' := by
    cases c <;> simp [Call.aliases]
  have hone : ∀ {o o' : Column}, o ∈ c.columns → o' ∈ c.columns → o = o' := by
    cases c <;> simp [Call.columns]
  have hnone : c.aliases = [] ∨ c.columns = [] := by
    cases c <;> simp [Call.aliases, Call.columns]
  rcases h with ⟨a, ha, -, rfl⟩ | ⟨o, ho, -, rfl⟩
  · rcases h' with ⟨a', ha', -, rfl⟩ | ⟨o, ho, -, rfl⟩
    · rw [hsingle ha ha']
    · rcases hnone with h | h
      · exact absurd (h ▸ ha) List.not_mem_nil
      · exact absurd (h ▸ ho) List.not_mem_nil
  · rcases h' with ⟨a, ha, -, rfl⟩ | ⟨o', ho', -, rfl⟩
    · rcases hnone with h | h
      · exact absurd (h ▸ ha) List.not_mem_nil
      · exact absurd (h ▸ ho) List.not_mem_nil
    · rw [hone ho ho']

/-- Every call comes out in one of the two ways. -/
theorem outcome_call (q : Query) (c : Call) : Outcome q c (q.call c) := by
  cases c with
  | addRelation name aliasName => exact outcome_addRelationWithRole rfl rfl rfl nofun
  | addRelationWithRole role name aliasName =>
      exact outcome_addRelationWithRole rfl rfl rfl nofun
  | addProjectionColumn relation name aliasName => exact outcome_addProjection rfl rfl rfl nofun
  | addProjection o => exact outcome_addProjection rfl rfl rfl nofun
  | addCondition term =>
      refine .accepted _ (not_refused rfl rfl) ⟨?_, ?_, rfl, ?_⟩
      · rw [aliases_addCondition]
        exact (List.append_nil _).symm
      · exact (List.append_nil _).symm
      · simp [addCondition]
  | setWildcard =>
      refine .accepted _ (not_refused rfl rfl) ⟨?_, ?_, ?_, ?_⟩
      · exact (List.append_nil _).symm
      · exact (List.append_nil _).symm
      · exact (List.append_nil _).symm
      · simp [setWildcard]

-- ========================================================== coherence

/-- An accepted call keeps the invariant, whichever it was. -/
theorem Coherent.call_eq_ok (hq : q.Coherent) {q' : Query} (h : q.call c = (.ok (), q')) :
    q'.Coherent := by
  have hok := accepted_eq_ok.2 h
  cases c with
  | addRelation name aliasName => exact Coherent.addRelationWithRole hq hok
  | addRelationWithRole role name aliasName => exact Coherent.addRelationWithRole hq hok
  | addProjectionColumn relation name aliasName => exact Coherent.addProjection hq hok
  | addProjection o => exact Coherent.addProjection hq hok
  | addCondition term =>
      obtain rfl := Except.ok.inj hok
      exact hq.addCondition term
  | setWildcard =>
      obtain rfl := Except.ok.inj hok
      exact hq.setWildcard

/-- One call: a refused one leaves a coherent query as it is. -/
theorem Coherent.call (hq : q.Coherent) (c : Call) : (q.call c).2.Coherent := by
  have houtcome := outcome_call q c
  cases hcall : q.call c with
  | mk answer q' =>
      rw [hcall] at houtcome
      cases houtcome with
      | refused e taken => exact hq
      | accepted q' free grown => exact hq.call_eq_ok hcall

/-- So a coherent query stays coherent through any calls, the induction
being on their list. -/
theorem coherent_foldl_call (hq : q.Coherent) (calls : List Call) :
    (calls.foldl (fun q c => (q.call c).2) q).Coherent := by
  induction calls generalizing q with
  | nil => exact hq
  | cons c calls ih => exact ih (hq.call c)

/-- A query that was built in any way is coherent, and so it stays. No
two of its relations have one alias and no two of its columns one output
name; a relation keeps each column once, under its own alias, and
exactly those that are put out or stand in a term under this alias.
The next call is refused exactly if it takes a name that is taken, and
then the query stays as it is; otherwise the query has the new alias,
column or term behind the others. -/
theorem coherent_built (calls : List Call) :
    (built calls).aliases.Nodup
      ∧ ((built calls).projection.map Column.outputName).Nodup
      ∧ (∀ r ∈ (built calls).relations,
        r.registered.Nodup
          ∧ (∀ c ∈ r.columns, c.relation = r.aliasName)
          ∧ r.qualifiedColumns = r.registered.map ColumnRef.qualified
          ∧ ∀ ref, ref ∈ r.registered
            ↔ ref.relation = r.aliasName ∧ (built calls).RefersTo ref)
      ∧ ∀ c answer q', (built calls).call c = (answer, q') →
        (∀ e, answer = .error e ↔ Refused (built calls) c e)
          ∧ (∀ e, answer = .error e → q' = built calls)
          ∧ (answer = .ok () → Grown (built calls) c q') := by
  have hcoherent : (built calls).Coherent := coherent_foldl_call coherent_empty calls
  refine ⟨hcoherent.aliases, hcoherent.outputs, fun r hr => ?_, fun c answer q' hcall => ?_⟩
  · exact ⟨hcoherent.nodup_registered hr, hcoherent.own r hr, r.qualifiedColumns_eq,
      hcoherent.mem_registered_iff hr⟩
  · have houtcome := outcome_call (built calls) c
    rw [hcall] at houtcome
    cases houtcome with
    | refused e htaken =>
        refine ⟨fun e' => ⟨?_, fun h => ?_⟩, fun _ _ => rfl, nofun⟩
        · rintro ⟨⟩
          exact htaken
        · rw [h.unique htaken]
    | accepted q' hfree hgrown =>
        exact ⟨fun e => iff_of_false nofun (hfree e), nofun, fun _ => hgrown⟩

/-- Columns that are referred to before their relations are there, and
one that is put out after; the alias `o` is refused the second time. -/
example :
    (built [.addProjectionColumn "o" "id" none,
      .addCondition ⟨.and, ⟨"o", "cust"⟩, .equal, .column ⟨"c", "id"⟩⟩,
      .addRelation "orders" "o", .addRelation "offers" "o", .addRelation "customers" "c",
      .addProjectionColumn "c" "name" none]).relations
      = [.knowing .leading "orders" "o" ["id", "cust"],
        .knowing .inner "customers" "c" ["id", "name"]] := by
  decide

end Query

end FlatQuery
