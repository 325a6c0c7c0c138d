/-
What a query means, told without scans: the rows of all its relations
are combined in every way, each combination is tested by the whole
condition chain on all its values, and those that pass are laid out
column by column.

To filter a relation before it is combined loses no such combination.
What a term says of a relation depends on the row of that relation alone
(`lookup_bindTuple`): no other relation binds a name with its alias
before the point, because aliases are lowercase and distinct and a
reference has only one point.
-/
import FlatQuery.Command
import FlatQuery.Proofs.Bindings.Rebinding
import FlatQuery.Proofs.Chain.Pushdown
import FlatQuery.Proofs.Statement.Accepted
import FlatQuery.Proofs.Tuples

namespace FlatQuery.Command

open Text Statement

-- ======================================================== the reference

/-- A relation of a query with the table it stands for. -/
structure Input where
  relation : Relation
  table : Table

namespace Input

def aliasName (i : Input) : String := i.relation.aliasName

/-- All values of a row. -/
def fields (i : Input) (row : Nat) : List String := i.table.rows.getD row []

/-- Binds all values of a row under the relation's alias. -/
def bind (i : Input) (row : Nat) (b : Bindings) : Bindings :=
  b.bindAll (i.table.columns.map (Scan.key i.aliasName)) (i.fields row)

end Input

/-- All values of one row of each relation, bound in order. -/
def bindTuple (inputs : List Input) (rows : List Nat) : Bindings :=
  (inputs.zip rows).foldl (fun b (i, row) => i.bind row b) .empty

/-- Every combination of rows, those of the first relation turning
slowest. -/
def product (inputs : List Input) : List (List Nat) :=
  tuples (inputs.map fun i => List.range i.table.rows.size)

/-- The value of a projected column. -/
def cell (inputs : List Input) (rows : List Nat) (c : Column) : String :=
  match (inputs.zip rows).find? (·.1.aliasName = c.relation) with
  | none => ""
  | some (i, row) =>
    match Columns.position? i.table.columns c.name with
    | none => ""
    | some k => (i.fields row).getD k ""

/-- The names of the columns. -/
def headers (q : Query) (inputs : List Input) : List String :=
  if q.wildcard then
    inputs.flatMap fun i => i.table.columns.map fun name =>
      if inputs.length > 1 then i.aliasName ++ "." ++ name else name
  else q.projection.map Column.outputName

/-- The values of the columns. -/
def values (q : Query) (inputs : List Input) (rows : List Nat) : List String :=
  if q.wildcard then (inputs.zip rows).flatMap fun (i, row) => i.fields row
  else q.projection.map (cell inputs rows)

/-- The combinations on which the condition chain is true. -/
def accepted (q : Query) (inputs : List Input) : List (List Nat) :=
  (product inputs).filter fun rows =>
    q.predicate.toPredicate.holds (bindTuple inputs rows)

/-- The result of a query. -/
def answer (q : Query) (inputs : List Input) : QueryResult where
  columns := headers q inputs
  rows := (accepted q inputs).map (values q inputs)

-- =========================================================== separation

theorem isSmall_point : IsSmall '.' := ⟨by decide, by decide⟩

/-- A relation binds no reference under another alias. -/
theorem key_ne_qualified {aliasName : String} (halias : Named aliasName) {ref : ColumnRef}
    (href : ref.Plain) (hne : aliasName ≠ ref.relation) (column : String) :
    Scan.key aliasName column ≠ ref.qualified := by
  have hsmall : ∀ c ∈ (aliasName ++ ".").toList, IsSmall c := by
    rw [String.toList_append]
    exact List.forall_mem_append.2 ⟨halias.small,
      List.forall_mem_singleton.2 isSmall_point⟩
  obtain ⟨u, hu⟩ := lowercase_append (t := column) hsmall
  intro heq
  rw [Scan.key, hu, ColumnRef.qualified, ← String.toList_inj] at heq
  simp only [String.toList_append] at heq
  refine hne (String.toList_inj.1 (eq_of_append_point href.relation_point href.column_point
    (b := aliasName.toList) (u := u.toList) ?_))
  simpa using heq

/-- A reference in lowercase is looked up under one name. -/
theorem lookup_of_plain {ref : ColumnRef} (h : ref.Plain) (b : Bindings) :
    ref.lookup b = b.get? ref.qualified := by
  have hsmall : ∀ c ∈ ref.qualified.toList, IsSmall c := by
    simp only [ColumnRef.qualified, String.toList_append]
    refine List.forall_mem_append.2 ⟨List.forall_mem_append.2 ⟨h.relation_small, ?_⟩,
      h.column_small⟩
    exact List.forall_mem_singleton.2 isSmall_point
  rw [ColumnRef.lookup, lowercase_of_isSmall hsmall, Option.or_self]

variable {inputs : List Input} {rows : List Nat}

/-- Rows of other relations do not change what a reference finds. -/
theorem get?_foldl_bind {pairs : List (Input × Nat)} {ref : ColumnRef} (href : ref.Plain)
    (h : ∀ p ∈ pairs, Named p.1.aliasName ∧ p.1.aliasName ≠ ref.relation) (b : Bindings) :
    (pairs.foldl (fun b (i, row) => i.bind row b) b).get? ref.qualified
      = b.get? ref.qualified := by
  induction pairs generalizing b with
  | nil => rfl
  | cons p pairs ih =>
      obtain ⟨⟨hnamed, hne⟩, hpairs⟩ := List.forall_mem_cons.1 h
      rw [List.foldl_cons, ih hpairs]
      refine Bindings.get?_bindAll_of_notMem _ _ fun hmem => ?_
      obtain ⟨column, -, hcolumn⟩ := List.mem_map.1 hmem
      exact key_ne_qualified hnamed href hne column hcolumn

/-- A reference finds in a combination what it finds in the row of its
own relation. -/
theorem lookup_bindTuple (hnodup : (inputs.map Input.aliasName).Nodup)
    (hnamed : ∀ a ∈ inputs.map Input.aliasName, Named a)
    (hlength : rows.length = inputs.length) {ref : ColumnRef}
    (href : Resolved (inputs.map Input.aliasName) ref) {i : Input} {row : Nat}
    (hmem : (i, row) ∈ inputs.zip rows) (hi : i.aliasName = ref.relation) :
    ref.lookup (i.bind row .empty) = ref.lookup (bindTuple inputs rows) := by
  rcases href.plain with hsingle | hplain
  · -- the only relation there is
    obtain ⟨only, rfl⟩ : ∃ only, inputs = [only] := by
      have := congrArg List.length hsingle
      rw [List.length_map] at this
      exact List.length_eq_one_iff.1 this
    obtain ⟨r, rfl⟩ := List.length_eq_one_iff.1 hlength
    obtain ⟨rfl, rfl⟩ : i = only ∧ row = r := by simpa using hmem
    rfl
  -- among several relations the one with this alias binds the column, and
  -- those before and behind it do not touch it
  · obtain ⟨front, back, hsplit⟩ := List.append_of_mem hmem
    have hfst : (inputs.zip rows).map Prod.fst = inputs := List.map_fst_zip (by omega)
    have haliases : (front ++ (i, row) :: back).map (·.1.aliasName)
        = inputs.map Input.aliasName := by
      rw [← hsplit]
      conv_rhs => rw [← hfst, List.map_map]
      rfl
    have hothers : ∀ p ∈ front ++ back,
        Named p.1.aliasName ∧ p.1.aliasName ≠ ref.relation := by
      intro p hp
      have hp' : p ∈ front ++ (i, row) :: back := by
        rcases List.mem_append.1 hp with hp | hp
        · exact List.mem_append_left _ hp
        · exact List.mem_append_right _ (List.mem_cons_of_mem _ hp)
      refine ⟨hnamed _ (haliases ▸ List.mem_map_of_mem hp'), ?_⟩
      rw [← haliases, List.map_append, List.map_cons] at hnodup
      rw [← hi]
      intro heq
      have hnot := (List.nodup_middle.1 hnodup).notMem
      rw [← List.map_append] at hnot
      exact hnot (heq ▸ List.mem_map_of_mem hp)
    rw [List.forall_mem_append] at hothers
    rw [lookup_of_plain hplain, lookup_of_plain hplain, bindTuple, hsplit,
      List.foldl_append, List.foldl_cons, get?_foldl_bind hplain hothers.2]
    show (Bindings.bindAll _ _ _).get? _ = (Bindings.bindAll _ _ _).get? _
    rw [Bindings.get?_bindAll, Bindings.get?_bindAll, get?_foldl_bind hplain hothers.1]

-- ============================================================ filtering

/-- Whether a row of a relation passes the terms that speak of it
alone. -/
def admitted (q : Query) (i : Input) (row : Nat) : Bool :=
  match q.predicate.restrictedTo i.aliasName with
  | none => true
  | some chain => chain.toPredicate.holds (i.bind row .empty)

/-- The rows of a relation that are combined. -/
def candidates (q : Query) (i : Input) : List Nat :=
  (List.range i.table.rows.size).filter (admitted q i)

/-- Each row of a combination that the whole chain accepts passes by
itself. -/
theorem admitted_of_holds {q : Query} (hq : Accepted q)
    (hinputs : inputs.map Input.relation = q.relations)
    (hlength : rows.length = inputs.length)
    (hholds : q.predicate.toPredicate.holds (bindTuple inputs rows) = true) {i : Input}
    {row : Nat} (hmem : (i, row) ∈ inputs.zip rows) : admitted q i row = true := by
  have haliases : inputs.map Input.aliasName = q.aliases := by
    rw [Query.aliases, ← hinputs, List.map_map]
    rfl
  unfold admitted
  split
  · rfl
  · next chain hchain =>
    rw [Chain.holds_iff]
    refine Chain.holds_restrictedTo (Chain.holds_iff.1 hholds) hchain ?_
    intro c hc ref href hrelation
    refine lookup_bindTuple (haliases ▸ hq.coherent.aliases) (haliases ▸ hq.named) hlength ?_
      hmem hrelation.symm
    exact haliases ▸ (hq.conditions c hc).resolved ref href

/-- To combine only the rows that pass by themselves gives the accepted
combinations of all rows, each of them once and in the same order. -/
theorem filter_candidates {q : Query} (hq : Accepted q)
    (hinputs : inputs.map Input.relation = q.relations) :
    (tuples (inputs.map (candidates q))).filter
        (fun rows => q.predicate.toPredicate.holds (bindTuple inputs rows))
      = accepted q inputs := by
  refine tuples.filter_of_filter (fun rows hrows hholds => ?_)
  have hlength : rows.length = inputs.length := by
    rw [tuples.length_of_mem hrows, List.length_map]
  refine List.forall₂_iff_zip.2 ⟨hlength.symm, fun {i row} hmem => ?_⟩
  exact admitted_of_holds hq hinputs hlength hholds hmem

end FlatQuery.Command
