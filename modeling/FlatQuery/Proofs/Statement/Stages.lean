/-
The stages of reading a statement: tokens, the draft of its clauses, the
query without conditions, and the terms of every ON and WHERE list. A
text is accepted exactly when every stage answers (`parse_eq_ok`).

The terms of all lists are read against one and the same query:
resolving a name looks at the aliases alone, in whatever order
(`resolve_congr`), and adding conditions leaves those as they are.
-/
import FlatQuery.Proofs.Query.Coherence
import FlatQuery.Query.Statement

namespace FlatQuery.Statement

open Text Token Result

-- ============================================================= stages

/-- Adds the relation that a clause names. -/
def addSource (q : Query) (s : Source) : Result Query :=
  Query.accepted (q.addRelationWithRole s.role s.name s.aliasName)

/-- Adds what the select list asks for. -/
def addItems (q : Query) (projection : List String) : Result Query := do
  match ← items projection with
  | none => return q.setWildcard
  | some items => items.foldlM addItem q

/-- The query of a draft, its conditions aside. -/
def Draft.outline (d : Draft) : Result Query := do
  match d.projection with
  | none => throw (.unexpected "end of input")
  | some projection =>
    if d.sources.isEmpty then throw (.unexpected "end of input")
    addItems (← d.sources.foldlM addSource .empty) projection

/-- Without conditions a query has a select list and a relation at
least. -/
theorem outline_eq_ok {d : Draft} {q : Query} :
    d.outline = .ok q
      ↔ ∃ projection q₁, d.projection = some projection ∧ d.sources ≠ []
          ∧ d.sources.foldlM addSource .empty = .ok q₁
          ∧ addItems q₁ projection = .ok q := by
  unfold Draft.outline
  cases d.projection with
  | none =>
      constructor
      · rintro ⟨⟩
      · rintro ⟨_, _, ⟨⟩, _⟩
  | some projection =>
      cases d.sources with
      | nil =>
          constructor
          · rintro ⟨⟩
          · rintro ⟨_, _, _, h, _⟩
            exact absurd rfl h
      | cons s sources =>
          show ((s :: sources).foldlM addSource .empty >>= _) = _ ↔ _
          rw [bind_eq_ok]
          constructor
          · rintro ⟨q₁, h₁, h⟩
            exact ⟨projection, q₁, rfl, nofun, h₁, h⟩
          · rintro ⟨_, q₁, hp, -, h₁, h⟩
            obtain rfl := Option.some.inj hp
            exact ⟨q₁, h₁, h⟩

/-- The select list is a star, or its items are put out in order. -/
theorem addItems_eq_ok {q q' : Query} {projection : List String} :
    addItems q projection = .ok q'
      ↔ (items projection = .ok none ∧ q' = q.setWildcard)
        ∨ ∃ list, items projection = .ok (some list) ∧ list.foldlM addItem q = .ok q' := by
  unfold addItems
  rw [bind_eq_ok]
  constructor
  · rintro ⟨list, hlist, h⟩
    cases list with
    | none => exact .inl ⟨hlist, (Except.ok.inj h).symm⟩
    | some list => exact .inr ⟨list, hlist, h⟩
  · rintro (⟨hlist, rfl⟩ | ⟨list, hlist, h⟩)
    · exact ⟨none, hlist, rfl⟩
    · exact ⟨some list, hlist, h⟩

/-- An item is put out if its column is known and its output name is
free. -/
theorem addItem_eq_ok {q q' : Query} {i : Item} :
    addItem q i = .ok q'
      ↔ ∃ ref, resolve q i.column = .ok ref
          ∧ Query.accepted (q.addProjectionColumn ref.relation ref.column i.aliasName)
            = .ok q' := by
  unfold addItem
  rw [bind_eq_ok]

/-- Before the first list of conditions a query has none. -/
theorem conditions_outline {d : Draft} {q : Query} (h : d.outline = .ok q) :
    q.conditions = [] := by
  obtain ⟨projection, q₁, -, -, hsources, hitems⟩ := outline_eq_ok.1 h
  -- neither relations nor columns bring conditions
  have h₁ : q₁.conditions = [] := by
    refine foldlM_induction (·.conditions = []) hsources rfl ?_
    intro s _ b b' hb hstep
    obtain ⟨-, rfl⟩ := Query.addRelationWithRole_eq_ok.1 hstep
    exact hb
  rcases addItems_eq_ok.1 hitems with ⟨-, rfl⟩ | ⟨list, -, hlist⟩
  · exact h₁
  · refine foldlM_induction (·.conditions = []) hlist h₁ ?_
    intro i _ b b' hb hstep
    obtain ⟨ref, -, hadd⟩ := addItem_eq_ok.1 hstep
    obtain ⟨-, rfl⟩ := Query.addProjection_eq_ok.1 hadd
    exact hb

-- ========================================================= resolution

/-- A name is resolved by the aliases alone. -/
theorem resolve_eq (q : Query) (token : String) :
    resolve q token =
      if isLiteral token || isNumber token then .error (.unexpected token)
      else if (lowercase token).toList.contains '.' then
        match ColumnRef.parse? (lowercase token) with
        | none => .error (.unexpected token)
        | some ref =>
          if ref.relation ∈ q.aliases then .ok ref
          else .error (.relationNotFound ref.relation)
      else if !isIdentifier (lowercase token) then .error (.unexpected token)
      else
        match q.aliases with
        | [only] => .ok ⟨only, lowercase token⟩
        | _ => .error (.ambiguous .column (lowercase token)) := by
  -- the reader asks for a relation, and only whether there is one
  have hknown : ∀ a, (q.relation? a).isNone = true ↔ ¬ a ∈ q.aliases := by
    intro a
    rw [← q.relation?_isSome_iff, Option.isNone_iff_eq_none,
      Option.not_isSome_iff_eq_none]
  unfold resolve
  dsimp only
  split
  · rfl
  split
  · cases ColumnRef.parse? (lowercase token) with
    | none => rfl
    | some ref =>
        by_cases h : ref.relation ∈ q.aliases
        · simp only [if_neg ((hknown _).not.2 (not_not.2 h)), if_pos h]
        · simp only [if_pos ((hknown _).2 h), if_neg h]
  · unfold Query.aliases
    rcases q.relations with _ | ⟨r, _ | ⟨s, rest⟩⟩ <;> rfl

/-- The order of the aliases does not matter. -/
theorem resolve_congr {q q' : Query} (h : q'.aliases.Perm q.aliases) (token : String) :
    resolve q' token = resolve q token := by
  have hmem : ∀ a, (a ∈ q'.aliases) = (a ∈ q.aliases) := fun a => propext h.mem_iff
  -- a bare name needs one relation, and which of several comes first makes
  -- no difference
  have honly : ∀ (found : String → Result ColumnRef) (several : Result ColumnRef),
      (match q'.aliases with | [only] => found only | _ => several)
        = match q.aliases with | [only] => found only | _ => several := by
    intro found several
    generalize q'.aliases = as', q.aliases = as at h
    rcases as with _ | ⟨a, _ | ⟨b, rest⟩⟩
    · rw [List.perm_nil.1 h]
    · rw [List.perm_singleton.1 h]
    · rcases as' with _ | ⟨a', _ | ⟨b', rest'⟩⟩
      · rfl
      · cases h.length_eq
      · rfl
  rw [resolve_eq, resolve_eq, honly]
  simp only [hmem]

/-- So the right side of a condition does not depend on the order of the
relations either. -/
theorem operand_congr {q q' : Query} (h : q'.aliases.Perm q.aliases) (token : String) :
    operand q' token = operand q token := by
  unfold operand
  rw [resolve_congr h]

/-- Nor does any list of conditions. -/
theorem conditions_congr {q q' : Query} (h : q'.aliases.Perm q.aliases)
    (first : Connective) (tokens : List String) :
    conditions q' first tokens = conditions q first tokens := by
  fun_induction conditions q first tokens with
  | case1 first left operator right =>
      simp only [conditions, resolve_congr h, operand_congr h]
  | case2 first left operator right word rest ih =>
      simp only [conditions, resolve_congr h, operand_congr h, ih]
  | case3 => rfl
  | case4 tokens h1 h2 h3 => rw [conditions] <;> assumption

-- ========================================================= acceptance

/-- The lists are read one after the other, all against the first
query. -/
theorem foldlM_groups_eq_ok {groups : List (List String)} {q q' : Query} :
    groups.foldlM (fun q tokens => do
        let terms ← conditions q .and tokens
        return terms.foldl Query.addCondition q) q = .ok q'
      ↔ ∃ chains, groups.mapM (conditions q .and) = .ok chains
          ∧ q' = chains.flatten.foldl Query.addCondition q := by
  induction groups generalizing q with
  | nil =>
      constructor
      · rintro h
        exact ⟨[], rfl, (Except.ok.inj h).symm⟩
      · rintro ⟨chains, h, rfl⟩
        rw [← Except.ok.inj h]
        rfl
  | cons tokens groups ih =>
      -- every later list sees the aliases of the first query
      have hsame : ∀ terms : List Condition,
          conditions (terms.foldl Query.addCondition q) .and = conditions q .and :=
        fun terms => funext fun _ =>
          conditions_congr (.of_eq (Query.aliases_foldl_addCondition terms q)) _ _
      rw [foldlM_cons_eq_ok]
      constructor
      · rintro ⟨q₁, h₁, hrest⟩
        obtain ⟨terms, hterms, hq₁⟩ := bind_eq_ok.1 h₁
        obtain rfl := Except.ok.inj hq₁
        obtain ⟨chains, hchains, rfl⟩ := ih.1 hrest
        rw [hsame] at hchains
        refine ⟨terms :: chains,
          mapM_cons_eq_ok.2 ⟨terms, hterms, chains, hchains, rfl⟩, ?_⟩
        rw [List.flatten_cons, List.foldl_append]
      · rintro ⟨_, hall, rfl⟩
        obtain ⟨terms, hterms, chains, hchains, rfl⟩ := mapM_cons_eq_ok.1 hall
        refine ⟨terms.foldl Query.addCondition q, bind_eq_ok.2 ⟨terms, hterms, rfl⟩, ?_⟩
        refine ih.2 ⟨chains, by rw [hsame]; exact hchains, ?_⟩
        rw [List.flatten_cons, List.foldl_append]

/-- The query of a draft: first without conditions, then one list of
conditions after the other. -/
theorem toQuery_eq (d : Draft) :
    d.toQuery = d.outline >>= fun q => d.groups.foldlM (fun q tokens => do
        let terms ← conditions q .and tokens
        return terms.foldl Query.addCondition q) q := by
  unfold Draft.toQuery Draft.outline addItems
  cases d.projection with
  | none => rfl
  | some projection =>
      cases hs : d.sources.isEmpty with
      | true => rfl
      | false =>
          simp only [Bool.false_eq_true, if_false, pure_bind, bind_assoc]
          refine bind_congr fun q => bind_congr fun list => ?_
          cases list <;> rfl

/-- A text is accepted when its tokens, its clauses, its names and its
lists of conditions all are; the query has the terms of all lists, one
list after the other. -/
theorem parse_eq_ok {text : String} {q : Query} :
    Query.parse text = .ok q
      ↔ ∃ tokens d q₀ chains, tokenize text = .ok tokens
          ∧ draft (dropSemicolons tokens) = .ok d
          ∧ d.outline = .ok q₀
          ∧ d.groups.mapM (conditions q₀ .and) = .ok chains
          ∧ q = chains.flatten.foldl Query.addCondition q₀ := by
  unfold Query.parse
  simp only [bind_eq_ok, toQuery_eq, foldlM_groups_eq_ok]
  constructor
  · rintro ⟨tokens, ht, d, hd, q₀, hq₀, chains, hc, rfl⟩
    exact ⟨tokens, d, q₀, chains, ht, hd, hq₀, hc, rfl⟩
  · rintro ⟨tokens, d, q₀, chains, ht, hd, hq₀, hc, rfl⟩
    exact ⟨tokens, ht, d, hd, q₀, hq₀, chains, hc, rfl⟩

end FlatQuery.Statement
