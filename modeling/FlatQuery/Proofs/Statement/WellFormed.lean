/-
Accepted statements are well formed. The first relation of their query
leads and the others are joined to it, the query has either columns of
its own or every column there is, names refer to its relations, its
conditions begin with `and`, and its predicate makes sense.

Roles come from the clauses: only FROM gives `leading`, it comes before
every join, and it comes once (`led_of_draft`). What becomes of the
query afterwards keeps its relations and their order.
-/
import FlatQuery.Proofs.Statement.Accepted
import FlatQuery.Proofs.Statement.Blind
import FlatQuery.Proofs.Statement.Groups

namespace FlatQuery

open Text Token Result

namespace Grammar

-- =============================================================== kinds

/-- A join is inner or full. -/
theorem role_of_clauseFor? {token : String} {role : Role} {clause : Clause}
    (h : clauseFor? token = some (.join role, clause)) : role = .inner ∨ role = .full := by
  have htable : ∀ e ∈ clauses, e.2.1 ≠ .join .leading := by decide
  obtain ⟨before, after, hmem, -⟩ := List.lookup_eq_some_iff.1 h
  cases role with
  | leading =>
      refine absurd rfl (htable (lowercase token, .join .leading, clause) ?_)
      rw [hmem]
      simp
  | inner => exact .inl rfl
  | full => exact .inr rfl

theorem role_of_mem_carve (tokens : List String) :
    ∀ part ∈ (carve tokens).1, ∀ role, part.kind = .join role →
      role = .inner ∨ role = .full := by
  fun_induction carve tokens with
  | case1 => exact fun part hpart => absurd hpart List.not_mem_nil
  | case2 first tail hclause => exact fun part hpart => absurd hpart List.not_mem_nil
  | case3 first tail kind clause hclause e hextract =>
      exact fun part hpart => absurd hpart List.not_mem_nil
  | case4 first tail kind clause hclause part remainder hextract parts failure hcarve ih =>
      rw [hcarve] at ih
      refine List.forall_mem_cons.2 ⟨?_, ih⟩
      rintro role rfl
      exact role_of_clauseFor? hclause

end Grammar

namespace Statement

-- =============================================================== roles

/-- The first of these roles, if there is one, leads, and no other
does. -/
def Led : List Role → Prop
  | [] => True
  | first :: others => first = .leading ∧ ∀ role ∈ others, role = .inner ∨ role = .full

theorem Led.append_singleton {roles : List Role} (h : Led roles) (hne : roles ≠ [])
    {role : Role} (hrole : role = .inner ∨ role = .full) : Led (roles ++ [role]) := by
  cases roles with
  | nil => exact absurd rfl hne
  | cons first others =>
      obtain ⟨hfirst, hothers⟩ := h
      exact ⟨hfirst, List.forall_mem_append.2 ⟨hothers, List.forall_mem_singleton.2 hrole⟩⟩

theorem role_of_source {role : Role} {clause body : List String} {s : Source}
    (h : source role clause body = .ok s) : s.role = role := by
  obtain ⟨⟨token, aliasName⟩, -, h⟩ := bind_eq_ok.1 h
  dsimp only at h
  split at h
  · cases h
  · cases aliasName with
    | none =>
        obtain rfl := Except.ok.inj h
        rfl
    | some aliasName =>
        dsimp only at h
        split at h
        · obtain rfl := Except.ok.inj h
          rfl
        · cases h

/-- The relations of a draft have the roles of a statement. -/
theorem led_of_draft {tokens : List String} {d : Draft} (h : draft tokens = .ok d) :
    Led (d.sources.map (·.role)) := by
  obtain ⟨parts, hparts, hadd⟩ := draft_eq_ok.1 h
  have hkinds := Grammar.role_of_mem_carve tokens
  rw [hparts] at hkinds
  refine foldlM_induction (fun d => Led (d.sources.map (·.role))) hadd
    (show Led [] from trivial) ?_
  intro part hpart b b' hb hstep
  cases add_eq_ok.1 hstep with
  | projection => exact hb
  | leading s hkind hbehind hfirst hs =>
      exact ⟨role_of_source hs, fun role hrole => absurd hrole List.not_mem_nil⟩
  | join role s hkind hbehind hs hconditions =>
      rw [List.map_append, List.map_singleton, role_of_source hs]
      refine hb.append_singleton ?_ (hkinds part hpart role hkind)
      exact fun hnil => hbehind (List.map_eq_nil_iff.1 hnil)
  | filter => exact hb

-- =========================================================== the output

/-- A select list is read item by item. -/
theorem mapM_item_of_items {tokens : List String} {list : List Item}
    (h : items tokens = .ok (some list)) : (tokens.splitOn ",").mapM item = .ok list := by
  unfold items at h
  split at h
  · cases h
  split at h
  · cases h
  · obtain ⟨found, hfound, h⟩ := bind_eq_ok.1 h
    rw [hfound, Option.some.inj (Except.ok.inj h)]

/-- A select list that is read holds an item. -/
theorem ne_nil_of_items {tokens : List String} {list : List Item}
    (h : items tokens = .ok (some list)) : list ≠ [] := by
  have hlist := mapM_item_of_items h
  rintro rfl
  cases hsplit : tokens.splitOn "," with
  | nil => exact List.splitOn_ne_nil _ _ hsplit
  | cons piece pieces =>
      rw [hsplit] at hlist
      obtain ⟨i, -, rest, -, hnil⟩ := mapM_cons_eq_ok.1 hlist
      cases hnil

/-- Adding items adds as many columns, and no relation. -/
theorem foldlM_addItem_fields {list : List Item} {q q' : Query}
    (h : list.foldlM addItem q = .ok q') :
    q'.sources = q.sources ∧ q'.wildcard = q.wildcard
      ∧ q'.projection.length = q.projection.length + list.length := by
  induction list generalizing q with
  | nil =>
      obtain rfl := Except.ok.inj h
      exact ⟨rfl, rfl, rfl⟩
  | cons i list ih =>
      obtain ⟨q₁, hadd, hrest⟩ := foldlM_cons_eq_ok.1 h
      obtain ⟨ref, -, hadd⟩ := addItem_eq_ok.1 hadd
      obtain ⟨-, rfl⟩ := Query.addProjection_eq_ok.1 hadd
      obtain ⟨hsources, hwildcard, hlength⟩ := ih hrest
      refine ⟨?_, hwildcard, ?_⟩
      · rw [hsources]
        exact Query.map_source_foldl_reference [⟨ref.relation, ref.column⟩] q.relations
      · rw [hlength, List.length_append, List.length_singleton, List.length_cons]
        omega

/-- A query has every column there is, or columns of its own. -/
def Outputs (q : Query) : Prop :=
  q.wildcard = true ∧ q.projection = [] ∨ q.wildcard = false ∧ q.projection ≠ []

/-- Before its conditions a query has its relations and what it puts
out. -/
theorem outline_fields {d : Draft} {q : Query} (h : d.outline = .ok q) :
    q.sources = d.sources ∧ Outputs q := by
  obtain ⟨projection, q₁, -, -, hsources, hitems⟩ := outline_eq_ok.1 h
  obtain ⟨hsources₁, hprojection₁, -, hwildcard₁⟩ := Query.foldlM_addSource_fields hsources
  rcases addItems_eq_ok.1 hitems with ⟨-, rfl⟩ | ⟨list, hlist, hadd⟩
  · exact ⟨hsources₁, .inl ⟨rfl, hprojection₁⟩⟩
  · obtain ⟨hsources', hwildcard', hlength⟩ := foldlM_addItem_fields hadd
    refine ⟨hsources'.trans hsources₁, .inr ⟨hwildcard'.trans hwildcard₁, ?_⟩⟩
    have hpos := List.length_pos_iff.2 (ne_nil_of_items hlist)
    rw [← List.length_pos_iff, hlength]
    omega

-- ========================================================= well-formed

/-- What every query read from a text is. -/
structure WellFormed (q : Query) : Prop where
  relations : q.relations ≠ []
  roles : Led (q.relations.map (·.role))
  outputs : Outputs q
  projected : ∀ c ∈ q.projection, c.relation ∈ q.aliases
  compared : ∀ c ∈ q.conditions, ∀ ref ∈ c.references, ref.relation ∈ q.aliases
  starts : q.predicate.startsWithAnd = true
  complete : ∀ c ∈ q.conditions, ∀ ref ∈ c.references, ref.relation ≠ "" ∧ ref.column ≠ ""
  numerals : ∀ c ∈ q.conditions, ∀ n, c.right = .number n → (number? n).isSome = true
  valid : q.predicate.validate = .ok ()

theorem wellFormed_of_parse {text : String} {q : Query} (h : Query.parse text = .ok q) :
    WellFormed q := by
  have haccepted := accepted_of_parse h
  obtain ⟨gs, hgs, hpredicate⟩ := groups_of_parse h
  obtain ⟨tokens, d, q₀, chains, -, hdraft, houtline, -, rfl⟩ := parse_eq_ok.1 h
  obtain ⟨hsources, houtputs⟩ := outline_fields houtline
  refine ⟨haccepted.relations_ne, ?_, ?_, ?_, ?_, ?_, ?_, ?_, haccepted.validate_eq_ok⟩
  · have hroles : ∀ q : Query, q.relations.map (·.role) = q.sources.map (·.role) := by
      intro q
      rw [Query.sources, List.map_map]
      rfl
    rw [hroles, Query.sources_foldl_addCondition, hsources]
    exact led_of_draft hdraft
  · unfold Outputs
    rw [Query.wildcard_foldl_addCondition, Query.projection_foldl_addCondition]
    exact houtputs
  · exact fun c hc => (haccepted.projection c hc).relation
  · exact fun c hc ref href => ((haccepted.conditions c hc).resolved ref href).relation
  · rw [hpredicate]
    exact Chain.startsWithAnd_inRow fun g hg => (startsWithAnd_of_mem_groups hgs g hg).2
  · intro c hc ref href
    have hresolved := (haccepted.conditions c hc).resolved ref href
    exact ⟨(haccepted.named _ hresolved.relation).ne, hresolved.column⟩
  · exact fun c hc => (haccepted.conditions c hc).numeral

end Statement

end FlatQuery
