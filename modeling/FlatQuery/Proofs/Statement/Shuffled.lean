/-
Statements that have the same comparisons, joined by `and` alone, in
another order. A list of such comparisons is read as each of them by
itself (`conditions_conjunction`), no other list is read as terms joined
by `and` (`exists_conjunction`), and names are resolved against the
relations only; so the one statement is accepted if the other is, and
their queries differ in the order of the conditions only, and in that of
the columns that relations know (`parse_shuffled`).
-/
import FlatQuery.Proofs.Statement.Reordered

namespace FlatQuery.Statement

open Text Result

-- ========================================================== vocabulary

/-- The three tokens of a comparison. -/
structure Comparison where
  left : String
  operator : String
  right : String
  deriving DecidableEq, Repr

/-- The tokens are those of the comparisons, in order, with the word
`and`, in any case, between any two. -/
inductive Conjunction : List Comparison → List String → Prop where
  | last (c : Comparison) : Conjunction [c] [c.left, c.operator, c.right]
  | more (c : Comparison) {word : String} {cs : List Comparison} {tokens : List String}
      (joined : lowercase word = "and") (rest : Conjunction cs tokens) :
      Conjunction (c :: cs) (c.left :: c.operator :: c.right :: word :: tokens)

/-- Two drafts that have the same comparisons, joined by `and` alone, in
another order. -/
structure Shuffled (d d' : Draft) : Prop where
  projection : d'.projection = d.projection
  sources : d'.sources = d.sources
  comparisons : ∃ lists lists', List.Forall₂ Conjunction lists d.groups
    ∧ List.Forall₂ Conjunction lists' d'.groups ∧ lists'.flatten.Perm lists.flatten

/-- Two queries that have the same conditions, joined by `and` alone, in
another order. -/
structure Commuted (q q' : Query) : Prop where
  projection : q'.projection = q.projection
  wildcard : q'.wildcard = q.wildcard
  sources : q'.sources = q.sources
  conditions : q'.conditions.Perm q.conditions
  joined : ∀ c ∈ q.conditions, c.connective = .and

theorem Shuffled.symm {d d' : Draft} (h : Shuffled d d') : Shuffled d' d := by
  obtain ⟨lists, lists', hlists, hlists', hperm⟩ := h.comparisons
  exact ⟨h.projection.symm, h.sources.symm, lists', lists, hlists', hlists, hperm.symm⟩

theorem Commuted.symm {q q' : Query} (h : Commuted q q') : Commuted q' q where
  projection := h.projection.symm
  wildcard := h.wildcard.symm
  sources := h.sources.symm
  conditions := h.conditions.symm
  joined := fun c hc => h.joined c (h.conditions.mem_iff.1 hc)

-- ========================================================= conditions

/-- Reads one comparison, joined by `and`. -/
def comparison (q : Query) (c : Comparison) : Result Condition := do
  let operator ← comparator c.operator
  return ⟨.and, ← resolve q c.left, operator, ← operand q c.right⟩

/-- A comparison is joined by AND. -/
theorem connective_comparison {q : Query} {c : Comparison} {term : Condition}
    (h : comparison q c = .ok term) : term.connective = .and := by
  obtain ⟨operator, -, h⟩ := bind_eq_ok.1 h
  obtain ⟨left, -, h⟩ := bind_eq_ok.1 h
  obtain ⟨right, -, h⟩ := bind_eq_ok.1 h
  rw [← Except.ok.inj h]

/-- A conjunction is read one comparison after the other. -/
theorem conditions_conjunction (q : Query) {cs : List Comparison} {tokens : List String}
    (h : Conjunction cs tokens) : conditions q .and tokens = cs.mapM (comparison q) := by
  induction h with
  | last c =>
      rw [List.mapM_cons, List.mapM_nil, conditions, comparison]
      simp only [bind_assoc, pure_bind]
  | @more c word cs tokens hword _ ih =>
      have hand : connective word = .ok .and := if_pos hword
      rw [List.mapM_cons, conditions, comparison, hand]
      simp only [bind_assoc, pure_bind, ok_bind, ih]

/-- The only word for AND is `and`, in whatever case. -/
theorem lowercase_of_connective {word : String} (h : connective word = .ok .and) :
    lowercase word = "and" := by
  unfold connective at h
  split at h
  · assumption
  · split at h <;> cases h

/-- No other tokens are read as terms that are all joined by `and`. -/
theorem exists_conjunction {q : Query} {first : Connective} {tokens : List String}
    {terms : List Condition} (h : conditions q first tokens = .ok terms)
    (hjoined : ∀ c ∈ terms, c.connective = .and) : ∃ cs, Conjunction cs tokens := by
  fun_induction conditions q first tokens generalizing terms with
  | case1 first left operator right => exact ⟨_, .last ⟨left, operator, right⟩⟩
  | case2 first left operator right word rest ih =>
      obtain ⟨_, -, h⟩ := bind_eq_ok.1 h
      obtain ⟨_, -, h⟩ := bind_eq_ok.1 h
      obtain ⟨_, -, h⟩ := bind_eq_ok.1 h
      obtain ⟨next, hnext, h⟩ := bind_eq_ok.1 h
      obtain ⟨following, hfollowing, h⟩ := bind_eq_ok.1 h
      obtain rfl := Except.ok.inj h
      obtain ⟨-, hrest⟩ := List.forall_mem_cons.1 hjoined
      obtain ⟨cs, hcs⟩ := ih next hfollowing hrest
      -- there is a further term, which the word joins
      obtain rfl : next = .and := by
        cases hcs <;>
        · obtain ⟨_, _, _, _, -, -, -, -, rfl⟩ := conditions_eq_ok.1 hfollowing
          exact hrest _ (List.mem_cons_self ..)
      exact ⟨_, .more ⟨left, operator, right⟩ (lowercase_of_connective hnext) hcs⟩
  | case3 => cases h
  | case4 => cases h

/-- Groups of conjunctions are read comparison by comparison. -/
theorem mapM_conditions_eq (q : Query) {lists : List (List Comparison)}
    {groups : List (List String)} (h : List.Forall₂ Conjunction lists groups) :
    groups.mapM (conditions q .and) = lists.mapM (·.mapM (comparison q)) := by
  induction h with
  | nil => rfl
  | cons hconj _ ih =>
      rw [List.mapM_cons, List.mapM_cons, conditions_conjunction q hconj, ih]

-- ========================================================== statements

/-- If a statement is accepted, so it is with its comparisons in another
order. -/
theorem parse_shuffled {text text' : String} {d d' : Draft} {q : Query}
    (hd : Draft.ofText text = .ok d) (hd' : Draft.ofText text' = .ok d')
    (h : Shuffled d d') (hq : Query.parse text = .ok q) :
    ∃ q', Query.parse text' = .ok q' ∧ Commuted q q' := by
  rw [parse_eq_bind, hd, ok_bind, toQuery_eq] at hq
  obtain ⟨q₀, hq₀, hgroups⟩ := bind_eq_ok.1 hq
  obtain ⟨chains, hchains, rfl⟩ := foldlM_groups_eq_ok.1 hgroups
  obtain ⟨lists, lists', hlists, hlists', hperm⟩ := h.comparisons
  -- all comparisons are read against the one query without conditions
  have houtline : d'.outline = .ok q₀ := by
    rw [← hq₀]
    unfold Draft.outline
    rw [h.projection, h.sources]
  rw [mapM_conditions_eq q₀ hlists] at hchains
  have hterms := mapM_flatten_eq_ok.2 ⟨chains, hchains, rfl⟩
  obtain ⟨terms', hterms', hsame⟩ := mapM_perm hperm hterms
  obtain ⟨chains', hchains', rfl⟩ := mapM_flatten_eq_ok.1 hterms'
  rw [← mapM_conditions_eq q₀ hlists'] at hchains'
  refine ⟨chains'.flatten.foldl Query.addCondition q₀, ?_, ?_⟩
  · rw [parse_eq_bind, hd', ok_bind, toQuery_eq]
    exact bind_eq_ok.2 ⟨q₀, houtline, foldlM_groups_eq_ok.2 ⟨chains', hchains', rfl⟩⟩
  · constructor
    · rw [Query.projection_foldl_addCondition, Query.projection_foldl_addCondition]
    · rw [Query.wildcard_foldl_addCondition, Query.wildcard_foldl_addCondition]
    · rw [Query.sources_foldl_addCondition, Query.sources_foldl_addCondition]
    · rw [Query.conditions_foldl_addCondition, Query.conditions_foldl_addCondition]
      exact hsame.append_left _
    · rw [Query.conditions_foldl_addCondition, conditions_outline hq₀, List.nil_append]
      intro term hterm
      obtain ⟨c, -, hc⟩ := exists_of_mem_mapM hterms term hterm
      exact connective_comparison hc

end FlatQuery.Statement
