/-
The draft of a printed statement. Its tokens are the printed ones, none
of them a semicolon, and its clauses give back the select list, the
relations in order, and all conditions as one list (`draft_tokens`).
-/
import FlatQuery.Proofs.Statement.Clauses

namespace FlatQuery

open Text Token Result

namespace Statement

-- ======================================================= printed tokens

/-- What stands in lists put together with a separator is the separator or
stands in one of them. -/
theorem mem_intercalate {sep t : String} {ls : List (List String)}
    (h : t ∈ [sep].intercalate ls) : t = sep ∨ ∃ l ∈ ls, t ∈ l := by
  -- on the lists, as they are put together: none, one, or one before
  -- others
  induction ls with
  | nil => cases h
  | cons l ls ih =>
      cases ls with
      | nil =>
          rw [List.intercalate_singleton] at h
          exact .inr ⟨l, List.mem_cons_self .., h⟩
      | cons l' ls =>
          rw [List.intercalate_cons_cons, List.mem_append, List.mem_append] at h
          rcases h with (h | h) | h
          · exact .inr ⟨l, List.mem_cons_self .., h⟩
          · exact .inl (List.mem_singleton.1 h)
          · rcases ih h with h | ⟨l₁, hl₁, h⟩
            · exact .inl h
            · exact .inr ⟨l₁, List.mem_cons_of_mem _ hl₁, h⟩

/-- The words a select list can hold. Only the last two kinds, columns and
output names, are the query's own. -/
theorem mem_selectTokens {q : Query} {t : String} (h : t ∈ q.selectTokens) :
    t = "*" ∨ t = "," ∨ t = "as"
      ∨ ∃ c ∈ q.projection, t = c.qualified ∨ c.aliasName = some t := by
  unfold Query.selectTokens at h
  split at h
  · exact .inl (List.mem_singleton.1 h)
  · rcases mem_intercalate h with h | ⟨l, hl, h⟩
    · exact .inr (.inl h)
    · obtain ⟨c, hc, rfl⟩ := List.mem_map.1 hl
      unfold Column.tokens at h
      cases halias : c.aliasName with
      | none =>
          rw [halias] at h
          exact .inr (.inr (.inr ⟨c, hc, .inl (List.mem_singleton.1 h)⟩))
      | some name =>
          rw [halias] at h
          rcases List.mem_cons.1 h with h | h
          · exact .inr (.inr (.inr ⟨c, hc, .inl h⟩))
          · rcases List.mem_pair.1 h with h | rfl
            · exact .inr (.inr (.inl h))
            · exact .inr (.inr (.inr ⟨c, hc, .inr halias⟩))

/-- A semicolon is never part of a word. -/
theorem ne_semicolon_of_isWord {t : String} (h : isWord t = true) : t ≠ ";" := by
  rintro rfl
  exact absurd h (by decide)

end Statement

namespace Query.Printable

open Statement

variable {q : Query} (h : q.Printable)
include h

/-- No condition holds a semicolon of its own: one inside a literal is not
a token. -/
theorem ne_semicolon_condition {c : Condition} (hc : c ∈ q.conditions) :
    ∀ t ∈ c.tokens, t ≠ ";" := by
  have hreference : ∀ ref ∈ c.references, ref.qualified ≠ ";" := fun ref href =>
    ne_semicolon_of_isWord (h.isWord_reference (mem_references_condition hc href))
  have hcomparator : c.comparator.toText ≠ ";" := by
    cases c.comparator with
    | equal => decide
    | different => decide
  -- whatever the right side is, its token begins like a number, a literal
  -- or a word
  have hright : c.right.toText ≠ ";" := by
    intro hright
    cases hcase : c.right with
    | number n =>
        have hnumber := isNumber_of_isDecimal (h.numbers c hc n hcase)
        rw [hcase] at hright
        rw [show n = ";" from hright] at hnumber
        exact absurd hnumber (by decide)
    | text value =>
        have hliteral := (unquote_literal value).1
        rw [hcase] at hright
        rw [hright] at hliteral
        exact absurd hliteral (by decide)
    | column ref =>
        rw [hcase] at hright
        exact hreference ref (c.right_mem_references hcase) hright
  unfold Condition.tokens
  rw [List.forall_mem_cons, List.forall_mem_cons, List.forall_mem_singleton]
  exact ⟨hreference _ c.left_mem_references, hcomparator, hright⟩

/-- Nor does the select list, whose words are the query's or the
printer's. -/
theorem ne_semicolon_selectTokens : ∀ t ∈ q.selectTokens, t ≠ ";" := by
  intro t ht
  rcases mem_selectTokens ht with rfl | rfl | rfl | ⟨c, hc, rfl | halias⟩
  · decide
  · decide
  · decide
  · exact ne_semicolon_of_isWord (h.isWord_column hc)
  · exact ne_semicolon_of_isWord (isWord_of_isFreeName (h.outputs c hc t halias))

/-- Nor does a relation. -/
theorem ne_semicolon_relation {r : Relation} (hr : r ∈ q.relations) :
    ∀ t ∈ r.tokens, t ≠ ";" := by
  obtain ⟨hname, halias⟩ := h.names r hr
  have hrole : ∀ t ∈ r.role.tokens, t ≠ ";" := by
    cases r.role with
    | leading => decide
    | inner => decide
    | full => decide
  rw [Relation.tokens, List.forall_mem_append, List.forall_mem_cons,
    List.forall_mem_singleton]
  exact ⟨hrole, ne_semicolon_of_isWord (isWord_of_isFreeName hname),
    ne_semicolon_of_isWord (isWord_of_isFreeName halias)⟩

/-- Nor do conditions in a row, with the words that join them. -/
theorem ne_semicolon_predicate : ∀ t ∈ q.predicate.tokens, t ≠ ";" := by
  have hcontinued : ∀ c ∈ q.conditions, ∀ t ∈ Chain.continuedTokens c, t ≠ ";" := by
    intro c hc
    have hword : c.connective.toText ≠ ";" := by
      cases c.connective with
      | and => decide
      | or => decide
    exact List.forall_mem_cons.2 ⟨hword, h.ne_semicolon_condition hc⟩
  unfold Chain.tokens Query.predicate
  cases hconditions : q.conditions with
  | nil => exact nofun
  | cons first rest =>
      rw [hconditions] at hcontinued
      obtain ⟨hfirst, hrest⟩ := List.forall_mem_cons.1 hcontinued
      refine List.forall_mem_append.2
        ⟨fun t ht => hfirst t (List.mem_cons_of_mem _ ht), ?_⟩
      intro t ht
      obtain ⟨c, hc, ht⟩ := List.mem_flatMap.1 ht
      exact hrest c hc t ht

/-- No token of a printed statement is a semicolon. -/
theorem ne_semicolon : ∀ t ∈ q.tokens, t ≠ ";" := by
  have hfilter : ∀ t ∈ q.filterTokens, t ≠ ";" := by
    unfold filterTokens
    split
    · exact nofun
    · exact List.forall_mem_cons.2 ⟨by decide, h.ne_semicolon_predicate⟩
  unfold Query.tokens
  rw [List.forall_mem_append, List.forall_mem_append, List.forall_mem_cons]
  refine ⟨⟨⟨by decide, h.ne_semicolon_selectTokens⟩, ?_⟩, hfilter⟩
  intro t ht
  obtain ⟨r, hr, ht⟩ := List.mem_flatMap.1 ht
  exact h.ne_semicolon_relation hr t ht

/-- A printed statement ends without a semicolon, so dropping them changes
nothing. -/
theorem dropSemicolons_tokens : dropSemicolons q.tokens = q.tokens := by
  have hhead : q.tokens.reverse.dropWhile (· = ";") = q.tokens.reverse := by
    rw [List.dropWhile_eq_self_iff]
    intro hlength
    have hmem := List.mem_reverse.1 (List.getElem_mem hlength)
    rw [decide_eq_true_eq]
    exact h.ne_semicolon _ hmem
  rw [dropSemicolons, hhead, List.reverse_reverse]

-- =============================================================== draft

end Query.Printable

namespace Statement

/-- Conditions that are there give a body that is not empty, as WHERE
needs one. -/
theorem predicate_tokens_ne_nil {q : Query} (hne : q.conditions ≠ []) :
    q.predicate.tokens ≠ [] := by
  unfold Chain.tokens Query.predicate
  cases hconditions : q.conditions with
  | nil => exact absurd hconditions hne
  | cons first rest => exact nofun

/-- The lists of conditions of a printed statement: one, or none. -/
def printedGroups (q : Query) : List (List String) :=
  if q.conditions.isEmpty then [] else [q.predicate.tokens]

/-- What the filter's clause gives. -/
theorem read_filter (q : Query) {d : Draft} (hsources : d.sources ≠ []) :
    d.read q.filterTokens = .ok { d with groups := d.groups ++ printedGroups q } := by
  have hempty : d.sources.isEmpty = false := by rwa [List.isEmpty_eq_false_iff]
  unfold Query.filterTokens printedGroups
  split
  · rw [read_nil, List.append_nil]
  -- WHERE is the last clause: nothing ends its body but the end of the
  -- text
  · next hne =>
    rw [List.isEmpty_iff] at hne
    have htokens : q.predicate.tokens.isEmpty = false :=
      List.isEmpty_eq_false_iff.2 (predicate_tokens_ne_nil hne)
    have hadd : d.add ⟨.filter, "where", "where" :: q.predicate.tokens,
      q.predicate.tokens⟩
        = .ok { d with groups := d.groups ++ [q.predicate.tokens] } := by
      unfold Draft.add
      dsimp only
      rw [hempty, if_neg Bool.false_ne_true, nonEmpty, htokens, if_neg Bool.false_ne_true]
      rfl
    have hclause : Grammar.clauseFor? "where" = some (.filter, ⟨["where"], []⟩) := by
      decide +kernel
    have hend : ∀ t, ([] : List String).head? = some t →
        Clause.isTerminator ⟨["where"], []⟩ t = true := nofun
    have hread := read_clause hclause rfl (fun _ _ => rfl) hend hadd
    rw [List.append_nil] at hread
    rw [← read_nil { d with groups := d.groups ++ [q.predicate.tokens] }]
    exact hread

/-- What follows the relations ends their clauses: WHERE, or nothing. -/
theorem closing_filterTokens (q : Query) : Closing q.filterTokens := by
  unfold Query.filterTokens
  split
  · exact nofun
  · intro t ht
    rw [← Option.some.inj ht]
    decide

/-- The select list ends at FROM. -/
theorem isTerminator_selectTokens {q : Query} (h : q.Printable) :
    ∀ t ∈ q.selectTokens, Clause.isTerminator ⟨["select"], ["from"]⟩ t = false := by
  have hsub : (["from"] : List String) ⊆ keywords := by decide
  intro t ht
  rcases mem_selectTokens ht with rfl | rfl | rfl | ⟨c, hc, rfl | halias⟩
  -- the printer's own words first, by evaluation; then those of the query,
  -- which are no keywords
  · decide +kernel
  · decide +kernel
  · decide +kernel
  · exact isTerminator_eq_false hsub (inert_qualified ⟨c.relation, c.name⟩)
  · exact isTerminator_eq_false hsub (inert_of_isFreeName (h.outputs c hc t halias))

/-- The clauses of a printed statement give its select list, its
relations in order, and all its conditions as one list. -/
theorem draft_tokens {q : Query} (h : q.Printable)
    (hletter : ∀ r ∈ q.relations, r.name.toList.any isAlphanumeric = true) :
    draft q.tokens
      = .ok ⟨some q.selectTokens, q.sources, printedGroups q⟩ := by
  -- the leading relation is printed first, and its clause ends the select
  -- list
  obtain ⟨first, rest, hrelations, hrole, hroles⟩ := h.roles
  obtain ⟨⟨hname, halias⟩, hnames⟩ := List.forall_mem_cons.1 (hrelations ▸ h.names)
  obtain ⟨hletter₁, hletter⟩ := List.forall_mem_cons.1 (hrelations ▸ hletter)
  have hclosing := closing_relations hroles (closing_filterTokens q)
  have hselect :
      Grammar.clauseFor? "select" = some (.projection, ⟨["select"], ["from"]⟩) := by
    decide +kernel
  have hfrom : ∀ t, (first.tokens ++ (rest.flatMap Relation.tokens ++ q.filterTokens)).head?
      = some t → Clause.isTerminator ⟨["select"], ["from"]⟩ t = true := by
    intro t ht
    rw [Relation.tokens, hrole] at ht
    rw [← Option.some.inj ht]
    decide +kernel
  have hleading : ∀ keyword, Draft.add ⟨some q.selectTokens, [], []⟩
        ⟨roleKind first.role, keyword, first.tokens, [first.name, first.aliasName]⟩
      = .ok ⟨some q.selectTokens, [first.source], []⟩ := by
    intro keyword
    rw [hrole]
    show (source .leading first.tokens [first.name, first.aliasName] >>= _) = _
    rw [source_printed hname halias hletter₁, Relation.source, hrole]
    rfl
  have hlist : Draft.add ⟨none, [], []⟩
        ⟨.projection, "select", "select" :: q.selectTokens, q.selectTokens⟩
      = .ok ⟨some q.selectTokens, [], []⟩ := rfl
  -- read from the left: select list, leading relation, joins, filter; each
  -- reading leaves the draft that the next one starts from
  have hread := read_clause hselect rfl (isTerminator_selectTokens h) hfrom hlist
  have hjoins := read_joins hroles hnames hletter
    (d := ⟨some q.selectTokens, [first.source], []⟩)
    (List.cons_ne_nil _ _) (closing_filterTokens q)
  rw [draft_eq_read, Query.tokens, Query.sources, hrelations, List.flatMap_cons,
    List.cons_append, List.cons_append, List.append_assoc, List.append_assoc]
  refine hread.trans ?_
  rw [read_relation hname halias hleading hclosing, hjoins,
    read_filter q (List.append_ne_nil_of_left_ne_nil (List.cons_ne_nil _ _) _)]
  rfl

end Statement

end FlatQuery
