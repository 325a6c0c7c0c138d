/-
Reading undoes printing. A query is built from its relations, its select
list and its terms (`Query.build`); if it is printable, the statement
that `Query.toText` writes is read as the same query (`parse_toText`):
its draft names the same relations, and every name of it resolves to the
reference it was printed from. The one thing reading asks beyond that is
a letter or digit in each relation's name (`underscore_not_read`).
-/
import FlatQuery.Proofs.Statement.Accepted
import FlatQuery.Proofs.Statement.Redraft

namespace FlatQuery

open Text Token Result

-- ========================================================== references

/-- A reference to named parts is read back off its text: neither part holds
the point between them. -/
theorem ColumnRef.parse?_qualified {ref : ColumnRef}
    (hrelation : isName ref.relation = true)
    (hcolumn : isName ref.column = true) : ColumnRef.parse? ref.qualified = some ref := by
  have hne : ∀ {name : String}, isName name = true → name ≠ "" := by
    intro name hname
    obtain ⟨c, rest, htext, -, -⟩ := exists_of_isName hname
    rintro rfl
    cases htext
  have hfree : ∀ {name : String}, isName name = true → '.' ∉ name.toList :=
    fun hname hmem => (nameChar_of_isName hname '.' hmem).point rfl
  exact ColumnRef.parse?_of_parts (toList_qualified ref) (hne hrelation) (hne hcolumn)
    (hfree hrelation) (hfree hcolumn)

namespace Statement

/-- A printed reference is resolved to itself. -/
theorem resolve_qualified {q : Query} {ref : ColumnRef}
    (hknown : ref.relation ∈ q.aliases)
    (hrelation : isName ref.relation = true) (hcolumn : isName ref.column = true) :
    resolve q ref.qualified = .ok ref := by
  obtain ⟨hliteral, hnumber⟩ := isLiteral_of_isWord (isWord_qualified hrelation hcolumn)
  have hpoint : IsSmall '.' := isSmall_iff.1 (by decide)
  -- reading lowercases the text, which changes no name
  have hlower : lowercase ref.qualified = ref.qualified := by
    refine lowercase_of_isSmall ?_
    rw [ref.toList_qualified, List.forall_mem_append, List.forall_mem_cons]
    exact ⟨fun c hc => (nameChar_of_isName hrelation c hc).small, hpoint,
      fun c hc => (nameChar_of_isName hcolumn c hc).small⟩
  have hdotted : ref.qualified.toList.contains '.' = true := by
    rw [List.contains_iff_mem, ref.toList_qualified]
    exact List.mem_append_right _ (List.mem_cons_self ..)
  change isLiteral ref.qualified = false at hliteral
  change isNumber ref.qualified = false at hnumber
  rw [resolve_eq, hliteral, hnumber, hlower, hdotted,
    ColumnRef.parse?_qualified hrelation hcolumn]
  exact if_pos hknown

-- ========================================================== conditions

/-- Both sides of the term are read as they were printed. -/
def ReadsBack (q : Query) (c : Condition) : Prop :=
  resolve q c.left.qualified = .ok c.left ∧ operand q c.right.toText = .ok c.right

/-- An operator is read back. -/
theorem comparator_toText (c : Comparator) : comparator c.toText = .ok c := by
  cases c with
  | equal => rfl
  | different => rfl

/-- A connective is read back. -/
theorem connective_toText (c : Connective) : connective c.toText = .ok c := by
  have hand : lowercase "and" = "and" := by decide +kernel
  have hor : lowercase "or" = "or" := by decide +kernel
  unfold connective
  cases c with
  | and =>
      show (if lowercase "and" = "and" then _ else _) = _
      rw [if_pos hand]
  | or =>
      show (if lowercase "or" = "and" then _
        else if lowercase "or" = "or" then _ else _) = _
      rw [hor]
      rfl

/-- The terms of a printed chain are read back; the first one is joined
as it is told. -/
theorem conditions_tokens {q : Query} {c : Condition} {rest : List Condition}
    (hread : ∀ d ∈ c :: rest, ReadsBack q d) (first : Connective) :
    conditions q first (c.tokens ++ rest.flatMap Chain.continuedTokens)
      = .ok ({ c with connective := first } :: rest) := by
  induction rest generalizing c first with
  | nil =>
      obtain ⟨hleft, hright⟩ := hread c (List.mem_cons_self ..)
      rw [List.flatMap_nil, List.append_nil, Condition.tokens, conditions,
        comparator_toText, hleft, hright]
      rfl
  | cons d rest ih =>
      obtain ⟨⟨hleft, hright⟩, hrest⟩ := List.forall_mem_cons.1 hread
      have hword := connective_toText d.connective
      have hfollowing := ih hrest d.connective
      show conditions q first
        (_ :: _ :: _ :: _ :: (d.tokens ++ rest.flatMap Chain.continuedTokens)) = _
      rw [conditions, comparator_toText, hleft, hright, hword]
      simp only [ok_bind, hfollowing]
      rfl

/-- The list behind WHERE, if there is one, holds all terms. -/
theorem mapM_printedGroups {q q₀ : Query}
    (hfirst : ∀ c, q.conditions.head? = some c → c.connective = .and)
    (hread : ∀ c ∈ q.conditions, ReadsBack q₀ c) :
    ∃ chains, (printedGroups q).mapM (conditions q₀ .and) = .ok chains
      ∧ chains.flatten = q.conditions := by
  unfold printedGroups Query.predicate Chain.tokens
  cases hconditions : q.conditions with
  | nil => exact ⟨[], rfl, rfl⟩
  | cons c rest =>
      rw [hconditions] at hfirst hread
      have hand : { c with connective := .and } = c := by rw [← hfirst c rfl]
      have hchain := conditions_tokens hread .and
      rw [hand] at hchain
      exact ⟨[c :: rest], mapM_cons_eq_ok.2 ⟨_, hchain, [], rfl, rfl⟩, List.append_nil _⟩

end Statement

namespace Query.Printable

open Statement

variable {q : Query} (h : q.Printable)
include h

/-- Each term of a printable query is read back, among relations of the same
aliases. -/
theorem readsBack {q₀ : Query} (hsame : q₀.aliases = q.aliases) {c : Condition}
    (hc : c ∈ q.conditions) : ReadsBack q₀ c := by
  have hreference : ∀ ref ∈ c.references, resolve q₀ ref.qualified = .ok ref := by
    intro ref href
    have hmem := mem_references_condition hc href
    obtain ⟨hrelation, hcolumn⟩ := h.isName_reference hmem
    exact resolve_qualified (hsame ▸ (h.known ref hmem).1) hrelation hcolumn
  refine ⟨hreference _ c.left_mem_references, ?_⟩
  unfold operand
  cases hcase : c.right with
  | number n =>
      -- a decimal is no literal, so it is taken for a number
      have hnumber := isNumber_of_isDecimal (h.numbers c hc n hcase)
      have hliteral := isLiteral_of_isDecimal (h.numbers c hc n hcase)
      show (if isLiteral n then _ else if isNumber n then _ else _) = _
      rw [hliteral, hnumber]
      rfl
  | text value =>
      obtain ⟨hliteral, hunquote⟩ := unquote_literal value
      rw [hliteral, hunquote]
      rfl
  | column ref =>
      have hmem := mem_references_condition hc (c.right_mem_references hcase)
      obtain ⟨hliteral, hnumber⟩ := isLiteral_of_isWord (h.isWord_reference hmem)
      show (if isLiteral ref.qualified then _ else if isNumber ref.qualified then _
        else (resolve q₀ ref.qualified).map Operand.column) = _
      rw [hliteral, hnumber, hreference ref (c.right_mem_references hcase)]
      rfl

end Query.Printable

-- ========================================================= select list

/-- The column as an item of a select list. -/
def Column.item (c : Column) : Statement.Item := ⟨c.qualified, c.aliasName⟩

namespace Statement

/-- An item of the select list is read back, with or without an output
name. -/
theorem item_tokens {c : Column} (hcolumn : isWord c.qualified = true)
    (houtput : ∀ name, c.aliasName = some name → isFreeName name = true) :
    item c.tokens = .ok c.item := by
  unfold Column.tokens Column.item
  cases halias : c.aliasName with
  | none =>
      have hstar : c.qualified ≠ "*" := by
        intro hstar
        rw [hstar] at hcolumn
        exact absurd hcolumn (by decide)
      unfold item
      dsimp only
      rw [if_neg hstar]
  | some name =>
      have hname := isName_of_isFreeName (houtput name halias)
      unfold item
      dsimp only
      rw [sameFolded_self, isIdentifier_of_isName hname, lowercase_of_isName hname]
      rfl

/-- Neither a comma nor a star stands in a printed column. -/
theorem not_mem_tokens {c : Column} (hcolumn : isWord c.qualified = true)
    (houtput : ∀ name, c.aliasName = some name → isFreeName name = true) :
    "," ∉ c.tokens ∧ "*" ∉ c.tokens := by
  have hwords : ∀ t ∈ c.tokens, isWord t = true := by
    unfold Column.tokens
    cases halias : c.aliasName with
    | none => exact List.forall_mem_singleton.2 hcolumn
    | some name =>
        have hname := isWord_of_isFreeName (houtput name halias)
        exact List.forall_mem_cons.2 ⟨hcolumn, List.forall_mem_cons.2
          ⟨by decide, List.forall_mem_singleton.2 hname⟩⟩
  constructor
  · intro hcomma
    exact absurd (hwords _ hcomma) (by decide)
  · intro hstar
    exact absurd (hwords _ hstar) (by decide)

/-- No column is printed as nothing. -/
theorem tokens_ne_nil (c : Column) : c.tokens ≠ [] := by
  unfold Column.tokens
  split
  · exact List.cons_ne_nil _ _
  · exact List.cons_ne_nil _ _

/-- A printed select list is split into the printed columns, and it is
not taken for the wildcard. -/
theorem splitOn_selectTokens {q : Query} (h : q.Printable) (hwildcard : q.wildcard = false)
    (hne : q.projection ≠ []) :
    q.selectTokens.splitOn "," = q.projection.map Column.tokens
      ∧ q.selectTokens ≠ ["*"] := by
  have hlists : ∀ l ∈ q.projection.map Column.tokens, "," ∉ l ∧ "*" ∉ l := by
    intro l hl
    obtain ⟨c, hc, rfl⟩ := List.mem_map.1 hl
    exact not_mem_tokens (h.isWord_column hc) (h.outputs c hc)
  have htokens : q.selectTokens = [","].intercalate (q.projection.map Column.tokens) := by
    rw [Query.selectTokens, hwildcard]
    exact if_neg Bool.false_ne_true
  rw [htokens]
  constructor
  · exact List.splitOn_intercalate "," (fun l hl => (hlists l hl).1)
      (fun hnil => hne (List.map_eq_nil_iff.1 hnil))
  · intro hstar
    -- a star would stand in one of the printed columns
    have hmem : "*" ∈ [","].intercalate (q.projection.map Column.tokens) := by
      rw [hstar]
      exact List.mem_cons_self ..
    rcases mem_intercalate hmem with hcomma | ⟨l, hl, hmem⟩
    · exact absurd hcomma (by decide)
    · exact (hlists l hl).2 hmem

/-- A printed select list is read back. -/
theorem items_selectTokens {q : Query} (h : q.Printable) (hwildcard : q.wildcard = false)
    (hne : q.projection ≠ []) :
    items q.selectTokens = .ok (some (q.projection.map Column.item)) := by
  obtain ⟨hsplit, hstar⟩ := splitOn_selectTokens h hwildcard hne
  have hempty : q.selectTokens.isEmpty = false := by
    rw [List.isEmpty_eq_false_iff]
    intro hnil
    rw [hnil] at hsplit
    obtain ⟨c, rest, hprojection⟩ := List.exists_cons_of_ne_nil hne
    rw [hprojection, List.map_cons] at hsplit
    exact tokens_ne_nil c (List.cons.inj hsplit).1.symm
  have hitems := mapM_map_eq_ok (f := item) (g := Column.tokens) (k := Column.item)
    fun c hc => item_tokens (h.isWord_column hc) (h.outputs c hc)
  unfold items
  rw [if_neg hstar, hempty, if_neg Bool.false_ne_true, hsplit, hitems]
  rfl

/-- The items of a printed select list are added as the columns were. -/
theorem foldlM_addItem_printed {outputs : List Output} {q q' : Query}
    (h : outputs.foldlM Query.addOutput q = .ok q')
    (hresolve : ∀ o ∈ outputs, ∀ b : Query, b.aliases = q.aliases →
      resolve b o.column.qualified = .ok ⟨o.relation, o.name⟩) :
    ((outputs.map Output.column).map Column.item).foldlM addItem q = .ok q' := by
  induction outputs generalizing q with
  | nil => exact h
  | cons o outputs ih =>
      obtain ⟨ho, hrest⟩ := List.forall_mem_cons.1 hresolve
      obtain ⟨q₁, hadd, houtputs⟩ := foldlM_cons_eq_ok.1 h
      have haliases : q₁.aliases = q.aliases := Query.aliases_addProjection hadd
      refine foldlM_cons_eq_ok.2 ⟨q₁, addItem_eq_ok.2 ⟨_, ho q rfl, hadd⟩, ?_⟩
      exact ih houtputs fun o' ho' b hb => hrest o' ho' b (hb.trans haliases)

end Statement

-- ========================================================== round trip

namespace Query

open Statement

/-- A built query asks of its select list what it was built from. -/
theorem addItems_selectTokens {q q₁ q₀ : Query} {outputs : Option (List Output)}
    (h : q.Printable) (hne : outputs ≠ some []) (hadd : q₁.addOutputs outputs = .ok q₀)
    (hempty : q₁.projection = []) (hwildcard : q₁.wildcard = false)
    (hprojection : q.projection = q₀.projection) (hsame : q.wildcard = q₀.wildcard)
    (haliases : q.aliases = q₁.aliases) : addItems q₁ q.selectTokens = .ok q₀ := by
  cases outputs with
  | none =>
      obtain rfl := Except.ok.inj hadd
      have htokens : q.selectTokens = ["*"] := by
        rw [selectTokens, hsame]
        rfl
      exact addItems_eq_ok.2 (.inl ⟨by rw [htokens]; rfl, rfl⟩)
  | some outputs =>
      -- the projection that was built is what the outputs name
      obtain ⟨hcolumns, -, -, hwildcard₀⟩ := foldlM_addOutput_fields hadd
      rw [hempty, List.nil_append] at hcolumns
      rw [hcolumns] at hprojection
      have hnil : q.projection ≠ [] := by
        rw [hprojection]
        intro hnil
        rw [List.map_eq_nil_iff.1 hnil] at hne
        exact hne rfl
      have hitems := items_selectTokens h (hsame.trans (hwildcard₀.trans hwildcard)) hnil
      rw [hprojection] at hitems
      refine addItems_eq_ok.2 (.inr ⟨_, hitems, foldlM_addItem_printed hadd ?_⟩)
      intro o ho b hb
      have hmem : ⟨o.relation, o.name⟩ ∈ q.references :=
        mem_references_projection (c := o.column) (hprojection ▸ List.mem_map_of_mem ho)
      obtain ⟨hrelation, hcolumn⟩ := h.isName_reference hmem
      have hknown := (h.known _ hmem).1
      rw [haliases, ← hb] at hknown
      rw [Column.qualified_eq]
      exact resolve_qualified hknown hrelation hcolumn

/-- The text of a printable query is read as that query, if a letter or
digit stands in each relation's name. -/
theorem parse_toText {sources : List Source} {outputs : Option (List Output)}
    {terms : List Condition} {q : Query} (hbuilt : build sources outputs terms = .ok q)
    (hne : outputs ≠ some []) (h : q.Printable)
    (hletter : ∀ r ∈ q.relations, r.name.toList.any isAlphanumeric = true) :
    Query.parse q.toText = .ok q := by
  obtain ⟨q₁, q₀, hsources, houtputs, hq⟩ := build_eq_ok.1 hbuilt
  obtain ⟨hsources₁, hprojection₁, hconditions₁, hwildcard₁⟩ :=
    foldlM_addSource_fields hsources
  obtain ⟨hsources₀, hconditions₀⟩ := addOutputs_fields houtputs
  have hterms : q.conditions = terms := by
    rw [hq, conditions_foldl_addCondition, hconditions₀, hconditions₁]
    rfl
  have hsame : q.sources = sources := by
    rw [hq, sources_foldl_addCondition, hsources₀, hsources₁]
    rfl
  have haliases : q₀.aliases = q.aliases := by
    rw [hq, aliases_foldl_addCondition]
  -- neither outputs nor terms add a relation, so all stages know the same aliases
  have haliases₁ : q₁.aliases = q₀.aliases := by
    rw [aliases_eq, aliases_eq, hsources₀]
  have hrelations : q.sources ≠ [] := by
    obtain ⟨first, rest, hfirst, -⟩ := h.roles
    rw [Query.sources, hfirst]
    exact List.cons_ne_nil _ _
  have houtline :
      Draft.outline ⟨some q.selectTokens, q.sources, printedGroups q⟩ = .ok q₀ := by
    refine outline_eq_ok.2 ⟨q.selectTokens, q₁, rfl, hrelations, hsame ▸ hsources, ?_⟩
    refine addItems_selectTokens h hne houtputs hprojection₁ hwildcard₁ ?_ ?_ ?_
    · rw [hq, projection_foldl_addCondition]
    · rw [hq, wildcard_foldl_addCondition]
    · exact (haliases₁.trans haliases).symm
  obtain ⟨chains, hchains, hflatten⟩ :=
    mapM_printedGroups h.first fun c hc => h.readsBack haliases hc
  refine parse_eq_ok.2 ⟨q.tokens, _, q₀, chains, h.tokenize_toText, ?_, houtline,
    hchains, ?_⟩
  · rw [h.dropSemicolons_tokens]
    exact draft_tokens h hletter
  · rw [hflatten, hterms]
    exact hq

/-- A full join, an output name, an `or`, a literal with quotes in it and
a negative decimal are read back. -/
theorem parse_toText_towns :
    ∃ q, build [⟨.leading, "people", "p"⟩, ⟨.full, "towns", "t"⟩]
        (some [⟨"p", "name", none⟩, ⟨"t", "name", some "town"⟩])
        [⟨.and, ⟨"p", "town"⟩, .equal, .column ⟨"t", "id"⟩⟩,
          ⟨.or, ⟨"p", "name"⟩, .different, .text "O'Hara's"⟩,
          ⟨.and, ⟨"t", "lowest"⟩, .equal, .number "-1.50"⟩] = .ok q
      ∧ q.toText = "select p.name, t.name as town from people p full join towns t " ++
          "where p.town = t.id or p.name != 'O''Hara''s' and t.lowest = -1.50"
      ∧ q.Printable ∧ Query.parse q.toText = .ok q := by
  let q : Query := {
    projection := [⟨"p", "name", none, .text⟩, ⟨"t", "name", some "town", .text⟩]
    relations := [.knowing .leading "people" "p" ["name", "town"],
      .knowing .full "towns" "t" ["name", "id", "lowest"]]
    conditions := [⟨.and, ⟨"p", "town"⟩, .equal, .column ⟨"t", "id"⟩⟩,
      ⟨.or, ⟨"p", "name"⟩, .different, .text "O'Hara's"⟩,
      ⟨.and, ⟨"t", "lowest"⟩, .equal, .number "-1.50"⟩]
    wildcard := false }
  have hbuilt : build [⟨.leading, "people", "p"⟩, ⟨.full, "towns", "t"⟩]
      (some [⟨"p", "name", none⟩, ⟨"t", "name", some "town"⟩]) q.conditions = .ok q :=
    eq_ok_of_toOption (by decide +kernel)
  have hdecimal : IsDecimal "-1.50" := by
    have hdigits : ∀ c ∈ ['1'], isDigit c = true := List.forall_mem_singleton.2 rfl
    have hplaces : ∀ c ∈ ['5', '0'], isDigit c = true :=
      List.forall_mem_cons.2 ⟨rfl, List.forall_mem_singleton.2 rfl⟩
    have hunsigned :=
      IsUnsigned.point (List.cons_ne_nil _ _) hdigits (List.cons_ne_nil _ _) hplaces
    exact .inr ⟨_, rfl, hunsigned⟩
  have hprintable : q.Printable := by
    refine ⟨⟨_, _, rfl, rfl, by decide⟩, by decide, ?_, by decide, ?_, ?_⟩
    · intro c hc name hname
      rcases List.mem_pair.1 hc with rfl | rfl
      · cases hname
      · cases hname
        decide
    · intro c hc
      rw [← Option.some.inj hc]
    · intro c hc n hn
      rcases List.mem_cons.1 hc with rfl | hc
      · cases hn
      · rcases List.mem_pair.1 hc with rfl | rfl
        · cases hn
        · cases hn
          exact hdecimal
  exact ⟨q, hbuilt, by decide +kernel, hprintable,
    parse_toText hbuilt (by decide) hprintable (by decide +kernel)⟩

/-- An underscore is no name for a relation, although it is an identifier
and no keyword: a statement's relation must have a letter or digit. -/
theorem underscore_not_read :
    ∃ q, build [⟨.leading, "_", "a"⟩] none [] = .ok q ∧ q.toText = "select * from _ a"
      ∧ q.Printable ∧ Query.parse q.toText ≠ .ok q := by
  refine ⟨⟨[], [.knowing .leading "_" "a" []], [], true⟩,
    eq_ok_of_toOption (by decide +kernel), by decide +kernel, ?_, ?_⟩
  · exact ⟨⟨_, _, rfl, rfl, nofun⟩, by decide, nofun, nofun, nofun, nofun⟩
  · intro hparse
    have hrefused : (Query.parse "select * from _ a").toOption = none := by decide +kernel
    have htext : toText ⟨[], [.knowing .leading "_" "a" []], [], true⟩
        = "select * from _ a" := by
      decide +kernel
    rw [← htext, hparse] at hrefused
    cases hrefused

end Query

end FlatQuery
