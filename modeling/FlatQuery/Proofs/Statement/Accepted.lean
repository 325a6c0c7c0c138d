/-
What reading a statement promises of its query, beyond the invariant of
the query model: there are relations, each under an alias that is
lowercase and not empty, every reference stands under one of these
aliases, and every number is a numeral. With several relations a
reference was written with its alias, so both its parts are lowercase
and without points; with one relation it may also have been written
bare, and then the alias is whatever the relation is called.
-/
import FlatQuery.Proofs.Statement.Stages
import FlatQuery.Proofs.Text.Lowercase
import FlatQuery.Proofs.Token.Numeral

namespace FlatQuery

open Text Token Result

-- ============================================================= trimming

namespace Text

/-- No blank is a letter or number. -/
theorem isAlphanumeric_eq_false_of_isBlank {c : Char} (h : isBlank c = true) :
    isAlphanumeric c = false := by
  -- closed: every entry of the table of blanks
  have htable : ∀ range ∈ blankRanges, ∀ i ≤ range.2 - range.1,
      isAlphanumeric (Char.ofNat (range.1 + i)) = false := by
    decide +kernel
  obtain ⟨range, hrange, hc⟩ := List.any_eq_true.1 h
  simp only [Bool.and_eq_true, decide_eq_true_eq] at hc
  have := htable range hrange (c.toNat - range.1) (by omega)
  rwa [show range.1 + (c.toNat - range.1) = c.toNat by omega, Char.ofNat_toNat] at this

private theorem mem_dropWhile {p : Char → Bool} {c : Char} {cs : List Char} (hc : c ∈ cs)
    (hp : p c = false) : c ∈ cs.dropWhile p := by
  rw [← List.takeWhile_append_dropWhile (p := p) (l := cs), List.mem_append] at hc
  rcases hc with hc | hc
  · rw [List.all_eq_true.1 List.all_takeWhile c hc] at hp
    cases hp
  · exact hc

/-- Trimming keeps what is not blank. -/
theorem mem_trim {c : Char} {s : String} (hc : c ∈ s.toList)
    (hblank : isBlank c = false) :
    c ∈ (trim s).toList := by
  unfold trim trimEnd trimStart
  rw [String.toList_ofList, List.mem_reverse]
  exact mem_dropWhile (List.mem_reverse.2 (mem_dropWhile hc hblank)) hblank

end Text

-- =========================================================== references

/-- A reference with both its parts, which are lowercase and free of
points. -/
structure ColumnRef.Plain (ref : ColumnRef) : Prop where
  relation_ne : ref.relation ≠ ""
  column_ne : ref.column ≠ ""
  relation_point : '.' ∉ ref.relation.toList
  column_point : '.' ∉ ref.column.toList
  relation_small : ∀ c ∈ ref.relation.toList, IsSmall c
  column_small : ∀ c ∈ ref.column.toList, IsSmall c

/-- A reference is read off the text around its only point. -/
theorem ColumnRef.parse?_eq_some {text : String} {ref : ColumnRef}
    (h : ColumnRef.parse? text = some ref) :
    text.toList = ref.relation.toList ++ '.' :: ref.column.toList
      ∧ ref.relation ≠ "" ∧ ref.column ≠ ""
      ∧ '.' ∉ ref.relation.toList ∧ '.' ∉ ref.column.toList := by
  unfold ColumnRef.parse? at h
  dsimp only at h
  cases hdrop : text.toList.dropWhile (· ≠ '.') with
  | nil =>
      rw [hdrop] at h
      cases h
  | cons point column =>
      rw [hdrop] at h
      dsimp only at h
      split at h
      · cases h
      · next hparts =>
        simp only [Bool.or_eq_true, not_or, List.isEmpty_iff,
          List.contains_iff_mem] at hparts
        obtain ⟨⟨hrelation, hcolumn⟩, hpoint⟩ := hparts
        obtain rfl := Option.some.inj h
        -- what ends the span of other characters is a point
        have hhead : point = '.' := by
          have := List.head?_dropWhile_not (fun c => decide (c ≠ '.')) text.toList
          rw [hdrop] at this
          simpa using this
        have hsplit := List.takeWhile_append_dropWhile (p := (· ≠ '.')) (l := text.toList)
        rw [hdrop, hhead] at hsplit
        refine ⟨?_, ?_, ?_, ?_, ?_⟩
        · rw [String.toList_ofList, String.toList_ofList, hsplit]
        · rw [Ne, ← String.toList_eq_nil_iff, String.toList_ofList]
          exact hrelation
        · rw [Ne, ← String.toList_eq_nil_iff, String.toList_ofList]
          exact hcolumn
        · rw [String.toList_ofList]
          intro hmem
          simpa using List.all_eq_true.1 List.all_takeWhile '.' hmem
        · rw [String.toList_ofList]
          exact hpoint

/-- Two parts around the only point of a text are read off it. -/
theorem ColumnRef.parse?_of_parts {text : String} {ref : ColumnRef}
    (htext : text.toList = ref.relation.toList ++ '.' :: ref.column.toList)
    (hrelation : ref.relation ≠ "") (hcolumn : ref.column ≠ "")
    (hpoint : '.' ∉ ref.relation.toList) (hpoint' : '.' ∉ ref.column.toList) :
    ColumnRef.parse? text = some ref := by
  -- the span up to the first point is the relation, since none stands in it
  have hfront : ∀ c ∈ ref.relation.toList, decide (c ≠ '.') = true := by
    intro c hc
    refine decide_eq_true ?_
    rintro rfl
    exact hpoint hc
  have hback : ∀ c, ('.' :: ref.column.toList).head? = some c → decide (c ≠ '.') = false := by
    intro c hc
    rw [← Option.some.inj hc]
    rfl
  obtain ⟨htake, hdrop⟩ := span_append ('.' :: ref.column.toList) hfront hback
  unfold ColumnRef.parse?
  rw [htext, htake, hdrop]
  dsimp only
  rw [if_neg, String.ofList_toList, String.ofList_toList]
  simp only [Bool.or_eq_true, not_or, List.isEmpty_iff, String.toList_eq_nil_iff,
    List.contains_iff_mem]
  exact ⟨⟨hrelation, hcolumn⟩, hpoint'⟩

namespace Statement

/-- Where one text has a single point, two texts cut at a point agree
before it. -/
theorem eq_of_append_point {a b c u : List Char} (ha : '.' ∉ a) (hc : '.' ∉ c)
    (h : b ++ '.' :: u = a ++ '.' :: c) : b = a := by
  induction a generalizing b with
  | nil =>
      cases b with
      | nil => rfl
      | cons x b =>
          obtain ⟨-, rfl⟩ := List.cons.inj h
          exact absurd (List.mem_append_right b (List.mem_cons_self ..)) hc
  | cons y a ih =>
      obtain ⟨hy, hrest⟩ := List.ne_and_not_mem_of_not_mem_cons ha
      cases b with
      | nil => exact absurd (List.cons.inj h).1 hy
      | cons x b =>
          obtain ⟨hhead, htail⟩ := List.cons.inj h
          rw [hhead, ih hrest htail]

/-- What a resolved name is. -/
structure Resolved (aliases : List String) (ref : ColumnRef) : Prop where
  relation : ref.relation ∈ aliases
  column : ref.column ≠ ""
  plain : aliases = [ref.relation] ∨ ref.Plain

/-- The empty text is no identifier. -/
theorem isIdentifier_ne_empty {token : String}
    (h : isIdentifier token = true) : token ≠ "" := by
  rintro rfl
  cases h

/-- A token resolves to a relation of the query, and to a plain reference
unless there is only one relation. -/
theorem resolved_of_resolve {q : Query} {token : String} {ref : ColumnRef}
    (h : resolve q token = .ok ref) : Resolved q.aliases ref := by
  rw [resolve_eq] at h
  split at h
  · cases h
  split at h
  · cases hparse : ColumnRef.parse? (lowercase token) with
    | none =>
        rw [hparse] at h
        cases h
    | some ref' =>
        rw [hparse] at h
        dsimp only at h
        split at h
        · next hmem =>
          obtain rfl := Except.ok.inj h
          obtain ⟨htext, hrelation, hcolumn, hpoint, hpoint'⟩ :=
            ColumnRef.parse?_eq_some hparse
          have hsmall : ∀ c ∈ ref'.relation.toList ++ '.' :: ref'.column.toList,
            IsSmall c :=
            htext ▸ isSmall_of_mem_lowercase
          refine ⟨hmem, hcolumn, .inr ⟨hrelation, hcolumn, hpoint, hpoint', ?_, ?_⟩⟩
          · exact fun c hc => hsmall c (List.mem_append_left _ hc)
          · exact fun c hc => hsmall c (List.mem_append_right _ (List.mem_cons_of_mem _ hc))
        · cases h
  · split at h
    · cases h
    · next hidentifier =>
      have hcolumn := isIdentifier_ne_empty (by simpa using hidentifier)
      split at h
      -- a bare name is the one relation's
      · next only halias =>
        obtain rfl := Except.ok.inj h
        exact ⟨by rw [halias]; simp, hcolumn, .inl halias⟩
      · cases h

-- ============================================================ relations

/-- What is left of a lowercase name without its extension is lowercase. -/
theorem isSmall_of_mem_dropExtension {cs : List Char} (h : ∀ c ∈ cs, IsSmall c) :
    ∀ c ∈ dropExtension cs, IsSmall c := by
  unfold dropExtension
  split
  · exact fun c hc => h c (List.mem_of_mem_take hc)
  · exact h

/-- A name is more than its extension. -/
theorem dropExtension_ne_nil {cs : List Char} (h : cs ≠ []) : dropExtension cs ≠ [] := by
  unfold dropExtension
  split
  · next hlength =>
    simp only [Bool.and_eq_true, decide_eq_true_eq] at hlength
    rw [← List.length_pos_iff, List.length_take]
    omega
  · exact h

/-- A name that statements can refer to. -/
structure Named (name : String) : Prop where
  ne : name ≠ ""
  small : ∀ c ∈ name.toList, IsSmall c

/-- A text that is not empty has a lowercase form to refer to. -/
theorem named_lowercase {s : String} (h : s ≠ "") : Named (lowercase s) :=
  ⟨lowercase_ne_empty h, isSmall_of_mem_lowercase⟩

/-- A token with a letter or digit names a relation: trimming leaves that
character, and dropping an extension leaves the name before it. -/
theorem named_relationName {token : String} (h : token.toList.any isAlphanumeric = true) :
    Named (relationName token) := by
  obtain ⟨c, hc, halphanumeric⟩ := List.any_eq_true.1 h
  -- the letter or digit survives trimming
  have hblank : isBlank c = false := by
    rw [← Bool.not_eq_true]
    intro hblank
    rw [isAlphanumeric_eq_false_of_isBlank hblank] at halphanumeric
    cases halphanumeric
  have htrim : trim token ≠ "" := by
    intro hempty
    have := mem_trim hc hblank
    rw [hempty] at this
    cases this
  constructor
  · rw [Ne, ← String.toList_eq_nil_iff, relationName, String.toList_ofList]
    refine dropExtension_ne_nil fun hnil => ?_
    exact lowercase_ne_empty htrim (String.toList_eq_nil_iff.1 hnil)
  · rw [relationName, String.toList_ofList]
    exact isSmall_of_mem_dropExtension isSmall_of_mem_lowercase

/-- A relation that is read has a name and an alias. -/
theorem named_of_source {role : Role} {clause body : List String} {s : Source}
    (h : source role clause body = .ok s) : Named s.name ∧ Named s.aliasName := by
  obtain ⟨⟨token, aliasName⟩, -, h⟩ := bind_eq_ok.1 h
  dsimp only at h
  split at h
  · cases h
  · next htoken =>
    rw [Bool.or_eq_true, not_or, Bool.not_eq_true', Bool.not_eq_false] at htoken
    have hname := named_relationName htoken.2
    cases aliasName with
    | none =>
        obtain rfl := Except.ok.inj h
        exact ⟨hname, hname⟩
    | some aliasName =>
        dsimp only at h
        split at h
        · next hidentifier =>
          obtain rfl := Except.ok.inj h
          exact ⟨hname, named_lowercase (isIdentifier_ne_empty hidentifier)⟩
        · cases h

-- ============================================================== clauses

/-- A clause adds no relation, or one that it reads. -/
theorem sources_add {d d' : Draft} {part : Grammar.Part} (h : d.add part = .ok d') :
    d'.sources = d.sources
      ∨ ∃ role clause body s, source role clause body = .ok s
          ∧ d'.sources = d.sources ++ [s] := by
  unfold Draft.add at h
  dsimp only at h
  split at h
  · split at h
    · obtain rfl := Except.ok.inj h
      exact .inl rfl
    · cases h
  · split at h
    · next hempty =>
      obtain ⟨s, hs, h⟩ := bind_eq_ok.1 h
      obtain rfl := Except.ok.inj h
      simp only [Bool.and_eq_true, List.isEmpty_iff] at hempty
      exact .inr ⟨_, _, _, s, hs, by rw [hempty.2]; rfl⟩
    · cases h
  · split at h
    · cases h
    · obtain ⟨s, hs, h⟩ := bind_eq_ok.1 h
      refine .inr ⟨_, _, _, s, hs, ?_⟩
      split at h
      · obtain rfl := Except.ok.inj h
        rfl
      · obtain ⟨groups, -, h⟩ := bind_eq_ok.1 h
        obtain rfl := Except.ok.inj h
        rfl
  · split at h
    · cases h
    · obtain ⟨terms, -, h⟩ := bind_eq_ok.1 h
      obtain rfl := Except.ok.inj h
      exact .inl rfl
  · cases h

/-- Every relation of a draft has a name and an alias. -/
theorem named_of_mem_sources {tokens : List String} {d : Draft}
    (h : draft tokens = .ok d) :
    ∀ s ∈ d.sources, Named s.name ∧ Named s.aliasName := by
  obtain ⟨d', hparts, hend⟩ := bind_eq_ok.1 h
  have hsources : ∀ s ∈ d'.sources, Named s.name ∧ Named s.aliasName := by
    refine foldlM_induction (fun d => ∀ s ∈ d.sources, Named s.name ∧ Named s.aliasName)
      hparts (fun s hs => absurd hs List.not_mem_nil) ?_
    intro part _ b b' hb hstep
    rcases sources_add hstep with hsame | ⟨role, clause, body, s, hs, hsame⟩
    · rw [hsame]
      exact hb
    · rw [hsame, List.forall_mem_append]
      exact ⟨hb, List.forall_mem_singleton.2 (named_of_source hs)⟩
  cases hfailure : (Grammar.carve tokens).2 with
  | some e =>
      rw [hfailure] at hend
      cases hend
  | none =>
      rw [hfailure] at hend
      obtain rfl := Except.ok.inj hend
      exact hsources

-- =========================================================== conditions

/-- A term whose columns are resolved and whose number is a numeral. -/
structure Meaningful (aliases : List String) (c : Condition) : Prop where
  resolved : ∀ ref ∈ c.references, Resolved aliases ref
  numeral : ∀ n, c.right = .number n → (number? n).isSome = true

/-- A term is meaningful if its sides were read: the right one is a literal, a
numeral or a resolved column. -/
theorem meaningful_of_operand {q : Query} {token : String} {right : Operand}
    (h : operand q token = .ok right) {left : ColumnRef} (hleft : Resolved q.aliases left)
    (connective : Connective) (comparator : Comparator) :
    Meaningful q.aliases ⟨connective, left, comparator, right⟩ := by
  unfold operand at h
  split at h
  · obtain rfl := Except.ok.inj h
    exact ⟨by simpa [Condition.references] using hleft, nofun⟩
  · split at h
    · next hnumber =>
      obtain rfl := Except.ok.inj h
      refine ⟨by simpa [Condition.references] using hleft, ?_⟩
      intro n hn
      cases hn
      exact number?_isSome_of_isNumber hnumber
    · obtain ⟨ref, href, rfl⟩ := map_eq_ok.1 h
      have hright := resolved_of_resolve href
      refine ⟨?_, nofun⟩
      intro ref' href'
      rcases List.mem_cons.1 href' with rfl | href'
      · exact hleft
      · rw [List.mem_singleton.1 href']
        exact hright

/-- Every term that is read is meaningful, by the recursion of the reader. -/
theorem meaningful_of_conditions {q : Query} {first : Connective} {tokens : List String}
    {terms : List Condition} (h : conditions q first tokens = .ok terms) :
    ∀ c ∈ terms, Meaningful q.aliases c := by
  fun_induction conditions q first tokens generalizing terms with
  | case1 first left operator right =>
      obtain ⟨comparator, -, h⟩ := bind_eq_ok.1 h
      obtain ⟨ref, href, h⟩ := bind_eq_ok.1 h
      obtain ⟨side, hside, h⟩ := bind_eq_ok.1 h
      obtain rfl := Except.ok.inj h
      intro c hc
      rw [List.mem_singleton.1 hc]
      exact meaningful_of_operand hside (resolved_of_resolve href) first comparator
  | case2 first left operator right word rest ih =>
      obtain ⟨comparator, -, h⟩ := bind_eq_ok.1 h
      obtain ⟨ref, href, h⟩ := bind_eq_ok.1 h
      obtain ⟨side, hside, h⟩ := bind_eq_ok.1 h
      obtain ⟨next, -, h⟩ := bind_eq_ok.1 h
      obtain ⟨following, hfollowing, h⟩ := bind_eq_ok.1 h
      obtain rfl := Except.ok.inj h
      intro c hc
      rcases List.mem_cons.1 hc with rfl | hc
      · exact meaningful_of_operand hside (resolved_of_resolve href) first comparator
      · exact ih _ hfollowing c hc
  | case3 => cases h
  | case4 => cases h

-- ============================================================== queries

/-- What holds of the query of every accepted statement. -/
structure Accepted (q : Query) : Prop where
  coherent : q.Coherent
  relations_ne : q.relations ≠ []
  named : ∀ a ∈ q.aliases, Named a
  projection : ∀ c ∈ q.projection, Resolved q.aliases ⟨c.relation, c.name⟩
  conditions : ∀ c ∈ q.conditions, Meaningful q.aliases c

/-- The relations of a statement keep their order and their aliases. -/
theorem foldlM_addSource {sources : List Source} {q q' : Query}
    (h : sources.foldlM addSource q = .ok q') (hq : q.Coherent) :
    q'.Coherent ∧ q'.aliases = q.aliases ++ sources.map (·.aliasName)
      ∧ q'.projection = q.projection := by
  induction sources generalizing q with
  | nil =>
      obtain rfl := Except.ok.inj h
      exact ⟨hq, (List.append_nil _).symm, rfl⟩
  | cons s sources ih =>
      obtain ⟨q₁, hadd, hrest⟩ := foldlM_cons_eq_ok.1 h
      obtain ⟨hcoherent, haliases, hprojection⟩ := ih hrest (hq.addRelationWithRole hadd)
      refine ⟨hcoherent, ?_, ?_⟩
      · rw [haliases, Query.aliases_addRelationWithRole hadd, List.append_assoc]
        rfl
      · obtain ⟨-, rfl⟩ := Query.addRelationWithRole_eq_ok.1 hadd
        exact hprojection

/-- The select list adds resolved columns and no relation. -/
theorem foldlM_addItem {list : List Item} {q q' : Query}
    (h : list.foldlM addItem q = .ok q')
    (hq : q.Coherent)
    (hprojection : ∀ c ∈ q.projection, Resolved q.aliases ⟨c.relation, c.name⟩) :
    q'.Coherent ∧ q'.aliases = q.aliases
      ∧ ∀ c ∈ q'.projection, Resolved q.aliases ⟨c.relation, c.name⟩ := by
  refine foldlM_induction (fun b => b.Coherent ∧ b.aliases = q.aliases
    ∧ ∀ c ∈ b.projection, Resolved q.aliases ⟨c.relation, c.name⟩) h ⟨hq, rfl, hprojection⟩ ?_
  rintro i - b b' ⟨hcoherent, haliases, hresolved⟩ hstep
  obtain ⟨ref, href, hadd⟩ := addItem_eq_ok.1 hstep
  refine ⟨hcoherent.addProjection hadd,
    (Query.aliases_addProjection hadd).trans haliases, ?_⟩
  obtain ⟨-, rfl⟩ := Query.addProjection_eq_ok.1 hadd
  refine List.forall_mem_append.2 ⟨hresolved, List.forall_mem_singleton.2 ?_⟩
  exact haliases ▸ resolved_of_resolve href

/-- Reading accepts no other queries: each stage adds what `Accepted` says of
it. -/
theorem accepted_of_parse {text : String} {q : Query} (h : Query.parse text = .ok q) :
    Accepted q := by
  obtain ⟨tokens, d, q₀, chains, -, hdraft, houtline, hchains, rfl⟩ := parse_eq_ok.1 h
  obtain ⟨projection, q₁, -, hne, hsources, hitems⟩ := outline_eq_ok.1 houtline
  obtain ⟨hcoherent₁, haliases₁, hprojection₁⟩ :=
    foldlM_addSource hsources Query.coherent_empty
  obtain ⟨hcoherent, haliases, hprojection⟩ : q₀.Coherent ∧ q₀.aliases = q₁.aliases
      ∧ ∀ c ∈ q₀.projection, Resolved q₁.aliases ⟨c.relation, c.name⟩ := by
    have hnone : ∀ c ∈ q₁.projection, Resolved q₁.aliases ⟨c.relation, c.name⟩ := by
      rw [hprojection₁]
      exact fun c hc => absurd hc List.not_mem_nil
    rcases addItems_eq_ok.1 hitems with ⟨-, rfl⟩ | ⟨list, -, hlist⟩
    · exact ⟨hcoherent₁.setWildcard, rfl, hnone⟩
    · exact foldlM_addItem hlist hcoherent₁ hnone
  have hall : q₀.aliases = d.sources.map (·.aliasName) := haliases.trans haliases₁
  have hend := Query.aliases_foldl_addCondition chains.flatten q₀
  have hconditions := Query.conditions_foldl_addCondition chains.flatten q₀
  refine ⟨hcoherent.foldl_addCondition _, ?_, ?_, ?_, ?_⟩
  · intro hnil
    rw [Query.aliases, hnil, hall, List.map_nil, eq_comm, List.map_eq_nil_iff] at hend
    exact hne hend
  · rw [hend, hall]
    intro a ha
    obtain ⟨s, hs, rfl⟩ := List.mem_map.1 ha
    exact (named_of_mem_sources hdraft s hs).2
  · rw [hend, Query.projection_foldl_addCondition, haliases]
    exact hprojection
  · rw [hend, hconditions, conditions_outline houtline, List.nil_append]
    intro c hc
    obtain ⟨terms, hterms, hc⟩ := List.mem_flatten.1 hc
    obtain ⟨list, -, hlist⟩ := exists_of_mem_mapM hchains terms hterms
    exact meaningful_of_conditions hlist c hc

namespace Accepted

variable {q : Query} (h : Accepted q)
include h

/-- Every column that the query refers to is resolved. -/
theorem resolved : ∀ ref ∈ q.references, Resolved q.aliases ref := by
  intro ref href
  rcases List.mem_append.1 href with href | href
  · obtain ⟨c, hc, rfl⟩ := List.mem_map.1 href
    exact h.projection c hc
  · obtain ⟨c, hc, href⟩ := List.mem_flatMap.1 href
    exact (h.conditions c hc).resolved ref href

/-- No term of an accepted statement is refused before its rows are
read. -/
theorem validate_eq_ok : q.predicate.validate = .ok () := by
  refine forM_eq_ok fun c hc => ?_
  have hmeaningful := h.conditions c hc
  have hcomplete : c.references.all ColumnRef.isComplete = true := by
    rw [List.all_eq_true]
    intro ref href
    obtain ⟨hrelation, hcolumn, -⟩ := hmeaningful.resolved ref href
    simpa [ColumnRef.isComplete, hcolumn] using (h.named _ hrelation).ne
  unfold Condition.validate
  rw [hcomplete]
  cases hright : c.right with
  | number n =>
      have hnumber := hmeaningful.numeral n hright
      rw [Option.isSome_iff_ne_none] at hnumber
      simp [hnumber]
  | text value => rfl
  | column ref => rfl

end Accepted

end Statement

end FlatQuery
