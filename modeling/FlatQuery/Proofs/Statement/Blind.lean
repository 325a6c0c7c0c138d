/-
Reading is blind to what a literal says. If a statement with a literal
in it is accepted, so it is with any other in the same place, and the
two queries differ in one condition only, which has the literal on its
right side (`parse_blind_to_literal`). Nothing that is written in a
literal can become a name, a keyword or a condition of its own.

The literal is followed through the stages of reading. It cannot be in
the select list, or the list would not be read; it cannot be in a
relation either. So it is in a list of conditions (`draft_slot`), and
there it is the right side of a term (`conditions_slot`).
-/
import FlatQuery.Proofs.Statement.Redraft
import FlatQuery.Proofs.Statement.Slot

namespace FlatQuery

open Text Token Result Statement

namespace Statement

-- ============================================================ refusals

/-- A relation that is read has no literal in it. -/
theorem not_mem_of_source {role : Role} {clause body : List String} {s : Source}
    (h : source role clause body = .ok s) {token : String} (htoken : Quoted token) :
    token ∉ body := by
  obtain ⟨⟨name, aliasName⟩, hsplit, h⟩ := bind_eq_ok.1 h
  dsimp only at h
  have hname : token ≠ name := by
    rintro rfl
    rw [htoken.literal] at h
    cases h
  have halias : aliasName ≠ some token := by
    rintro rfl
    dsimp only at h
    rw [htoken.isIdentifier_eq_false] at h
    split at h
    · cases h
    · cases h
  revert hsplit
  fun_cases splitAlias clause body with
  | case1 =>
      intro hsplit
      cases hsplit
      rw [List.mem_singleton]
      exact hname
  | case2 =>
      intro hsplit
      cases hsplit
      rw [List.mem_pair]
      rintro (rfl | rfl)
      · exact hname rfl
      · exact halias rfl
  | case3 name keyword aliasName has =>
      intro hsplit
      cases hsplit
      intro hmem
      rcases List.mem_cons.1 hmem with rfl | hmem
      · exact hname rfl
      rcases List.mem_pair.1 hmem with rfl | rfl
      · rw [htoken.inert "as" (by decide)] at has
        cases has
      · exact halias rfl
  | case4 => nofun
  | case5 => nofun
  | case6 => nofun

/-- What a clause is blamed on does not matter to a relation that is
read. -/
theorem source_of_source {role : Role} {clause body : List String} {s : Source}
    (h : source role clause body = .ok s) (clause' : List String) :
    source role clause' body = .ok s := by
  obtain ⟨parts, hsplit, h⟩ := bind_eq_ok.1 h
  refine bind_eq_ok.2 ⟨parts, ?_, h⟩
  revert hsplit
  fun_cases splitAlias clause body with
  | case1 => exact id
  | case2 => exact id
  | case3 name keyword aliasName has =>
      intro hsplit
      unfold splitAlias
      rw [if_pos has]
      exact hsplit
  | case4 => nofun
  | case5 => nofun
  | case6 => nofun

/-- No item of a select list is a literal. -/
theorem not_mem_of_item {tokens : List String} {i : Item} (h : item tokens = .ok i)
    {q : Query} {ref : ColumnRef} (hresolve : resolve q i.column = .ok ref)
    {token : String} (htoken : Quoted token) : token ∉ tokens := by
  have hcolumn : token ≠ i.column := by
    rintro rfl
    exact htoken.resolve_ne_ok hresolve
  revert h
  fun_cases item tokens with
  | case1 => nofun
  | case2 => nofun
  | case3 column =>
      intro h
      cases h
      rw [List.mem_singleton]
      exact hcolumn
  | case4 column keyword aliasName has =>
      intro h
      cases h
      rw [Bool.and_eq_true] at has
      intro hmem
      rcases List.mem_cons.1 hmem with rfl | hmem
      · exact hcolumn rfl
      rcases List.mem_pair.1 hmem with rfl | rfl
      · rw [htoken.inert "as" (by decide)] at has
        cases has.1
      · rw [htoken.isIdentifier_eq_false] at has
        cases has.2
  | case5 => nofun
  | case6 => nofun

/-- A select list that is read has no literal in it. -/
theorem not_mem_of_addItems {q q' : Query} {projection : List String}
    (h : addItems q projection = .ok q') {token : String} (htoken : Quoted token) :
    token ∉ projection := by
  rcases addItems_eq_ok.1 h with ⟨hitems, -⟩ | ⟨list, hitems, hadd⟩
  · unfold items at hitems
    split at hitems
    · next hstar =>
      rw [hstar, List.mem_singleton]
      exact htoken.ne_of_head? (by decide)
    split at hitems
    · cases hitems
    · obtain ⟨list, -, hlist⟩ := bind_eq_ok.1 hitems
      cases hlist
  · unfold items at hitems
    split at hitems
    · cases hitems
    split at hitems
    · cases hitems
    · obtain ⟨list', hlist, heq⟩ := bind_eq_ok.1 hitems
      cases heq
      intro hmem
      have hpieces : [","].intercalate (projection.splitOn ",") = projection :=
        List.intercalate_splitOn ","
      rw [← hpieces] at hmem
      rcases mem_intercalate hmem with hcomma | ⟨tokens, htokens, hmem⟩
      · exact htoken.ne_of_head? (by decide) hcomma
      · obtain ⟨i, hi, hitem⟩ := exists_result_of_mapM hlist tokens htokens
        obtain ⟨b, b', hstep⟩ := exists_step_of_foldlM hadd i hi
        obtain ⟨ref, href, -⟩ := addItem_eq_ok.1 hstep
        exact not_mem_of_item hitem href htoken hmem

-- ============================================================= clauses

/-- A part of a clause is taken as it is, and refused if it is empty. -/
theorem nonEmpty_eq_ok {keyword : String} {tokens found : List String} :
    nonEmpty keyword tokens = .ok found ↔ tokens ≠ [] ∧ found = tokens := by
  cases tokens with
  | nil => exact ⟨nofun, fun h => absurd rfl h.1⟩
  | cons t tokens =>
      exact ⟨fun h => ⟨nofun, (Except.ok.inj h).symm⟩, fun h => congrArg Except.ok h.2.symm⟩

/-- What reading a clause does to a draft: it is the select list, a
relation, a relation with its conditions, or conditions only. -/
inductive Added (d : Draft) (part : Grammar.Part) : Draft → Prop
  | projection (kind : part.kind = .projection) (first : d.projection = none) :
      Added d part { d with projection := some part.body }
  | leading (s : Source) (kind : part.kind = .leading) (behind : d.projection.isSome = true)
      (first : d.sources = [])
      (relation : source .leading part.tokens part.body = .ok s) :
      Added d part { d with sources := [s] }
  | join (role : Role) (s : Source) (kind : part.kind = .join role) (behind : d.sources ≠ [])
      (relation : source role part.tokens (splitOn part.body).1 = .ok s)
      (conditions : (splitOn part.body).2 ≠ some []) :
      Added d part { d with
        sources := d.sources ++ [s]
        groups := d.groups ++ (splitOn part.body).2.toList }
  | filter (kind : part.kind = .filter) (behind : d.sources ≠ [])
      (conditions : part.body ≠ []) :
      Added d part { d with groups := d.groups ++ [part.body] }

/-- What a clause adds is told by its kind. -/
theorem added_of_add {d d' : Draft} {part : Grammar.Part} (h : d.add part = .ok d') :
    Added d part d' := by
  obtain ⟨kind, keyword, tokens, body⟩ := part
  unfold Draft.add at h
  dsimp only at h
  cases kind with
  | projection =>
      dsimp only at h
      split at h
      · next hfirst =>
        obtain rfl := Except.ok.inj h
        exact .projection rfl (Option.isNone_iff_eq_none.1 hfirst)
      · cases h
  | leading =>
      dsimp only at h
      split at h
      · next hfirst =>
        obtain ⟨s, hs, h⟩ := bind_eq_ok.1 h
        obtain rfl := Except.ok.inj h
        rw [Bool.and_eq_true, List.isEmpty_iff] at hfirst
        exact .leading s rfl hfirst.1 hfirst.2 hs
      · cases h
  | join role =>
      dsimp only at h
      split at h
      · cases h
      · next hsources =>
        obtain ⟨s, hs, h⟩ := bind_eq_ok.1 h
        have hjoin : (splitOn body).2 ≠ some [] →
            Added d ⟨.join role, keyword, tokens, body⟩ { d with
              sources := d.sources ++ [s]
              groups := d.groups ++ (splitOn body).2.toList } := fun hconditions =>
          .join role s rfl (mt List.isEmpty_iff.2 hsources) hs hconditions
        cases hsplit : (splitOn body).2 with
        | none =>
            rw [hsplit] at h hjoin
            obtain rfl := Except.ok.inj h
            exact hjoin nofun
        | some conditions =>
            rw [hsplit] at h hjoin
            obtain ⟨added, hadded, hd'⟩ := bind_eq_ok.1 h
            obtain ⟨found, hfound, rfl⟩ := map_eq_ok.1 hadded
            obtain ⟨hne, rfl⟩ := nonEmpty_eq_ok.1 hfound
            obtain rfl := Except.ok.inj hd'
            exact hjoin fun hnil => hne (Option.some.inj hnil)
  | filter =>
      dsimp only at h
      split at h
      · cases h
      · next hsources =>
        obtain ⟨found, hfound, h⟩ := bind_eq_ok.1 h
        obtain rfl := Except.ok.inj h
        obtain ⟨hne, rfl⟩ := nonEmpty_eq_ok.1 hfound
        exact .filter rfl (mt List.isEmpty_iff.2 hsources) hne
  | unsupported feature => cases h

/-- And a clause of that kind adds it. -/
theorem add_of_added {d d' : Draft} {part : Grammar.Part} (h : Added d part d') :
    d.add part = .ok d' := by
  obtain ⟨kind, keyword, tokens, body⟩ := part
  unfold Draft.add
  dsimp only
  cases h with
  | projection hkind hfirst =>
      cases hkind
      dsimp only
      rw [hfirst]
      rfl
  | leading s hkind hbehind hfirst hs =>
      cases hkind
      dsimp only at hs ⊢
      rw [hbehind, hfirst, hs]
      rfl
  | join role s hkind hbehind hs hconditions =>
      cases hkind
      dsimp only at hs hconditions ⊢
      rw [if_neg (mt List.isEmpty_iff.1 hbehind), hs, ok_bind]
      cases hsplit : (splitOn body).2 with
      | none => rfl
      | some tokens =>
          have hne : tokens ≠ [] := fun h => hconditions (by rw [hsplit, h])
          dsimp only
          rw [nonEmpty_eq_ok.2 ⟨hne, rfl⟩]
          rfl
  | filter hkind hbehind hconditions =>
      cases hkind
      dsimp only at hconditions ⊢
      rw [if_neg (mt List.isEmpty_iff.1 hbehind), nonEmpty_eq_ok.2 ⟨hconditions, rfl⟩]
      rfl

/-- A clause is added in one of the ways of `Added`, and in no other. -/
theorem add_eq_ok {d d' : Draft} {part : Grammar.Part} :
    d.add part = .ok d' ↔ Added d part d' :=
  ⟨added_of_add, add_of_added⟩

/-- Reading a clause adds to the conditions of a draft and does not look
at them. -/
theorem add_groups {d d' : Draft} {part : Grammar.Part} (h : d.add part = .ok d') :
    ∃ added, ∀ groups,
      Draft.add { d with groups := groups } part
        = .ok { d' with groups := groups ++ added } := by
  cases add_eq_ok.1 h with
  | projection hkind hfirst =>
      refine ⟨[], fun groups => ?_⟩
      rw [List.append_nil]
      exact add_eq_ok.2 (.projection hkind hfirst)
  | leading s hkind hbehind hfirst hs =>
      refine ⟨[], fun groups => ?_⟩
      rw [List.append_nil]
      exact add_eq_ok.2 (.leading s hkind hbehind hfirst hs)
  | join role s hkind hbehind hs hconditions =>
      exact ⟨_, fun groups => add_eq_ok.2 (.join role s hkind hbehind hs hconditions)⟩
  | filter hkind hbehind hconditions =>
      exact ⟨_, fun groups => add_eq_ok.2 (.filter hkind hbehind hconditions)⟩

/-- Clauses add their groups behind whatever groups are there already. -/
theorem foldlM_add_groups {parts : List Grammar.Part} {d d' : Draft}
    (h : parts.foldlM Draft.add d = .ok d') :
    ∃ added, ∀ groups,
      parts.foldlM Draft.add { d with groups := groups }
        = .ok { d' with groups := groups ++ added } := by
  induction parts generalizing d with
  | nil =>
      obtain rfl := Except.ok.inj h
      refine ⟨[], fun groups => ?_⟩
      rw [List.append_nil]
      rfl
  | cons part parts ih =>
      obtain ⟨d₁, hd₁, hrest⟩ := foldlM_cons_eq_ok.1 h
      obtain ⟨added, hadd⟩ := add_groups hd₁
      obtain ⟨more, hmore⟩ := ih hrest
      refine ⟨added ++ more, fun groups => ?_⟩
      rw [← List.append_assoc]
      exact foldlM_cons_eq_ok.2 ⟨_, hadd groups, hmore _⟩

/-- The select list stays once it is read. -/
theorem foldlM_add_projection {parts : List Grammar.Part} {d d' : Draft}
    (h : parts.foldlM Draft.add d = .ok d') {projection : List String}
    (hprojection : d.projection = some projection) : d'.projection = some projection := by
  refine foldlM_induction (·.projection = some projection) h hprojection ?_
  intro part _ d d' hd hadd
  cases add_eq_ok.1 hadd with
  | projection hkind hfirst =>
      rw [hfirst] at hd
      cases hd
  | leading => exact hd
  | join => exact hd
  | filter => exact hd

/-- A draft is made of the clauses carved off, added in order. -/
theorem draft_eq_ok {tokens : List String} {d : Draft} :
    draft tokens = .ok d
      ↔ ∃ parts, Grammar.carve tokens = (parts, none)
          ∧ parts.foldlM Draft.add ⟨none, [], []⟩ = .ok d := by
  unfold draft
  obtain ⟨parts, failure⟩ := Grammar.carve tokens
  dsimp only
  rw [bind_eq_ok]
  constructor
  · rintro ⟨d', hd', h⟩
    cases failure with
    | some e => cases h
    | none =>
        obtain rfl := Except.ok.inj h
        exact ⟨parts, rfl, hd'⟩
  · rintro ⟨_, hparts, h⟩
    cases hparts
    exact ⟨d, h, rfl⟩

-- ========================================================== conditions

/-- The terms behind the first. -/
def following (q : Query) : List String → Result (List Condition)
  | [] => .ok []
  | word :: rest => do conditions q (← connective word) rest

/-- A list of conditions is read as its first comparison and what
follows it. -/
theorem conditions_eq_ok {q : Query} {first : Connective} {left operator right : String}
    {tail : List String} {terms : List Condition} :
    conditions q first (left :: operator :: right :: tail) = .ok terms
      ↔ ∃ sign ref side rest, comparator operator = .ok sign ∧ resolve q left = .ok ref
          ∧ operand q right = .ok side ∧ following q tail = .ok rest
          ∧ terms = ⟨first, ref, sign, side⟩ :: rest := by
  cases tail with
  | nil =>
      unfold conditions
      simp only [bind_eq_ok, following]
      constructor
      · rintro ⟨sign, hsign, ref, href, side, hside, h⟩
        exact ⟨sign, ref, side, [], hsign, href, hside, rfl, (Except.ok.inj h).symm⟩
      · rintro ⟨sign, ref, side, rest, hsign, href, hside, hrest, rfl⟩
        obtain rfl := Except.ok.inj hrest
        exact ⟨sign, hsign, ref, href, side, hside, rfl⟩
  | cons word tail =>
      rw [conditions]
      simp only [bind_eq_ok, following]
      constructor
      · rintro ⟨sign, hsign, ref, href, side, hside, next, hnext, rest, hrest, h⟩
        exact ⟨sign, ref, side, rest, hsign, href, hside, ⟨next, hnext, hrest⟩,
          (Except.ok.inj h).symm⟩
      · rintro ⟨sign, ref, side, rest, hsign, href, hside, ⟨next, hnext, hrest⟩, rfl⟩
        exact ⟨sign, hsign, ref, href, side, hside, next, hnext, rest, hrest, rfl⟩

-- ==================================================== the literal's place

section Slot

variable {ι : Type} {mark : ι → String} (hmark : ∀ x, Quoted (mark x))
include hmark

/-- Of a join that is read, the literal is behind `on`. -/
theorem splitOn_slot {body behind : List String} {i : ι}
    (h : mark i ∉ (splitOn (body ++ mark i :: behind)).1) :
    ∃ relation conditions, ∀ x,
      splitOn (body ++ mark x :: behind) = (relation, some (conditions ++ mark x :: behind)) := by
  have hother : ∀ x, (!sameFolded (mark x) "on") = true := by
    intro x
    rw [(hmark x).inert "on" (by decide)]
    rfl
  cases hbody : body.dropWhile (!sameFolded · "on") with
  | nil =>
      have hall := List.dropWhile_eq_nil_iff.1 hbody
      refine absurd ?_ h
      unfold splitOn
      split
      · simp
      · rw [List.takeWhile_append_of_pos hall, List.takeWhile_cons, if_pos (hother i)]
        simp
  | cons on conditions =>
      have hdrop : ∀ x, (body ++ mark x :: behind).dropWhile (!sameFolded · "on")
          = on :: (conditions ++ mark x :: behind) := by
        intro x
        rw [List.dropWhile_append, hbody]
        rfl
      have hparts := congrArg List.length
        (List.takeWhile_append_dropWhile (p := (!sameFolded · "on")) (l := body))
      rw [hbody, List.length_append, List.length_cons] at hparts
      refine ⟨body.takeWhile (!sameFolded · "on"), conditions, fun x => ?_⟩
      unfold splitOn
      rw [hdrop, List.takeWhile_append, if_neg (by omega)]

/-- A clause with a literal in it is the select list, or the literal is
in a list of conditions. -/
theorem add_slot {part : ι → Grammar.Part} {kind : ClauseKind} {body behind : List String}
    (hpart : ∀ x, (part x).kind = kind ∧ (part x).body = body ++ mark x :: behind)
    {d d' : Draft} {i : ι} (h : d.add (part i) = .ok d') :
    d'.projection = some (body ++ mark i :: behind)
      ∨ ∃ sources front, ∀ x,
          d.add (part x)
            = .ok ⟨d.projection, sources, d.groups ++ [front ++ mark x :: behind]⟩ := by
  have hbody : ∀ x, (part x).body = body ++ mark x :: behind := fun x => (hpart x).2
  have hkind : ∀ x, (part x).kind = (part i).kind := fun x =>
    (hpart x).1.trans (hpart i).1.symm
  cases add_eq_ok.1 h with
  | projection => exact .inl (congrArg some (hbody i))
  | leading s _ _ _ hs =>
      refine absurd ?_ (not_mem_of_source hs (hmark i))
      rw [hbody]
      simp
  | join role s hjoin hbehind hs =>
      have hfree := not_mem_of_source hs (hmark i)
      rw [hbody] at hfree
      obtain ⟨relation, conditions, hsplit⟩ := splitOn_slot hmark hfree
      refine .inr ⟨d.sources ++ [s], conditions, fun x => ?_⟩
      have hx : splitOn (part x).body = (relation, some (conditions ++ mark x :: behind)) := by
        rw [hbody, hsplit]
      rw [hbody, hsplit] at hs
      have hadded : Added d (part x) _ := .join role s ((hkind x).trans hjoin) hbehind
        (by rw [hx]; exact source_of_source hs _) (by rw [hx]; simp)
      rw [hx] at hadded
      exact add_eq_ok.2 hadded
  | filter hfilter hbehind =>
      refine .inr ⟨d.sources, body, fun x => ?_⟩
      have hadded : Added d (part x) _ := .filter ((hkind x).trans hfilter) hbehind
        (by rw [hbody]; simp)
      rw [hbody] at hadded
      exact add_eq_ok.2 hadded

/-- The draft of a statement that has a query is the same whatever the
literal, but for one list of conditions that has the literal in it. -/
theorem draft_slot {front back : List String} {i : ι} {d : Draft} {q : Query}
    (h : draft (front ++ mark i :: back) = .ok d) (hq : d.outline = .ok q) :
    ∃ (before after : List (List String)) (conditions behind : List String), ∀ x,
      draft (front ++ mark x :: back)
        = .ok { d with groups := before ++ (conditions ++ mark x :: behind) :: after } := by
  obtain ⟨parts, hcarve, hparts⟩ := draft_eq_ok.1 h
  obtain ⟨before, after, part, kind, body, behind, hpart, hslot⟩ :=
    Grammar.carve_slot hmark hcarve
  obtain rfl : parts = before ++ part i :: after :=
    congrArg Prod.fst (hcarve.symm.trans (hslot i))
  rw [List.foldlM_append] at hparts
  obtain ⟨d₁, hbefore, hparts⟩ := bind_eq_ok.1 hparts
  obtain ⟨d₂, hadd, hafter⟩ := foldlM_cons_eq_ok.1 hparts
  obtain hselect | ⟨sources, conditions, hgroup⟩ := add_slot hmark hpart hadd
  · -- the select list is not read with a literal in it
    obtain ⟨projection, q₁, hprojection, -, -, hitems⟩ := outline_eq_ok.1 hq
    rw [foldlM_add_projection hafter hselect] at hprojection
    obtain rfl := Option.some.inj hprojection
    exact absurd (by simp) (not_mem_of_addItems hitems (hmark i))
  · obtain rfl := Except.ok.inj (hadd.symm.trans (hgroup i))
    obtain ⟨added, hadded⟩ := foldlM_add_groups hafter
    refine ⟨d₁.groups, added, conditions, behind, fun x => ?_⟩
    refine draft_eq_ok.2 ⟨_, hslot x, ?_⟩
    rw [List.foldlM_append, hbefore, ok_bind]
    refine foldlM_cons_eq_ok.2 ⟨_, hgroup x, ?_⟩
    have hrest := hadded (d₁.groups ++ [conditions ++ mark x :: behind])
    rw [List.append_assoc] at hrest
    exact hrest

/-- A list of conditions is read whatever the literal in it, which is the
right side of one of the terms. -/
theorem conditions_slot {q : Query} {first : Connective} {front back : List String} {i : ι}
    {terms : List Condition} (h : conditions q first (front ++ mark i :: back) = .ok terms) :
    ∃ (before after : List Condition) (c : Condition), ∀ x,
      conditions q first (front ++ mark x :: back)
        = .ok (before ++ { c with right := .text (unquote (mark x)) } :: after) := by
  -- a term has four tokens with the word behind it; the literal can only
  -- be the third
  match front with
  | [] =>
      rcases back with _ | ⟨operator, _ | ⟨right, tail⟩⟩
      · cases h
      · cases h
      · obtain ⟨sign, ref, side, rest, -, href, -⟩ := conditions_eq_ok.1 h
        exact absurd href (hmark i).resolve_ne_ok
  | [left] =>
      rcases back with _ | ⟨right, tail⟩
      · cases h
      · obtain ⟨sign, ref, side, rest, hsign, -⟩ := conditions_eq_ok.1 h
        exact absurd hsign (hmark i).comparator_ne_ok
  | [left, operator] =>
      obtain ⟨sign, ref, side, rest, hsign, href, -, hrest, -⟩ := conditions_eq_ok.1 h
      refine ⟨[], rest, ⟨first, ref, sign, side⟩, fun x => ?_⟩
      exact conditions_eq_ok.2 ⟨sign, ref, _, rest, hsign, href, (hmark x).operand_eq q, hrest, rfl⟩
  | [left, operator, right] =>
      obtain ⟨sign, ref, side, rest, -, -, -, hrest, -⟩ := conditions_eq_ok.1 h
      obtain ⟨next, hnext, -⟩ := bind_eq_ok.1 hrest
      exact absurd hnext (hmark i).connective_ne_ok
  | left :: operator :: right :: word :: front =>
      obtain ⟨sign, ref, side, rest, hsign, href, hside, hrest, -⟩ := conditions_eq_ok.1 h
      obtain ⟨next, hnext, hrest⟩ := bind_eq_ok.1 hrest
      obtain ⟨before, after, c, hslot⟩ := conditions_slot hrest
      refine ⟨⟨first, ref, sign, side⟩ :: before, after, c, fun x => ?_⟩
      exact conditions_eq_ok.2 ⟨sign, ref, side, _, hsign, href, hside,
        bind_eq_ok.2 ⟨next, hnext, hslot x⟩, rfl⟩

end Slot

-- =========================================================== statements

/-- A statement does not end with its last literal's semicolons. -/
theorem dropSemicolons_append {front back : List String} {token : String} (h : token ≠ ";") :
    dropSemicolons (front ++ token :: back) = front ++ token :: dropSemicolons back := by
  unfold dropSemicolons
  rw [List.reverse_append, List.reverse_cons, List.append_assoc, List.dropWhile_append]
  split
  · next hall =>
    rw [List.singleton_append, List.dropWhile_cons_of_neg (by simpa using h),
      List.isEmpty_iff.1 hall]
    simp
  · simp

end Statement

namespace Query

/-- A run of conditions appends them, and the relations learn of what
they refer to. -/
theorem foldl_addCondition (terms : List Condition) (q : Query) :
    terms.foldl addCondition q
      = { q with
          conditions := q.conditions ++ terms
          relations := (terms.flatMap Condition.references).foldl reference q.relations } := by
  induction terms generalizing q with
  | nil =>
      rw [List.append_nil]
      rfl
  | cons c terms ih =>
      rw [List.foldl_cons, ih, addCondition, List.flatMap_cons, List.foldl_append,
        List.append_assoc]
      rfl

/-- The relations do not learn which text a column is compared with. -/
theorem foldl_addCondition_text (q : Query) (before after : List Condition) (c : Condition)
    (v w : String) :
    (before ++ { c with right := .text w } :: after).foldl addCondition q
      = { (before ++ { c with right := .text v } :: after).foldl addCondition q with
          conditions := q.conditions ++ (before ++ { c with right := .text w } :: after) } := by
  have hreferences : ∀ x : String,
      (before ++ { c with right := .text x } :: after).flatMap Condition.references
        = before.flatMap Condition.references
          ++ c.left :: after.flatMap Condition.references := by
    intro x
    rw [List.flatMap_append]
    rfl
  rw [foldl_addCondition, foldl_addCondition, hreferences, hreferences]

/-- If a statement with a literal in it has a query, so it has with every
other literal in its place, and the text of one condition is what the
literal says. -/
theorem parse_slot {front back : String} {tokens : List String}
    (hfront : tokenize front = .ok tokens) (hend : front.toList.getLast? ≠ some '\'')
    (hstart : back.toList.head? ≠ some '\'') {v : String} {q : Query}
    (h : parse (front ++ (Operand.text v).toText ++ back) = .ok q) :
    ∃ (before after : List Condition) (c : Condition),
      q.conditions = before ++ { c with right := .text v } :: after
        ∧ ∀ w, parse (front ++ (Operand.text w).toText ++ back)
            = .ok { q with conditions := before ++ { c with right := .text w } :: after } := by
  have hmark : ∀ x, Quoted (Operand.text x).toText := quoted_text
  have hdrop : ∀ x behind, dropSemicolons (tokens ++ (Operand.text x).toText :: behind)
      = tokens ++ (Operand.text x).toText :: dropSemicolons behind := fun x _ =>
    dropSemicolons_append ((hmark x).ne_of_head? (by decide))
  obtain ⟨all, d, q₀, chains, hall, hdraft, hq₀, hchains, rfl⟩ := parse_eq_ok.1 h
  rw [tokenize_literal hfront hend hstart] at hall
  obtain ⟨behind, hbehind, rfl⟩ := map_eq_ok.1 hall
  rw [hdrop] at hdraft
  obtain ⟨early, late, left, right, hslot⟩ := draft_slot hmark hdraft hq₀
  have hgroups : d.groups = early ++ (left ++ (Operand.text v).toText :: right) :: late :=
    congrArg Draft.groups (Except.ok.inj (hdraft.symm.trans (hslot v)))
  rw [hgroups] at hchains
  obtain ⟨earlier, hearlier, rest, hrest, rfl⟩ := mapM_append_eq_ok.1 hchains
  obtain ⟨terms, hterms, later, hlater, rfl⟩ := mapM_cons_eq_ok.1 hrest
  obtain ⟨before, after, c, hread⟩ := conditions_slot hmark hterms
  obtain rfl := Except.ok.inj (hterms.symm.trans (hread v))
  simp only [(unquote_literal _).2] at hread ⊢
  have hterms : ∀ x : String,
      (earlier ++ (before ++ { c with right := .text x } :: after) :: later).flatten
        = (earlier.flatten ++ before) ++ { c with right := .text x }
          :: (after ++ later.flatten) := by
    intro x
    rw [List.flatten_append, List.flatten_cons]
    simp only [List.append_assoc, List.cons_append]
  have hnone := conditions_outline hq₀
  refine ⟨earlier.flatten ++ before, after ++ later.flatten, c, ?_, fun w => ?_⟩
  · rw [conditions_foldl_addCondition, hnone, List.nil_append, hterms]
  · refine parse_eq_ok.2 ⟨tokens ++ (Operand.text w).toText :: behind,
      { d with groups := early ++ (left ++ (Operand.text w).toText :: right) :: late }, q₀,
      earlier ++ (before ++ { c with right := .text w } :: after) :: later, ?_, ?_, hq₀, ?_, ?_⟩
    · rw [tokenize_literal hfront hend hstart, hbehind]
      rfl
    · rw [hdrop]
      exact hslot w
    · exact mapM_append_eq_ok.2 ⟨earlier, hearlier, _,
        mapM_cons_eq_ok.2 ⟨_, hread w, later, hlater, rfl⟩, rfl⟩
    · rw [hterms, hterms, foldl_addCondition_text q₀ _ _ c v w, hnone, List.nil_append]

/-- A literal is only ever the text on the right side of a condition.
Whether a statement is accepted does not depend on what the literal
says, and the queries of an accepted one differ in that text alone. -/
theorem parse_blind_to_literal {front back : String} {tokens : List String}
    (hfront : tokenize front = .ok tokens) (hend : front.toList.getLast? ≠ some '\'')
    (hstart : back.toList.head? ≠ some '\'') :
    (∀ v w : String,
        (∃ q, parse (front ++ (Operand.text v).toText ++ back) = .ok q)
          ↔ ∃ q, parse (front ++ (Operand.text w).toText ++ back) = .ok q)
      ∧ ∀ (v : String) (q : Query),
          parse (front ++ (Operand.text v).toText ++ back) = .ok q →
            ∃ (before after : List Condition) (c : Condition),
              q.conditions = before ++ { c with right := .text v } :: after
                ∧ ∀ w, parse (front ++ (Operand.text w).toText ++ back)
                    = .ok { q with
                        conditions := before ++ { c with right := .text w } :: after } := by
  have haccepts : ∀ v w : String,
      (∃ q, parse (front ++ (Operand.text v).toText ++ back) = .ok q) →
        ∃ q, parse (front ++ (Operand.text w).toText ++ back) = .ok q := by
    rintro v w ⟨q, hq⟩
    obtain ⟨before, after, c, -, hall⟩ := parse_slot hfront hend hstart hq
    exact ⟨_, hall w⟩
  exact ⟨fun v w => ⟨haccepts v w, haccepts w v⟩,
    fun v q hq => parse_slot hfront hend hstart hq⟩

/-- A literal in the conditions of a join, with a filter behind it: with
a text that ends the literal, opens another and closes the statement it
is still one literal. -/
theorem parse_blind_to_literal_join :
    tokenize "select a.n as k from a join b on a.x = b.x and b.y <> "
        = .ok ["select", "a.n", "as", "k", "from", "a", "join", "b", "on", "a.x", "=", "b.x",
          "and", "b.y", "<>"]
      ∧ (∃ q, parse ("select a.n as k from a join b on a.x = b.x and b.y <> "
          ++ (Operand.text "u").toText ++ " or b.y = 2 where a.n = 'v';") = .ok q)
      ∧ ∃ q, parse ("select a.n as k from a join b on a.x = b.x and b.y <> "
          ++ (Operand.text "' or 1 = 1 where ;--").toText ++ " or b.y = 2 where a.n = 'v';")
            = .ok q := by
  have htokens : tokenize "select a.n as k from a join b on a.x = b.x and b.y <> " = .ok _ :=
    eq_ok_of_toOption (a := ["select", "a.n", "as", "k", "from", "a", "join", "b", "on", "a.x",
      "=", "b.x", "and", "b.y", "<>"]) (by decide +kernel)
  have hplain : ∃ q, parse ("select a.n as k from a join b on a.x = b.x and b.y <> "
      ++ (Operand.text "u").toText ++ " or b.y = 2 where a.n = 'v';") = .ok q :=
    ⟨⟨[⟨"a", "n", some "k", .text⟩],
        [.knowing .leading "a" "a" ["n", "x"], .knowing .inner "b" "b" ["x", "y"]],
        [⟨.and, ⟨"a", "x"⟩, .equal, .column ⟨"b", "x"⟩⟩,
          ⟨.and, ⟨"b", "y"⟩, .different, .text "u"⟩,
          ⟨.or, ⟨"b", "y"⟩, .equal, .number "2"⟩,
          ⟨.and, ⟨"a", "n"⟩, .equal, .text "v"⟩], false⟩,
      eq_ok_of_toOption (by decide +kernel)⟩
  have hstart : " or b.y = 2 where a.n = 'v';".toList.head? ≠ some '\'' := by decide +kernel
  have hblind := parse_blind_to_literal htokens (by decide +kernel) hstart
  exact ⟨htokens, hplain, (hblind.1 "u" _).1 hplain⟩

end Query

end FlatQuery
