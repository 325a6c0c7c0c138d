/-
Statements in another spelling. The reader of statements looks at its
tokens in few ways: it asks for keywords ignoring case, takes names in
lowercase, compares a few symbols that have no case, and takes literals
and numbers as they are. A change of tokens that leaves all of this as
it is (`Unseen`) is not seen by any stage of reading: the clauses are
the same up to the change, and from there on the results are equal.

Writing the tokens in small letters, literals and numbers aside, is such
a change (`unseen_uncased`). So two lists of tokens that differ in case
have the same queries, and since tokens with blanks between them are
read as these tokens, so have the texts (`parse_respelled`).
-/
import Mathlib.Data.List.Forall2
import FlatQuery.Proofs.Statement.Slot
import FlatQuery.Proofs.Statement.Stages
import FlatQuery.Proofs.Token.Respaced

namespace FlatQuery

open Text Token Result Statement

-- ============================================================ vocabulary

/-- A change of tokens that reading a statement takes no notice of. -/
structure Unseen (u : String → String) : Prop where
  folded : ∀ t keyword, sameFolded (u t) keyword = sameFolded t keyword
  lower : ∀ t, lowercase (u t) = lowercase t
  literal : ∀ t, isLiteral (u t) = isLiteral t
  number : ∀ t, isNumber (u t) = isNumber t
  constant : ∀ t, isLiteral t = true ∨ isNumber t = true → u t = t
  letter : ∀ t, (u t).toList.any isAlphanumeric = t.toList.any isAlphanumeric
  identifier : ∀ t, isIdentifier (u t) = isIdentifier t
  name : ∀ t, relationName (u t) = relationName t
  symbol : ∀ k ∈ ["*", ",", ";", "=", "!=", "<>"], ∀ t, u t = k ↔ t = k

section
variable {u : String → String} (hu : Unseen u)

-- ============================================================== clauses

/-- A clause with its tokens changed. -/
def Grammar.Part.map (u : String → String) (p : Grammar.Part) : Grammar.Part :=
  ⟨p.kind, u p.keyword, p.tokens.map u, p.body.map u⟩

/-- A draft with the tokens changed that are not read yet. -/
def Statement.Draft.map (u : String → String) (d : Draft) : Draft :=
  ⟨d.projection.map (List.map u), d.sources, d.groups.map (List.map u)⟩

/-- Groups that are read later are changed like those before them. -/
theorem Statement.Draft.map_append (u : String → String) (projection : Option (List String))
    (sources : List Source) (groups more : List (List String)) :
    Draft.map u ⟨projection, sources, groups ++ more⟩
      = ⟨projection.map (List.map u), sources,
          groups.map (List.map u) ++ more.map (List.map u)⟩ := by
  unfold Draft.map
  rw [List.map_append]

include hu

/-- A clause ends at the same tokens. -/
theorem Unseen.isTerminator (clause : Clause) (t : String) :
    clause.isTerminator (u t) = clause.isTerminator t := by
  unfold Clause.isTerminator
  rw [show sameFolded (u t) = sameFolded t from funext (hu.folded t)]

/-- It begins with the same tokens. -/
theorem Unseen.begins (clause : Clause) (tokens : List String) :
    clause.begins (tokens.map u) = clause.begins tokens := by
  unfold Clause.begins
  rw [List.length_map, List.zip_map_left, List.all_map]
  refine congrArg (_ && List.all _ ·) (funext fun pair => ?_)
  exact hu.folded pair.1 pair.2

/-- So as many tokens are split off, and the changed ones are. -/
theorem Unseen.extract (clause : Clause) (tokens : List String) :
    (clause.extract (tokens.map u)).toOption
      = (clause.extract tokens).toOption.map (Prod.map (List.map u) (List.map u)) := by
  have hends : (fun t => !clause.isTerminator t) ∘ u = fun t => !clause.isTerminator t :=
    funext fun t => congrArg (!·) (hu.isTerminator clause t)
  unfold Clause.extract
  rw [hu.begins]
  split
  · dsimp only
    rw [← List.map_drop, ← List.map_take, List.takeWhile_map, List.dropWhile_map, hends,
      ← List.map_append]
    rfl
  · rfl

/-- A clause is told by its keyword in lowercase. -/
theorem Unseen.clauseFor? (t : String) : Grammar.clauseFor? (u t) = Grammar.clauseFor? t := by
  unfold Grammar.clauseFor?
  rw [hu.lower]

/-- The statement is carved into the same clauses, and as far. -/
theorem Unseen.carve (tokens : List String) :
    (Grammar.carve (tokens.map u)).1 = (Grammar.carve tokens).1.map (Grammar.Part.map u)
      ∧ (Grammar.carve (tokens.map u)).2.isSome = (Grammar.carve tokens).2.isSome := by
  fun_induction Grammar.carve tokens with
  | case1 =>
      rw [List.map_nil, Grammar.carve]
      exact ⟨rfl, rfl⟩
  | case2 first tail hnone =>
      rw [List.map_cons, Grammar.carve_cons, hu.clauseFor?, hnone]
      exact ⟨rfl, rfl⟩
  -- a clause whose keywords are cut off fails for both lists, though with
  -- different words to blame
  | case3 first tail kind clause hclause e herror =>
      have hextract := hu.extract clause (first :: tail)
      rw [List.map_cons] at hextract
      rw [herror] at hextract
      rw [List.map_cons, Grammar.carve_cons, hu.clauseFor?, hclause]
      dsimp only
      cases hmapped : clause.extract (u first :: tail.map u) with
      | error e' => exact ⟨rfl, rfl⟩
      | ok found =>
          rw [hmapped] at hextract
          cases hextract
  -- a clause that is split off leaves a rest that is changed alike
  | case4 first tail kind clause hclause tokens remainder hok parts failure hcarve ih =>
      have hextract := hu.extract clause (first :: tail)
      rw [List.map_cons, hok] at hextract
      have hmapped := eq_ok_of_toOption hextract
      rw [hcarve] at ih
      rw [List.map_cons, Grammar.carve_cons, hu.clauseFor?, hclause]
      dsimp only
      rw [hmapped]
      dsimp only [Prod.map]
      refine ⟨?_, ih.2⟩
      rw [ih.1, ← List.map_drop]
      rfl

-- ============================================================ relations

/-- A relation and its alias are where they were; which word is blamed is
not kept. -/
theorem Unseen.splitAlias (clause clause' body : List String) :
    (splitAlias clause' (body.map u)).toOption
      = (splitAlias clause body).toOption.map (Prod.map u (Option.map u)) := by
  fun_cases Statement.splitAlias clause body with
  | case1 => rfl
  | case2 => rfl
  | case3 name keyword aliasName has =>
      show (if sameFolded (u keyword) "as" then _ else _ : Result _).toOption = _
      rw [hu.folded, if_pos has]
      rfl
  | case4 name keyword aliasName has =>
      show (if sameFolded (u keyword) "as" then _ else _ : Result _).toOption = _
      rw [hu.folded, if_neg has]
      rfl
  | case5 => rfl
  | case6 => rfl

/-- The same relation is read. -/
theorem Unseen.source (role : Role) (clause clause' body : List String) :
    (source role clause' (body.map u)).toOption = (source role clause body).toOption := by
  unfold Statement.source
  rw [toOption_bind, toOption_bind, hu.splitAlias clause]
  -- the name is looked at in three ways and the alias in two, all of which
  -- the change leaves alone
  cases (Statement.splitAlias clause body).toOption with
  | none => rfl
  | some found =>
      obtain ⟨name, aliasName⟩ := found
      simp only [Option.map_some, Option.bind_some, Prod.map, hu.literal, hu.letter, hu.name]
      split
      · rfl
      · cases aliasName with
        | none => rfl
        | some aliasName =>
            simp only [Option.map_some, hu.identifier, hu.lower]
            split
            · rfl
            · rfl

-- =============================================================== drafts

/-- The conditions of a join begin behind the same `on`. -/
theorem Unseen.splitOn (body : List String) :
    splitOn (body.map u)
      = ((splitOn body).1.map u, (splitOn body).2.map (List.map u)) := by
  have hwords : (fun t => !sameFolded t "on") ∘ u = fun t => !sameFolded t "on" :=
    funext fun t => congrArg (!·) (hu.folded t "on")
  unfold Statement.splitOn
  rw [List.dropWhile_map, List.takeWhile_map, hwords]
  cases body.dropWhile (!sameFolded · "on") with
  | nil => rfl
  | cons on conditions => rfl

omit hu in
/-- To be empty is no question of spelling. -/
theorem toOption_nonEmpty (keyword keyword' : String) (tokens : List String) :
    (nonEmpty keyword' (tokens.map u)).toOption
      = (nonEmpty keyword tokens).toOption.map (List.map u) := by
  unfold nonEmpty
  cases tokens with
  | nil => rfl
  | cons t tokens => rfl

/-- A clause is read into a draft that is changed alike. -/
theorem Unseen.add (d : Draft) (part : Grammar.Part) :
    ((d.map u).add (part.map u)).toOption = (d.add part).toOption.map (Draft.map u) := by
  -- by the kind of the clause, and for each by what the draft holds so far
  obtain ⟨kind, keyword, tokens, body⟩ := part
  obtain ⟨projection, sources, groups⟩ := d
  cases kind with
  | projection =>
      cases projection with
      | none => rfl
      | some list => rfl
  | leading =>
      -- the leading relation, if the select list is there and no relation
      -- is
      have hsource := hu.source .leading tokens (tokens.map u) body
      cases projection with
      | none => rfl
      | some list =>
          cases sources with
          | cons s sources => rfl
          | nil =>
              show (Statement.source .leading (tokens.map u) (body.map u) >>= _).toOption
                = ((Statement.source .leading tokens body >>= _).toOption).map _
              rw [toOption_bind, toOption_bind, hsource]
              cases (Statement.source .leading tokens body).toOption with
              | none => rfl
              | some s => rfl
  -- a join, with conditions or without
  | join role =>
      cases sources with
      | nil => rfl
      | cons first sources =>
          simp only [Draft.add, Draft.map, Grammar.Part.map, List.isEmpty_cons,
            Bool.false_eq_true, if_false, hu.splitOn]
          rw [toOption_bind, toOption_bind, hu.source role tokens]
          cases (Statement.source role tokens (Statement.splitOn body).1).toOption with
          | none => rfl
          | some s =>
              dsimp only [Option.bind_some]
              cases (Statement.splitOn body).2 with
              | none =>
                  exact congrArg some (Draft.map_append u projection _ groups []).symm
              | some conditions =>
                  dsimp only [Option.map_some]
                  rw [toOption_bind, toOption_bind]
                  show (((fun list => [list]) <$> nonEmpty "on" (conditions.map u)).toOption.bind _)
                    = ((((fun list => [list]) <$> nonEmpty "on" conditions).toOption.bind _)).map _
                  rw [toOption_map, toOption_map, toOption_nonEmpty "on"]
                  cases (nonEmpty "on" conditions).toOption with
                  | none => rfl
                  | some list =>
                      exact congrArg some (Draft.map_append u projection _ groups [list]).symm
  | filter =>
      cases sources with
      | nil => rfl
      | cons first sources =>
          simp only [Draft.add, Draft.map, Grammar.Part.map, List.isEmpty_cons,
            Bool.false_eq_true, if_false]
          rw [toOption_bind, toOption_bind, toOption_nonEmpty keyword]
          cases (nonEmpty keyword body).toOption with
          | none => rfl
          | some tokens =>
              exact congrArg some (Draft.map_append u projection _ groups [tokens]).symm
  | unsupported feature => rfl

/-- The clauses of a statement are read to the same draft, up to the
change in tokens that are not read yet. -/
theorem Unseen.draft (tokens : List String) :
    (draft (tokens.map u)).toOption = (draft tokens).toOption.map (Draft.map u) := by
  obtain ⟨hparts, hfailure⟩ := hu.carve tokens
  have hread := toOption_foldlM hu.add (Grammar.carve tokens).1 ⟨none, [], []⟩
  have hempty : Draft.map u ⟨none, [], []⟩ = ⟨none, [], []⟩ := rfl
  rw [hempty] at hread
  unfold Statement.draft
  dsimp only
  rw [toOption_bind, toOption_bind, hparts, hread]
  cases ((Grammar.carve tokens).1.foldlM Draft.add ⟨none, [], []⟩).toOption with
  | none => rfl
  | some d =>
      dsimp only [Option.map_some, Option.bind_some]
      -- a clause that could not be carved fails the statement in both
      -- spellings
      generalize (Grammar.carve (tokens.map u)).2 = failure', (Grammar.carve tokens).2 = failure
        at hfailure
      cases failure with
      | none =>
          cases failure' with
          | none => rfl
          | some e => cases hfailure
      | some e =>
          cases failure' with
          | none => cases hfailure
          | some e' => rfl

-- ========================================================= select list

omit hu in
/-- Changed tokens are split where the tokens are. -/
theorem splitOnP_map (p : String → Bool) (tokens : List String) :
    (tokens.map u).splitOnP p = (tokens.splitOnP (p ∘ u)).map (List.map u) := by
  induction tokens with
  | nil => rfl
  | cons t tokens ih =>
      rw [List.map_cons, List.splitOnP_cons_eq_if_modifyHead, List.splitOnP_cons_eq_if_modifyHead,
        Function.comp_apply, ih]
      by_cases h : p (u t) = true
      · rw [if_pos h, if_pos h]
        rfl
      · rw [if_neg h, if_neg h]
        cases tokens.splitOnP (p ∘ u) with
        | nil => rfl
        | cons piece pieces => rfl

/-- The select list is split at the same commas. -/
theorem Unseen.splitOn_comma (tokens : List String) :
    (tokens.map u).splitOn "," = (tokens.splitOn ",").map (List.map u) := by
  have hcomma : (fun t => t == ",") ∘ u = fun t => t == "," := by
    funext t
    rw [Function.comp_apply, Bool.eq_iff_iff, beq_iff_eq, beq_iff_eq]
    exact hu.symbol "," (by decide) t
  unfold List.splitOn
  rw [splitOnP_map, hcomma]

/-- An item with its column changed; its output name is read already. -/
def Statement.Item.map (u : String → String) (i : Item) : Item := { i with column := u i.column }

/-- An item keeps its output name and has its column changed. -/
theorem Unseen.item (tokens : List String) :
    (item (tokens.map u)).toOption = (item tokens).toOption.map (Item.map u) := by
  have hstar : ∀ t, u t = "*" ↔ t = "*" := hu.symbol "*" (by decide)
  unfold Statement.item
  -- one token, two, three, and more: only one and three are items
  rcases tokens with _ | ⟨column, _ | ⟨keyword, _ | ⟨aliasName, _ | ⟨more, tokens⟩⟩⟩⟩
  · rfl
  · by_cases h : column = "*"
    · simp only [List.map_cons, List.map_nil, if_pos h, if_pos ((hstar column).2 h)]
      rfl
    · simp only [List.map_cons, List.map_nil, if_neg h, if_neg (mt (hstar column).1 h)]
      rfl
  · rfl
  · simp only [List.map_cons, List.map_nil, hu.folded, hu.identifier, hu.lower]
    split
    · rfl
    · rfl
  · rfl

/-- The same items are read. -/
theorem Unseen.items (tokens : List String) :
    (items (tokens.map u)).toOption
      = (items tokens).toOption.map (Option.map (List.map (Item.map u))) := by
  have hstar : ∀ t, u t = "*" ↔ t = "*" := hu.symbol "*" (by decide)
  have hall : tokens.map u = ["*"] ↔ tokens = ["*"] := by
    rcases tokens with _ | ⟨t, _ | ⟨t', tokens⟩⟩
    · simp
    · simp [hstar]
    · simp
  unfold Statement.items
  by_cases h : tokens = ["*"]
  · rw [if_pos h, if_pos (hall.2 h)]
    rfl
  · rw [if_neg h, if_neg (mt hall.1 h), List.isEmpty_map]
    split
    · rfl
    · rw [toOption_bind, toOption_bind, hu.splitOn_comma, toOption_mapM hu.item]
      cases ((tokens.splitOn ",").mapM Statement.item).toOption with
      | none => rfl
      | some list => rfl

-- ============================================================= columns

/-- A column token names the same column. -/
theorem Unseen.resolve (q : Query) (t : String) :
    (resolve q (u t)).toOption = (resolve q t).toOption := by
  unfold Statement.resolve
  rw [hu.literal, hu.number, hu.lower]
  dsimp only
  split
  · rfl
  split
  · cases ColumnRef.parse? (lowercase t) with
    | none => rfl
    | some ref => rfl
  split
  · rfl
  · rfl

/-- The same column is put out, under the same name. -/
theorem Unseen.addItem (q : Query) (i : Item) :
    (addItem q (i.map u)).toOption = (addItem q i).toOption := by
  unfold Statement.addItem
  rw [toOption_bind, toOption_bind]
  show (Statement.resolve q (u i.column)).toOption.bind _ = _
  rw [hu.resolve]
  rfl

/-- The whole select list comes to the same query. -/
theorem Unseen.addItems (q : Query) (projection : List String) :
    (addItems q (projection.map u)).toOption = (addItems q projection).toOption := by
  have hstep : ∀ q i, (Statement.addItem (id q) (i.map u)).toOption
      = (Statement.addItem q i).toOption.map id := by
    intro q i
    rw [Option.map_id]
    exact hu.addItem q i
  unfold Statement.addItems
  rw [toOption_bind, toOption_bind, hu.items]
  cases (Statement.items projection).toOption with
  | none => rfl
  | some list =>
      cases list with
      | none => rfl
      | some list =>
          have hrun := toOption_foldlM hstep list q
          rw [Option.map_id] at hrun
          exact hrun

/-- A literal or number is the token itself, and a column is resolved. -/
theorem Unseen.operand (q : Query) (t : String) :
    (operand q (u t)).toOption = (operand q t).toOption := by
  unfold Statement.operand
  rw [hu.literal, hu.number]
  split
  · next h => rw [hu.constant t (.inl h)]
  split
  · next h => rw [hu.constant t (.inr h)]
  · show (Operand.column <$> Statement.resolve q (u t)).toOption
      = (Operand.column <$> Statement.resolve q t).toOption
    rw [toOption_map, toOption_map, hu.resolve]

/-- An operator is one of three symbols. -/
theorem Unseen.comparator (t : String) :
    (comparator (u t)).toOption = (comparator t).toOption := by
  have hequal : u t = "=" ↔ t = "=" := hu.symbol "=" (by decide) t
  have hunequal : u t = "!=" ↔ t = "!=" := hu.symbol "!=" (by decide) t
  have hdifferent : u t = "<>" ↔ t = "<>" := hu.symbol "<>" (by decide) t
  unfold Statement.comparator
  simp only [hequal, hunequal, hdifferent]
  split
  · rfl
  split
  · rfl
  · rfl

/-- A connective is told by its lowercase. -/
theorem Unseen.connective (t : String) :
    (connective (u t)).toOption = (connective t).toOption := by
  unfold Statement.connective
  rw [hu.lower]
  split
  · rfl
  split
  · rfl
  · rfl

/-- The same terms are read. -/
theorem Unseen.conditions (q : Query) (first : Connective) (tokens : List String) :
    (conditions q first (tokens.map u)).toOption = (conditions q first tokens).toOption := by
  fun_induction Statement.conditions q first tokens with
  | case1 first left operator right =>
      simp only [List.map_cons, List.map_nil, Statement.conditions, toOption_bind,
        hu.comparator, hu.resolve, hu.operand]
  | case2 first left operator right word rest ih =>
      simp only [List.map_cons, Statement.conditions, toOption_bind,
        hu.comparator, hu.resolve, hu.operand, hu.connective, ih]
  | case3 => rfl
  -- a list of one, two or more than three tokens that is none of the lists
  -- above
  | case4 first tokens h1 h2 h3 =>
      rcases tokens with _ | ⟨t₁, _ | ⟨t₂, _ | ⟨t₃, _ | ⟨t₄, rest⟩⟩⟩⟩
      · exact absurd rfl h3
      · rfl
      · rfl
      · exact absurd rfl (h1 t₁ t₂ t₃)
      · exact absurd rfl (h2 t₁ t₂ t₃ t₄ rest)

-- =========================================================== statements

/-- What comes before the conditions is the same query. -/
theorem Unseen.outline (d : Draft) : (d.map u).outline.toOption = d.outline.toOption := by
  obtain ⟨projection, sources, groups⟩ := d
  unfold Draft.outline
  cases projection with
  | none => rfl
  | some projection =>
      cases sources with
      | nil => rfl
      | cons s sources =>
          show ((s :: sources).foldlM addSource .empty
              >>= fun q => Statement.addItems q (projection.map u)).toOption
            = ((s :: sources).foldlM addSource .empty
              >>= fun q => Statement.addItems q projection).toOption
          rw [toOption_bind, toOption_bind]
          simp only [hu.addItems]

/-- The same query is read. -/
theorem Unseen.toQuery (d : Draft) : (d.map u).toQuery.toOption = d.toQuery.toOption := by
  -- one group of conditions, added to the query so far; the groups are
  -- then a fold over this step
  let add (q : Query) (tokens : List String) : Result Query := do
    let terms ← Statement.conditions q .and tokens
    return terms.foldl Query.addCondition q
  have hstep : ∀ q tokens,
      (add (id q) (tokens.map u)).toOption = (add q tokens).toOption.map id := by
    intro q tokens
    show (Statement.conditions q .and (tokens.map u) >>= _).toOption = _
    rw [Option.map_id, toOption_bind, hu.conditions]
    exact (toOption_bind _ _).symm
  have hgroups : ∀ q : Query, ((d.groups.map (List.map u)).foldlM add q).toOption
      = (d.groups.foldlM add q).toOption := by
    intro q
    have hrun := toOption_foldlM hstep d.groups q
    rw [Option.map_id] at hrun
    exact hrun
  rw [toQuery_eq, toQuery_eq, toOption_bind, toOption_bind, hu.outline]
  exact congrArg (d.outline.toOption.bind ·) (funext hgroups)

/-- The semicolons at the end are the same. -/
theorem Unseen.dropSemicolons (tokens : List String) :
    dropSemicolons (tokens.map u) = (dropSemicolons tokens).map u := by
  have hsymbol : (fun t => decide (t = ";")) ∘ u = fun t => decide (t = ";") := by
    funext t
    rw [Function.comp_apply, Bool.eq_iff_iff, decide_eq_true_iff, decide_eq_true_iff]
    exact hu.symbol ";" (by decide) t
  unfold Statement.dropSemicolons
  rw [← List.map_reverse, List.dropWhile_map, hsymbol, List.map_reverse]

end

namespace Statement

/-- The query that the tokens of a statement describe. -/
def ofTokens (tokens : List String) : Result Query :=
  draft (dropSemicolons tokens) >>= Draft.toQuery

/-- Reading a text is reading its tokens. -/
theorem parse_eq_ofTokens (text : String) :
    Query.parse text = tokenize text >>= ofTokens := rfl

end Statement

/-- So a change that reading takes no notice of keeps the query, if there
is one. -/
theorem Unseen.ofTokens {u : String → String} (hu : Unseen u) (tokens : List String) :
    (ofTokens (tokens.map u)).toOption = (ofTokens tokens).toOption := by
  unfold Statement.ofTokens
  rw [toOption_bind, toOption_bind, hu.dropSemicolons, hu.draft]
  cases (Statement.draft (Statement.dropSemicolons tokens)).toOption with
  | none => rfl
  | some d => exact hu.toQuery d

-- ================================================================== case

namespace Token

/-- Begins like a literal or a number. -/
def isFixed (t : String) : Bool :=
  match t.toList with
  | c :: _ => isQuote c || isDigit c || c = '-'
  | [] => false

/-- The token in small letters of ASCII, where their case says nothing. -/
def uncased (t : String) : String := if isFixed t then t else fold t

/-- What does not begin like a literal or a number is none. -/
theorem isLiteral_of_isFixed_eq_false {t : String} (h : isFixed t = false) :
    isLiteral t = false ∧ isNumber t = false := by
  unfold isFixed at h
  unfold isLiteral isNumber
  cases htext : t.toList with
  | nil => exact ⟨rfl, rfl⟩
  | cons c cs =>
      rw [htext] at h
      simp only [Bool.or_eq_false_iff, decide_eq_false_iff_not] at h
      obtain ⟨⟨hquote, hdigit⟩, hminus⟩ := h
      constructor
      · show (isQuote c && _) = false
        rw [hquote]
        rfl
      · simp [hminus, hdigit]

/-- Folding makes and removes no quote, digit or minus. -/
theorem isFixed_fold (t : String) : isFixed (fold t) = isFixed t := by
  unfold isFixed fold
  rw [String.toList_ofList]
  cases t.toList with
  | nil => rfl
  | cons c cs =>
      exact map_foldChar_of_ascii (f := fun c => isQuote c || isDigit c || c = '-')
        (by decide +kernel) c

end Token

namespace Text

/-- Folding goes character by character. -/
theorem toList_fold (s : String) : (fold s).toList = s.toList.map foldChar :=
  String.toList_ofList

/-- A folded text is the same text up to case. -/
theorem sameFolded_fold (s t : String) : sameFolded (fold s) t = sameFolded s t := by
  have htwice : (s.toList.map foldChar).map foldChar = s.toList.map foldChar := by
    rw [List.map_map]
    exact List.map_congr_left fun c _ => foldChar_foldChar c
  unfold sameFolded
  rw [toList_fold, htwice]

/-- And it has the same lowercase. -/
theorem lowercase_fold (s : String) : lowercase (fold s) = lowercase s := by
  apply lowercase_of_sameFolded
  rw [sameFolded_fold, sameFolded_self]

/-- Folding moves no blank and makes none. -/
theorem trim_fold (s : String) : trim (fold s) = fold (trim s) := by
  have hblank : isBlank ∘ foldChar = isBlank := funext isBlank_foldChar
  unfold trim trimEnd trimStart
  rw [toList_fold, fold, String.toList_ofList, List.dropWhile_map, hblank, ← List.map_reverse,
    List.dropWhile_map, hblank, List.map_reverse]

end Text

/-- Folding keeps letters letters, so an identifier stays one. -/
theorem isIdentifier_fold (t : String) : isIdentifier (fold t) = isIdentifier t := by
  have hstart : ∀ c, (isAlphabetic (foldChar c) || foldChar c = '_')
      = (isAlphabetic c || c = '_') :=
    map_foldChar_of_ascii (f := fun c => isAlphabetic c || c = '_') (by decide +kernel)
  have hrest : (fun c => isAlphanumeric c || c = '_') ∘ foldChar
      = fun c => isAlphanumeric c || c = '_' :=
    funext (map_foldChar_of_ascii (f := fun c => isAlphanumeric c || c = '_') (by decide +kernel))
  unfold isIdentifier
  rw [toList_fold]
  cases t.toList with
  | nil => rfl
  | cons c cs =>
      show ((isAlphabetic (foldChar c) || foldChar c = '_') && (cs.map foldChar).all _) = _
      rw [hstart, List.all_map, hrest]

/-- The case of ASCII letters in words makes no difference to a
statement. -/
theorem unseen_uncased : Unseen uncased := by
  -- a token is left as it is or folded, and every field of the change is a
  -- fact on folding in the second case
  have hcases : ∀ t, uncased t = t ∨ isFixed t = false ∧ uncased t = fold t := by
    intro t
    unfold uncased
    cases isFixed t with
    | true => exact .inl rfl
    | false => exact .inr ⟨rfl, rfl⟩
  have hneither : ∀ t, isFixed t = false →
      (isLiteral (fold t) = isLiteral t ∧ isNumber (fold t) = isNumber t)
        ∧ ¬ (isLiteral t = true ∨ isNumber t = true) := by
    intro t ht
    obtain ⟨hliteral, hnumber⟩ := isLiteral_of_isFixed_eq_false ht
    obtain ⟨hliteral', hnumber'⟩ := isLiteral_of_isFixed_eq_false ((isFixed_fold t).trans ht)
    rw [hliteral, hnumber, hliteral', hnumber']
    decide
  constructor
  case folded =>
    intro t keyword
    rcases hcases t with h | ⟨-, h⟩
    · rw [h]
    · rw [h, sameFolded_fold]
  case lower =>
    intro t
    rcases hcases t with h | ⟨-, h⟩
    · rw [h]
    · rw [h, lowercase_fold]
  case literal =>
    intro t
    rcases hcases t with h | ⟨hfixed, h⟩
    · rw [h]
    · rw [h, (hneither t hfixed).1.1]
  case number =>
    intro t
    rcases hcases t with h | ⟨hfixed, h⟩
    · rw [h]
    · rw [h, (hneither t hfixed).1.2]
  case constant =>
    intro t ht
    rcases hcases t with h | ⟨hfixed, -⟩
    · exact h
    · exact absurd ht (hneither t hfixed).2
  case letter =>
    intro t
    rcases hcases t with h | ⟨-, h⟩
    · rw [h]
    · rw [h, toList_fold, List.any_map,
        show isAlphanumeric ∘ foldChar = isAlphanumeric from funext isAlphanumeric_foldChar]
  case identifier =>
    intro t
    rcases hcases t with h | ⟨-, h⟩
    · rw [h]
    · rw [h, isIdentifier_fold]
  case name =>
    intro t
    rcases hcases t with h | ⟨-, h⟩
    · rw [h]
    · unfold relationName
      rw [h, trim_fold, lowercase_fold]
  -- symbols have no letters, so nothing else folds to them
  case symbol =>
    have hletters : ∀ k ∈ ["*", ",", ";", "=", "!=", "<>"],
        uncased k = k ∧ k.toList.any isAsciiLetter = false := by
      decide +kernel
    intro k hk t
    obtain ⟨hkept, hcaseless⟩ := hletters k hk
    constructor
    · intro htk
      rcases hcases t with h | ⟨-, h⟩
      · rw [← h, htk]
      · apply eq_of_sameFolded hcaseless
        rw [← htk, h, sameFolded_fold, sameFolded_self]
    · rintro rfl
      exact hkept

/-- Two cases of one token are one token without its case. -/
theorem uncased_of_recased {t t' : String} (h : Lexical t) (hcase : Recased t t') :
    uncased t' = uncased t := by
  -- a word begins with none of the characters that fix a token
  have hword : ∀ t, Wordlike t → uncased t = fold t := by
    intro t ht
    obtain ⟨c, cs, htext, hc, hdigit, -⟩ := ht
    have hnone : ∀ d ∈ ['\'', '"', '-'], c ≠ d := ne_of_wordStart hc (by decide +kernel)
    have hfixed : isFixed t = false := by
      unfold isFixed isQuote
      rw [htext]
      simp [hdigit, hnone '\'' (by simp), hnone '"' (by simp), hnone '-' (by simp)]
    unfold uncased
    rw [hfixed]
    rfl
  rcases h.eq_or_wordlike hcase with rfl | ⟨ht, ht'⟩
  · rfl
  · rw [hword t ht, hword t' ht', ← String.toList_inj, toList_fold, toList_fold]
    exact (Columns.sameFolded_iff.1 hcase.1).symm

namespace Statement

/-- The tokens of a text without brackets, written out with blanks
between them and with any of their ASCII letters in the other case,
literals aside, are read as they are written; and the two texts have the
same query, if either has one. -/
theorem parse_respelled {text text' : String} {tokens tokens' : List String}
    (htext : Unbracketed text.toList) (htokens : tokenize text = .ok tokens)
    (hcase : List.Forall₂ Recased tokens tokens') (hjoined : Joined tokens' text'.toList) :
    tokenize text' = .ok tokens'
      ∧ ∀ q, Query.parse text' = .ok q ↔ Query.parse text = .ok q := by
  have hlexical := htext.lexical (tokenize_eq_ok.1 htokens)
  -- token by token: a word in another case is the same word uncased, and
  -- all other tokens are kept
  have hsame : (∀ t ∈ tokens', Lexical t) ∧ tokens'.map uncased = tokens.map uncased := by
    clear htokens hjoined
    induction hcase with
    | nil => exact ⟨nofun, rfl⟩
    | cons ht _ ih =>
        obtain ⟨hfirst, hrest⟩ := List.forall_mem_cons.1 hlexical
        obtain ⟨hlexical', hmap⟩ := ih hrest
        refine ⟨List.forall_mem_cons.2 ⟨hfirst.recased ht, hlexical'⟩, ?_⟩
        rw [List.map_cons, List.map_cons, uncased_of_recased hfirst ht, hmap]
  have htokens' : tokenize text' = .ok tokens' :=
    tokenize_eq_ok.2 (scan_joined hjoined hsame.1)
  refine ⟨htokens', fun q => ?_⟩
  rw [parse_eq_ofTokens, parse_eq_ofTokens, htokens, htokens', ok_bind, ok_bind]
  apply eq_ok_iff_of_toOption
  rw [← unseen_uncased.ofTokens tokens, ← unseen_uncased.ofTokens tokens', hsame.2]

/-- Keywords, names and an alias in other cases and with other blanks, and
a literal that stays. -/
theorem parse_respelled_capitals :
    let text := "select a.x z from t a where a.x<>'It''s'"
    let text' := "Select A.x\tZ \n from T A WHERE a.X <> 'It''s'"
    let tokens := ["select", "a.x", "z", "from", "t", "a", "where", "a.x", "<>", "'It''s'"]
    let tokens' := ["Select", "A.x", "Z", "from", "T", "A", "WHERE", "a.X", "<>", "'It''s'"]
    Unbracketed text.toList ∧ tokenize text = .ok tokens
      ∧ List.Forall₂ Recased tokens tokens' ∧ Joined tokens' text'.toList
      ∧ tokenize text' = .ok tokens'
      ∧ ∀ q, Query.parse text' = .ok q ↔ Query.parse text = .ok q := by
  intro text text' tokens tokens'
  have htokens : tokenize text = .ok tokens := eq_ok_of_toOption (by decide +kernel)
  have htext : Unbracketed text.toList :=
    unbracketed_of_not_mem (by rw [tokenize_eq_ok.1 htokens]) (by decide +kernel)
  have hcase : List.Forall₂ Recased tokens tokens' := by
    unfold tokens tokens'
    repeat' constructor
    all_goals decide +kernel
  have hjoined : Joined tokens' text'.toList := by
    have hchars : text'.toList = "Select".toList ++ ([' '] ++ ("A.x".toList ++ (['\t'] ++
        ("Z".toList ++ ([' ', '\n', ' '] ++ ("from".toList ++ ([' '] ++ ("T".toList ++ ([' '] ++
        ("A".toList ++ ([' '] ++ ("WHERE".toList ++ ([' '] ++ ("a.X".toList ++ ([' '] ++
        ("<>".toList ++ ([' '] ++ "'It''s'".toList))))))))))))))))) := by
      decide +kernel
    rw [hchars]
    repeat' first
      | exact .last _
      | apply Joined.cons
    all_goals decide +kernel
  exact ⟨htext, htokens, hcase, hjoined, parse_respelled htext htokens hcase hjoined⟩

end Statement

end FlatQuery
