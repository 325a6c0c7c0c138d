/-
Clauses as they are printed. Tokens that are no keyword end no clause
(`Inert`), so a clause runs to the first keyword of the next one, and
reading a statement is reading its clauses one after the other
(`read_clause`). Printed relations are read back in order, each as its
clause names it (`read_joins`).
-/
import Mathlib.Data.List.TakeWhile
import FlatQuery.Proofs.Statement.Built
import FlatQuery.Proofs.Statement.Printed

namespace FlatQuery

open Text Token Result

-- ======================================================== inert tokens

/-- No keyword, in whatever case. -/
def Inert (token : String) : Prop :=
  ∀ keyword ∈ keywords, sameFolded token keyword = false

/-- A free name is in lowercase already, so it folds to a keyword only by
being one. -/
theorem inert_of_isFreeName {s : String} (h : isFreeName s = true) : Inert s := by
  rw [isFreeName, Bool.and_eq_true, Bool.not_eq_true'] at h
  obtain ⟨hname, hfree⟩ := h
  have hfolded : s.toList.map foldChar = s.toList := calc
    s.toList.map foldChar = s.toList.map id :=
      List.map_congr_left fun c hc => (nameChar_of_isName hname c hc).folded
    _ = s.toList := List.map_id _
  have hkeywords : ∀ keyword ∈ keywords,
      keyword.toList.map foldChar = keyword.toList := by
    decide +kernel
  -- both sides are their own folding
  intro keyword hkeyword
  refine Bool.eq_false_iff.2 fun hsame => ?_
  rw [sameFolded, beq_iff_eq, hfolded, hkeywords keyword hkeyword] at hsame
  rw [String.toList_injective hsame, ← Bool.not_eq_true, List.contains_iff_mem] at hfree
  exact hfree hkeyword

/-- A character that no keyword has keeps a token from being one. -/
theorem inert_of_mem {token : String} {c : Char} (hc : c ∈ token.toList)
    (hnone : ∀ keyword ∈ keywords, foldChar c ∉ keyword.toList.map foldChar) :
    Inert token := by
  intro keyword hkeyword
  refine Bool.eq_false_iff.2 fun hsame => hnone keyword hkeyword ?_
  rw [sameFolded, beq_iff_eq] at hsame
  rw [← hsame]
  exact List.mem_map_of_mem hc

/-- A column with its relation has a dot, and no keyword has. -/
theorem inert_qualified (ref : ColumnRef) : Inert ref.qualified := by
  refine inert_of_mem (c := '.') ?_ (by decide +kernel)
  rw [ref.toList_qualified]
  exact List.mem_append_right _ (List.mem_cons_self ..)

/-- What is no keyword ends no clause. -/
theorem isTerminator_eq_false {clause : Clause} (hsub : clause.terminators ⊆ keywords)
    {token : String} (h : Inert token) : clause.isTerminator token = false := by
  rw [Clause.isTerminator, List.any_eq_false]
  intro keyword hkeyword
  rw [h keyword (hsub hkeyword)]
  exact Bool.false_ne_true

/-- A clause ends at its terminators as they are written. -/
theorem isTerminator_of_mem {clause : Clause} {token : String}
    (h : token ∈ clause.terminators) : clause.isTerminator token = true :=
  List.any_eq_true.2 ⟨token, h, sameFolded_self token⟩

-- ============================================================= carving

/-- Only as many tokens are looked at as there are keywords. -/
theorem Clause.begins_append_of_le {clause : Clause} {front : List String}
    (h : clause.start.length ≤ front.length) (rest : List String) :
    clause.begins (front ++ rest) = clause.begins front := by
  have hzip : ∀ more : List String, (front ++ more).zip clause.start
      = (front.take clause.start.length).zip clause.start := by
    intro more
    have hlength : (front.take clause.start.length).length = clause.start.length := by
      rw [List.length_take, Nat.min_eq_left h]
    calc (front ++ more).zip clause.start
        = (front.take clause.start.length ++ (front.drop clause.start.length ++ more)).zip
            (clause.start ++ []) := by
          rw [← List.append_assoc, List.take_append_drop, List.append_nil]
      _ = (front.take clause.start.length).zip clause.start := by
          rw [List.zip_append hlength, List.zip_nil_right, List.append_nil]
  have hfront := hzip []
  rw [List.append_nil] at hfront
  unfold begins
  rw [hzip rest, hfront, List.length_append, decide_eq_true h,
    decide_eq_true (Nat.le_trans h (Nat.le_add_right ..))]

/-- A clause begins with its own keywords. -/
theorem Clause.begins_start (clause : Clause) : clause.begins clause.start = true := by
  have hself : ∀ start : List String, ∀ pair ∈ start.zip start, pair.1 = pair.2 := by
    intro start
    induction start with
    | nil => exact nofun
    | cons keyword start ih => exact List.forall_mem_cons.2 ⟨rfl, ih⟩
  rw [Clause.begins, Bool.and_eq_true, decide_eq_true_eq, List.all_eq_true]
  -- the tokens are paired with themselves
  refine ⟨Nat.le_refl _, fun pair hpair => ?_⟩
  have hsame := hself clause.start pair hpair
  show sameFolded pair.1 pair.2 = true
  rw [hsame]
  exact sameFolded_self pair.2

/-- A clause runs over its keywords, in whatever case, and all that does
not end it. -/
theorem Clause.extract_append {clause : Clause} {words body rest : List String}
    (hwords : clause.begins words = true) (hlength : words.length = clause.start.length)
    (hbody : ∀ t ∈ body, clause.isTerminator t = false)
    (hrest : ∀ t, rest.head? = some t → clause.isTerminator t = true) :
    clause.extract (words ++ (body ++ rest)) = .ok (words ++ body, rest) := by
  obtain ⟨htake, hdrop⟩ := span_until rest hbody hrest
  unfold Clause.extract
  rw [begins_append_of_le (Nat.le_of_eq hlength.symm), if_pos hwords, ← hlength,
    List.drop_left, List.take_left]
  dsimp only
  rw [htake, hdrop]

namespace Grammar

/-- Carving in one equation: a clause is told by its first token, split
off, and the rest is carved. -/
theorem carve_cons (first : String) (tail : List String) :
    carve (first :: tail) = match clauseFor? first with
      | none => ([], some (.unexpected first))
      | some (kind, clause) =>
        match clause.extract (first :: tail) with
        | .error e => ([], some e)
        | .ok (tokens, remainder) =>
          (⟨kind, first, tokens, tokens.drop clause.start.length⟩ :: (carve remainder).1,
            (carve remainder).2) := by
  rw [carve]
  split
  · next hnone => rw [hnone]
  · next hsome =>
    rw [hsome]
    dsimp only
    split
    · next herror => rw [herror]
    · next hok => rw [hok]

/-- The first clause of a statement is carved off. -/
theorem carve_append {kind : ClauseKind} {clause : Clause} {first : String}
    {more body rest : List String} (hclause : clauseFor? first = some (kind, clause))
    (hwords : clause.begins (first :: more) = true)
    (hlength : (first :: more).length = clause.start.length)
    (hbody : ∀ t ∈ body, clause.isTerminator t = false)
    (hrest : ∀ t, rest.head? = some t → clause.isTerminator t = true) :
    carve (first :: more ++ (body ++ rest))
      = (⟨kind, first, first :: more ++ body, body⟩ :: (carve rest).1, (carve rest).2) := by
  have hextract := Clause.extract_append hwords hlength hbody hrest
  rw [List.cons_append, carve_cons, hclause]
  dsimp only
  rw [← List.cons_append, hextract]
  dsimp only
  rw [← hlength, List.drop_left]

/-- So it is if its keywords are written as the clause has them. -/
theorem carve_clause {kind : ClauseKind} {clause : Clause} {first : String}
    {more body rest : List String} (hclause : clauseFor? first = some (kind, clause))
    (hstart : clause.start = first :: more)
    (hbody : ∀ t ∈ body, clause.isTerminator t = false)
    (hrest : ∀ t, rest.head? = some t → clause.isTerminator t = true) :
    carve (clause.start ++ (body ++ rest))
      = (⟨kind, first, clause.start ++ body, body⟩ :: (carve rest).1,
        (carve rest).2) := by
  have hwords := clause.begins_start
  rw [hstart] at hwords ⊢
  exact carve_append hclause hwords (congrArg List.length hstart.symm) hbody hrest

end Grammar

namespace Statement

/-- Reads the clauses that the tokens are carved into. -/
def Draft.read (d : Draft) (tokens : List String) : Result Draft := do
  let (parts, failure) := Grammar.carve tokens
  let d ← parts.foldlM Draft.add d
  match failure with
  | some e => throw e
  | none => return d

/-- A statement is read into an empty draft. -/
theorem draft_eq_read (tokens : List String) :
    draft tokens = Draft.read ⟨none, [], []⟩ tokens :=
  rfl

/-- Nothing is read from nothing. -/
theorem read_nil (d : Draft) : d.read [] = .ok d := by
  unfold Draft.read
  rw [Grammar.carve]
  rfl

/-- The first clause is read or refused, and then the others are read. -/
theorem read_clause_eq_bind {d : Draft} {kind : ClauseKind} {clause : Clause} {first : String}
    {more body rest : List String}
    (hclause : Grammar.clauseFor? first = some (kind, clause))
    (hstart : clause.start = first :: more)
    (hbody : ∀ t ∈ body, clause.isTerminator t = false)
    (hrest : ∀ t, rest.head? = some t → clause.isTerminator t = true) :
    d.read (clause.start ++ (body ++ rest))
      = d.add ⟨kind, first, clause.start ++ body, body⟩ >>= (·.read rest) := by
  unfold Draft.read
  rw [Grammar.carve_clause hclause hstart hbody hrest]
  dsimp only
  rw [List.foldlM_cons, bind_assoc]

/-- The first clause is read, and then the others. -/
theorem read_clause {d d' : Draft} {kind : ClauseKind} {clause : Clause} {first : String}
    {more body rest : List String}
    (hclause : Grammar.clauseFor? first = some (kind, clause))
    (hstart : clause.start = first :: more)
    (hbody : ∀ t ∈ body, clause.isTerminator t = false)
    (hrest : ∀ t, rest.head? = some t → clause.isTerminator t = true)
    (hadd : d.add ⟨kind, first, clause.start ++ body, body⟩ = .ok d') :
    d.read (clause.start ++ (body ++ rest)) = d'.read rest := by
  rw [read_clause_eq_bind hclause hstart hbody hrest, hadd]
  rfl

-- =============================================================== names

/-- A name is small, so it is its own lowercase. -/
theorem lowercase_of_isName {s : String} (h : isName s = true) : lowercase s = s :=
  lowercase_of_isSmall fun c hc => (nameChar_of_isName h c hc).small

/-- A name may be an alias: it begins with a letter or underscore and goes
on with what names go on with. -/
theorem isIdentifier_of_isName {s : String} (h : isName s = true) :
    isIdentifier s = true := by
  obtain ⟨c, rest, htext, hc, hchars⟩ := exists_of_isName h
  obtain ⟨-, hstart⟩ := nameStart hc
  rw [htext, List.forall_mem_cons] at hchars
  unfold isIdentifier
  rw [htext]
  dsimp only
  rw [hstart, Bool.true_and, List.all_eq_true]
  exact fun d hd => (hchars.2 d hd).named

/-- A name has no blanks to trim and no extension to drop. -/
theorem relationName_of_isName {s : String} (h : isName s = true) :
    relationName s = s := by
  have hchars := nameChar_of_isName h
  have hstart : ∀ cs : List Char, (∀ c ∈ cs, NameChar c) → cs.dropWhile isBlank = cs := by
    intro cs hcs
    rw [List.dropWhile_eq_self_iff]
    intro hlength
    rw [(hcs _ (List.getElem_mem hlength)).blank]
    exact Bool.false_ne_true
  -- no blank at either end
  have htrim : trim s = s := by
    unfold trim trimEnd trimStart
    rw [hstart _ hchars, hstart _ fun c hc => hchars c (List.mem_reverse.1 hc),
      List.reverse_reverse, String.ofList_toList]
  -- and no dot, which an extension begins with
  have hextension : s.toList.drop (s.toList.length - 4) ≠ ['.', 'c', 's', 'v'] := by
    intro hdrop
    have hpoint : '.' ∈ s.toList.drop (s.toList.length - 4) := by
      rw [hdrop]
      exact List.mem_cons_self ..
    exact (hchars '.' (List.mem_of_mem_drop hpoint)).point rfl
  rw [relationName, htrim, lowercase_of_isName h, dropExtension,
    decide_eq_false hextension, Bool.and_false, if_neg Bool.false_ne_true,
    String.ofList_toList]

/-- A relation printed with its alias is read as it was. -/
theorem source_printed {name aliasName : String} (hname : isFreeName name = true)
    (halias : isFreeName aliasName = true)
    (hletter : name.toList.any isAlphanumeric = true)
    (role : Role) (clause : List String) :
    source role clause [name, aliasName] = .ok ⟨role, name, aliasName⟩ := by
  have hidentifier := isIdentifier_of_isName (isName_of_isFreeName halias)
  obtain ⟨hliteral, -⟩ := isLiteral_of_isWord (isWord_of_isFreeName hname)
  unfold source splitAlias
  rw [ok_bind]
  dsimp only
  rw [hliteral, hletter, hidentifier, relationName_of_isName (isName_of_isFreeName hname),
    lowercase_of_isName (isName_of_isFreeName halias)]
  rfl

-- =========================================================== relations

/-- What the clause of a relation is. -/
def roleKind : Role → ClauseKind
  | .leading => .leading
  | role => .join role

/-- A relation's clause is told by the first word of its role, and all of
them end at the same keywords. -/
theorem clauseFor_role (role : Role) :
    ∃ first more clause, role.tokens = first :: more
      ∧ Grammar.clauseFor? first = some (roleKind role, clause)
      ∧ clause.start = role.tokens ∧ clause.terminators = Grammar.joinTerminators := by
  cases role with
  | leading =>
      exact ⟨"from", [], .ofKeywords ["from"] Grammar.joinTerminators, rfl, by decide +kernel,
        by decide +kernel, by decide +kernel⟩
  | inner =>
      exact ⟨"inner", ["join"], .ofKeywords ["inner", "join"] Grammar.joinTerminators,
        rfl,
        by decide +kernel, by decide +kernel, by decide +kernel⟩
  | full =>
      exact ⟨"full", ["join"], .ofKeywords ["full", "join"] Grammar.joinTerminators, rfl,
        by decide +kernel, by decide +kernel, by decide +kernel⟩

/-- What a printed relation may be followed by. -/
def Closing (rest : List String) : Prop :=
  ∀ t, rest.head? = some t → t ∈ Grammar.joinTerminators

/-- Joined relations are followed by the keyword of the next one, or by
what follows the last. -/
theorem closing_relations {rs : List Relation}
    (hroles : ∀ r ∈ rs, r.role = .inner ∨ r.role = .full)
    {rest : List String} (hrest : Closing rest) :
    Closing (rs.flatMap Relation.tokens ++ rest) := by
  cases rs with
  | nil => exact hrest
  | cons r rs =>
      intro t ht
      unfold Relation.tokens at ht
      rcases hroles r (List.mem_cons_self ..) with hrole | hrole
      · rw [List.flatMap_cons, hrole] at ht
        rw [← Option.some.inj ht]
        decide
      · rw [List.flatMap_cons, hrole] at ht
        rw [← Option.some.inj ht]
        decide

/-- The clause of one relation is read, if the draft takes it. -/
theorem read_relation {d d' : Draft} {r : Relation} (hname : isFreeName r.name = true)
    (halias : isFreeName r.aliasName = true)
    (hadd : ∀ first, d.add ⟨roleKind r.role, first, r.tokens, [r.name, r.aliasName]⟩
      = .ok d')
    {rest : List String} (hrest : Closing rest) :
    d.read (r.tokens ++ rest) = d'.read rest := by
  obtain ⟨first, more, clause, htokens, hclause, hstart, hterminators⟩ :=
    clauseFor_role r.role
  have hsub : clause.terminators ⊆ keywords := by
    rw [hterminators]
    decide
  have hbody : ∀ t ∈ [r.name, r.aliasName], clause.isTerminator t = false := by
    intro t ht
    rcases List.mem_pair.1 ht with rfl | rfl
    · exact isTerminator_eq_false hsub (inert_of_isFreeName hname)
    · exact isTerminator_eq_false hsub (inert_of_isFreeName halias)
  have hend : ∀ t, rest.head? = some t → clause.isTerminator t = true :=
    fun t ht => isTerminator_of_mem (hterminators ▸ hrest t ht)
  have hadd' := hadd first
  unfold Relation.tokens at hadd' ⊢
  rw [← hstart] at hadd' ⊢
  rw [List.append_assoc]
  exact read_clause hclause (hstart.trans htokens) hbody hend hadd'

/-- Neither name nor alias is `on`, so the join has no conditions of its
own. -/
theorem splitOn_printed {name aliasName : String} (hname : isFreeName name = true)
    (halias : isFreeName aliasName = true) :
    splitOn [name, aliasName] = ([name, aliasName], none) := by
  have hon : "on" ∈ keywords := by decide
  unfold splitOn
  rw [List.dropWhile_cons_of_pos (by rw [inert_of_isFreeName hname "on" hon]; rfl),
    List.dropWhile_cons_of_pos (by rw [inert_of_isFreeName halias "on" hon]; rfl)]
  rfl

/-- A draft with relations takes every joined one. -/
theorem add_join {d : Draft} (hsources : d.sources ≠ []) {r : Relation}
    (hrole : r.role = .inner ∨ r.role = .full)
    (hname : isFreeName r.name = true) (halias : isFreeName r.aliasName = true)
    (hletter : r.name.toList.any isAlphanumeric = true) (first : String) :
    d.add ⟨roleKind r.role, first, r.tokens, [r.name, r.aliasName]⟩
      = .ok { d with sources := d.sources ++ [r.source] } := by
  have hkind : roleKind r.role = .join r.role := by
    rcases hrole with h | h
    · rw [h]
      rfl
    · rw [h]
      rfl
  have hempty : d.sources.isEmpty = false := by rwa [List.isEmpty_eq_false_iff]
  unfold Draft.add
  rw [hkind]
  dsimp only
  rw [hempty, if_neg Bool.false_ne_true, splitOn_printed hname halias]
  dsimp only
  rw [source_printed hname halias hletter, ok_bind]
  show Except.ok { d with sources := d.sources ++ [r.source], groups := d.groups ++ [] } = _
  rw [List.append_nil]

/-- Joined relations are read one after the other, and the draft has them
in order. -/
theorem read_joins {rs : List Relation}
    (hroles : ∀ r ∈ rs, r.role = .inner ∨ r.role = .full)
    (hnames : ∀ r ∈ rs, isFreeName r.name = true ∧ isFreeName r.aliasName = true)
    (hletter : ∀ r ∈ rs, r.name.toList.any isAlphanumeric = true) {d : Draft}
    (hsources : d.sources ≠ []) {rest : List String} (hrest : Closing rest) :
    d.read (rs.flatMap Relation.tokens ++ rest)
      = Draft.read { d with sources := d.sources ++ rs.map Relation.source } rest := by
  -- the draft grows with every relation, and its relations never become
  -- none
  induction rs generalizing d with
  | nil =>
      rw [List.map_nil, List.append_nil]
      rfl
  | cons r rs ih =>
      obtain ⟨hrole, hroles⟩ := List.forall_mem_cons.1 hroles
      obtain ⟨⟨hname, halias⟩, hnames⟩ := List.forall_mem_cons.1 hnames
      obtain ⟨hletter₁, hletter⟩ := List.forall_mem_cons.1 hletter
      rw [List.flatMap_cons, List.append_assoc, read_relation hname halias
        (add_join hsources hrole hname halias hletter₁) (closing_relations hroles hrest),
        ih hroles hnames hletter (List.append_ne_nil_of_left_ne_nil hsources _)]
      rw [List.append_assoc]
      rfl

end Statement

end FlatQuery
