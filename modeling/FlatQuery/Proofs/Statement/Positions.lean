/-
Reading a statement by position. `parseAt` is the reader of statements
as one over arrays of tokens is written: one loop over what is left of
the statement, in which clauses are cut off at a number of tokens and
tokens are looked up by their number. A number beyond the end of its
list leaves it without an outcome (`none`).

That never happens: on every text it has an outcome, the same as
`Query.parse` (`parseAt_eq`). The bounds come from the clauses. A clause
begins with its keywords, so there are as many tokens to pass over, and
it ends at a token that was found or where the list ends.

Behind the clauses no list of tokens is indexed: select lists and
conditions are taken apart by their shape.
-/
import FlatQuery.Proofs.Statement.Clauses

namespace FlatQuery

open Text Token Result

-- ============================================================ outcomes

/-- A computation that may fail, and has no outcome if it reaches
outside of a list. -/
abbrev Guarded := ExceptT Error Option

namespace Guarded

variable {α β : Type}

/-- A computation that reaches outside of no list. -/
def done (x : Result α) : Guarded α := ExceptT.mk (some x)

/-- Steps that stay inside stay inside in a row. -/
theorem done_bind (x : Result α) (f : α → Result β) :
    done (x >>= f) = done x >>= fun a => done (f a) := by
  cases x with
  | error e => rfl
  | ok a => rfl

/-- A choice stays inside if both ways do. -/
theorem ite_eq_done {c : Prop} [Decidable c] {x y : Guarded α} {x' y' : Result α}
    (hx : x = done x') (hy : y = done y') :
    (if c then x else y) = done (if c then x' else y') := by
  rw [hx, hy, apply_ite done]

/-- Cuts a list in two at a position. -/
def cut? (l : List α) (position : Nat) : Option (List α × List α) :=
  if position ≤ l.length then some (l.take position, l.drop position) else none

/-- A cut at a position inside the list is made. -/
theorem cut?_eq {l : List α} {position : Nat} (h : position ≤ l.length) :
    cut? l position = some (l.take position, l.drop position) := if_pos h

end Guarded

open Guarded

-- ============================================================= clauses

namespace Clause

variable {clause : Clause} {tokens : List String}

/-- How many of the tokens are the clause's, given those behind its
keywords: as many as there are before the first that ends it. -/
def extent (clause : Clause) (tokens behind : List String) : Nat :=
  match behind.findIdx? clause.isTerminator with
  | some i => i + clause.start.length
  | none => tokens.length

/-- Splits the clause off. -/
def extractAt (clause : Clause) (tokens : List String) :
    Guarded (List String × List String) :=
  if clause.begins tokens then do
    let (_, behind) ← cut? tokens clause.start.length
    let (part, remainder) ← cut? tokens (clause.extent tokens behind)
    return (part, remainder)
  else throw (.unexpected (near tokens clause.start.length))

/-- A clause that begins has tokens for all its keywords. -/
theorem length_le_of_begins (h : clause.begins tokens = true) :
    clause.start.length ≤ tokens.length := by
  unfold begins at h
  rw [Bool.and_eq_true, decide_eq_true_eq] at h
  exact h.1

/-- The extent, counted from the end of the keywords, is the place of the
first terminator. -/
theorem extent_drop (h : clause.begins tokens = true) :
    clause.extent tokens (tokens.drop clause.start.length)
      = clause.start.length
        + (tokens.drop clause.start.length).findIdx clause.isTerminator := by
  have hlength := length_le_of_begins h
  unfold extent
  cases hfind : (tokens.drop clause.start.length).findIdx? clause.isTerminator with
  | some i =>
      rw [(List.findIdx?_eq_some_iff_findIdx_eq.1 hfind).2]
      exact Nat.add_comm ..
  | none =>
      rw [List.findIdx?_eq_none_iff_findIdx_eq.1 hfind, List.length_drop]
      dsimp only
      omega

/-- No clause is longer than the tokens there are. -/
theorem extent_le (h : clause.begins tokens = true) :
    clause.extent tokens (tokens.drop clause.start.length) ≤ tokens.length := by
  have hlength := length_le_of_begins h
  have hfind : (tokens.drop clause.start.length).findIdx clause.isTerminator
      ≤ (tokens.drop clause.start.length).length := List.findIdx_le_length
  rw [List.length_drop] at hfind
  rw [extent_drop h]
  omega

/-- What is split off has the keywords at least. -/
theorem length_le_of_extract {part remainder : List String}
    (h : clause.extract tokens = .ok (part, remainder)) :
    clause.start.length ≤ part.length := by
  unfold extract at h
  split at h
  · next hbegins =>
    cases h
    have hlength := length_le_of_begins hbegins
    rw [List.length_append, List.length_take]
    omega
  · cases h

/-- Splitting a clause off cuts at two positions, and both are inside. -/
theorem extractAt_eq (clause : Clause) (tokens : List String) :
    clause.extractAt tokens = done (clause.extract tokens) := by
  unfold extractAt
  by_cases h : clause.begins tokens = true
  -- first behind the keywords, then in front of the terminator
  · rw [if_pos h, cut?_eq (length_le_of_begins h)]
    have hextract : clause.extract tokens
        = .ok (tokens.take (clause.extent tokens (tokens.drop clause.start.length)),
          tokens.drop (clause.extent tokens (tokens.drop clause.start.length))) := by
      have hnot : (fun t => !!clause.isTerminator t) = clause.isTerminator :=
        funext fun t => Bool.not_not _
      unfold extract
      rw [if_pos h, extent_drop h, List.take_add, ← List.drop_drop]
      dsimp only
      rw [List.takeWhile_eq_take_findIdx_not, List.dropWhile_eq_drop_findIdx_not, hnot]
    rw [hextract]
    show (liftM (cut? tokens _) >>= _ : Guarded _) = _
    rw [cut?_eq (extent_le h)]
    rfl
  · unfold extract
    rw [if_neg h, if_neg h]
    rfl

end Clause

namespace Statement

-- =========================================================== relations

/-- Splits a join's body at its first `on`. -/
def splitOnAt (body : List String) : Option (List String × Option (List String)) :=
  match body.findIdx? (sameFolded · "on") with
  | none => some (body, none)
  | some i => do
    let (relation, _) ← cut? body i
    let (_, conditions) ← cut? body (i + 1)
    return (relation, some conditions)

/-- The body of a join is cut at its `on` and behind it. -/
theorem splitOnAt_eq (body : List String) : splitOnAt body = some (splitOn body) := by
  have hnot : (fun t => !!sameFolded t "on") = (sameFolded · "on") :=
    funext fun t => Bool.not_not _
  unfold splitOnAt splitOn
  rw [List.takeWhile_eq_take_findIdx_not, List.dropWhile_eq_drop_findIdx_not, hnot]
  cases hfind : body.findIdx? (sameFolded · "on") with
  | none =>
      rw [List.findIdx?_eq_none_iff_findIdx_eq.1 hfind, List.drop_length]
  -- the place of `on` is a place of the list, so the cut behind it is
  -- inside too
  | some i =>
      obtain ⟨hi, hindex⟩ := List.findIdx?_eq_some_iff_findIdx_eq.1 hfind
      dsimp only
      rw [hindex, cut?_eq (Nat.le_of_lt hi), cut?_eq hi, List.drop_eq_getElem_cons hi]
      rfl

/-- Splits a relation from its alias. Of too many tokens with `as` the
fourth is blamed. -/
def splitAliasAt (clause : List String) (tokens : List String) :
    Guarded (String × Option String) :=
  match tokens with
  | [] => throw (.unexpected (" ".intercalate clause))
  | [name] => return (name, none)
  | [name, aliasName] => return (name, some aliasName)
  | name :: keyword :: third :: rest =>
    if sameFolded keyword "as" then
      if rest.isEmpty then return (name, some third)
      else do
        let fourth ← (tokens[3]? : Option String)
        throw (.unexpected fourth)
    else throw (.unexpected third)

/-- Only the fourth token is asked for by its position, and only where
there is one. -/
theorem splitAliasAt_eq (clause tokens : List String) :
    splitAliasAt clause tokens = done (splitAlias clause tokens) := by
  match tokens with
  | [] => rfl
  | [name] => rfl
  | [name, aliasName] => rfl
  | [name, keyword, third] =>
      unfold splitAliasAt splitAlias
      exact ite_eq_done rfl rfl
  | name :: keyword :: third :: fourth :: rest =>
      unfold splitAliasAt splitAlias
      dsimp only
      rw [apply_ite Error.unexpected, apply_ite Except.error]
      exact ite_eq_done rfl rfl

/-- Reads a relation. -/
def sourceAt (role : Role) (clause body : List String) : Guarded Source := do
  let (token, aliasName) ← splitAliasAt clause body
  if isLiteral token || !token.toList.any isAlphanumeric then
    throw (.unexpected token)
  let name := relationName token
  match aliasName with
  | none => return ⟨role, name, name⟩
  | some aliasName =>
    if isIdentifier aliasName then return ⟨role, name, lowercase aliasName⟩
    else throw (.unexpected aliasName)

/-- A relation is read without looking outside. -/
theorem sourceAt_eq (role : Role) (clause body : List String) :
    sourceAt role clause body = done (source role clause body) := by
  unfold sourceAt source
  rw [splitAliasAt_eq, done_bind]
  refine bind_congr fun ⟨token, aliasName⟩ => ?_
  dsimp only
  refine ite_eq_done rfl ?_
  cases aliasName with
  | none => rfl
  | some aliasName => exact ite_eq_done rfl rfl

-- ============================================================ the loop

/-- Reads one clause. -/
def Draft.addAt (d : Draft) (part : Grammar.Part) : Guarded Draft :=
  let misplaced := throw (.unexpected part.keyword)
  match part.kind with
  | .projection =>
    if d.projection.isNone then return { d with projection := some part.body } else misplaced
  | .leading =>
    if d.projection.isSome && d.sources.isEmpty then do
      let s ← sourceAt .leading part.tokens part.body
      return { d with sources := [s] }
    else misplaced
  | .join role =>
    if d.sources.isEmpty then misplaced
    else do
      let (relation, conditions) ← splitOnAt part.body
      let s ← sourceAt role part.tokens relation
      let groups ← done <| match conditions with
        | none => pure []
        | some tokens => (nonEmpty "on" tokens).map ([·])
      return { d with sources := d.sources ++ [s], groups := d.groups ++ groups }
  | .filter =>
    if d.sources.isEmpty then misplaced
    else do
      let tokens ← done (nonEmpty part.keyword part.body)
      return { d with groups := d.groups ++ [tokens] }
  | .unsupported feature => throw (.unsupported feature)

/-- So is every clause, whatever its kind. -/
theorem Draft.addAt_eq (d : Draft) (part : Grammar.Part) :
    d.addAt part = done (d.add part) := by
  unfold addAt add
  cases part.kind with
  | projection => exact ite_eq_done rfl rfl
  | leading =>
      refine ite_eq_done ?_ rfl
      rw [sourceAt_eq, done_bind]
      rfl
  | join role =>
      refine ite_eq_done rfl ?_
      rw [splitOnAt_eq]
      obtain ⟨relation, conditions⟩ := splitOn part.body
      show (sourceAt role part.tokens relation >>= _) = _
      rw [sourceAt_eq, done_bind]
      refine bind_congr fun s => ?_
      cases conditions with
      | none => rfl
      | some tokens =>
          dsimp only
          rw [done_bind]
          rfl
  | filter =>
      refine ite_eq_done rfl ?_
      rw [done_bind]
      rfl
  | unsupported feature => rfl

/-- Reads the clauses that are left. -/
def Draft.readAt (d : Draft) : List String → Guarded Draft
  | [] => return d
  | first :: tail =>
    match _hg : Grammar.clauseFor? first with
    | none => throw (.unexpected first)
    | some (kind, clause) =>
      match _hx : (clause.extractAt (first :: tail)).run with
      | none => none
      | some (.error e) => throw e
      | some (.ok (part, remainder)) => do
        let (_, body) ← cut? part clause.start.length
        let d ← d.addAt ⟨kind, first, part, body⟩
        d.readAt remainder
termination_by tokens => tokens.length
decreasing_by
  rw [Clause.extractAt_eq] at _hx
  exact Grammar.length_lt_of_extract (Grammar.start_ne_nil _hg) (Option.some.inj _hx)

/-- How the loop goes on behind a keyword. -/
theorem Draft.readAt_cons {first : String} {kind : ClauseKind} {clause : Clause}
    (hclause : Grammar.clauseFor? first = some (kind, clause)) (d : Draft)
    (tail : List String) :
    d.readAt (first :: tail) = (do
      let (part, remainder) ← done (clause.extract (first :: tail))
      let d ← done (d.add ⟨kind, first, part, part.drop clause.start.length⟩)
      d.readAt remainder) := by
  rw [readAt]
  split
  · next hnone =>
    rw [hclause] at hnone
    cases hnone
  · next kind' clause' hsome =>
    rw [hclause] at hsome
    cases hsome
    have hrun : (clause.extractAt (first :: tail)).run
        = some (clause.extract (first :: tail)) := by
      rw [Clause.extractAt_eq]
      rfl
    split
    · next hx =>
      rw [hrun] at hx
      cases hx
    · next e hx =>
      rw [hrun] at hx
      rw [Option.some.inj hx]
      rfl
    · next part remainder hx =>
      rw [hrun] at hx
      have hextract := Option.some.inj hx
      rw [cut?_eq (Clause.length_le_of_extract hextract), hextract]
      show (d.addAt _ >>= _) = _
      rw [addAt_eq]
      rfl

/-- And so is a whole statement, by the recursion of its carving. -/
theorem Draft.readAt_eq (d : Draft) (tokens : List String) :
    d.readAt tokens = done (d.read tokens) := by
  unfold read
  fun_induction Grammar.carve tokens generalizing d with
  | case1 =>
      rw [readAt]
      rfl
  | case2 first tail hclause =>
      rw [readAt]
      split
      · rfl
      · next hsome =>
        rw [hclause] at hsome
        cases hsome
  | case3 first tail kind clause hclause e hextract =>
      rw [readAt_cons hclause, hextract]
      rfl
  | case4 first tail kind clause hclause part remainder hextract parts failure hcarve ih =>
      rw [hcarve] at ih
      rw [readAt_cons hclause, hextract]
      dsimp only
      rw [List.foldlM_cons, bind_assoc, done_bind]
      show (done (d.add _) >>= fun d' => d'.readAt remainder) = _
      refine bind_congr fun d' => ?_
      exact ih d'

end Statement

/-- Reads the query that a text describes. -/
def Query.parseAt (text : String) : Guarded Query := do
  let tokens ← done (tokenize text)
  let d ← Statement.Draft.readAt ⟨none, [], []⟩ (Statement.dropSemicolons tokens)
  done d.toQuery

/-- No step of reading a statement reaches outside of its tokens. -/
theorem Query.parseAt_eq (text : String) : parseAt text = done (parse text) := by
  unfold parseAt parse
  rw [done_bind]
  refine bind_congr fun tokens => ?_
  rw [Statement.Draft.readAt_eq, ← Statement.draft_eq_read, ← done_bind]

end FlatQuery
