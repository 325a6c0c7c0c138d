/-
The clauses of a SELECT and where each one ends:

  select <item> [, <item>]* | *
  from <relation> [[as] <alias>]
  [ [inner | full] join <relation> [[as] <alias>] [on <conditions>] ]*
  [ where <conditions> ]

`carve` cuts a statement's tokens into its clauses by their leading
keywords alone. It ends because a clause takes its keywords with it.
-/
import FlatQuery.Clause
import FlatQuery.Query

namespace FlatQuery

open Text

/-- What a clause contributes to the query. -/
inductive ClauseKind where
  | projection
  | leading
  | join (role : Role)
  | filter
  | unsupported (feature : Feature)
  deriving DecidableEq, Repr

namespace Grammar

/-- The keywords that end the FROM clause and every join. -/
def joinTerminators : List String := ["inner", "left", "right", "full", "join", "where"]

/-- The kinds of clause under their leading keywords. -/
def clauses : List (String × ClauseKind × Clause) := [
  ("select", .projection, .ofKeywords ["select"] ["from"]),
  ("from", .leading, .ofKeywords ["from"] joinTerminators),
  ("inner", .join .inner, .ofKeywords ["inner", "join"] joinTerminators),
  ("join", .join .inner, .ofKeywords ["join"] joinTerminators),
  ("full", .join .full, .ofKeywords ["full", "join"] joinTerminators),
  ("left", .unsupported .leftJoin, .ofKeywords ["left", "join"] joinTerminators),
  ("right", .unsupported .rightJoin, .ofKeywords ["right", "join"] joinTerminators),
  ("where", .filter, .ofKeywords ["where"] [])]

/-- The kind of clause that a token leads in, in any case. -/
def clauseFor? (token : String) : Option (ClauseKind × Clause) :=
  clauses.lookup (lowercase token)

/-- A clause of a statement: its first token as written, all its tokens,
and those after its keywords. -/
structure Part where
  kind : ClauseKind
  keyword : String
  tokens : List String
  body : List String
  deriving DecidableEq, Repr

theorem start_ne_nil {token : String} {kind : ClauseKind} {clause : Clause}
    (h : clauseFor? token = some (kind, clause)) : clause.start ≠ [] := by
  have key : ∀ e ∈ clauses, e.2.2.start ≠ [] := by decide
  simp only [clauseFor?] at h
  generalize lowercase token = k at h
  revert key h
  generalize clauses = l
  intro key h
  induction l with
  | nil => simp at h
  | cons e rest ih =>
    rw [List.lookup_cons] at h
    split at h
    · exact (Option.some.inj h ▸ key e (List.mem_cons_self ..) :)
    · exact ih (fun e he => key e (List.mem_cons_of_mem _ he)) h

theorem length_lt_of_extract {clause : Clause} (hs : clause.start ≠ []) {first : String}
    {tail tokens remainder : List String}
    (h : clause.extract (first :: tail) = .ok (tokens, remainder)) :
    remainder.length < (first :: tail).length := by
  unfold Clause.extract at h
  split at h
  · simp only [Except.ok.injEq, Prod.mk.injEq] at h
    rw [← h.2]
    have hd := (List.dropWhile_sublist (fun t => !clause.isTerminator t)
      (l := (first :: tail).drop clause.start.length)).length_le
    have hpos := List.length_pos_iff.2 hs
    simp only [List.length_drop] at hd
    simp only [List.length_cons] at hd ⊢
    omega
  · simp at h

/-- The clauses of a statement up to the end or the first place that
begins none, and the error there. -/
def carve : List String → List Part × Option Error
  | [] => ([], none)
  | first :: tail =>
    match _hg : clauseFor? first with
    | none => ([], some (.unexpected first))
    | some (kind, clause) =>
      match _hx : clause.extract (first :: tail) with
      | .error e => ([], some e)
      | .ok (tokens, remainder) =>
        let (parts, failure) := carve remainder
        (⟨kind, first, tokens, tokens.drop clause.start.length⟩ :: parts, failure)
termination_by tokens => tokens.length
decreasing_by exact length_lt_of_extract (start_ne_nil ‹_›) ‹_›

end Grammar

end FlatQuery
