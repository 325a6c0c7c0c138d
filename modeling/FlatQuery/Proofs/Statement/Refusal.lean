/-
Why texts are refused: for a word out of place, for what is not
supported, or for a name that is defined twice or not at all
(`failsAs_parse`). Every reader of a part of a statement has a lemma of
its own, and a reader made of others fails as one of them does.
-/
import FlatQuery.Proofs.Failure
import FlatQuery.Proofs.Statement.Stages

namespace FlatQuery

open Text Token Result

-- ============================================================ refusals

/-- Why a text is no statement. -/
inductive Refusal : Error → Prop where
  | unexpected (near : String) : Refusal (.unexpected near)
  | unsupported (feature : Feature) : Refusal (.unsupported feature)
  | ambiguous (kind : Ambiguity) (name : String) : Refusal (.ambiguous kind name)
  | unknown (name : String) : Refusal (.relationNotFound name)

namespace Token

/-- A character that begins no token is blamed alone, an unclosed literal
or bracketed name with all that follows it. -/
theorem failsAs_lexeme (c : Char) (rest : List Char) : FailsAs Refusal (lexeme c rest) := by
  unfold lexeme
  split
  · exact failsAs_ok _
  split
  · exact failsAs_ok _
  split
  · exact failsAs_ok _
  -- from here on the two lexemes that need their end, a literal and a
  -- bracketed name
  split
  · split
    · exact failsAs_ok _
    · exact failsAs_error (.unexpected _)
  split
  · split
    · exact failsAs_ok _
    · exact failsAs_error (.unexpected _)
  -- numbers and words end by themselves
  split
  · exact failsAs_ok _
  split
  · exact failsAs_ok _
  split
  · exact failsAs_ok _
  · exact failsAs_error (.unexpected _)

/-- The error a scan stops at is that of the lexeme there; the tokens
before it do not matter. -/
theorem refusal_of_scan {cs : List Char} {e : Error} (h : (scan cs).2 = some e) :
    Refusal e := by
  fun_induction scan cs with
  | case1 cs e' hnext =>
      cases h
      revert hnext
      -- only a lexeme fails; blanks alone are the end of the text
      fun_cases next cs with
      | case1 => exact nofun
      | case2 c rest => exact fun hnext => (failsAs_lexeme c rest).map some e hnext
  | case2 => cases h
  | case3 cs token after hnext tokens failure hscan ih =>
      rw [hscan] at ih
      exact ih h

/-- A text is refused as a whole at its first place that begins no
token. -/
theorem failsAs_tokenize (text : String) : FailsAs Refusal (tokenize text) := by
  unfold tokenize
  split
  · exact failsAs_ok _
  · next e hscan => exact failsAs_error (refusal_of_scan (by rw [hscan]))

end Token

namespace Statement

/-- The name of a relation is followed by nothing, an alias, or `as` and
an alias; a longer body is blamed on the first word too many. -/
theorem failsAs_splitAlias (clause tokens : List String) :
    FailsAs Refusal (splitAlias clause tokens) := by
  unfold splitAlias
  split
  · exact failsAs_ok _
  · exact failsAs_ok _
  · split
    · exact failsAs_ok _
    · exact failsAs_error (.unexpected _)
  · exact failsAs_error (.unexpected _)
  · exact failsAs_error (.unexpected _)

/-- A relation is refused for its name or its alias; that the two are well
spelled is not enough for the catalogue to have it. -/
theorem failsAs_source (role : Role) (clause body : List String) :
    FailsAs Refusal (source role clause body) := by
  unfold source
  refine (failsAs_splitAlias clause body).bind fun ⟨token, aliasName⟩ _ => ?_
  dsimp only
  split
  · exact failsAs_error (.unexpected _)
  · cases aliasName with
    | none => exact failsAs_ok _
    | some aliasName =>
        dsimp only
        split
        · exact failsAs_ok _
        · exact failsAs_error (.unexpected _)

/-- An empty condition list is blamed on its keyword. -/
theorem failsAs_nonEmpty (keyword : String) (tokens : List String) :
    FailsAs Refusal (nonEmpty keyword tokens) := by
  unfold nonEmpty
  split
  · exact failsAs_error (.unexpected _)
  · exact failsAs_ok _

/-- One clause: it is out of place, its body is refused, or it is of a
kind that is not supported. -/
theorem Draft.failsAs_add (d : Draft) (part : Grammar.Part) :
    FailsAs Refusal (d.add part) := by
  unfold add
  dsimp only
  split
  -- the select list, which comes once
  · split
    · exact failsAs_ok _
    · exact failsAs_error (.unexpected _)
  -- the relation of FROM, which comes once and after the select list
  · split
    · exact (failsAs_source _ _ _).bind fun s _ => failsAs_ok _
    · exact failsAs_error (.unexpected _)
  -- a join; its conditions may be missing, but not empty
  · split
    · exact failsAs_error (.unexpected _)
    · refine (failsAs_source _ _ _).bind fun s _ => ?_
      cases (splitOn part.body).2 with
      | none => exact failsAs_ok _
      | some tokens =>
          exact ((failsAs_nonEmpty "on" tokens).map _).bind fun groups _ => failsAs_ok _
  -- the conditions of WHERE
  · split
    · exact failsAs_error (.unexpected _)
    · exact (failsAs_nonEmpty _ _).bind fun tokens _ => failsAs_ok _
  · exact failsAs_error (.unsupported _)

/-- Carving stops at a word that begins no clause, or at a clause whose
keyword is cut off, and blames it. -/
theorem refusal_of_carve {tokens : List String} {e : Error}
    (h : (Grammar.carve tokens).2 = some e) : Refusal e := by
  fun_induction Grammar.carve tokens with
  | case1 => cases h
  | case2 first tail hclause =>
      cases h
      exact .unexpected first
  | case3 first tail kind clause hclause e' hextract =>
      cases h
      unfold Clause.extract at hextract
      split at hextract
      · cases hextract
      · cases hextract
        exact .unexpected _
  | case4 first tail kind clause hclause part remainder hextract parts failure hcarve ih =>
      rw [hcarve] at ih
      exact ih h

/-- What carving could not read is blamed last, after every clause that
was read. -/
theorem failsAs_draft (tokens : List String) : FailsAs Refusal (draft tokens) := by
  unfold draft
  dsimp only
  refine (failsAs_foldlM (fun part _ d => d.failsAs_add part) _).bind fun d _ => ?_
  split
  · next e hfailure => exact failsAs_error (refusal_of_carve hfailure)
  · exact failsAs_ok d

/-- An item is a column and perhaps `as` and a name; all else is blamed as
written. -/
theorem failsAs_item (tokens : List String) : FailsAs Refusal (item tokens) := by
  unfold item
  dsimp only
  split
  · exact failsAs_error (.unexpected _)
  · split
    · exact failsAs_error (.unexpected _)
    · exact failsAs_ok _
  · split
    · exact failsAs_ok _
    · exact failsAs_error (.unexpected _)
  · exact failsAs_error (.unexpected _)

/-- The select list is refused for its first refused item, or for being
empty. -/
theorem failsAs_items (tokens : List String) : FailsAs Refusal (items tokens) := by
  unfold items
  split
  · exact failsAs_ok _
  split
  · exact failsAs_error (.unexpected _)
  · exact (failsAs_mapM fun piece _ => failsAs_item piece).bind fun list _ => failsAs_ok _

/-- A column is refused for its spelling, for a relation the query does
not have, or, written bare, because there are several relations. -/
theorem failsAs_resolve (q : Query) (token : String) : FailsAs Refusal (resolve q token) := by
  unfold resolve
  dsimp only
  split
  · exact failsAs_error (.unexpected _)
  split
  -- with a dot: the relation is named, and must be one of the query
  · split
    · exact failsAs_error (.unexpected _)
    · split
      · exact failsAs_error (.unknown _)
      · exact failsAs_ok _
  -- bare: the relation is the only one
  split
  · exact failsAs_error (.unexpected _)
  · split
    · exact failsAs_ok _
    · exact failsAs_error (.ambiguous _ _)

end Statement

namespace Query

/-- A column is refused for an output name that is taken. -/
theorem failsAs_addProjection (q : Query) (c : Column) :
    FailsAs Refusal (accepted (q.addProjection c)) := by
  rw [addProjection_eq]
  split
  · exact failsAs_error (.ambiguous _ _)
  · exact failsAs_ok _

/-- A relation is refused for an alias that is taken. -/
theorem failsAs_addRelationWithRole (q : Query) (role : Role) (name aliasName : String) :
    FailsAs Refusal (accepted (q.addRelationWithRole role name aliasName)) := by
  rw [addRelationWithRole_eq]
  split
  · exact failsAs_error (.ambiguous _ _)
  · exact failsAs_ok _

end Query

namespace Statement

/-- An item is refused for its column or for its output name. -/
theorem failsAs_addItem (q : Query) (i : Item) : FailsAs Refusal (addItem q i) :=
  (failsAs_resolve q i.column).bind fun _ _ => q.failsAs_addProjection _

/-- The right side is refused only as a column; literals and numbers are
taken as they come. -/
theorem failsAs_operand (q : Query) (token : String) : FailsAs Refusal (operand q token) := by
  unfold operand
  split
  · exact failsAs_ok _
  split
  · exact failsAs_ok _
  · exact (failsAs_resolve q token).map _

/-- All but the three operators is blamed as it stands. -/
theorem failsAs_comparator (token : String) : FailsAs Refusal (comparator token) := by
  unfold comparator
  split
  · exact failsAs_ok _
  split
  · exact failsAs_ok _
  · exact failsAs_error (.unexpected _)

/-- All but the two connectives is blamed as it stands. -/
theorem failsAs_connective (token : String) : FailsAs Refusal (connective token) := by
  unfold connective
  split
  · exact failsAs_ok _
  split
  · exact failsAs_ok _
  · exact failsAs_error (.unexpected _)

/-- The first fault of a condition list counts: in each condition the
operator before the sides, and the connective after them. -/
theorem failsAs_conditions (q : Query) (first : Connective) (tokens : List String) :
    FailsAs Refusal (conditions q first tokens) := by
  fun_induction conditions q first tokens with
  | case1 first left operator right =>
      refine (failsAs_comparator operator).bind fun sign _ => ?_
      refine (failsAs_resolve q left).bind fun ref _ => ?_
      exact (failsAs_operand q right).bind fun side _ => failsAs_ok _
  | case2 first left operator right word rest ih =>
      refine (failsAs_comparator operator).bind fun sign _ => ?_
      refine (failsAs_resolve q left).bind fun ref _ => ?_
      refine (failsAs_operand q right).bind fun side _ => ?_
      refine (failsAs_connective word).bind fun next _ => ?_
      exact (ih next).bind fun following _ => failsAs_ok _
  | case3 => exact failsAs_error (.unexpected _)
  | case4 => exact failsAs_error (.unexpected _)

/-- The select list puts out columns only; a star never fails. -/
theorem failsAs_addItems (q : Query) (projection : List String) :
    FailsAs Refusal (addItems q projection) := by
  unfold addItems
  refine (failsAs_items projection).bind fun list _ => ?_
  cases list with
  | none => exact failsAs_ok _
  | some list => exact failsAs_foldlM (fun i _ q => failsAs_addItem q i) q

/-- A statement without a select list or without a relation ends too
early; else it is refused for a relation or for its select list. -/
theorem Draft.failsAs_outline (d : Draft) : FailsAs Refusal d.outline := by
  unfold outline
  split
  · exact failsAs_error (.unexpected _)
  · next projection _ =>
    split
    · exact failsAs_error (.unexpected _)
    · refine (failsAs_foldlM (fun s _ q => ?_) _).bind fun q _ => failsAs_addItems q projection
      exact q.failsAs_addRelationWithRole s.role s.name s.aliasName

/-- The conditions come last, each group resolved against all
relations. -/
theorem Draft.failsAs_toQuery (d : Draft) : FailsAs Refusal d.toQuery := by
  rw [toQuery_eq]
  refine d.failsAs_outline.bind fun q _ => failsAs_foldlM (fun tokens _ q => ?_) q
  exact (failsAs_conditions q .and tokens).bind fun terms _ => failsAs_ok _

end Statement

/-- Why a text is refused: the lexer, the clauses, and then the query that
they describe. -/
theorem Query.failsAs_parse (text : String) : FailsAs Refusal (parse text) := by
  unfold parse
  refine (failsAs_tokenize text).bind fun tokens _ => ?_
  exact (Statement.failsAs_draft _).bind fun d _ => d.failsAs_toQuery

end FlatQuery
