/-
Statements with a place for a literal. What keeps a literal apart from
the rest of a statement is that its quotes tell it in every place, and
that it is anything else in none (`Quoted`): no keyword, name, operator
or column.

So the tokens of a statement are cut into the same clauses whatever the
literal, which stands in the body of one of them (`carve_slot`). This is
said for a whole family of literals at once: if one of them is read,
all are, and alike.
-/
import FlatQuery.Proofs.Statement.Clauses
import FlatQuery.Proofs.Token.Continuation

namespace FlatQuery

open Text Token Result

-- ============================================================ literals

/-- A literal between single quotes. -/
structure Quoted (token : String) : Prop where
  literal : isLiteral token = true
  begins : ∃ rest, token.toList = '\'' :: rest

/-- What an operand of text is written as. -/
theorem quoted_text (value : String) : Quoted (Operand.text value).toText :=
  ⟨(unquote_literal value).1, _, toList_literal value⟩

namespace Quoted

variable {token : String}

/-- Lowercasing a literal keeps its first quote. -/
theorem lowercase_ne (h : Quoted token) {word : String} (hword : word.toList.head? ≠ some '\'') :
    lowercase token ≠ word := by
  rintro rfl
  obtain ⟨rest, htext⟩ := h.begins
  refine hword ?_
  rw [lowercase, String.toList_ofList, htext]
  rfl

/-- No other token is a literal. -/
theorem ne_of_head? (h : Quoted token) {word : String} (hword : word.toList.head? ≠ some '\'') :
    token ≠ word := by
  rintro rfl
  obtain ⟨rest, htext⟩ := h.begins
  rw [htext] at hword
  exact hword rfl

/-- A keyword has no quote in it. -/
theorem inert (h : Quoted token) : Inert token := by
  obtain ⟨rest, htext⟩ := h.begins
  refine inert_of_mem (c := '\'') ?_ (by decide +kernel)
  rw [htext]
  exact List.mem_cons_self ..

/-- No clause begins with a literal. -/
theorem clauseFor?_eq_none (h : Quoted token) : Grammar.clauseFor? token = none := by
  have hnames : ∀ e ∈ Grammar.clauses, e.1.toList.head? ≠ some '\'' := by decide +kernel
  unfold Grammar.clauseFor?
  rw [List.lookup_eq_none_iff]
  intro e he
  exact bne_iff_ne.2 (h.lowercase_ne (hnames e he))

/-- It is no alias. -/
theorem isIdentifier_eq_false (h : Quoted token) : Statement.isIdentifier token = false := by
  obtain ⟨rest, htext⟩ := h.begins
  unfold Statement.isIdentifier
  rw [htext]
  rfl

/-- It is no column, in any query. -/
theorem resolve_ne_ok (h : Quoted token) {q : Query} {ref : ColumnRef} :
    Statement.resolve q token ≠ .ok ref := by
  unfold Statement.resolve
  rw [h.literal]
  exact nofun

/-- It is no operator. -/
theorem comparator_ne_ok (h : Quoted token) {comparator : Comparator} :
    Statement.comparator token ≠ .ok comparator := by
  unfold Statement.comparator
  rw [if_neg (h.ne_of_head? (by decide)), decide_eq_false (h.ne_of_head? (by decide)),
    decide_eq_false (h.ne_of_head? (by decide))]
  exact nofun

/-- It joins no conditions. -/
theorem connective_ne_ok (h : Quoted token) {connective : Connective} :
    Statement.connective token ≠ .ok connective := by
  unfold Statement.connective
  rw [if_neg (h.lowercase_ne (by decide)), if_neg (h.lowercase_ne (by decide))]
  exact nofun

/-- On the right side it is taken for what it is. -/
theorem operand_eq (h : Quoted token) (q : Query) :
    Statement.operand q token = .ok (.text (unquote token)) := by
  unfold Statement.operand
  rw [if_pos h.literal]

end Quoted

-- ============================================================= carving

namespace Grammar

/-- The words that clauses are told by are keywords. -/
theorem words_subset_keywords {token : String} {kind : ClauseKind} {clause : Clause}
    (h : clauseFor? token = some (kind, clause)) :
    clause.start ⊆ keywords ∧ clause.terminators ⊆ keywords := by
  have htable : ∀ e ∈ clauses, e.2.2.start ⊆ keywords ∧ e.2.2.terminators ⊆ keywords := by
    decide +kernel
  obtain ⟨before, after, hmem, -⟩ := List.lookup_eq_some_iff.1 h
  exact htable (lowercase token, kind, clause) (by rw [hmem]; simp)

end Grammar

section Slot

variable {ι : Type} {mark : ι → String} (hmark : ∀ x, Quoted (mark x))
include hmark

/-- Where a clause begins, its keywords stand before the literal. -/
theorem Clause.length_start_le {clause : Clause} (hstart : clause.start ⊆ keywords)
    {front back : List String} {i : ι}
    (h : clause.begins (front ++ mark i :: back) = true) :
    clause.start.length ≤ front.length := by
  rw [begins, Bool.and_eq_true, List.all_eq_true] at h
  -- otherwise the literal would have to be one of the keywords
  by_contra hlong
  obtain ⟨keyword, hkeyword⟩ : ∃ keyword, clause.start[front.length]? = some keyword :=
    ⟨_, List.getElem?_eq_getElem (by omega)⟩
  have hpair : (mark i, keyword) ∈ (front ++ mark i :: back).zip clause.start := by
    refine List.mem_of_getElem? (i := front.length) ?_
    rw [List.getElem?_zip_eq_some]
    exact ⟨by simp, hkeyword⟩
  have hsame : sameFolded (mark i) keyword = true := h.2 _ hpair
  have hinert := (hmark i).inert keyword (hstart (List.mem_of_getElem? hkeyword))
  rw [hinert] at hsame
  cases hsame

/-- A clause is split off the same way whatever the literal: it ends
before the literal, or the literal is in it. -/
theorem Clause.extract_slot {clause : Clause} (hstart : clause.start ⊆ keywords)
    (hends : clause.terminators ⊆ keywords) {front back tokens remainder : List String}
    {i : ι} (h : clause.extract (front ++ mark i :: back) = .ok (tokens, remainder)) :
    (∃ left : List String, left.length + clause.start.length ≤ front.length
        ∧ ∀ x, clause.extract (front ++ mark x :: back) = .ok (tokens, left ++ mark x :: back))
      ∨ ∃ words body behind : List String, words.length = clause.start.length
        ∧ ∀ x, clause.extract (front ++ mark x :: back)
          = .ok (words ++ (body ++ mark x :: behind), remainder) := by
  have hbegins : clause.begins (front ++ mark i :: back) = true := by
    unfold extract at h
    split at h
    · assumption
    · cases h
  -- the keywords stand before the literal, so what follows them is the
  -- same in front of every literal
  have hlength := length_start_le hmark hstart hbegins
  rw [begins_append_of_le hlength] at hbegins
  obtain ⟨words, between, rfl, hwords⟩ :
      ∃ words between, front = words ++ between ∧ words.length = clause.start.length :=
    ⟨_, _, (List.take_append_drop clause.start.length front).symm,
      by rw [List.length_take, Nat.min_eq_left hlength]⟩
  have hextract : ∀ x, clause.extract (words ++ between ++ mark x :: back)
      = .ok (words ++ (between ++ mark x :: back).takeWhile (!clause.isTerminator ·),
        (between ++ mark x :: back).dropWhile (!clause.isTerminator ·)) := by
    intro x
    unfold extract
    rw [begins_append_of_le hlength, if_pos hbegins, List.append_assoc,
      List.take_left' hwords, List.drop_left' hwords]
  have hinside : ∀ x, (!clause.isTerminator (mark x)) = true := by
    intro x
    rw [isTerminator_eq_false hends (hmark x).inert]
    rfl
  rw [hextract, Except.ok.injEq, Prod.mk.injEq] at h
  obtain ⟨rfl, rfl⟩ := h
  cases hbetween : between.dropWhile (!clause.isTerminator ·) with
  | nil =>
      -- nothing before the literal ends the clause, so the literal is in it
      have hall := List.dropWhile_eq_nil_iff.1 hbetween
      refine .inr ⟨words, between, back.takeWhile (!clause.isTerminator ·), hwords, fun x => ?_⟩
      rw [hextract, List.dropWhile_append_of_pos hall, List.takeWhile_append_of_pos hall,
        List.dropWhile_append_of_pos hall]
      simp only [List.dropWhile_cons, List.takeWhile_cons, hinside, if_true]
  -- a terminator before the literal ends the clause, and the literal is
  -- behind it
  | cons t left =>
      have hparts := congrArg List.length
        (List.takeWhile_append_dropWhile (p := (!clause.isTerminator ·)) (l := between))
      rw [hbetween, List.length_append, List.length_cons] at hparts
      have hdrop : ∀ x, (between ++ mark x :: back).dropWhile (!clause.isTerminator ·)
          = (t :: left) ++ mark x :: back := by
        intro x
        rw [List.dropWhile_append, hbetween]
        rfl
      have htake : ∀ x, (between ++ mark x :: back).takeWhile (!clause.isTerminator ·)
          = between.takeWhile (!clause.isTerminator ·) := by
        intro x
        rw [List.takeWhile_append, if_neg (by omega)]
      refine .inl ⟨t :: left, ?_, fun x => ?_⟩
      · rw [List.length_append, List.length_cons]
        omega
      · rw [hextract, hdrop, htake, htake]

namespace Grammar

/-- A statement is carved into the same clauses whatever the literal, and
the literal stands in the body of one of them. -/
theorem carve_slot {front back : List String} {i : ι} {parts : List Part}
    (h : carve (front ++ mark i :: back) = (parts, none)) :
    ∃ (before after : List Part) (part : ι → Part) (kind : ClauseKind)
        (body behind : List String),
      (∀ x, (part x).kind = kind ∧ (part x).body = body ++ mark x :: behind)
        ∧ ∀ x, carve (front ++ mark x :: back) = (before ++ part x :: after, none) := by
  -- a statement cannot begin with the literal, which begins no clause
  cases front with
  | nil =>
      rw [List.nil_append, carve_cons, (hmark i).clauseFor?_eq_none] at h
      cases h
  | cons first front =>
      rw [List.cons_append, carve_cons] at h
      cases hclause : clauseFor? first with
      | none =>
          rw [hclause] at h
          cases h
      | some found =>
          obtain ⟨kind, clause⟩ := found
          rw [hclause] at h
          dsimp only at h
          rw [← List.cons_append] at h
          cases hextract : clause.extract (first :: front ++ mark i :: back) with
          | error e =>
              rw [hextract] at h
              cases h
          | ok split =>
              obtain ⟨tokens, remainder⟩ := split
              rw [hextract] at h
              obtain ⟨hstart, hends⟩ := words_subset_keywords hclause
              obtain ⟨left, hleft, hsplit⟩ | ⟨words, body, behind, hwords, hsplit⟩ :=
                Clause.extract_slot hmark hstart hends hextract
              -- the literal is behind this clause: the rest is shorter and
              -- has it in the same place
              · have hremainder : remainder = left ++ mark i :: back := by
                  have hi := hsplit i
                  rw [hextract] at hi
                  exact (Prod.mk.inj (Except.ok.inj hi)).2
                obtain ⟨hparts, hnone⟩ := Prod.mk.inj h
                have hshorter : left.length < (first :: front).length := by
                  have hpos := List.length_pos_iff.2 (start_ne_nil hclause)
                  omega
                rw [hremainder] at hparts hnone
                obtain ⟨before, after, part, kind', body, behind, hpart, hcarve⟩ :=
                  carve_slot (show carve (left ++ mark i :: back) = (_, none) from
                    Prod.ext rfl hnone)
                refine ⟨⟨kind, first, tokens, tokens.drop clause.start.length⟩ :: before,
                  after, part, kind', body, behind, hpart, fun x => ?_⟩
                rw [List.cons_append, carve_cons, hclause]
                dsimp only
                rw [← List.cons_append, hsplit]
                dsimp only
                rw [hcarve]
                rfl
              -- the literal is in the body of this clause, and what
              -- follows does not change
              · refine ⟨[], (carve remainder).1,
                  fun x => ⟨kind, first, words ++ (body ++ mark x :: behind),
                    body ++ mark x :: behind⟩, kind, body, behind, fun x => ⟨rfl, rfl⟩,
                  fun x => ?_⟩
                rw [List.cons_append, carve_cons, hclause]
                dsimp only
                rw [← List.cons_append, hsplit]
                dsimp only
                rw [List.drop_left' hwords, (Prod.mk.inj h).2]
                rfl
termination_by front.length

end Grammar

end Slot

end FlatQuery
