/-
Texts as tokens with blanks between them. A piece is a token as it
stands in a text, with the blanks before it and perhaps its brackets,
and a text is cut into pieces up to a place (`Cut`) if each of them ends
where nothing behind it belongs to it. That is exactly what is read
token by token: one token is read where one piece is cut off
(`next_eq_piece`), and reading fails where no piece can be cut off
(`next_eq_error`). So a text that is read is its pieces and some blanks,
and a text that is refused is cut into pieces up to the place that is
blamed (`tokenize_cut`).

Ends have to be asked for: 1.5 is one piece, and not 1 before a point
that begins no token.
-/
import FlatQuery.Proofs.Token.Respaced

namespace FlatQuery.Token

open Text

-- ============================================================== pieces

/-- A token as it stands in a text. -/
structure Piece where
  /-- The blanks before it. -/
  gap : List Char
  token : String
  bracketed : Bool
  deriving DecidableEq, Repr

/-- What is written for it. -/
def Piece.text (p : Piece) : List Char :=
  p.gap ++ if p.bracketed then '[' :: (p.token.toList ++ [']']) else p.token.toList

/-- A piece that ends where this rest begins. -/
structure Piece.EndsAt (p : Piece) (rest : List Char) : Prop where
  gap : ∀ c ∈ p.gap, isBlank c = true
  bracketed : p.bracketed = true → ']' ∉ p.token.toList
  bare : p.bracketed = false → Stands p.token rest

/-- The text is these pieces and then the rest. -/
inductive Cut : List Char → List Piece → List Char → Prop where
  | done (rest : List Char) : Cut rest [] rest
  | piece {p : Piece} {pieces : List Piece} {after rest : List Char} :
    p.EndsAt after → Cut after pieces rest → Cut (p.text ++ after) (p :: pieces) rest

/-- A text that begins with no token and no blank, and what is blamed. -/
inductive Stuck : List Char → String → Prop where
  | literal {q : Char} {body : List Char} :
    isQuote q = true → Paired q body → Stuck (q :: body) (String.ofList (q :: body))
  | bracket {body : List Char} :
    ']' ∉ body → Stuck ('[' :: body) (String.ofList ('[' :: body))
  | character {c : Char} {rest : List Char} :
    isBlank c = false → isQuote c = false → c ≠ '[' →
    (∀ t after, c :: rest = t.toList ++ after → ¬ Stands t after) →
    Stuck (c :: rest) (String.ofList [c])

-- ========================================================= one lexeme

/-- A number that is split off is split off whole. -/
theorem splitNumber_ends (cs : List Char) :
    (splitNumber cs).1 ++ (splitNumber cs).2 = cs
      ∧ (∀ d, (splitNumber cs).2.head? = some d → isDigit d = false)
      ∧ ('.' ∉ (splitNumber cs).1 →
        ∀ d more, (splitNumber cs).2 = '.' :: d :: more → isDigit d = false) := by
  have hwhole : cs.takeWhile isDigit ++ cs.dropWhile isDigit = cs := List.takeWhile_append_dropWhile
  have hend : ∀ (cs : List Char) (d : Char), (cs.dropWhile isDigit).head? = some d →
      isDigit d = false := by
    intro cs d hd
    have hnot := List.head?_dropWhile_not isDigit cs
    rw [hd] at hnot
    exact hnot
  unfold splitNumber
  dsimp only
  split
  · next d more hpoint =>
    rw [hpoint] at hwhole
    split
    · refine ⟨?_, hend more, fun hnone => ?_⟩
      · rw [List.append_assoc, List.cons_append, List.cons_append, List.takeWhile_append_dropWhile,
          hwhole]
      · exact absurd (List.mem_append_right _ (List.mem_cons_self ..)) hnone
    · next hd =>
      refine ⟨hwhole, fun c hc => ?_, ?_⟩
      · rw [← Option.some.inj hc]
        rfl
      · rintro - d' more' heq
        cases heq
        exact Bool.eq_false_iff.2 hd
  · next hno => exact ⟨hwhole, hend cs, fun _ d more heq => absurd heq (hno d more)⟩

/-- What is read at a character is what is written there: a name between
brackets, or a token that stands. -/
theorem stands_of_lexeme {c : Char} {cs after : List Char} {t : String}
    (h : lexeme c cs = .ok (t, after)) :
    (c = '[' ∧ cs = t.toList ++ ']' :: after ∧ ']' ∉ t.toList)
      ∨ c :: cs = t.toList ++ after ∧ Stands t after := by
  have hpair : ∀ {d : Char}, (cs.head? == some d) = true → cs = d :: cs.tail := by
    intro d hd
    cases cs with
    | nil => cases hd
    | cons e cs => rw [Option.some.inj (eq_of_beq hd), List.tail_cons]
  unfold lexeme at h
  split at h
  · next hop =>
    cases h
    rw [String.toList_ofList]
    exact .inr ⟨rfl, .operator (mem_operators hop)⟩
  split at h
  · next hbang =>
    simp only [Bool.and_eq_true, decide_eq_true_eq] at hbang
    cases h
    refine .inr ⟨?_, .operator (by decide)⟩
    rw [hbang.1, hpair hbang.2]
    rfl
  split at h
  · next hless =>
    simp only [Bool.and_eq_true, decide_eq_true_eq] at hless
    cases h
    refine .inr ⟨?_, .operator (by decide)⟩
    rw [hless.1, hpair hless.2]
    rfl
  split at h
  · next hquote =>
    split at h
    · next hsplit =>
      cases h
      obtain ⟨inner, hinner, rfl, rfl, hafter⟩ := splitLiteral_eq_some.1 hsplit
      refine .inr ⟨?_, .literal hquote hinner String.toList_ofList ?_ hafter⟩
      · rw [String.toList_ofList, List.cons_append, List.append_assoc, List.singleton_append]
      · exact isLiteral_of_enclosed hquote String.toList_ofList
    · cases h
  split at h
  · next hbracket =>
    split at h
    · next hsplit =>
      cases h
      rw [String.toList_ofList]
      exact .inl ⟨hbracket, splitBracket_eq_some.1 hsplit⟩
    · cases h
  split at h
  · next hminus =>
    simp only [Bool.and_eq_true, decide_eq_true_eq] at hminus
    cases h
    obtain ⟨hwhole, hdigit, hpoint⟩ := splitNumber_ends cs
    have hdecimal : IsDecimal (String.ofList ('-' :: (splitNumber cs).1)) :=
      .inr ⟨_, String.toList_ofList, isUnsigned_splitNumber hminus.2⟩
    refine .inr ⟨?_, .number hdecimal (isNumber_of_isDecimal hdecimal) hdigit fun hnone => ?_⟩
    · rw [String.toList_ofList, List.cons_append, hminus.1]
      exact congrArg _ hwhole.symm
    · rw [String.toList_ofList] at hnone
      exact hpoint fun hmem => hnone (List.mem_cons_of_mem _ hmem)
  split at h
  · next hdigit =>
    cases h
    obtain ⟨hwhole, hdigit', hpoint⟩ := splitNumber_ends (c :: cs)
    have hdecimal : IsDecimal (String.ofList (splitNumber (c :: cs)).1) := by
      refine .inl ?_
      rw [String.toList_ofList]
      exact isUnsigned_splitNumber hdigit
    refine .inr ⟨?_, .number hdecimal (isNumber_of_isDecimal hdecimal) hdigit' ?_⟩
    · rw [String.toList_ofList]
      exact hwhole.symm
    · rw [String.toList_ofList]
      exact hpoint
  next hdigit =>
  split at h
  · next hstart =>
    cases h
    have hword : Wordlike (String.ofList (c :: cs.takeWhile isWordChar)) :=
      ⟨c, _, String.toList_ofList, hstart, Bool.eq_false_iff.2 hdigit,
        List.all_eq_true.1 List.all_takeWhile⟩
    refine .inr ⟨?_, .word hword hword.kind.2 hword.kind.1 fun d hd => ?_⟩
    · rw [String.toList_ofList, List.cons_append, List.takeWhile_append_dropWhile]
    · have hnot := List.head?_dropWhile_not isWordChar cs
      rw [hd] at hnot
      exact hnot
  · cases h

theorem lexeme_bracket (cs : List Char) :
    lexeme '[' cs = match splitBracket cs with
      | some (body, after) => .ok (String.ofList body, after)
      | none => .error (.unexpected (String.ofList ('[' :: cs))) := rfl

/-- Where nothing is read, the text is stuck. -/
theorem stuck_of_lexeme {c : Char} {cs : List Char} {e : Error} (hblank : isBlank c = false)
    (h : lexeme c cs = .error e) : ∃ near, Stuck (c :: cs) near ∧ e = .unexpected near := by
  have hnone : ∀ t after, c :: cs = t.toList ++ after → ¬ Stands t after := by
    intro t after heq hstands
    obtain ⟨c', cs', htext, -, hlexeme⟩ := hstands.lexeme
    rw [htext, List.cons_append] at heq
    obtain ⟨rfl, rfl⟩ := List.cons.inj heq
    rw [h] at hlexeme
    cases hlexeme
  by_cases hquote : isQuote c = true
  · rw [lexeme_of_isQuote hquote] at h
    split at h
    · cases h
    · next hsplit =>
      cases h
      exact ⟨_, .literal hquote (splitLiteral_eq_none.1 hsplit), rfl⟩
  by_cases hbracket : c = '['
  · rw [hbracket, lexeme_bracket] at h
    split at h
    · cases h
    · next hsplit =>
      cases h
      rw [hbracket]
      exact ⟨_, .bracket (splitBracket_eq_none.1 hsplit), rfl⟩
  refine ⟨_, .character hblank (Bool.eq_false_iff.2 hquote) hbracket hnone, ?_⟩
  unfold lexeme at h
  rw [if_neg hquote, if_neg hbracket] at h
  split at h
  · cases h
  split at h
  · cases h
  split at h
  · cases h
  split at h
  · cases h
  split at h
  · cases h
  split at h
  · cases h
  · exact (Except.error.inj h).symm

/-- Where a text is stuck nothing is read, and its beginning is blamed. -/
theorem Stuck.lexeme {cs : List Char} {near : String} (h : Stuck cs near) :
    ∃ c more, cs = c :: more ∧ isBlank c = false
      ∧ Token.lexeme c more = .error (.unexpected near) := by
  cases h with
  | literal hquote hpaired =>
      refine ⟨_, _, rfl, isBlank_of_isQuote hquote, ?_⟩
      rw [lexeme_of_isQuote hquote, hpaired.splitLiteral_eq_none]
  | bracket hnone =>
      refine ⟨_, _, rfl, by decide, ?_⟩
      rw [lexeme_bracket, splitBracket_eq_none.2 hnone]
  | @character c rest hblank hquote hbracket hnone =>
      refine ⟨c, rest, rfl, hblank, ?_⟩
      cases hlexeme : Token.lexeme c rest with
      | ok found =>
          rcases stands_of_lexeme hlexeme with ⟨rfl, -⟩ | ⟨heq, hstands⟩
          · exact absurd rfl hbracket
          · exact absurd hstands (hnone _ _ heq)
      | error e =>
          obtain ⟨near, hstuck, rfl⟩ := stuck_of_lexeme hblank hlexeme
          cases hstuck with
          | literal hquote' _ =>
              rw [hquote] at hquote'
              cases hquote'
          | bracket => exact absurd rfl hbracket
          | character => rfl

-- ========================================================== one piece

theorem trimStart_of_blanks {gap : List Char} (hgap : ∀ c ∈ gap, isBlank c = true)
    {c : Char} (hc : isBlank c = false) (rest : List Char) :
    trimStart (gap ++ c :: rest) = c :: rest := by
  unfold trimStart
  rw [List.dropWhile_append_of_pos hgap]
  exact List.dropWhile_cons_of_neg (by rw [hc]; exact Bool.false_ne_true)

/-- A text is the blanks it begins with and a character that is none. -/
theorem eq_gap_append {cs more : List Char} {c : Char} (h : trimStart cs = c :: more) :
    ∃ gap, cs = gap ++ c :: more ∧ (∀ d ∈ gap, isBlank d = true) ∧ isBlank c = false := by
  refine ⟨cs.takeWhile isBlank, ?_, List.all_eq_true.1 List.all_takeWhile, ?_⟩
  · rw [← h]
    exact List.takeWhile_append_dropWhile.symm
  · have hnot := List.head?_dropWhile_not isBlank cs
    rw [show cs.dropWhile isBlank = c :: more from h] at hnot
    exact hnot

/-- One token is read where one piece is cut off. -/
theorem next_eq_piece {cs after : List Char} {t : String} :
    next cs = .ok (some (t, after))
      ↔ ∃ p : Piece, p.token = t ∧ p.EndsAt after ∧ cs = p.text ++ after := by
  constructor
  · intro h
    obtain ⟨c, more, htrim, hlexeme⟩ := next_eq_some.1 h
    obtain ⟨gap, rfl, hgap, -⟩ := eq_gap_append htrim
    rcases stands_of_lexeme hlexeme with ⟨rfl, rfl, hbody⟩ | ⟨heq, hstands⟩
    · refine ⟨⟨gap, t, true⟩, rfl, ⟨hgap, fun _ => hbody, nofun⟩, ?_⟩
      simp [Piece.text]
    · refine ⟨⟨gap, t, false⟩, rfl, ⟨hgap, nofun, fun _ => hstands⟩, ?_⟩
      rw [heq]
      simp [Piece.text]
  · rintro ⟨⟨gap, t, bracketed⟩, rfl, ⟨hgap, hbracketed, hbare⟩, rfl⟩
    cases bracketed with
    | true =>
        have hsplit := splitBracket_eq_some.2 (⟨rfl, hbracketed rfl⟩ :
          t.toList ++ ']' :: after = t.toList ++ ']' :: after ∧ ']' ∉ t.toList)
        refine next_eq_some.2 ⟨'[', t.toList ++ ']' :: after, ?_, ?_⟩
        · have htext : Piece.text ⟨gap, t, true⟩ ++ after
              = gap ++ '[' :: (t.toList ++ ']' :: after) := by
            simp [Piece.text]
          rw [htext, trimStart_of_blanks hgap (by decide)]
        · rw [lexeme_bracket, hsplit]
          dsimp only
          rw [String.ofList_toList]
    | false =>
        obtain ⟨c, more, htext, hblank, hlexeme⟩ := (hbare rfl).lexeme
        refine next_eq_some.2 ⟨c, more ++ after, ?_, hlexeme⟩
        have hwhole : Piece.text ⟨gap, t, false⟩ ++ after = gap ++ c :: (more ++ after) := by
          simp [Piece.text, htext]
        rw [hwhole, trimStart_of_blanks hgap hblank]

/-- Reading fails where a text is stuck behind its blanks. -/
theorem next_eq_error {cs : List Char} {e : Error} :
    next cs = .error e
      ↔ ∃ gap rest near, cs = gap ++ rest ∧ (∀ c ∈ gap, isBlank c = true)
        ∧ Stuck rest near ∧ e = .unexpected near := by
  constructor
  · intro h
    unfold next at h
    split at h
    · cases h
    · next c more htrim =>
      obtain ⟨gap, rfl, hgap, hblank⟩ := eq_gap_append htrim
      cases hlexeme : lexeme c more with
      | ok found =>
          rw [hlexeme] at h
          cases h
      | error e' =>
          rw [hlexeme] at h
          cases h
          obtain ⟨near, hstuck, rfl⟩ := stuck_of_lexeme hblank hlexeme
          exact ⟨gap, _, near, rfl, hgap, hstuck, rfl⟩
  · rintro ⟨gap, rest, near, rfl, hgap, hstuck, rfl⟩
    obtain ⟨c, more, rfl, hblank, hlexeme⟩ := hstuck.lexeme
    unfold next
    rw [trimStart_of_blanks hgap hblank]
    dsimp only
    rw [hlexeme]
    rfl

-- ========================================================= whole texts

namespace Cut

variable {cs rest : List Char} {pieces : List Piece}

/-- Pieces are read one after the other, and then the rest. -/
theorem scan (h : Cut cs pieces rest) :
    Token.scan cs
      = (pieces.map Piece.token ++ (Token.scan rest).1, (Token.scan rest).2) := by
  induction h with
  | done => rfl
  | piece hp _ ih =>
      rw [scan_of_next (next_eq_piece.2 ⟨_, rfl, hp, rfl⟩), ih]
      rfl

/-- Nothing is lost, nothing is made up, and every piece is something. -/
theorem whole (h : Cut cs pieces rest) :
    cs = pieces.flatMap Piece.text ++ rest ∧ pieces.length + rest.length ≤ cs.length := by
  induction h with
  | done => exact ⟨rfl, Nat.le_of_eq (Nat.zero_add _)⟩
  | @piece p pieces after rest hp _ ih =>
      obtain ⟨hwhole, hlength⟩ := ih
      have hshorter := next_length (next_eq_piece.2 ⟨p, rfl, hp, rfl⟩)
      refine ⟨?_, ?_⟩
      · rw [List.flatMap_cons, List.append_assoc, ← hwhole]
      · rw [List.length_cons]
        omega

end Cut

/-- Every text is cut into pieces up to where it ends or is stuck. -/
theorem exists_cut (cs : List Char) :
    ∃ pieces rest, Cut cs pieces rest
      ∧ ((∀ c ∈ rest, isBlank c = true) ∨ ∃ e, next rest = .error e) := by
  fun_induction scan cs with
  | case1 cs e hnext => exact ⟨[], cs, .done cs, .inr ⟨e, hnext⟩⟩
  | case2 cs hnext =>
      exact ⟨[], cs, .done cs, .inl (List.dropWhile_eq_nil_iff.1 (next_eq_none.1 hnext))⟩
  | case3 cs t after hnext tokens failure hscan ih =>
      obtain ⟨p, -, hp, rfl⟩ := next_eq_piece.1 hnext
      obtain ⟨pieces, rest, hcut, hend⟩ := ih
      exact ⟨p :: pieces, rest, .piece hp hcut, hend⟩

theorem scan_of_blanks {gap : List Char} (h : ∀ c ∈ gap, isBlank c = true) :
    scan gap = ([], none) := by
  rw [scan_eq, next_eq_none.2 (List.dropWhile_eq_nil_iff.2 h)]

theorem tokenize_of_cut {text : String} {pieces : List Piece} {rest : List Char}
    (h : Cut text.toList pieces rest) :
    ((∀ c ∈ rest, isBlank c = true) → tokenize text = .ok (pieces.map Piece.token))
      ∧ ∀ e, next rest = .error e → tokenize text = .error e := by
  unfold tokenize
  rw [h.scan]
  constructor
  · intro hblank
    rw [scan_of_blanks hblank, List.append_nil]
  · intro e hnext
    rw [scan_eq rest, hnext]

/-- The lexer loses and makes up nothing. It answers with the tokens of
the pieces that the text is cut into, if only blanks are left behind
them; else the text is stuck behind the pieces that were read, and the
text from there on is blamed if a literal or a bracket is not closed, or
its first character if that begins no token. A token is read exactly
where a piece is cut off, each is some characters of the text, and all
pieces and the rest are the text. -/
theorem tokenize_cut (text : String) :
    (∀ tokens, tokenize text = .ok tokens
      ↔ ∃ pieces gap, Cut text.toList pieces gap ∧ (∀ c ∈ gap, isBlank c = true)
        ∧ tokens = pieces.map Piece.token)
    ∧ (∀ e, tokenize text = .error e
      ↔ ∃ pieces gap rest near, Cut text.toList pieces (gap ++ rest)
        ∧ (∀ c ∈ gap, isBlank c = true) ∧ Stuck rest near ∧ e = .unexpected near)
    ∧ (∀ pieces rest, Cut text.toList pieces rest →
      text.toList = pieces.flatMap Piece.text ++ rest
        ∧ pieces.length + rest.length ≤ text.toList.length)
    ∧ ∀ cs t after, next cs = .ok (some (t, after))
      ↔ ∃ p : Piece, p.token = t ∧ p.EndsAt after ∧ cs = p.text ++ after ∧ p.text ≠ [] := by
  obtain ⟨pieces, rest, hcut, hend⟩ := exists_cut text.toList
  refine ⟨fun tokens => ⟨fun h => ?_, ?_⟩, fun e => ⟨fun h => ?_, ?_⟩,
    fun _ _ hcut => hcut.whole, fun cs t after => ⟨fun h => ?_, ?_⟩⟩
  · rcases hend with hblank | ⟨e, hnext⟩
    · rw [(tokenize_of_cut hcut).1 hblank] at h
      exact ⟨pieces, rest, hcut, hblank, (Except.ok.inj h).symm⟩
    · rw [(tokenize_of_cut hcut).2 e hnext] at h
      cases h
  · rintro ⟨pieces, gap, hcut, hblank, rfl⟩
    exact (tokenize_of_cut hcut).1 hblank
  · rcases hend with hblank | ⟨e', hnext⟩
    · rw [(tokenize_of_cut hcut).1 hblank] at h
      cases h
    · rw [(tokenize_of_cut hcut).2 e' hnext] at h
      cases h
      obtain ⟨gap, stuck, near, rfl, hgap, hstuck, rfl⟩ := next_eq_error.1 hnext
      exact ⟨pieces, gap, stuck, near, hcut, hgap, hstuck, rfl⟩
  · rintro ⟨pieces, gap, stuck, near, hcut, hgap, hstuck, rfl⟩
    exact (tokenize_of_cut hcut).2 _ (next_eq_error.2 ⟨gap, stuck, near, rfl, hgap, hstuck, rfl⟩)
  · obtain ⟨p, hp, hends, heq⟩ := next_eq_piece.1 h
    refine ⟨p, hp, hends, heq, fun hnil => ?_⟩
    have hshorter := next_length h
    rw [heq, hnil] at hshorter
    exact absurd hshorter (Nat.lt_irrefl _)
  · rintro ⟨p, hp, hends, heq, -⟩
    exact next_eq_piece.2 ⟨p, hp, hends, heq⟩

end FlatQuery.Token
