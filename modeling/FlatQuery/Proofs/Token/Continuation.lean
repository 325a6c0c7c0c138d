/-
Texts that go on behind their last token. What follows a text does not
change the tokens it has if it begins with a quote and the text does not
end with one: no word, number or operator takes a quote in, and a
literal that was closed is not reopened (`scan_append`). So a literal in
the middle of a statement is one token between those of the text before
it and those of the text behind it, whatever is written in the literal
(`tokenize_literal`).
-/
import Mathlib.Data.List.Basic
import FlatQuery.Proofs.Result
import FlatQuery.Proofs.Token.Enclosed
import FlatQuery.Proofs.Token.Spelling

namespace FlatQuery.Token

open Text

-- =============================================================== parts

/-- A literal ends with its quote, and it stays closed if what follows
the text does not begin with that quote. -/
theorem splitLiteral_append {q : Char} {cs body after : List Char}
    (h : splitLiteral q cs = some (body, after)) :
    (∃ front, cs = front ++ q :: after)
      ∧ ∀ rest : List Char, (after = [] → rest.head? ≠ some q) →
          splitLiteral q (cs ++ rest) = some (body, after ++ rest) := by
  obtain ⟨inner, hinner, rfl, rfl, hafter⟩ := splitLiteral_eq_some.1 h
  refine ⟨⟨inner, rfl⟩, fun rest hopen => ?_⟩
  rw [List.append_assoc, List.cons_append]
  refine hinner.splitLiteral_append ?_
  cases after with
  | nil => exact hopen rfl
  | cons d after => exact hafter

theorem splitBracket_append {cs body after : List Char}
    (h : splitBracket cs = some (body, after)) :
    after <:+ cs
      ∧ ∀ rest : List Char, splitBracket (cs ++ rest) = some (body, after ++ rest) := by
  obtain ⟨rfl, hbody⟩ := splitBracket_eq_some.1 h
  refine ⟨⟨body ++ [']'], by rw [List.append_assoc]; rfl⟩, fun rest => ?_⟩
  exact splitBracket_eq_some.2 ⟨by rw [List.append_assoc]; rfl, hbody⟩

/-- Runs of characters end at a character that does not belong to them,
or at the end of the text and then at the one behind it. -/
theorem span_append_of_head {p : Char → Bool} (cs : List Char) {d : Char}
    (hd : cs.dropWhile p = [] → p d = false) (rest : List Char) :
    (cs ++ d :: rest).takeWhile p = cs.takeWhile p
      ∧ (cs ++ d :: rest).dropWhile p = cs.dropWhile p ++ d :: rest := by
  induction cs with
  | nil =>
      have hneg := Bool.eq_false_iff.1 (hd rfl)
      rw [List.nil_append, List.takeWhile_cons_of_neg hneg, List.dropWhile_cons_of_neg hneg]
      exact ⟨rfl, rfl⟩
  | cons c cs ih =>
      by_cases hc : p c = true
      · rw [List.dropWhile_cons_of_pos hc] at hd
        obtain ⟨htake, hdrop⟩ := ih hd
        rw [List.cons_append, List.takeWhile_cons_of_pos hc, List.dropWhile_cons_of_pos hc,
          htake, hdrop, List.takeWhile_cons_of_pos hc, List.dropWhile_cons_of_pos hc]
        exact ⟨rfl, rfl⟩
      · rw [List.cons_append, List.takeWhile_cons_of_neg hc, List.dropWhile_cons_of_neg hc,
          List.takeWhile_cons_of_neg hc, List.dropWhile_cons_of_neg hc]
        exact ⟨rfl, rfl⟩

/-- A character that goes on with no number and no operator. -/
structure Neutral (d : Char) : Prop where
  digit : isDigit d = false
  point : d ≠ '.'
  equal : d ≠ '='
  greater : d ≠ '>'

theorem neutral_quote : Neutral '\'' := ⟨by decide, by decide, by decide, by decide⟩

/-- A number ends before a neutral character. -/
theorem splitNumber_append_neutral {d : Char} (hd : Neutral d) (cs rest : List Char) :
    splitNumber (cs ++ d :: rest)
      = ((splitNumber cs).1, (splitNumber cs).2 ++ d :: rest) := by
  obtain ⟨htake, hdrop⟩ := span_append_of_head cs (fun _ => hd.digit) rest
  unfold splitNumber
  rw [htake, hdrop]
  cases hmore : cs.dropWhile isDigit with
  | nil => simp [hd.point]
  | cons point more =>
      by_cases hpoint : point = '.'
      · subst hpoint
        cases more with
        | nil => simp [hd.digit]
        | cons e more =>
            obtain ⟨htake', hdrop'⟩ := span_append_of_head more (fun _ => hd.digit) rest
            by_cases he : isDigit e = true
            · simp [he, htake', hdrop']
            · simp [he]
      · simp [hpoint]

theorem splitNumber_suffix (cs : List Char) :
    (splitNumber cs).2 <:+ cs.dropWhile isDigit := by
  unfold splitNumber
  dsimp only
  split
  · next d rest hpoint =>
    rw [hpoint]
    split
    · exact (List.dropWhile_suffix _).trans ⟨['.', d], rfl⟩
    · exact List.suffix_refl _
  · exact List.suffix_refl _

-- ============================================================= lexemes

/-- A token is taken off the front of the text. -/
theorem lexeme_suffix {c : Char} {cs after : List Char} {token : String}
    (h : lexeme c cs = .ok (token, after)) : after <:+ cs := by
  unfold lexeme at h
  split at h
  · cases h
    exact List.suffix_refl _
  split at h
  · cases h
    exact List.tail_suffix _
  split at h
  · cases h
    exact List.tail_suffix _
  split at h
  · split at h
    · next hsplit =>
      cases h
      obtain ⟨⟨front, hfront⟩, -⟩ := splitLiteral_append hsplit
      exact ⟨front ++ [c], by rw [hfront, List.append_assoc]; rfl⟩
    · cases h
  split at h
  · split at h
    · next hsplit =>
      cases h
      exact (splitBracket_append hsplit).1
    · cases h
  split at h
  · cases h
    exact (splitNumber_suffix cs).trans (List.dropWhile_suffix _)
  split at h
  · next hdigit =>
    cases h
    have hsuffix := splitNumber_suffix (c :: cs)
    rw [List.dropWhile_cons_of_pos hdigit] at hsuffix
    exact hsuffix.trans (List.dropWhile_suffix _)
  split at h
  · cases h
    exact List.dropWhile_suffix _
  · cases h

/-- A token stays as it is if a neutral character follows the text. A
literal that the text ends with must not be opened again by it, nor a
word at the end be gone on with. -/
theorem lexeme_append {c d : Char} {cs after : List Char} {token : String}
    (h : lexeme c cs = .ok (token, after)) (hd : Neutral d)
    (hliteral : isQuote c = true → after = [] → d ≠ c)
    (hword : (isAlphanumeric c || c = '_') = true → isDigit c = false → after = [] →
      isWordChar d = false)
    (rest : List Char) :
    lexeme c (cs ++ d :: rest) = .ok (token, after ++ d :: rest) := by
  -- the one character looked ahead at is the same, or none and then a neutral one
  have hahead : (cs ++ d :: rest).head?.any isDigit = cs.head?.any isDigit := by
    cases cs with
    | nil => exact hd.digit
    | cons e cs => rfl
  have hequal : ((cs ++ d :: rest).head? == some '=') = (cs.head? == some '=') := by
    cases cs with
    | nil => simpa using hd.equal
    | cons e cs => rfl
  have hgreater : ((cs ++ d :: rest).head? == some '>') = (cs.head? == some '>') := by
    cases cs with
    | nil => simpa using hd.greater
    | cons e cs => rfl
  have htail : ∀ e, (cs.head? == some e) = true →
      (cs ++ d :: rest).tail = cs.tail ++ d :: rest := by
    intro e he
    cases cs with
    | nil => cases he
    | cons e' cs => rfl
  unfold lexeme at h ⊢
  rw [hequal, hgreater, hahead]
  split at h
  · next hop =>
    rw [if_pos hop]
    cases h
    rfl
  next hop =>
  rw [if_neg hop]
  split at h
  · next hbang =>
    cases h
    rw [if_pos hbang, htail '=' (by simp_all)]
  next hbang =>
  rw [if_neg hbang]
  split at h
  · next hless =>
    cases h
    rw [if_pos hless, htail '>' (by simp_all)]
  next hless =>
  rw [if_neg hless]
  split at h
  · next hquote =>
    rw [if_pos hquote]
    split at h
    · next hsplit =>
      cases h
      have hclosed : after = [] → (d :: rest).head? ≠ some c := by
        intro hafter hhead
        exact hliteral hquote hafter (Option.some.inj hhead)
      rw [(splitLiteral_append hsplit).2 _ hclosed]
    · cases h
  next hquote =>
  rw [if_neg hquote]
  split at h
  · next hbracket =>
    rw [if_pos hbracket]
    split at h
    · next hsplit =>
      cases h
      rw [(splitBracket_append hsplit).2]
    · cases h
  next hbracket =>
  rw [if_neg hbracket]
  split at h
  · next hminus =>
    cases h
    rw [if_pos hminus, splitNumber_append_neutral hd]
    rfl
  next hminus =>
  rw [if_neg hminus]
  split at h
  · next hdigit =>
    cases h
    rw [if_pos hdigit, ← List.cons_append, splitNumber_append_neutral hd]
    rfl
  next hdigit =>
  rw [if_neg hdigit]
  split at h
  · next hstart =>
    rw [if_pos hstart]
    cases h
    obtain ⟨htake, hdrop⟩ :=
      span_append_of_head cs (hword hstart (Bool.eq_false_iff.2 hdigit)) rest
    rw [htake, hdrop]
  · cases h

-- ================================================================ texts

/-- Blanks at the beginning of a text belong to no token. -/
theorem scan_blanks {gap : List Char} (h : trimStart gap = []) (rest : List Char) :
    scan (gap ++ rest) = scan rest := by
  have htrim : trimStart (gap ++ rest) = trimStart rest := by
    unfold trimStart at h ⊢
    rw [List.dropWhile_append, h]
    rfl
  have hnext : next (gap ++ rest) = next rest := by
    unfold next
    rw [htrim]
  rw [scan_eq, hnext, ← scan_eq]

theorem getLast?_of_suffix {α : Type} {front back : List α} (h : back <:+ front)
    (hne : back ≠ []) : back.getLast? = front.getLast? := by
  obtain ⟨l, rfl⟩ := h
  rw [List.getLast?_append_of_ne_nil _ hne]

/-- A literal is read at a quote. -/
theorem lexeme_of_isQuote {c : Char} (h : isQuote c = true) (cs : List Char) :
    lexeme c cs = match splitLiteral c cs with
      | some (body, after) => .ok (String.ofList (c :: body), after)
      | none => .error (.unexpected (String.ofList (c :: cs))) := by
  simp only [isQuote, Bool.or_eq_true, decide_eq_true_eq] at h
  rcases h with rfl | rfl
  · rfl
  · rfl

/-- A literal that is all of a text ends with its quote. -/
theorem getLast?_of_closed {c : Char} {cs after : List Char} {token : String}
    (h : lexeme c cs = .ok (token, after)) (hquote : isQuote c = true) (hafter : after = []) :
    (c :: cs).getLast? = some c := by
  rw [lexeme_of_isQuote hquote] at h
  split at h
  · next hsplit =>
    cases h
    obtain ⟨⟨front, hfront⟩, -⟩ := splitLiteral_append hsplit
    rw [hfront, hafter, ← List.cons_append, List.getLast?_concat]
  · cases h

/-- A text that is not blank begins the same way with more behind it. -/
theorem trimStart_append {cs more : List Char} {c : Char} (h : trimStart cs = c :: more)
    (rest : List Char) : trimStart (cs ++ rest) = c :: (more ++ rest) := by
  unfold trimStart at h ⊢
  rw [List.dropWhile_append, h]
  rfl

/-- The first token of a text stays the first, and the text behind it
still ends in no quote. -/
theorem next_append {cs after : List Char} {token : String}
    (h : next cs = .ok (some (token, after))) (hend : cs.getLast? ≠ some '\'')
    (rest : List Char) :
    next (cs ++ '\'' :: rest) = .ok (some (token, after ++ '\'' :: rest))
      ∧ after.getLast? ≠ some '\'' := by
  obtain ⟨c, more, htrim, hfound⟩ := next_eq_some.1 h
  have hsuffix : c :: more <:+ cs := htrim ▸ List.dropWhile_suffix _
  have hlast := getLast?_of_suffix hsuffix (List.cons_ne_nil _ _)
  have hliteral : isQuote c = true → after = [] → '\'' ≠ c := by
    intro hquote hafter hc
    refine hend ?_
    rw [← hlast, getLast?_of_closed hfound hquote hafter, hc]
  refine ⟨next_eq_some.2 ⟨c, _, trimStart_append htrim _, ?_⟩, ?_⟩
  · exact lexeme_append hfound neutral_quote hliteral (fun _ _ _ => by decide) rest
  · cases after with
    | nil => exact nofun
    | cons d after =>
        have hafter := (lexeme_suffix hfound).trans (List.suffix_cons c more)
        rw [getLast?_of_suffix hafter (List.cons_ne_nil _ _), hlast]
        exact hend

/-- A quote behind a text leaves the tokens of the text as they are. -/
theorem scan_append {cs : List Char} (hcs : (scan cs).2 = none)
    (hend : cs.getLast? ≠ some '\'') (rest : List Char) :
    scan (cs ++ '\'' :: rest)
      = ((scan cs).1 ++ (scan ('\'' :: rest)).1, (scan ('\'' :: rest)).2) := by
  fun_induction scan cs with
  | case1 => cases hcs
  | case2 cs hnext => exact scan_blanks (next_eq_none.1 hnext) _
  | case3 cs token after hnext tokens failure hscan ih =>
      obtain ⟨hfirst, hlast⟩ := next_append hnext hend rest
      rw [hscan] at ih
      rw [scan_of_next hfirst, ih hcs hlast]
      rfl

/-- A literal is the next token, whatever is written in it, if no quote
follows it. -/
theorem scan_literal (value : String) {rest : List Char} (hrest : rest.head? ≠ some '\'') :
    scan ((Operand.text value).toText.toList ++ rest)
      = ((Operand.text value).toText :: (scan rest).1, (scan rest).2) := by
  have hlexeme : lexeme '\'' (Operand.escape value.toList ++ '\'' :: rest)
      = .ok ((Operand.text value).toText, rest) := by
    unfold lexeme
    rw [splitLiteral_escape value.toList hrest]
    dsimp only
    rw [← toList_literal, String.ofList_toList]
    rfl
  rw [toList_literal, List.cons_append, List.append_assoc, List.singleton_append,
    scan_lexeme (by decide) hlexeme]

/-- A literal within a text is one token of it. -/
theorem tokenize_literal {front back : String} {tokens : List String}
    (hfront : tokenize front = .ok tokens) (hend : front.toList.getLast? ≠ some '\'')
    (hstart : back.toList.head? ≠ some '\'') (value : String) :
    tokenize (front ++ (Operand.text value).toText ++ back)
      = (tokens ++ (Operand.text value).toText :: ·) <$> tokenize back := by
  have hscan : scan front.toList = (tokens, none) := by
    unfold tokenize at hfront
    split at hfront
    · next heq => rw [heq, Except.ok.inj hfront]
    · cases hfront
  have hquoted : (Operand.text value).toText.toList ++ back.toList
      = '\'' :: (Operand.escape value.toList ++ ['\''] ++ back.toList) := by
    rw [toList_literal]
    rfl
  have hwhole : scan (front ++ (Operand.text value).toText ++ back).toList
      = (tokens ++ (Operand.text value).toText :: (scan back.toList).1,
        (scan back.toList).2) := by
    have hbehind := scan_literal value hstart
    rw [String.toList_append, String.toList_append, List.append_assoc]
    rw [hquoted] at hbehind ⊢
    rw [scan_append (by rw [hscan]) hend, hbehind, hscan]
  unfold tokenize
  rw [hwhole]
  cases hback : scan back.toList with
  | mk found failure => cases failure <;> rfl

end FlatQuery.Token
