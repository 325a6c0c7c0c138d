/-
Texts whose tokens are known. A text spells its tokens (`Spells`) if it
is cut into them whatever stands behind it, as long as that begins with
a blank or a comma or is nothing. Such texts are put together with
blanks and commas between them, and for each kind of token one lemma
says how it is spelled: words, decimals, literals and operators.
-/
import FlatQuery.Condition
import FlatQuery.Proofs.Result
import FlatQuery.Proofs.Text.Lowercase
import FlatQuery.Proofs.Token.Numeral
import FlatQuery.Token.Lexer

namespace FlatQuery.Token

open Text

-- =============================================================== names

/-- A small letter of ASCII or an underscore. -/
def isNameStart (c : Char) : Bool := ('a' ≤ c && c ≤ 'z') || c = '_'

/-- A character of a name. -/
def isNameChar (c : Char) : Bool := isNameStart c || isDigit c

/-- A small letter or underscore, then small letters, digits and
underscores. -/
def isName (s : String) : Bool :=
  match s.toList with
  | c :: rest => isNameStart c && rest.all isNameChar
  | [] => false

/-- Begins like a name and goes on with letters, numbers, underscores
and points. -/
def isWord (s : String) : Bool :=
  match s.toList with
  | c :: rest => isNameStart c && rest.all isWordChar
  | [] => false

/-- Names are written in ASCII. -/
private theorem toNat_lt_of_isNameChar {c : Char} (h : isNameChar c = true) :
    c.toNat < 128 := by
  simp only [isNameChar, isNameStart, isDigit, Bool.or_eq_true, Bool.and_eq_true,
    decide_eq_true_eq] at h
  rcases h with (⟨-, h⟩ | rfl) | ⟨-, h⟩
  · exact Nat.lt_of_le_of_lt (Char.le_def.1 h) (by decide)
  · decide
  · exact Nat.lt_of_le_of_lt (Char.le_def.1 h) (by decide)

/-- What is read of a character of a name: it belongs to words, is
small, is moved by no folding of case, and begins nothing but words and
numbers. -/
structure NameChar (c : Char) : Prop where
  word : isWordChar c = true
  named : (isAlphanumeric c || c = '_') = true
  small : IsSmall c
  folded : foldChar c = c
  point : c ≠ '.'
  blank : isBlank c = false
  operator : (c = '=' || c = ',' || c = '*' || c = '(' || c = ')' || c = ';') = false
  bang : c ≠ '!'
  less : c ≠ '<'
  quote : isQuote c = false
  bracket : c ≠ '['
  minus : c ≠ '-'

/-- What the tables say of a name's characters, from their 128 values. -/
theorem nameChar_of_isNameChar {c : Char} (h : isNameChar c = true) : NameChar c := by
  -- the characters of ASCII are few enough to look at each
  have hascii : ∀ n < 128, isNameChar (Char.ofNat n) = true →
      let c := Char.ofNat n
      (isWordChar c = true ∧ (isAlphanumeric c || c = '_') = true ∧ isSmall c = true
        ∧ foldChar c = c ∧ c ≠ '.' ∧ isBlank c = false)
      ∧ (c = '=' || c = ',' || c = '*' || c = '(' || c = ')' || c = ';') = false
        ∧ c ≠ '!' ∧ c ≠ '<' ∧ isQuote c = false ∧ c ≠ '[' ∧ c ≠ '-' := by
    decide +kernel
  have hc := hascii c.toNat (toNat_lt_of_isNameChar h)
  rw [Char.ofNat_toNat] at hc
  obtain ⟨⟨hword, hnamed, hsmall, hfolded, hpoint, hblank⟩, hrest⟩ := hc h
  obtain ⟨hoperator, hbang, hless, hquote, hbracket, hminus⟩ := hrest
  exact ⟨hword, hnamed, isSmall_iff.1 hsmall, hfolded, hpoint, hblank, hoperator, hbang,
    hless, hquote, hbracket, hminus⟩

/-- Digits may go on a name. -/
theorem isNameChar_of_isDigit {c : Char} (h : isDigit c = true) : isNameChar c = true := by
  rw [isNameChar, h, Bool.or_true]

/-- What may begin a name may go on in it. -/
theorem isNameChar_of_isNameStart {c : Char} (h : isNameStart c = true) :
    isNameChar c = true := by
  rw [isNameChar, h, Bool.true_or]

/-- Names begin with a letter or underscore, numbers do not. -/
theorem nameStart {c : Char} (h : isNameStart c = true) :
    isDigit c = false ∧ (isAlphabetic c || c = '_') = true := by
  have hascii : ∀ n < 128, isNameStart (Char.ofNat n) = true →
      let c := Char.ofNat n
      isDigit c = false ∧ (isAlphabetic c || c = '_') = true := by
    decide +kernel
  have hc := hascii c.toNat (toNat_lt_of_isNameChar (isNameChar_of_isNameStart h))
  rw [Char.ofNat_toNat] at hc
  exact hc h

/-- A name has a first character of its own kind. -/
theorem exists_of_isName {s : String} (h : isName s = true) :
    ∃ c rest, s.toList = c :: rest ∧ isNameStart c = true
      ∧ ∀ d ∈ s.toList, NameChar d := by
  unfold isName at h
  split at h
  · next c rest htext =>
    rw [Bool.and_eq_true, List.all_eq_true] at h
    refine ⟨c, rest, htext, h.1, ?_⟩
    rw [htext, List.forall_mem_cons]
    refine ⟨nameChar_of_isNameChar (isNameChar_of_isNameStart h.1), ?_⟩
    exact fun d hd => nameChar_of_isNameChar (h.2 d hd)
  · cases h

theorem nameChar_of_isName {s : String} (h : isName s = true) :
    ∀ c ∈ s.toList, NameChar c := by
  obtain ⟨-, -, -, -, hchars⟩ := exists_of_isName h
  exact hchars

/-- A name is a word. -/
theorem isWord_of_isName {s : String} (h : isName s = true) : isWord s = true := by
  obtain ⟨c, rest, htext, hc, hchars⟩ := exists_of_isName h
  rw [htext, List.forall_mem_cons] at hchars
  unfold isWord
  rw [htext]
  dsimp only
  rw [hc, Bool.true_and, List.all_eq_true]
  exact fun d hd => (hchars.2 d hd).word

/-- Two names with a point between them are a word. -/
theorem isWord_qualified {s t : String} (hs : isName s = true) (ht : isName t = true) :
    isWord (s ++ "." ++ t) = true := by
  obtain ⟨c, rest, htext, hc, hchars⟩ := exists_of_isName hs
  rw [htext, List.forall_mem_cons] at hchars
  have hqualified : (s ++ "." ++ t).toList = c :: (rest ++ '.' :: t.toList) := by
    rw [String.toList_append, String.toList_append, htext]
    simp
  unfold isWord
  rw [hqualified]
  dsimp only
  rw [hc, Bool.true_and, List.all_eq_true, List.forall_mem_append, List.forall_mem_cons]
  exact ⟨fun d hd => (hchars.2 d hd).word, rfl,
    fun d hd => (nameChar_of_isName ht d hd).word⟩

/-- A word is neither a literal nor a number. -/
theorem isLiteral_of_isWord {s : String} (h : isWord s = true) :
    isLiteral s = false ∧ isNumber s = false := by
  unfold isWord at h
  split at h
  · next c rest htext =>
    rw [Bool.and_eq_true] at h
    obtain ⟨hdigit, -⟩ := nameStart h.1
    have hc := nameChar_of_isNameChar (isNameChar_of_isNameStart h.1)
    unfold isLiteral isNumber
    rw [htext]
    constructor
    · dsimp only
      rw [hc.quote, Bool.false_and]
    · simp [hc.minus, hdigit]
  · cases h

/-- A decimal begins with no quote. -/
theorem isLiteral_of_isDecimal {s : String} (h : IsDecimal s) : isLiteral s = false := by
  unfold isLiteral
  rcases h with h | ⟨cs, htext, -⟩
  · obtain ⟨d, rest, htext, hd⟩ := h.exists_cons
    rw [htext]
    dsimp only
    rw [(nameChar_of_isNameChar (isNameChar_of_isDigit hd)).quote, Bool.false_and]
  · rw [htext]
    rfl

-- ============================================================ spelling

/-- Nothing, or what begins with a blank or a comma. -/
def Apart (rest : List Char) : Prop := ∀ c, rest.head? = some c → c = ' ' ∨ c = ','

theorem apart_nil : Apart [] := nofun

theorem apart_blank (cs : List Char) : Apart (' ' :: cs) :=
  fun _ h => .inl (Option.some.inj h).symm

theorem apart_comma (cs : List Char) : Apart (',' :: cs) :=
  fun _ h => .inr (Option.some.inj h).symm

theorem apart_blank_append (t : String) : Apart (" " ++ t).toList := by
  rw [String.toList_append]
  exact apart_blank _

/-- The text is cut into these tokens, whatever stands apart from it. -/
def Spells (text : String) (tokens : List String) : Prop :=
  ∀ rest, Apart rest →
    scan (text.toList ++ rest) = (tokens ++ (scan rest).1, (scan rest).2)

/-- The tokens of a text are the next one and those of what is behind it. -/
theorem scan_eq (cs : List Char) :
    scan cs = match next cs with
      | .error e => ([], some e)
      | .ok none => ([], none)
      | .ok (some (token, after)) => (token :: (scan after).1, (scan after).2) := by
  rw [scan]
  split <;> simp only [*]

/-- Nothing is read where there are only blanks. -/
theorem next_eq_none {cs : List Char} : next cs = .ok none ↔ trimStart cs = [] := by
  unfold next
  cases trimStart cs with
  | nil => simp
  | cons c more => cases hlexeme : lexeme c more <;> simp [hlexeme, Except.map]

/-- A token is read at the first character that is not blank. -/
theorem next_eq_some {cs after : List Char} {token : String} :
    next cs = .ok (some (token, after))
      ↔ ∃ c more, trimStart cs = c :: more ∧ lexeme c more = .ok (token, after) := by
  unfold next
  constructor
  · intro h
    split at h
    · cases h
    · next c more htrim =>
      obtain ⟨found, hfound, heq⟩ := Result.map_eq_ok.1 h
      obtain rfl := Option.some.inj heq
      exact ⟨c, more, htrim, hfound⟩
  · rintro ⟨c, more, htrim, hlexeme⟩
    rw [htrim]
    dsimp only
    rw [hlexeme]
    rfl

/-- If there is a next token, it is the first. -/
theorem scan_of_next {cs after : List Char} {token : String}
    (h : next cs = .ok (some (token, after))) :
    scan cs = (token :: (scan after).1, (scan after).2) := by
  rw [scan_eq, h]

theorem scan_nil : scan [] = ([], none) := by
  rw [scan_eq]
  rfl

/-- A blank in front changes nothing. -/
theorem scan_blank (cs : List Char) : scan (' ' :: cs) = scan cs := by
  have hnext : next (' ' :: cs) = next cs := rfl
  rw [scan_eq, hnext, ← scan_eq]

/-- A lexeme at the start of a text is its first token. -/
theorem scan_lexeme {c : Char} {cs after : List Char} {token : String}
    (hblank : isBlank c = false) (h : lexeme c cs = .ok (token, after)) :
    scan (c :: cs) = (token :: (scan after).1, (scan after).2) := by
  refine scan_of_next (next_eq_some.2 ⟨c, cs, ?_, h⟩)
  exact List.dropWhile_cons_of_neg (by rw [hblank]; exact nofun)

/-- The tokens of a text that spells them. -/
theorem tokenize_of_spells {text : String} {tokens : List String}
    (h : Spells text tokens) :
    tokenize text = .ok tokens := by
  have hscan := h [] apart_nil
  rw [List.append_nil, scan_nil, List.append_nil] at hscan
  unfold tokenize
  rw [hscan]

theorem spells_empty : Spells "" [] := fun _ _ => rfl

/-- What stands behind a text is apart from it if it begins so. -/
private theorem apart_append {t : String} {rest : List Char} (ht : Apart t.toList)
    (hrest : Apart rest) : Apart (t.toList ++ rest) := by
  cases htext : t.toList with
  | nil => exact hrest
  | cons c cs =>
      rw [htext] at ht
      exact ht

/-- Texts put behind one another spell their tokens in a row, if the second
begins apart from the first. -/
theorem Spells.append {s t : String} {tokens tokens' : List String} (hs : Spells s tokens)
    (ht : Spells t tokens') (hapart : Apart t.toList) : Spells (s ++ t)
    (tokens ++ tokens') := by
  intro rest hrest
  rw [String.toList_append, List.append_assoc, hs _ (apart_append hapart hrest),
    ht rest hrest, List.append_assoc]

/-- A blank belongs to no token. -/
theorem Spells.blank {t : String} {tokens : List String} (ht : Spells t tokens) :
    Spells (" " ++ t) tokens := by
  intro rest hrest
  rw [String.toList_append]
  exact (scan_blank _).trans (ht rest hrest)

/-- Texts with a blank between them. -/
theorem Spells.spaced {s t : String} {tokens tokens' : List String} (hs : Spells s tokens)
    (ht : Spells t tokens') : Spells (s ++ " " ++ t) (tokens ++ tokens') := by
  rw [String.append_assoc]
  exact hs.append ht.blank (apart_blank_append t)

/-- Texts with a comma and a blank between them. -/
theorem Spells.listed {s t : String} {tokens tokens' : List String} (hs : Spells s tokens)
    (ht : Spells t tokens') : Spells (s ++ ", " ++ t) (tokens ++ "," :: tokens') := by
  have hcomma : Spells (", " ++ t) ("," :: tokens') := by
    intro rest hrest
    have hlexeme : ∀ cs, lexeme ',' cs = .ok (",", cs) := fun _ => rfl
    rw [String.toList_append]
    show scan (',' :: ' ' :: (t.toList ++ rest)) = _
    rw [scan_lexeme (by decide) (hlexeme _), scan_blank, ht rest hrest]
    rfl
  rw [String.append_assoc]
  refine hs.append hcomma ?_
  rw [String.toList_append]
  exact apart_comma _

/-- Texts in a row, each of which stands apart from the one before. -/
theorem spells_join {α : Type} {text : α → String} {tokens : α → List String} {l : List α}
    (h : ∀ a ∈ l, Spells (text a) (tokens a) ∧ Apart (text a).toList) :
    Spells (String.join (l.map text)) (l.flatMap tokens)
      ∧ Apart (String.join (l.map text)).toList := by
  induction l with
  | nil => exact ⟨spells_empty, apart_nil⟩
  | cons a l ih =>
      obtain ⟨⟨ha, hapart⟩, hl⟩ := List.forall_mem_cons.1 h
      obtain ⟨hjoin, hrest⟩ := ih hl
      rw [List.map_cons, String.join_cons, List.flatMap_cons, String.toList_append]
      exact ⟨ha.append hjoin hrest, apart_append hapart hrest⟩

/-- Texts with a comma and a blank between each two. -/
theorem spells_intercalate {α : Type} {text : α → String} {tokens : α → List String}
    {l : List α} (h : ∀ a ∈ l, Spells (text a) (tokens a)) :
    Spells (", ".intercalate (l.map text)) ([","].intercalate (l.map tokens)) := by
  induction l with
  | nil => exact spells_empty
  | cons a l ih =>
      obtain ⟨ha, hl⟩ := List.forall_mem_cons.1 h
      cases l with
      | nil =>
          rw [List.map_singleton, List.map_singleton, String.intercalate_singleton,
            List.intercalate_singleton]
          exact ha
      | cons b l =>
          rw [List.map_cons, List.map_cons, List.map_cons, List.map_cons,
            String.intercalate_cons_cons, List.intercalate_cons_cons, List.append_assoc]
          exact ha.listed (ih hl)

-- ============================================================== tokens

/-- A text spells itself if it is one lexeme before anything that stands
apart. -/
theorem spells_of_lexeme {s : String} {c : Char} {cs : List Char}
    (htext : s.toList = c :: cs)
    (hblank : isBlank c = false)
    (h : ∀ rest, Apart rest → lexeme c (cs ++ rest) = .ok (s, rest)) : Spells s [s] := by
  intro rest hrest
  rw [htext, List.cons_append, scan_lexeme hblank (h rest hrest)]
  rfl

/-- A character of a name begins a number or a word. -/
theorem lexeme_of_nameChar {c : Char} (h : NameChar c) (rest : List Char) :
    lexeme c rest = if isDigit c then
        .ok (String.ofList (splitNumber (c :: rest)).1, (splitNumber (c :: rest)).2)
      else .ok (String.ofList (c :: rest.takeWhile isWordChar),
        rest.dropWhile isWordChar) := by
  unfold lexeme
  rw [h.operator, h.quote, h.named]
  simp [h.bang, h.less, h.bracket, h.minus]

/-- A word is one token. -/
theorem spells_word {s : String} (h : isWord s = true) : Spells s [s] := by
  unfold isWord at h
  split at h
  · next c cs htext =>
    rw [Bool.and_eq_true, List.all_eq_true] at h
    obtain ⟨hstart, hcs⟩ := h
    have hc := nameChar_of_isNameChar (isNameChar_of_isNameStart hstart)
    refine spells_of_lexeme htext hc.blank fun rest hrest => ?_
    have hend : ∀ d, rest.head? = some d → isWordChar d = false := by
      intro d hd
      rcases hrest d hd with rfl | rfl
      · decide
      · decide
    obtain ⟨htake, hdrop⟩ := span_append rest hcs hend
    rw [lexeme_of_nameChar hc, (nameStart hstart).1, if_neg Bool.false_ne_true, htake,
      hdrop, ← htext, String.ofList_toList]
  · cases h

/-- A decimal without sign is cut off as a whole, if what follows it
goes on neither with a digit nor, where no point was seen, with a point
and a digit. -/
theorem splitNumber_of_ends {cs rest : List Char} (h : IsUnsigned cs)
    (hdigit : ∀ d, rest.head? = some d → isDigit d = false)
    (hpoint : '.' ∉ cs → ∀ d more, rest = '.' :: d :: more → isDigit d = false) :
    splitNumber (cs ++ rest) = (cs, rest) := by
  unfold splitNumber
  cases h with
  | whole hne hdigits =>
      have hnone : '.' ∉ cs := by
        intro hmem
        have hfalse := hdigits '.' hmem
        cases hfalse
      obtain ⟨htake, hdrop⟩ := span_append rest hdigits hdigit
      rw [htake, hdrop]
      split
      · next d more => exact if_neg (Bool.eq_false_iff.1 (hpoint hnone d more rfl))
      · rfl
  | @point digits places hne hdigits hne' hplaces =>
      have hstop : ∀ d, ('.' :: places ++ rest).head? = some d → isDigit d = false := by
        intro d hd
        rw [← Option.some.inj hd]
        rfl
      obtain ⟨d, more, rfl⟩ := List.exists_cons_of_ne_nil hne'
      obtain ⟨hd, hmore⟩ := List.forall_mem_cons.1 hplaces
      obtain ⟨htake, hdrop⟩ := span_append _ hdigits hstop
      obtain ⟨htake', hdrop'⟩ := span_append rest hmore hdigit
      rw [List.append_assoc, htake, hdrop]
      simp only [List.cons_append, hd, if_true, htake', hdrop']

/-- So it is if neither a digit nor a point follows. -/
theorem splitNumber_append {cs rest : List Char} (h : IsUnsigned cs)
    (hrest : ∀ d, rest.head? = some d → isDigit d = false ∧ d ≠ '.') :
    splitNumber (cs ++ rest) = (cs, rest) := by
  refine splitNumber_of_ends h (fun d hd => (hrest d hd).1) ?_
  rintro - d more rfl
  exact absurd rfl (hrest '.' rfl).2

/-- No blank and no comma goes on with a number. -/
theorem Apart.ends_number {rest : List Char} (h : Apart rest) :
    ∀ d, rest.head? = some d → isDigit d = false ∧ d ≠ '.' := by
  intro d hd
  rcases h d hd with rfl | rfl
  · decide
  · decide

/-- A decimal is one token. -/
theorem spells_decimal {s : String} (h : IsDecimal s) : Spells s [s] := by
  rcases h with h | ⟨cs, htext, h⟩
  · obtain ⟨d, cs, htext, hd⟩ := h.exists_cons
    have hc := nameChar_of_isNameChar (isNameChar_of_isDigit hd)
    refine spells_of_lexeme htext hc.blank fun rest hrest => ?_
    have hsplit : splitNumber (d :: (cs ++ rest)) = (d :: cs, rest) := by
      rw [htext] at h
      exact splitNumber_append h hrest.ends_number
    rw [lexeme_of_nameChar hc, if_pos hd, hsplit, ← htext, String.ofList_toList]
  · refine spells_of_lexeme htext (by decide) fun rest hrest => ?_
    obtain ⟨d, more, rfl, hd⟩ := h.exists_cons
    have hhead : (d :: more ++ rest).head?.any isDigit = true := hd
    unfold lexeme
    rw [hhead, splitNumber_append h hrest.ends_number]
    show Except.ok (String.ofList ('-' :: d :: more), rest) = _
    rw [← htext, String.ofList_toList]

-- ============================================================ literals

theorem escape_quote (cs : List Char) :
    Operand.escape ('\'' :: cs) = '\'' :: '\'' :: Operand.escape cs := rfl

theorem escape_of_ne {c : Char} (hc : c ≠ '\'') (cs : List Char) :
    Operand.escape (c :: cs) = c :: Operand.escape cs := by
  rw [Operand.escape, List.flatMap_cons, if_neg hc]
  rfl

/-- The quotes of a literal's text are written twice, so the literal
ends at the quote behind them. -/
theorem splitLiteral_escape (cs : List Char) {rest : List Char}
    (hrest : rest.head? ≠ some '\'') :
    splitLiteral '\'' (Operand.escape cs ++ '\'' :: rest)
      = some (Operand.escape cs ++ ['\''], rest) := by
  induction cs with
  | nil =>
      cases rest with
      | nil => rfl
      | cons d rest =>
          have hd : d ≠ '\'' := fun hd => hrest (by rw [hd]; rfl)
          show splitLiteral '\'' ('\'' :: d :: rest) = _
          rw [splitLiteral, if_pos rfl]
          exact if_neg hd
  | cons c cs ih =>
      by_cases hc : c = '\''
      · rw [hc, escape_quote, List.cons_append, List.cons_append, splitLiteral,
        if_pos rfl]
        dsimp only
        rw [if_pos rfl, ih]
        rfl
      · rw [escape_of_ne hc, List.cons_append, splitLiteral.eq_def]
        dsimp only
        rw [if_neg hc, ih]
        rfl

/-- Collapsing undoes the doubling of quotes. -/
theorem collapse_escape (cs : List Char) : collapse '\'' (Operand.escape cs) = cs := by
  induction cs with
  | nil => rfl
  | cons c cs ih =>
      by_cases hc : c = '\''
      · rw [hc, escape_quote, collapse, if_pos ⟨rfl, rfl⟩, ih]
      · rw [escape_of_ne hc]
        cases hmore : Operand.escape cs with
        | nil =>
            rw [hmore] at ih
            rw [← ih]
            rfl
        | cons d more => rw [collapse, if_neg fun h => hc h.1, ← hmore, ih]

/-- A text value is printed between quotes, its own ones doubled. -/
theorem toList_literal (value : String) :
    (Operand.text value).toText.toList = '\'' ::
    (Operand.escape value.toList ++ ['\'']) := by
  rw [Operand.toText, String.toList_ofList, List.cons_append]

/-- A literal is one token. -/
theorem spells_literal (value : String) :
    Spells (Operand.text value).toText [(Operand.text value).toText] := by
  refine spells_of_lexeme (toList_literal value) (by decide) fun rest hrest => ?_
  have hhead : rest.head? ≠ some '\'' := by
    intro hhead
    rcases hrest _ hhead with h | h
    · cases h
    · cases h
  have hsplit := splitLiteral_escape value.toList hhead
  rw [List.append_assoc, List.singleton_append]
  unfold lexeme
  rw [hsplit]
  dsimp only
  rw [← toList_literal, String.ofList_toList]
  rfl

/-- A literal stands for the text it was written for. -/
theorem unquote_literal (value : String) :
    isLiteral (Operand.text value).toText = true
      ∧ unquote (Operand.text value).toText = value := by
  have hliteral : isLiteral (Operand.text value).toText = true := by
    unfold isLiteral
    rw [toList_literal]
    simp [isQuote]
  refine ⟨hliteral, ?_⟩
  unfold unquote
  rw [if_pos hliteral, toList_literal]
  dsimp only
  rw [List.dropLast_concat, collapse_escape, String.ofList_toList]

-- =========================================================== operators

/-- Operators are their own tokens. -/
theorem spells_comparator (comparator : Comparator) :
    Spells comparator.toText [comparator.toText] := by
  cases comparator with
  | equal =>
      have htext : "=".toList = '=' :: [] := rfl
      exact spells_of_lexeme htext (by decide) fun _ _ => rfl
  | different =>
      have htext : "!=".toList = '!' :: ['='] := rfl
      exact spells_of_lexeme htext (by decide) fun _ _ => rfl

theorem spells_star : Spells "*" ["*"] := by
  have htext : "*".toList = '*' :: [] := rfl
  exact spells_of_lexeme htext (by decide) fun _ _ => rfl

end FlatQuery.Token
