/-
Tokens written out anew. A token that was not written between brackets
has one of five shapes (`Lexical`), and each shape is one token again
when a blank follows it or nothing (`Lexical.scan`): that is all a token
needs, whatever stood around it in the text it comes from. So tokens
with blanks between them are read as these tokens (`scan_joined`).

The case of ASCII letters belongs to no shape, so tokens keep theirs
when their case is changed, literals aside (`Lexical.recased`).
-/
import Mathlib.Data.List.TakeWhile
import FlatQuery.Proofs.Statement.Accepted
import FlatQuery.Proofs.Text.Folding
import FlatQuery.Proofs.Token.Continuation

namespace FlatQuery

open Text

namespace Token

theorem isWordChar_foldChar (c : Char) : isWordChar (foldChar c) = isWordChar c :=
  map_foldChar_of_ascii (by decide +kernel) c

-- ============================================================== shapes

/-- A character that is a token by itself. -/
def isOperator (c : Char) : Bool :=
  c = '=' || c = ',' || c = '*' || c = '(' || c = ')' || c = ';'

/-- A letter, number sign or underscore, but no digit of ASCII, and then
letters, numbers, underscores and points. -/
def Wordlike (t : String) : Prop :=
  ∃ c cs, t.toList = c :: cs ∧ (isAlphanumeric c || c = '_') = true ∧ isDigit c = false
    ∧ ∀ d ∈ cs, isWordChar d = true

/-- The shapes of the tokens that are not written between brackets. -/
inductive Lexical : String → Prop where
  | operator {c : Char} : isOperator c = true → Lexical (String.ofList [c])
  | unequal : Lexical "!="
  | different : Lexical "<>"
  | literal {q : Char} {body : List Char} :
    isQuote q = true → splitLiteral q body = some (body, []) →
    Lexical (String.ofList (q :: body))
  | decimal {t : String} : IsDecimal t → Lexical t
  | word {t : String} : Wordlike t → Lexical t

/-- A literal that was split off is one by itself. -/
theorem splitLiteral_self {q : Char} {cs body after : List Char}
    (h : splitLiteral q cs = some (body, after)) : splitLiteral q body = some (body, []) := by
  obtain ⟨inner, hinner, rfl, -, -⟩ := splitLiteral_eq_some.1 h
  exact splitLiteral_eq_some.2 ⟨inner, hinner, rfl, rfl, nofun⟩

/-- A number that was split off is a decimal. -/
theorem isUnsigned_splitNumber {cs : List Char} (h : cs.head?.any isDigit = true) :
    IsUnsigned (splitNumber cs).1 := by
  have hdigits : ∀ cs : List Char, ∀ c ∈ cs.takeWhile isDigit, isDigit c = true :=
    fun _ => List.all_eq_true.1 List.all_takeWhile
  have hne : cs.takeWhile isDigit ≠ [] := by
    cases cs with
    | nil => cases h
    | cons d cs =>
        have hd : isDigit d = true := h
        rw [List.takeWhile_cons_of_pos hd]
        exact List.cons_ne_nil _ _
  unfold splitNumber
  dsimp only
  split
  · split
    · next hd =>
      refine .point hne (hdigits cs) (List.cons_ne_nil _ _) ?_
      exact List.forall_mem_cons.2 ⟨hd, hdigits _⟩
    · exact .whole hne (hdigits cs)
  · exact .whole hne (hdigits cs)

/-- What is read at another character than a bracket has one of the
shapes. -/
theorem lexical_of_lexeme {c : Char} {cs after : List Char} {token : String}
    (h : lexeme c cs = .ok (token, after)) (hc : c ≠ '[') : Lexical token := by
  unfold lexeme at h
  split at h
  · next hop =>
    cases h
    exact .operator hop
  split at h
  · cases h
    exact .unequal
  split at h
  · cases h
    exact .different
  split at h
  · next hquote =>
    split at h
    · next hsplit =>
      cases h
      exact .literal hquote (splitLiteral_self hsplit)
    · cases h
  split at h
  · next hminus =>
    cases h
    rw [Bool.and_eq_true] at hminus
    refine .decimal (.inr ⟨_, String.toList_ofList, ?_⟩)
    exact isUnsigned_splitNumber hminus.2
  split at h
  · next hdigit =>
    cases h
    refine .decimal (.inl ?_)
    rw [String.toList_ofList]
    exact isUnsigned_splitNumber hdigit
  next hdigit =>
  split at h
  · next hword =>
    cases h
    refine .word ⟨c, _, String.toList_ofList, hword, Bool.eq_false_iff.2 hdigit, ?_⟩
    exact List.all_eq_true.1 List.all_takeWhile
  · cases h

-- ======================================================== one after one

theorem tokenize_eq_ok {text : String} {tokens : List String} :
    tokenize text = .ok tokens ↔ scan text.toList = (tokens, none) := by
  unfold tokenize
  constructor
  · intro h
    split at h
    · next hscan => rw [hscan, Except.ok.inj h]
    · cases h
  · intro h
    rw [h]

/-- Nothing, or what begins with a blank. -/
def Detached (rest : List Char) : Prop := ∀ c, rest.head? = some c → isBlank c = true

theorem detached_nil : Detached [] := nofun

/-- A blank belongs to no token and closes no literal. -/
theorem of_isBlank {c : Char} (h : isBlank c = true) :
    isWordChar c = false ∧ isQuote c = false ∧ isDigit c = false ∧ c ≠ '.' := by
  have hletter := isAlphanumeric_eq_false_of_isBlank h
  have hnone : ∀ d, isBlank d = false → c ≠ d := by
    intro d hd hcd
    rw [hcd, hd] at h
    cases h
  have hdigit : isDigit c = false := by
    refine Bool.eq_false_iff.2 fun hd => ?_
    have hname := nameChar_of_isNameChar (isNameChar_of_isDigit hd)
    rw [hname.blank] at h
    cases h
  refine ⟨?_, ?_, hdigit, hnone _ (by decide)⟩
  · unfold isWordChar
    rw [hletter, decide_eq_false (hnone '_' (by decide)), decide_eq_false (hnone '.' (by decide))]
    rfl
  · unfold isQuote
    rw [decide_eq_false (hnone '\'' (by decide)), decide_eq_false (hnone '"' (by decide))]
    rfl

theorem Detached.ends_number {rest : List Char} (h : Detached rest) :
    ∀ d, rest.head? = some d → isDigit d = false ∧ d ≠ '.' :=
  fun d hd => (of_isBlank (h d hd)).2.2

/-- A letter, number sign or underscore is no symbol. -/
theorem ne_of_wordStart {c : Char} (hc : (isAlphanumeric c || c = '_') = true)
    {symbols : List Char}
    (hsymbols : symbols.all (fun d => !(isAlphanumeric d || d = '_')) = true) :
    ∀ d ∈ symbols, c ≠ d := by
  rintro d hd rfl
  have hother := List.all_eq_true.1 hsymbols c hd
  rw [hc] at hother
  cases hother

/-- A word is read at a letter, a number sign or an underscore. -/
theorem lexeme_of_wordStart {c : Char} (hc : (isAlphanumeric c || c = '_') = true)
    (hdigit : isDigit c = false) (cs : List Char) :
    Token.lexeme c cs
      = .ok (String.ofList (c :: cs.takeWhile isWordChar), cs.dropWhile isWordChar) := by
  -- a word begins with no character that begins another shape
  have hnone : ∀ d ∈ ['=', ',', '*', '(', ')', ';', '!', '<', '\'', '"', '[', '-'], c ≠ d :=
    ne_of_wordStart hc (by decide +kernel)
  simp only [List.forall_mem_cons] at hnone
  unfold Token.lexeme isQuote
  rw [hc, hdigit]
  simp [hnone]

/-- A word is neither a literal nor a number. -/
theorem Wordlike.kind {t : String} (h : Wordlike t) :
    isLiteral t = false ∧ isNumber t = false := by
  obtain ⟨c, cs, htext, hc, hdigit, -⟩ := h
  have hnone : ∀ d ∈ ['\'', '"', '-'], c ≠ d := ne_of_wordStart hc (by decide +kernel)
  simp only [List.forall_mem_cons] at hnone
  unfold isLiteral isNumber isQuote
  rw [htext]
  simp [hnone, hdigit]

/-- What stands between two quotes of a kind is a literal. -/
theorem isLiteral_of_enclosed {t : String} {q : Char} {inner : List Char}
    (hq : isQuote q = true) (h : t.toList = q :: (inner ++ [q])) : isLiteral t = true := by
  unfold isLiteral
  rw [h]
  dsimp only
  rw [hq, List.getLast?_concat]
  simp

-- ======================================================= where it ends

/-- The tokens that are neither names nor values. -/
def operators : List String := ["=", ",", "*", "(", ")", ";", "!=", "<>"]

/-- A token that is not written between brackets, as what follows it lets
it stand: it is of one of four kinds, and nothing behind it belongs to
it. -/
inductive Stands (t : String) (rest : List Char) : Prop where
  | operator : t ∈ operators → Stands t rest
  /-- A point goes on with a number that has none if a digit follows. -/
  | number :
    IsDecimal t → isNumber t = true →
    (∀ d, rest.head? = some d → isDigit d = false) →
    ('.' ∉ t.toList → ∀ d more, rest = '.' :: d :: more → isDigit d = false) →
    Stands t rest
  | literal {q : Char} {inner : List Char} :
    isQuote q = true → Paired q inner → t.toList = q :: (inner ++ [q]) →
    isLiteral t = true → rest.head? ≠ some q → Stands t rest
  | word :
    Wordlike t → isNumber t = false → isLiteral t = false →
    (∀ d, rest.head? = some d → isWordChar d = false) → Stands t rest

theorem isOperator_iff {c : Char} :
    isOperator c = true ↔ c = '=' ∨ c = ',' ∨ c = '*' ∨ c = '(' ∨ c = ')' ∨ c = ';' := by
  simp [isOperator, or_assoc]

theorem mem_operators {c : Char} (h : isOperator c = true) : String.ofList [c] ∈ operators := by
  rcases isOperator_iff.1 h with rfl | rfl | rfl | rfl | rfl | rfl
  all_goals decide

/-- A letter, number sign, underscore or quote is no blank. -/
theorem isBlank_of_isWordChar {c : Char} (h : isWordChar c = true) : isBlank c = false := by
  refine Bool.eq_false_iff.2 fun hblank => ?_
  rw [(of_isBlank hblank).1] at h
  cases h

theorem isBlank_of_isQuote {c : Char} (h : isQuote c = true) : isBlank c = false := by
  refine Bool.eq_false_iff.2 fun hblank => ?_
  rw [(of_isBlank hblank).2.1] at h
  cases h

/-- Where a token stands it is read. -/
theorem Stands.lexeme {t : String} {rest : List Char} (h : Stands t rest) :
    ∃ c cs, t.toList = c :: cs ∧ isBlank c = false
      ∧ Token.lexeme c (cs ++ rest) = .ok (t, rest) := by
  cases h with
  | operator hop =>
      simp only [operators, List.mem_cons, List.not_mem_nil, or_false] at hop
      rcases hop with rfl | rfl | rfl | rfl | rfl | rfl | rfl | rfl
      all_goals exact ⟨_, _, rfl, by decide, rfl⟩
  | number hdecimal _ hdigit hpoint =>
      rcases hdecimal with hunsigned | ⟨cs, htext, hunsigned⟩
      · have hsplit := splitNumber_of_ends hunsigned hdigit hpoint
        obtain ⟨d, cs, htext, hd⟩ := hunsigned.exists_cons
        have hc := nameChar_of_isNameChar (isNameChar_of_isDigit hd)
        rw [htext, List.cons_append] at hsplit
        refine ⟨d, cs, htext, hc.blank, ?_⟩
        rw [lexeme_of_nameChar hc, if_pos hd, hsplit, ← htext, String.ofList_toList]
      · have hnone : '.' ∉ cs → '.' ∉ t.toList := by
          rw [htext]
          exact List.not_mem_cons_of_ne_of_not_mem (by decide)
        have hsplit := splitNumber_of_ends hunsigned hdigit fun hcs => hpoint (hnone hcs)
        obtain ⟨d, more, rfl, hd⟩ := hunsigned.exists_cons
        have hhead : (d :: more ++ rest).head?.any isDigit = true := hd
        refine ⟨'-', d :: more, htext, by decide, ?_⟩
        unfold Token.lexeme
        rw [hhead, hsplit]
        show Except.ok (String.ofList ('-' :: d :: more), rest) = _
        rw [← htext, String.ofList_toList]
  | @literal q inner hq hinner htext _ hrest =>
      refine ⟨q, inner ++ [q], htext, isBlank_of_isQuote hq, ?_⟩
      rw [List.append_assoc, List.singleton_append, lexeme_of_isQuote hq,
        hinner.splitLiteral_append hrest]
      dsimp only
      rw [← htext, String.ofList_toList]
  | word hword _ _ hend =>
      obtain ⟨c, cs, htext, hc, hdigit, hcs⟩ := hword
      have hwordChar : isWordChar c = true := by
        unfold isWordChar
        rw [hc, Bool.true_or]
      obtain ⟨htake, hdrop⟩ := span_append rest hcs hend
      refine ⟨c, cs, htext, isBlank_of_isWordChar hwordChar, ?_⟩
      rw [lexeme_of_wordStart hc hdigit, htake, hdrop, ← htext, String.ofList_toList]

/-- Before a blank or at the end every shape stands. -/
theorem Lexical.stands {t : String} (h : Lexical t) {rest : List Char} (hrest : Detached rest) :
    Stands t rest := by
  cases h with
  | operator hop => exact .operator (mem_operators hop)
  | unequal => exact .operator (by decide)
  | different => exact .operator (by decide)
  | @literal q body hq hsplit =>
      obtain ⟨inner, hinner, rfl, -, -⟩ := splitLiteral_eq_some.1 hsplit
      refine .literal hq hinner String.toList_ofList ?_ fun hhead => ?_
      · exact isLiteral_of_enclosed hq String.toList_ofList
      · have hblank := hrest q hhead
        rw [isBlank_of_isQuote hq] at hblank
        cases hblank
  | decimal hdecimal =>
      refine .number hdecimal (isNumber_of_isDecimal hdecimal) ?_ ?_
      · exact fun d hd => (hrest.ends_number d hd).1
      · rintro - d more rfl
        exact absurd rfl (hrest.ends_number '.' rfl).2
  | word hword =>
      exact .word hword hword.kind.2 hword.kind.1 fun d hd => (of_isBlank (hrest d hd)).1

/-- Each shape is one token before a blank or at the end. -/
theorem Lexical.lexeme {t : String} (h : Lexical t) {rest : List Char} (hrest : Detached rest) :
    ∃ c cs, t.toList = c :: cs ∧ isBlank c = false
      ∧ Token.lexeme c (cs ++ rest) = .ok (t, rest) :=
  (h.stands hrest).lexeme

/-- A token is read as it is, and then what follows it. -/
theorem Lexical.scan {t : String} (h : Lexical t) {rest : List Char} (hrest : Detached rest) :
    Token.scan (t.toList ++ rest) = (t :: (Token.scan rest).1, (Token.scan rest).2) := by
  obtain ⟨c, cs, htext, hblank, hlexeme⟩ := h.lexeme hrest
  rw [htext, List.cons_append, scan_lexeme hblank hlexeme]

/-- Tokens with blanks between each two. -/
inductive Joined : List String → List Char → Prop where
  | nil : Joined [] []
  | last (t : String) : Joined [t] t.toList
  | cons {t : String} {tokens : List String} {gap cs : List Char} :
    gap ≠ [] → gap.all isBlank = true → Joined tokens cs →
    Joined (t :: tokens) (t.toList ++ (gap ++ cs))

/-- Tokens with blanks between them are read as these tokens. -/
theorem scan_joined {tokens : List String} {cs : List Char} (h : Joined tokens cs)
    (hlexical : ∀ t ∈ tokens, Lexical t) : scan cs = (tokens, none) := by
  induction h with
  | nil => exact scan_nil
  | last t =>
      have hscan := (hlexical t (List.mem_singleton_self t)).scan detached_nil
      rw [List.append_nil, scan_nil] at hscan
      exact hscan
  | @cons t tokens gap cs hgap hblank _ ih =>
      rw [List.all_eq_true] at hblank
      obtain ⟨ht, htokens⟩ := List.forall_mem_cons.1 hlexical
      have hdetached : Detached (gap ++ cs) := by
        obtain ⟨d, gap, rfl⟩ := List.exists_cons_of_ne_nil hgap
        intro c hc
        rw [← Option.some.inj hc]
        exact hblank d (List.mem_cons_self ..)
      rw [ht.scan hdetached, scan_blanks (List.dropWhile_eq_nil_iff.2 hblank), ih htokens]

-- ======================================================= without brackets

/-- The tokens of the text are read, and none of them at a bracket. -/
inductive Unbracketed : List Char → Prop where
  | blank {cs : List Char} : trimStart cs = [] → Unbracketed cs
  | token {cs more after : List Char} {c : Char} {t : String} :
    trimStart cs = c :: more → c ≠ '[' → lexeme c more = .ok (t, after) →
    Unbracketed after → Unbracketed cs

/-- A text without brackets has no token that is read at one. -/
theorem unbracketed_of_not_mem {cs : List Char} (hcs : (scan cs).2 = none) (h : '[' ∉ cs) :
    Unbracketed cs := by
  fun_induction scan cs with
  | case1 => cases hcs
  | case2 cs hnext => exact .blank (next_eq_none.1 hnext)
  | case3 cs token after hnext tokens failure hscan ih =>
      obtain ⟨c, more, htrim, hfound⟩ := next_eq_some.1 hnext
      have hsuffix : c :: more <:+ cs := htrim ▸ List.dropWhile_suffix _
      have hafter := (lexeme_suffix hfound).trans ((List.suffix_cons c more).trans hsuffix)
      rw [hscan] at ih
      refine .token htrim ?_ hfound (ih hcs fun hmem => h (hafter.subset hmem))
      rintro rfl
      exact h (hsuffix.subset (List.mem_cons_self ..))

theorem Unbracketed.lexical {cs : List Char} (h : Unbracketed cs) {tokens : List String}
    (hcs : scan cs = (tokens, none)) : ∀ t ∈ tokens, Lexical t := by
  induction h generalizing tokens with
  | @blank cs htrim =>
      rw [scan_eq, next_eq_none.2 htrim] at hcs
      cases hcs
      exact nofun
  | @token cs more after c t htrim hc hlexeme _ ih =>
      rw [scan_of_next (next_eq_some.2 ⟨c, more, htrim, hlexeme⟩)] at hcs
      obtain ⟨rfl, hfailure⟩ := Prod.mk.inj hcs
      exact List.forall_mem_cons.2
        ⟨lexical_of_lexeme hlexeme hc, ih (Prod.ext rfl hfailure)⟩

-- ============================================================ other case

/-- The token with the case of some ASCII letters changed; a literal
stays as it is. -/
def Recased (t t' : String) : Prop :=
  sameFolded t t' = true ∧ (isLiteral t = true → t' = t)

instance (t t' : String) : Decidable (Recased t t') :=
  inferInstanceAs (Decidable (_ ∧ _))

theorem Wordlike.recased {t t' : String} (h : Wordlike t) (hsame : sameFolded t t' = true) :
    Wordlike t' := by
  obtain ⟨c, cs, htext, hc, hdigit, hcs⟩ := h
  rw [Columns.sameFolded_iff, htext] at hsame
  obtain ⟨c', cs', htext', hfold, hfolds⟩ := List.map_eq_cons_iff.1 hsame.symm
  have hstart : (isAlphanumeric c' || c' = '_') = (isAlphanumeric c || c = '_') := by
    have hclass : ∀ c : Char, (isAlphanumeric (foldChar c) || foldChar c = '_')
        = (isAlphanumeric c || c = '_') :=
      map_foldChar_of_ascii (f := fun c => isAlphanumeric c || c = '_') (by decide +kernel)
    rw [← hclass, hfold, hclass]
  refine ⟨c', cs', htext', hstart.trans hc, ?_, ?_⟩
  · rw [← isDigit_foldChar, hfold, isDigit_foldChar, hdigit]
  · intro d' hd'
    obtain ⟨d, hd, hsame'⟩ := List.mem_map.1 (hfolds ▸ List.mem_map_of_mem hd')
    rw [← isWordChar_foldChar, ← hsame', isWordChar_foldChar]
    exact hcs d hd

/-- A number has digits and a point. -/
theorem isAsciiLetter_of_isUnsigned {cs : List Char} (h : IsUnsigned cs) :
    cs.any isAsciiLetter = false := by
  have hdigits : ∀ cs : List Char, (∀ c ∈ cs, isDigit c = true) →
      cs.any isAsciiLetter = false := by
    intro cs hcs
    rw [List.any_eq_false]
    intro c hc
    rw [Bool.not_eq_true]
    have hdigit := hcs c hc
    simp only [isDigit, Bool.and_eq_true, decide_eq_true_eq, Char.le_def,
      UInt32.le_iff_toNat_le] at hdigit
    simp only [isAsciiLetter, Bool.or_eq_false_iff, Bool.and_eq_false_iff, decide_eq_false_iff_not,
      Char.le_def, UInt32.le_iff_toNat_le]
    have hnine : '9'.val.toNat = 57 := rfl
    have hsmall : 'a'.val.toNat = 97 := rfl
    have hcapital : 'A'.val.toNat = 65 := rfl
    omega
  cases h with
  | whole _ hwhole => exact hdigits _ hwhole
  | point _ hwhole _ hplaces =>
      rw [List.any_append, List.any_cons, hdigits _ hwhole, hdigits _ hplaces]
      rfl

/-- Only words have a case. -/
theorem Lexical.eq_or_wordlike {t t' : String} (h : Lexical t) (hcase : Recased t t') :
    t' = t ∨ Wordlike t ∧ Wordlike t' := by
  cases h with
  | @operator c hop =>
      refine .inl (eq_of_sameFolded ?_ hcase.1)
      rcases isOperator_iff.1 hop with rfl | rfl | rfl | rfl | rfl | rfl
      all_goals decide
  | unequal => exact .inl (eq_of_sameFolded (by decide) hcase.1)
  | different => exact .inl (eq_of_sameFolded (by decide) hcase.1)
  | @literal q body hq hsplit =>
      refine .inl (hcase.2 ?_)
      obtain ⟨inner, -, rfl, -, -⟩ := splitLiteral_eq_some.1 hsplit
      exact isLiteral_of_enclosed hq String.toList_ofList
  | decimal hdecimal =>
      refine .inl (eq_of_sameFolded ?_ hcase.1)
      rcases hdecimal with hunsigned | ⟨cs, htext, hunsigned⟩
      · exact isAsciiLetter_of_isUnsigned hunsigned
      · rw [htext, List.any_cons, isAsciiLetter_of_isUnsigned hunsigned]
        rfl
  | word hword => exact .inr ⟨hword, hword.recased hcase.1⟩

theorem Lexical.recased {t t' : String} (h : Lexical t) (hcase : Recased t t') : Lexical t' := by
  rcases h.eq_or_wordlike hcase with rfl | ⟨-, hword⟩
  · exact h
  · exact .word hword

end Token

end FlatQuery
