/-
From text to tokens. `next` takes the first token off a text, and
`scan` repeats it to the end or to the first error. Every token takes at
least one character with it, which is why `scan` ends.
-/
import FlatQuery.Error
import FlatQuery.Token

namespace FlatQuery.Token

open Text

/-- A character that continues a word. -/
def isWordChar (c : Char) : Bool := isAlphanumeric c || c = '_' || c = '.'

-- ======================================================= one lexeme

/-- Splits an unsigned number off: digits, and one point if a digit
follows it. -/
def splitNumber (cs : List Char) : List Char × List Char :=
  let whole := cs.takeWhile isDigit
  match cs.dropWhile isDigit with
  | '.' :: d :: rest =>
    if isDigit d then
      (whole ++ '.' :: d :: rest.takeWhile isDigit, rest.dropWhile isDigit)
    else (whole, '.' :: d :: rest)
  | rest => (whole, rest)

/-- Splits the rest of a literal off, its closing quote included. A
quote written twice does not close it. -/
def splitLiteral (q : Char) : List Char → Option (List Char × List Char)
  | [] => none
  | c :: rest =>
    if c = q then
      match rest with
      | d :: more =>
        if d = q then (splitLiteral q more).map fun (body, after) => (q :: q :: body, after)
        else some ([q], rest)
      | [] => some ([q], [])
    else (splitLiteral q rest).map fun (body, after) => (c :: body, after)

/-- Splits the rest of a bracketed name off; the bracket goes with
neither part. -/
def splitBracket : List Char → Option (List Char × List Char)
  | [] => none
  | c :: rest =>
    if c = ']' then some ([], rest)
    else (splitBracket rest).map fun (body, after) => (c :: body, after)

/-- The token that begins with `c`, and the text after it. -/
def lexeme (c : Char) (rest : List Char) : Result (String × List Char) :=
  if c = '=' || c = ',' || c = '*' || c = '(' || c = ')' || c = ';' then
    .ok (String.ofList [c], rest)
  else if c = '!' && rest.head? == some '=' then .ok ("!=", rest.tail)
  else if c = '<' && rest.head? == some '>' then .ok ("<>", rest.tail)
  else if isQuote c then
    match splitLiteral c rest with
    | some (body, after) => .ok (String.ofList (c :: body), after)
    | none => .error (.unexpected (String.ofList (c :: rest)))
  else if c = '[' then
    match splitBracket rest with
    | some (body, after) => .ok (String.ofList body, after)
    | none => .error (.unexpected (String.ofList (c :: rest)))
  else if c = '-' && rest.head?.any isDigit then
    let (digits, after) := splitNumber rest
    .ok (String.ofList ('-' :: digits), after)
  else if isDigit c then
    let (digits, after) := splitNumber (c :: rest)
    .ok (String.ofList digits, after)
  else if isAlphanumeric c || c = '_' then
    .ok (String.ofList (c :: rest.takeWhile isWordChar), rest.dropWhile isWordChar)
  else .error (.unexpected (String.ofList [c]))

-- ========================================================== progress

private theorem length_dropWhile_le (p : Char → Bool) (cs : List Char) :
    (cs.dropWhile p).length ≤ cs.length :=
  (List.dropWhile_sublist p).length_le

private theorem splitLiteral_length {q : Char} {cs body after : List Char}
    (h : splitLiteral q cs = some (body, after)) : after.length ≤ cs.length := by
  fun_induction splitLiteral q cs generalizing body after with
  | case1 => simp at h
  | case2 more ih =>
    obtain ⟨⟨b, a⟩, hb, hp⟩ := Option.map_eq_some_iff.1 h
    have := ih hb
    simp_all
    omega
  | case3 => simp_all
  | case4 => simp_all
  | case5 c rest _ ih =>
    obtain ⟨⟨b, a⟩, hb, hp⟩ := Option.map_eq_some_iff.1 h
    have := ih hb
    simp_all
    omega

private theorem splitBracket_length {cs body after : List Char}
    (h : splitBracket cs = some (body, after)) : after.length ≤ cs.length := by
  fun_induction splitBracket cs generalizing body after with
  | case1 => simp at h
  | case2 => simp_all
  | case3 c rest _ ih =>
    obtain ⟨⟨b, a⟩, hb, hp⟩ := Option.map_eq_some_iff.1 h
    have := ih hb
    simp_all
    omega

private theorem splitNumber_length (cs : List Char) :
    (splitNumber cs).2.length ≤ (cs.dropWhile isDigit).length := by
  unfold splitNumber
  split
  · next d rest h =>
    rw [h]
    split
    · have := length_dropWhile_le isDigit rest
      simp only [List.length_cons]
      omega
    · simp
  · next rest h => simp

theorem lexeme_length {c : Char} {rest after : List Char} {token : String}
    (h : lexeme c rest = .ok (token, after)) : after.length ≤ rest.length := by
  unfold lexeme at h
  split at h
  · simp_all
  split at h
  · simp only [Except.ok.injEq, Prod.mk.injEq] at h
    simp [← h.2]
  split at h
  · simp only [Except.ok.injEq, Prod.mk.injEq] at h
    simp [← h.2]
  split at h
  · split at h
    · next hs =>
      simp only [Except.ok.injEq, Prod.mk.injEq] at h
      exact h.2 ▸ splitLiteral_length hs
    · simp at h
  split at h
  · split at h
    · next hs =>
      simp only [Except.ok.injEq, Prod.mk.injEq] at h
      exact h.2 ▸ splitBracket_length hs
    · simp at h
  split at h
  · simp only [Except.ok.injEq, Prod.mk.injEq] at h
    have h1 := splitNumber_length rest
    have h2 := length_dropWhile_le isDigit rest
    rw [← h.2]
    omega
  split at h
  · next hd =>
    simp only [Except.ok.injEq, Prod.mk.injEq] at h
    have h1 := splitNumber_length (c :: rest)
    have h2 := length_dropWhile_le isDigit rest
    rw [List.dropWhile_cons_of_pos hd] at h1
    rw [← h.2]
    omega
  split at h
  · simp only [Except.ok.injEq, Prod.mk.injEq] at h
    rw [← h.2]
    exact length_dropWhile_le _ _
  · simp at h

-- ======================================================== all tokens

/-- The first token of a text and what follows it, or `none` if only
blanks are left. -/
def next (cs : List Char) : Result (Option (String × List Char)) :=
  match trimStart cs with
  | [] => .ok none
  | c :: rest => (lexeme c rest).map some

theorem next_length {cs after : List Char} {token : String}
    (h : next cs = .ok (some (token, after))) : after.length < cs.length := by
  unfold next at h
  split at h
  · simp at h
  · next c rest hc =>
    have hlen : (c :: rest).length ≤ cs.length := hc ▸ length_dropWhile_le _ _
    cases hx : lexeme c rest with
    | error e => simp [hx, Except.map] at h
    | ok p =>
      simp only [hx, Except.map, Except.ok.injEq, Option.some.injEq] at h
      have := lexeme_length (h ▸ hx)
      simp only [List.length_cons] at hlen
      omega

/-- The tokens up to the end or the first error, and that error. -/
def scan (cs : List Char) : List String × Option Error :=
  match _h : next cs with
  | .error e => ([], some e)
  | .ok none => ([], none)
  | .ok (some (token, after)) =>
    let (tokens, failure) := scan after
    (token :: tokens, failure)
termination_by cs.length
decreasing_by exact next_length ‹_›

/-- All tokens of a text, or the error at the first place that begins
none. -/
def tokenize (text : String) : Result (List String) :=
  match scan text.toList with
  | (tokens, none) => .ok tokens
  | (_, some e) => .error e

end FlatQuery.Token
