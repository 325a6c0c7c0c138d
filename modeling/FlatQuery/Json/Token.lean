/-
Tokens of JSON: punctuation, and values without parts. Blanks between
tokens are spaces, tabs, returns and newlines; comments and byte-order
marks are nothing.
-/
import FlatQuery.Json
import FlatQuery.Text.Numeral

namespace FlatQuery.Json

open Text

inductive Token where
  | beginArray
  | endArray
  | beginObject
  | endObject
  | colon
  | comma
  | scalar (value : Json)
  deriving Repr

def isBlank (c : Char) : Bool := c = ' ' || c = '\t' || c = '\n' || c = '\r'

-- ============================================================== texts

/-- The value of a hexadecimal digit. -/
def hexDigit? (c : Char) : Option Nat :=
  if isDigit c then some (c.toNat - '0'.toNat)
  else if 'a' ≤ c && c ≤ 'f' then some (c.toNat - 'a'.toNat + 10)
  else if 'A' ≤ c && c ≤ 'F' then some (c.toNat - 'A'.toNat + 10)
  else none

/-- The code that four hexadecimal digits give. -/
def hexCode? (a b c d : Char) : Option Nat := do
  return ((← hexDigit? a) * 16 + (← hexDigit? b)) * 256
    + (← hexDigit? c) * 16 + (← hexDigit? d)

/-- The character that a backslash and one more character stand for. -/
def shortEscape? (c : Char) : Option Nat :=
  match c with
  | '"' => some 0x22
  | '\\' => some 0x5C
  | '/' => some 0x2F
  | 'b' => some 0x08
  | 'f' => some 0x0C
  | 'n' => some 0x0A
  | 'r' => some 0x0D
  | 't' => some 0x09
  | _ => none

/-- The codes of a text up to its closing quote, and what follows it.
Control characters have to be escaped. -/
def splitText : List Char → Option (List Nat × List Char)
  | '"' :: rest => some ([], rest)
  | '\\' :: 'u' :: a :: b :: c :: d :: rest => do
    let code ← hexCode? a b c d
    let (codes, after) ← splitText rest
    return (code :: codes, after)
  | '\\' :: c :: rest => do
    let code ← shortEscape? c
    let (codes, after) ← splitText rest
    return (code :: codes, after)
  | c :: rest =>
    if c.toNat < 0x20 || c = '\\' then none
    else do
      let (codes, after) ← splitText rest
      return (c.toNat :: codes, after)
  | [] => none

/-- Joins surrogates to the characters they spell; half a pair spells
none. -/
def joinPairs : List Nat → Option (List Char)
  | [] => some []
  | [code] => if 0xD800 ≤ code && code < 0xE000 then none else some [Char.ofNat code]
  | high :: low :: rest =>
    if 0xD800 ≤ high && high < 0xDC00 then
      if 0xDC00 ≤ low && low < 0xE000 then
        let code := 0x10000 + (high - 0xD800) * 0x400 + (low - 0xDC00)
        (joinPairs rest).map (Char.ofNat code :: ·)
      else none
    else if 0xDC00 ≤ high && high < 0xE000 then none
    else (joinPairs (low :: rest)).map (Char.ofNat high :: ·)

-- ============================================================ numbers

/-- Passes a fraction, if there is one; its digits must be there. -/
def passFraction : List Char → Option (Bool × List Char)
  | '.' :: rest =>
    if rest.head?.any isDigit then some (true, rest.dropWhile isDigit) else none
  | cs => some (false, cs)

/-- Passes an exponent, if there is one; its digits must be there. -/
def passExponent (cs : List Char) : Option (Bool × List Char) :=
  match cs with
  | c :: rest =>
    if c = 'e' || c = 'E' then
      let digits := (Numeral.splitSign rest).2
      if digits.head?.any isDigit then some (true, digits.dropWhile isDigit) else none
    else some (false, cs)
  | [] => some (false, [])

/-- The number that the digits begin, and what follows it. No digit
stands before a zero that begins. -/
def splitNumber (negative : Bool) (cs : List Char) : Option (Json × List Char) := do
  let whole := cs.takeWhile isDigit
  if whole.isEmpty || (whole.head? = some '0' && whole.length > 1) then failure
  let (fraction, rest) ← passFraction (cs.dropWhile isDigit)
  let (exponent, rest) ← passExponent rest
  let n := Numeral.natOf whole
  let natural := !negative && !fraction && !exponent && n < UInt64.size
  return (.number (if natural then some n else none), rest)

-- ============================================================= tokens

/-- The token that begins with `c`, and what follows it. -/
def token? (c : Char) (rest : List Char) : Option (Token × List Char) :=
  match c, rest with
  | '[', _ => some (.beginArray, rest)
  | ']', _ => some (.endArray, rest)
  | '{', _ => some (.beginObject, rest)
  | '}', _ => some (.endObject, rest)
  | ':', _ => some (.colon, rest)
  | ',', _ => some (.comma, rest)
  | '"', _ => (splitText rest).map fun (codes, after) =>
    (.scalar (.text ((joinPairs codes).map String.ofList)), after)
  | 'n', 'u' :: 'l' :: 'l' :: after => some (.scalar .null, after)
  | 't', 'r' :: 'u' :: 'e' :: after => some (.scalar (.bool true), after)
  | 'f', 'a' :: 'l' :: 's' :: 'e' :: after => some (.scalar (.bool false), after)
  | '-', _ => (splitNumber true rest).map fun (n, after) => (.scalar n, after)
  | _, _ =>
    if isDigit c then (splitNumber false (c :: rest)).map fun (n, after) => (.scalar n, after)
    else none

-- ========================================================== progress

private theorem length_dropWhile_le (p : Char → Bool) (cs : List Char) :
    (cs.dropWhile p).length ≤ cs.length :=
  (List.dropWhile_sublist p).length_le

private theorem splitText_length {cs after : List Char} {codes : List Nat}
    (h : splitText cs = some (codes, after)) : after.length ≤ cs.length := by
  fun_induction splitText cs generalizing codes after with
  | case1 rest => simp_all
  | case2 a b c d rest ih =>
    simp only [Option.bind_eq_bind, Option.bind_eq_some_iff] at h
    obtain ⟨_, _, ⟨cs', after'⟩, hr, hp⟩ := h
    have := ih hr
    simp_all
    omega
  | case3 c rest _ ih =>
    simp only [Option.bind_eq_bind, Option.bind_eq_some_iff] at h
    obtain ⟨_, _, ⟨cs', after'⟩, hr, hp⟩ := h
    have := ih hr
    simp_all
    omega
  | case4 => simp at h
  | case5 c rest _ _ _ _ ih =>
    simp only [Option.bind_eq_bind, Option.bind_eq_some_iff] at h
    obtain ⟨⟨cs', after'⟩, hr, hp⟩ := h
    have := ih hr
    simp_all
    omega
  | case6 => simp at h

private theorem passFraction_length {cs after : List Char} {found : Bool}
    (h : passFraction cs = some (found, after)) : after.length ≤ cs.length := by
  unfold passFraction at h
  split at h
  · next rest =>
    split at h
    · cases h
      have := length_dropWhile_le isDigit rest
      simp only [List.length_cons]
      omega
    · simp at h
  · cases h
    exact Nat.le_refl _

private theorem splitSign_length (cs : List Char) :
    (Numeral.splitSign cs).2.length ≤ cs.length := by
  unfold Numeral.splitSign
  split <;> simp

private theorem passExponent_length {cs after : List Char} {found : Bool}
    (h : passExponent cs = some (found, after)) : after.length ≤ cs.length := by
  unfold passExponent at h
  split at h
  · next c rest =>
    split at h
    · simp only at h
      split at h
      · cases h
        have h1 := length_dropWhile_le isDigit (Numeral.splitSign rest).2
        have h2 := splitSign_length rest
        simp only [List.length_cons]
        omega
      · simp at h
    · cases h
      exact Nat.le_refl _
  · cases h
    exact Nat.le_refl _

private theorem splitNumber_length {negative : Bool} {cs after : List Char} {j : Json}
    (h : splitNumber negative cs = some (j, after)) :
    after.length ≤ (cs.dropWhile isDigit).length ∧ cs.head?.any isDigit = true := by
  unfold splitNumber at h
  simp only [Option.bind_eq_bind] at h
  split at h
  · simp [failure] at h
  · next hw =>
    simp only [Option.pure_def, Option.bind_eq_some_iff] at h
    obtain ⟨⟨f, r1⟩, hf, ⟨e, r2⟩, he, hp⟩ := h
    have h1 := passFraction_length hf
    have h2 := passExponent_length he
    simp only [Option.some.injEq, Prod.mk.injEq] at hp
    refine ⟨by rw [← hp.2]; simp only at h2; omega, ?_⟩
    cases cs with
    | nil => simp at hw
    | cons c rest =>
      by_cases hc : isDigit c = true
      · simp [hc]
      · simp [hc] at hw

theorem token?_length {c : Char} {rest after : List Char} {token : Token}
    (h : token? c rest = some (token, after)) : after.length ≤ rest.length := by
  unfold token? at h
  split at h
  · cases h; exact Nat.le_refl _
  · cases h; exact Nat.le_refl _
  · cases h; exact Nat.le_refl _
  · cases h; exact Nat.le_refl _
  · cases h; exact Nat.le_refl _
  · cases h; exact Nat.le_refl _
  · obtain ⟨⟨codes, a⟩, hs, hp⟩ := Option.map_eq_some_iff.1 h
    cases hp
    exact splitText_length hs
  · cases h; simp only [List.length_cons]; omega
  · cases h; simp only [List.length_cons]; omega
  · cases h; simp only [List.length_cons]; omega
  · obtain ⟨⟨j, a⟩, hs, hp⟩ := Option.map_eq_some_iff.1 h
    cases hp
    exact Nat.le_trans (splitNumber_length hs).1 (length_dropWhile_le _ _)
  · split at h
    · next hd =>
      obtain ⟨⟨j, a⟩, hs, hp⟩ := Option.map_eq_some_iff.1 h
      cases hp
      have h1 := (splitNumber_length hs).1
      rw [List.dropWhile_cons_of_pos hd] at h1
      exact Nat.le_trans h1 (length_dropWhile_le _ _)
    · simp at h

/-- The tokens of a text. Each takes at least one character with it. -/
def tokens? (cs : List Char) : Option (List Token) :=
  match _hc : cs.dropWhile isBlank with
  | [] => some []
  | c :: rest =>
    match _ht : token? c rest with
    | none => none
    | some (token, after) => (tokens? after).map (token :: ·)
termination_by cs.length
decreasing_by
  have h1 := token?_length _ht
  have h2 := length_dropWhile_le isBlank cs
  rw [_hc, List.length_cons] at h2
  omega

end FlatQuery.Json
