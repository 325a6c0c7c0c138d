/-
Tokens of a statement. A token is the text of one lexical element:
operators, words and numbers as written, and literals with their quotes,
so that no literal equals a keyword. What stands between brackets is a
token of its own, without the brackets.

A token's kind is read off its text by the tests below.
-/
import FlatQuery.Text.Numeral

namespace FlatQuery.Token

open Text

/-- One of the two characters that enclose a literal. -/
def isQuote (c : Char) : Bool := c = '\'' || c = '"'

/-- Enclosed in two quotes of one kind. -/
def isLiteral (token : String) : Bool :=
  match token.toList with
  | q :: rest => isQuote q && rest.getLast? == some q
  | [] => false

/-- Two quotes in a row become one. -/
def collapse (q : Char) : List Char → List Char
  | c :: d :: rest =>
    if c = q ∧ d = q then q :: collapse q rest else c :: collapse q (d :: rest)
  | cs => cs

/-- The text a literal stands for; any other token stands for itself. -/
def unquote (token : String) : String :=
  if isLiteral token then
    match token.toList with
    | q :: rest => String.ofList (collapse q rest.dropLast)
    | [] => token
  else token

/-- A numeral that begins with a digit, after an optional minus. -/
def isNumber (token : String) : Bool :=
  let unsigned := match token.toList with
    | '-' :: rest => rest
    | cs => cs
  unsigned.head?.any isDigit && (Numeral.read? (String.ofList unsigned)).isSome

end FlatQuery.Token
