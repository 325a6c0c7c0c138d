/-
Clauses of a statement. A clause begins with its keywords and runs to
the first token that ends it, or to the last token. Keywords are stored
in lowercase and compared ignoring the case of ASCII letters.
-/
import FlatQuery.Error
import FlatQuery.Text.Fold
import FlatQuery.Text.Lowercase

namespace FlatQuery

open Text

/-- How to recognise one kind of clause: the one or two keywords it
begins with and those that end it. -/
structure Clause where
  start : List String
  terminators : List String
  deriving DecidableEq, Repr

namespace Clause

/-- The clause between these keywords, in whatever case they are given. -/
def ofKeywords (start terminators : List String) : Clause :=
  ⟨start.map lowercase, terminators.map lowercase⟩

/-- Whether the token ends the clause. -/
def isTerminator (clause : Clause) (token : String) : Bool :=
  clause.terminators.any (sameFolded token)

/-- Whether the tokens begin with the clause's keywords. -/
def begins (clause : Clause) (tokens : List String) : Bool :=
  clause.start.length ≤ tokens.length
    && (tokens.zip clause.start).all fun (token, keyword) => sameFolded token keyword

/-- What an error names when the keywords are missing. -/
def near (tokens : List String) (count : Nat) : String :=
  if tokens.isEmpty then "end of input" else " ".intercalate (tokens.take count)

/-- Splits the clause off: its tokens, keywords included, and the rest,
which is empty or begins with a terminator. The keywords themselves end
nothing. -/
def extract (clause : Clause) (tokens : List String) : Result (List String × List String) :=
  if clause.begins tokens then
    let body := tokens.drop clause.start.length
    .ok (tokens.take clause.start.length ++ body.takeWhile (!clause.isTerminator ·),
      body.dropWhile (!clause.isTerminator ·))
  else .error (.unexpected (near tokens clause.start.length))

end Clause

end FlatQuery
