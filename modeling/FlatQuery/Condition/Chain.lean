/-
Flat chains of conditions. A chain is read from left to right with no
precedence: each term joins the value so far by its own connective, and
is not looked at when that value decides already. The first connective
is ignored, and the empty chain is true.
-/
import FlatQuery.Condition
import FlatQuery.Predicate

namespace FlatQuery

/-- Terms, in the order they are written. -/
structure Chain where
  terms : List Condition
  deriving DecidableEq, Repr

namespace Chain

/-- One term after the value `acc` of those before it. -/
def step (bindings : Bindings) (acc : Bool) (c : Condition) : Result Bool :=
  match c.connective, acc with
  | .and, false => .ok false
  | .or, true => .ok true
  | _, _ => c.evaluate bindings

/-- The chain's truth on these bindings. -/
def evaluate (chain : Chain) (bindings : Bindings) : Result Bool :=
  match chain.terms with
  | [] => .ok true
  | first :: rest => do
    let acc ← first.evaluate bindings
    rest.foldlM (step bindings) acc

/-- The first thing wrong with any term. -/
def validate (chain : Chain) : Result Unit :=
  chain.terms.forM Condition.validate

/-- The chain as a predicate. -/
def toPredicate (chain : Chain) : Predicate := ⟨chain.validate, chain.evaluate⟩

/-- No term but the first is joined by `or`. -/
def isConjunctive (chain : Chain) : Bool :=
  chain.terms.tail.all (·.connective = .and)

/-- The terms that speak of `relation` alone, if the chain is
conjunctive and has any: a row they reject is in no combination that the
chain accepts. -/
def restrictedTo (chain : Chain) (relation : String) : Option Chain :=
  if chain.isConjunctive then
    match chain.terms.filter (·.onlyReferences relation) with
    | [] => none
    | terms => some ⟨terms.map ({ · with connective := .and })⟩
  else none

/-- A term and the connective before it. -/
def continued (c : Condition) : String :=
  " " ++ c.connective.toText ++ " " ++ c.toText

/-- The chain as a statement writes it. -/
def toText (chain : Chain) : String :=
  match chain.terms with
  | [] => ""
  | first :: rest => first.toText ++ String.join (rest.map continued)

end Chain

end FlatQuery
