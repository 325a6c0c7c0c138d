/-
What rows are tested with. A predicate is validated once, before any
row; after that it answers or fails on each row by itself.
-/
import FlatQuery.Bindings
import FlatQuery.Error

namespace FlatQuery

/-- A test of bindings. -/
structure Predicate where
  validate : Result Unit
  evaluate : Bindings → Result Bool

namespace Predicate

/-- The predicate that nothing fails. -/
def always : Predicate := ⟨.ok (), fun _ => .ok true⟩

/-- The predicate that only looks at the bindings. -/
def ofFunction (evaluate : Bindings → Result Bool) : Predicate := ⟨.ok (), evaluate⟩

/-- Whether the predicate holds; a failure counts as no. -/
def holds (p : Predicate) (bindings : Bindings) : Bool :=
  match p.evaluate bindings with
  | .ok answer => answer
  | .error _ => false

end Predicate

end FlatQuery
