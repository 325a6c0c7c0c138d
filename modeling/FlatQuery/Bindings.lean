/-
Named values that a predicate is tested on: the column `relation.column`
of the current row, or of one row of every relation. A name is bound
once; binding it again replaces its value where it stands.
-/
namespace FlatQuery

/-- Names with their values, in the order they were first bound. -/
structure Bindings where
  entries : List (String × String)
  deriving DecidableEq, Repr

namespace Bindings

def empty : Bindings := ⟨[]⟩

/-- The value of a name. -/
def get? (b : Bindings) (name : String) : Option String := b.entries.lookup name

/-- The entries with `name` bound to `value`. -/
def put (name value : String) : List (String × String) → List (String × String)
  | [] => [(name, value)]
  | (n, v) :: rest => if n = name then (n, value) :: rest else (n, v) :: put name value rest

/-- Binds a name, replacing its earlier value. -/
def bind (b : Bindings) (name value : String) : Bindings := ⟨put name value b.entries⟩

/-- Binds names to values pairwise, as far as both reach. -/
def bindAll (b : Bindings) (names values : List String) : Bindings :=
  (names.zip values).foldl (fun b (name, value) => b.bind name value) b

-- ============================================================ lookup

private theorem lookup_cons_ite (name value other : String) (rest : List (String × String)) :
    ((name, value) :: rest).lookup other
      = if other = name then some value else rest.lookup other := by
  rw [List.lookup_cons]
  by_cases h : other = name
  · simp [h]
  · rw [beq_eq_false_iff_ne.2 h, if_neg h]

private theorem lookup_put (name value other : String) (entries : List (String × String)) :
    (put name value entries).lookup other
      = if other = name then some value else entries.lookup other := by
  induction entries with
  | nil => rw [put, lookup_cons_ite]
  | cons e rest ih =>
    obtain ⟨n, v⟩ := e
    rw [put]
    by_cases hn : n = name
    · rw [if_pos hn, lookup_cons_ite, lookup_cons_ite, hn]
      by_cases h : other = name <;> simp [h]
    · rw [if_neg hn, lookup_cons_ite, lookup_cons_ite, ih]
      by_cases h : other = n
      · rw [if_pos h, if_neg (h ▸ hn), if_pos h]
      · rw [if_neg h, if_neg h]

/-- A binding is seen under its own name and changes no other. -/
theorem get?_bind (b : Bindings) (name value other : String) :
    (b.bind name value).get? other = if other = name then some value else b.get? other :=
  lookup_put name value other b.entries

end Bindings

end FlatQuery
