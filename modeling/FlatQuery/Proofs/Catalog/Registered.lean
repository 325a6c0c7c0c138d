/-
Catalogues of tables in memory. Whatever was registered, and in whatever
order: a name leads to the table registered last under it, in any case
(`origin?_registering`).
-/
import FlatQuery.Catalog

namespace FlatQuery.Catalog

open Text

-- ============================================================== places

/-- A lookup by comparing with the first name, as a choice. -/
private theorem lookup_cons_ite {name : String} {origin : Origin} {other : String}
    {rest : List (String × Origin)} :
    ((name, origin) :: rest).lookup other
      = if other = name then some origin else rest.lookup other := by
  rw [List.lookup_cons]
  by_cases h : other = name
  · simp [h]
  · rw [beq_eq_false_iff_ne.2 h, if_neg h]

/-- A relation is found under its own name and hides no other. -/
theorem lookup_insert (name other : String) (origin : Origin)
    (relations : List (String × Origin)) :
    (insert name origin relations).lookup other
      = if other = name then some origin else relations.lookup other := by
  induction relations with
  | nil => rw [insert, lookup_cons_ite]
  | cons r rest ih =>
      obtain ⟨n, o⟩ := r
      rw [insert]
      -- the same name, a smaller one, or a larger one at this place
      by_cases hn : name = n
      · rw [if_pos hn, lookup_cons_ite, lookup_cons_ite, ← hn]
        by_cases h : other = name <;> simp [h]
      · rw [if_neg hn]
        split
        · rw [lookup_cons_ite]
        · rw [lookup_cons_ite, lookup_cons_ite, ih]
          by_cases h : other = n
          · rw [if_pos h, if_neg (h ▸ Ne.symm hn), if_pos h]
          · rw [if_neg h, if_neg h]

/-- Registering changes what one name leads to, in any case. -/
theorem origin?_register (c : Catalog) (name other : String) (table : Table) :
    (c.register name table).origin? other
      = if lowercase other = lowercase name then some (.table table)
        else c.origin? other :=
  lookup_insert (lowercase name) (lowercase other) (.table table) c.relations

-- ======================================================== registrations

/-- The catalogue of these registrations, made in order, with a limit for
joins. -/
def registering (tables : List (String × Table)) (limit : Option Nat) : Catalog :=
  { tables.foldl (fun c (name, table) => c.register name table) inMemory with
    maxCombinations := limit }

/-- The table registered last under a name, in any case. -/
def registered? (tables : List (String × Table)) (name : String) : Option Table :=
  (tables.reverse.find? fun (n, _) => lowercase name = lowercase n).map Prod.snd

/-- The registrations before the catalogue was there are behind those made
on it. -/
private theorem origin?_foldl_register (tables : List (String × Table)) (c : Catalog)
    (name : String) :
    (tables.foldl (fun c (name, table) => c.register name table) c).origin? name
      = ((registered? tables name).map Origin.table).or (c.origin? name) := by
  induction tables generalizing c with
  | nil => rfl
  | cons t tables ih =>
      obtain ⟨n, table⟩ := t
      rw [List.foldl_cons, ih, origin?_register, registered?, registered?,
        List.reverse_cons, List.find?_append]
      -- the last registration under the name counts, so it is looked for
      -- first
      cases tables.reverse.find? fun (n, _) => lowercase name = lowercase n with
      | some found => rfl
      | none =>
          by_cases h : lowercase name = lowercase n
          · simp [h]
          · simp [h]

/-- A catalogue built by registrations alone leads to what was
registered. -/
theorem origin?_registering (tables : List (String × Table)) (limit : Option Nat)
    (name : String) :
    (registering tables limit).origin? name
      = (registered? tables name).map Origin.table := by
  have := origin?_foldl_register tables inMemory name
  rw [show inMemory.origin? name = none from rfl, Option.or_none] at this
  exact this

end FlatQuery.Catalog
