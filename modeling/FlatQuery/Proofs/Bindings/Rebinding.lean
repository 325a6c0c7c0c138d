/-
Binding names again. Bindings in which no name stands twice are equal
when they name the same things in the same order and agree on every
value (`ext_names`), and a run of bindings settles both: which names
there are follows from the names alone, and each value is the last one
given (`get?_bindAll`). So binding names anew wipes out what the same
names were bound to before (`bindAll_bindAll`), even where a name is
bound twice in one run.
-/
import Mathlib.Data.List.Nodup
import FlatQuery.Bindings

namespace FlatQuery.Bindings

-- ============================================================== names

/-- The bound names, in the order they were first bound. -/
def names (b : Bindings) : List String := b.entries.map Prod.fst

/-- The start of every run of bindings. -/
theorem nodup_names_empty : empty.names.Nodup := List.nodup_nil

/-- A name that is bound keeps its place, and a new one comes last. -/
private theorem map_fst_put (name value : String) (entries : List (String × String)) :
    (put name value entries).map Prod.fst
      = if name ∈ entries.map Prod.fst then entries.map Prod.fst
        else entries.map Prod.fst ++ [name] := by
  induction entries with
  | nil => rfl
  | cons e entries ih =>
      obtain ⟨n, v⟩ := e
      rw [put]
      by_cases hn : n = name
      · simp [hn]
      · rw [if_neg hn, List.map_cons, ih, List.map_cons]
        have hne : name ≠ n := Ne.symm hn
        -- behind an entry for another name the rest decides
        by_cases h : name ∈ entries.map Prod.fst
        · rw [if_pos h, if_pos (List.mem_cons_of_mem _ h)]
        · rw [if_neg h, if_neg (by simpa [hne] using h)]
          rfl

/-- Binding a name adds it behind the others, if it is new. -/
theorem names_bind (b : Bindings) (name value : String) :
    (b.bind name value).names = if name ∈ b.names then b.names else b.names ++ [name] :=
  map_fst_put name value b.entries

/-- So no name comes to stand twice. -/
theorem nodup_names_bind {b : Bindings} (h : b.names.Nodup) (name value : String) :
    (b.bind name value).names.Nodup := by
  rw [names_bind]
  split
  · exact h
  · next hname => exact List.concat_eq_append ▸ h.concat hname

/-- Bound afterwards are the name and those that were bound before. -/
theorem mem_names_bind {b : Bindings} {name value other : String} :
    other ∈ (b.bind name value).names ↔ other = name ∨ other ∈ b.names := by
  rw [names_bind]
  split
  · next h => exact ⟨.inr, fun hor => hor.elim (fun heq => heq ▸ h) id⟩
  · simp [or_comm]

-- ====================================================== extensionality

/-- A lookup misses exactly the names that do not occur. -/
private theorem lookup_eq_none_iff {entries : List (String × String)} {name : String} :
    entries.lookup name = none ↔ name ∉ entries.map Prod.fst := by
  induction entries with
  | nil => simp
  | cons e entries ih =>
      obtain ⟨n, v⟩ := e
      rw [List.lookup_cons]
      by_cases h : name = n
      · simp [h]
      · rw [beq_eq_false_iff_ne.2 h]
        simpa [h] using ih

/-- A name has a value if it is bound. -/
theorem isSome_get? (b : Bindings) (name : String) :
    (b.get? name).isSome = true ↔ name ∈ b.names := by
  rw [Option.isSome_iff_ne_none]
  exact (not_congr lookup_eq_none_iff).trans not_not

/-- Two lists of entries that agree on names and values agree; with names
that stand twice the first entry would hide the later ones. -/
private theorem entries_ext {es fs : List (String × String)}
    (hnames : es.map Prod.fst = fs.map Prod.fst) (hnodup : (es.map Prod.fst).Nodup)
    (hvalues : ∀ name, es.lookup name = fs.lookup name) : es = fs := by
  induction es generalizing fs with
  | nil => exact (List.map_eq_nil_iff.1 hnames.symm).symm
  | cons e es ih =>
      obtain ⟨n, v⟩ := e
      cases fs with
      | nil => cases hnames
      | cons f fs =>
          obtain ⟨m, w⟩ := f
          simp only [List.map_cons, List.cons.injEq] at hnames
          obtain ⟨rfl, hnames⟩ := hnames
          rw [List.map_cons, List.nodup_cons] at hnodup
          -- the values of the first name are at the head of both lists
          have hhead := hvalues n
          simp only [List.lookup_cons, beq_self_eq_true, Option.some.injEq] at hhead
          subst hhead
          refine congrArg _ (ih hnames hnodup.2 fun name => ?_)
          by_cases h : name = n
          · -- the first name stands in neither rest
            subst h
            rw [lookup_eq_none_iff.2 hnodup.1, lookup_eq_none_iff.2 (hnames ▸ hnodup.1)]
          · have := hvalues name
            simpa [List.lookup_cons, beq_eq_false_iff_ne.2 h] using this

/-- Bindings that bind the same names in one order to the same values are
the same. -/
theorem ext_names {a b : Bindings} (hnames : a.names = b.names) (hnodup : a.names.Nodup)
    (hvalues : ∀ name, a.get? name = b.get? name) : a = b := by
  obtain ⟨es⟩ := a
  obtain ⟨fs⟩ := b
  exact congrArg Bindings.mk (entries_ext hnames hnodup hvalues)

-- =============================================================== runs

/-- Nothing is bound without names. -/
theorem bindAll_nil (b : Bindings) (values : List String) : b.bindAll [] values = b := rfl

/-- The run binds from left to right. -/
theorem bindAll_cons (b : Bindings) (name value : String) (names values : List String) :
    b.bindAll (name :: names) (value :: values)
      = (b.bind name value).bindAll names values :=
  rfl

/-- A run in two parts, each with a value for every name. -/
theorem bindAll_append (b : Bindings) {names values : List String}
    (h : values.length = names.length) (names' values' : List String) :
    b.bindAll (names ++ names') (values ++ values')
      = (b.bindAll names values).bindAll names' values' := by
  unfold bindAll
  rw [List.zip_append h.symm, List.foldl_append]

/-- A run never makes a name stand twice, even if it holds the name
twice. -/
theorem nodup_names_bindAll {b : Bindings} (h : b.names.Nodup)
    (names values : List String) :
    (b.bindAll names values).names.Nodup := by
  induction names generalizing b values with
  | nil => exact h
  | cons name names ih =>
      cases values with
      | nil => exact h
      | cons value values => exact ih (nodup_names_bind h name value) values

/-- A name is bound to the last value that the run gave it; a name that
is not in the run keeps its value. -/
theorem get?_bindAll (b : Bindings) (names values : List String) (other : String) :
    (b.bindAll names values).get? other
      = ((names.zip values).reverse.lookup other).or (b.get? other) := by
  -- the later bindings of the run win, so they are looked at first
  induction names generalizing b values with
  | nil => rfl
  | cons name names ih =>
      cases values with
      | nil => rfl
      | cons value values =>
          rw [bindAll_cons, ih, get?_bind, List.zip_cons_cons, List.reverse_cons,
            List.lookup_append]
          cases (names.zip values).reverse.lookup other with
          | some v => rfl
          | none =>
              by_cases h : other = name
              · simp [h]
              · simp [h, List.lookup_cons, beq_eq_false_iff_ne.2 h]

/-- A name outside the run keeps its value. -/
theorem get?_bindAll_of_notMem (b : Bindings) {names : List String} (values : List String)
    {other : String} (h : other ∉ names) :
    (b.bindAll names values).get? other = b.get? other := by
  have hnone : (names.zip values).reverse.lookup other = none := by
    rw [lookup_eq_none_iff, List.map_reverse, List.mem_reverse, List.mem_map]
    rintro ⟨entry, hentry, rfl⟩
    exact h (List.of_mem_zip hentry).1
  rw [get?_bindAll, hnone, Option.none_or]

/-- A name in the run has the value that the run gave it, whatever it was
bound to before. -/
theorem get?_bindAll_of_mem (b c : Bindings) {names values : List String}
    (h : values.length = names.length) {other : String} (hother : other ∈ names) :
    (b.bindAll names values).get? other = (c.bindAll names values).get? other := by
  rw [get?_bindAll, get?_bindAll]
  cases hlookup : (names.zip values).reverse.lookup other with
  | some v => rfl
  | none =>
      have hnot := lookup_eq_none_iff.1 hlookup
      -- every name of the run was given some value
      rw [List.map_reverse, List.mem_reverse, List.map_fst_zip (by omega)] at hnot
      exact absurd hother hnot

/-- Where no name stands twice, each has the value at its place. -/
theorem get?_bindAll_of_nodup (b : Bindings) {names values : List String} (hnodup : names.Nodup)
    (hlength : values.length = names.length) {i : Nat} {name : String}
    (hname : names[i]? = some name) : (b.bindAll names values).get? name = values[i]? := by
  induction names generalizing b values i with
  | nil => cases hname
  | cons first names ih =>
      obtain ⟨value, values, rfl⟩ := List.exists_cons_of_length_eq_add_one hlength
      obtain ⟨hfirst, hrest⟩ := List.nodup_cons.1 hnodup
      rw [bindAll_cons]
      cases i with
      | zero =>
          obtain rfl := Option.some.inj hname
          rw [get?_bindAll_of_notMem _ _ hfirst, get?_bind, if_pos rfl]
          rfl
      | succ i => exact ih _ hrest (by simpa using hlength) hname

/-- Which names are bound afterwards does not depend on the values. -/
theorem names_bindAll_congr {a b : Bindings} (hnames : a.names = b.names)
    {names old new : List String} (hold : old.length = names.length)
    (hnew : new.length = names.length) :
    (a.bindAll names old).names = (b.bindAll names new).names := by
  induction names generalizing a b old new with
  | nil => exact hnames
  | cons name names ih =>
      obtain ⟨v, old, rfl⟩ := List.exists_cons_of_length_eq_add_one hold
      obtain ⟨w, new, rfl⟩ := List.exists_cons_of_length_eq_add_one hnew
      rw [bindAll_cons, bindAll_cons]
      refine ih ?_ (by simpa using hold) (by simpa using hnew)
      rw [names_bind, names_bind, hnames]

/-- Names that are bound already are bound again where they stand. -/
theorem names_bindAll_of_subset {b : Bindings} {names : List String}
    (h : ∀ name ∈ names, name ∈ b.names) (values : List String) :
    (b.bindAll names values).names = b.names := by
  induction names generalizing b values with
  | nil => rfl
  | cons name names ih =>
      cases values with
      | nil => rfl
      | cons value values =>
          obtain ⟨hname, hnames⟩ := List.forall_mem_cons.1 h
          have hsame : (b.bind name value).names = b.names := by
            rw [names_bind, if_pos hname]
          rw [bindAll_cons, ih (fun n hn => hsame ▸ hnames n hn), hsame]

/-- Bound after a run are its names and those that were bound before. -/
theorem mem_names_bindAll {b : Bindings} {names values : List String}
    (h : values.length = names.length) (other : String) :
    other ∈ (b.bindAll names values).names ↔ other ∈ names ∨ other ∈ b.names := by
  induction names generalizing b values with
  | nil => simp [bindAll_nil]
  | cons name names ih =>
      obtain ⟨value, values, rfl⟩ := List.exists_cons_of_length_eq_add_one h
      rw [bindAll_cons, ih (by simpa using h), mem_names_bind, List.mem_cons]
      tauto

/-- Binding names anew wipes out what they were bound to. -/
theorem bindAll_bindAll {b : Bindings} (hb : b.names.Nodup) {names old new : List String}
    (hold : old.length = names.length) (hnew : new.length = names.length) :
    (b.bindAll names old).bindAll names new = b.bindAll names new := by
  have hnodup := nodup_names_bindAll hb names old
  -- the names are the same in both, so only the values are left
  refine ext_names ?_ (nodup_names_bindAll hnodup names new) fun other => ?_
  · rw [names_bindAll_of_subset fun n hn => (mem_names_bindAll hold n).2 (.inl hn)]
    exact names_bindAll_congr rfl hold hnew
  · rw [get?_bindAll, get?_bindAll, get?_bindAll]
    cases hlookup : (names.zip new).reverse.lookup other with
    | some v => rfl
    | none =>
        -- a name without a new value is not among the names
        have hnot : other ∉ names := by
          have := lookup_eq_none_iff.1 hlookup
          rwa [List.map_reverse, List.mem_reverse, List.map_fst_zip (by omega)] at this
        have hnone : (names.zip old).reverse.lookup other = none := by
          rw [lookup_eq_none_iff, List.map_reverse, List.mem_reverse,
            List.map_fst_zip (by omega)]
          exact hnot
        rw [hnone, Option.none_or, Option.none_or]

end FlatQuery.Bindings
