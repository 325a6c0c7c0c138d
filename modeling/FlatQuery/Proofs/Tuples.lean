/-
Tuples with one member from each of several lists, the first list
turning slowest: the enumeration that an odometer and a join are
compared with. If every list ascends, so do the tuples, in
lexicographic order. Of lists in another order the tuples are the same
but for their order and that of their members (`map_perm`).
-/
import Mathlib.Algebra.BigOperators.Group.List.Basic
import Mathlib.Data.List.Forall2
import Mathlib.Data.Multiset.Sections

namespace FlatQuery

variable {α β : Type}

/-- All tuples with one member from each list, in order. -/
def tuples : List (List α) → List (List α)
  | [] => [[]]
  | list :: lists => list.flatMap fun a => (tuples lists).map (a :: ·)

/-- What holds pairwise holds at every place. -/
theorem forall₂_getElem? {R : α → β → Prop} {as : List α} {bs : List β}
    (h : List.Forall₂ R as bs) {k : Nat} {a : α} {b : β} (ha : as[k]? = some a)
    (hb : bs[k]? = some b) : R a b :=
  (List.forall₂_iff_zip.1 h).2 (List.mem_of_getElem? (List.getElem?_zip_eq_some.2 ⟨ha,
    hb⟩))

namespace tuples

/-- The tuples that begin with the first member come first. -/
theorem cons_cons (a : α) (list : List α) (lists : List (List α)) :
    tuples ((a :: list) :: lists)
      = (tuples lists).map (a :: ·) ++ tuples (list :: lists) := by
  rw [tuples, List.flatMap_cons, tuples]

/-- Nothing can be drawn from an empty list. -/
theorem eq_nil_of_mem {lists : List (List α)} (h : [] ∈ lists) : tuples lists = [] := by
  induction lists with
  | nil => cases h
  | cons list lists ih =>
      rcases List.mem_cons.1 h with rfl | h
      · rfl
      · rw [tuples, ih h]
        simp

/-- A tuple takes its members from the lists in order. -/
theorem mem_iff {lists : List (List α)} {tuple : List α} :
    tuple ∈ tuples lists ↔ List.Forall₂ (· ∈ ·) tuple lists := by
  induction lists generalizing tuple with
  | nil => simp [tuples]
  | cons list lists ih =>
      rw [tuples, List.mem_flatMap]
      constructor
      · rintro ⟨a, ha, h⟩
        obtain ⟨rest, hrest, rfl⟩ := List.mem_map.1 h
        exact .cons ha (ih.1 hrest)
      · rintro (_ | ⟨ha, hrest⟩)
        exact ⟨_, ha, List.mem_map.2 ⟨_, ih.2 hrest, rfl⟩⟩

/-- A tuple has a member of each list. -/
theorem length_of_mem {lists : List (List α)} {tuple : List α}
    (h : tuple ∈ tuples lists) :
    tuple.length = lists.length :=
  (mem_iff.1 h).length_eq

/-- There are as many as the product of the lengths. -/
theorem length_eq (lists : List (List α)) :
    (tuples lists).length = (lists.map List.length).prod := by
  induction lists with
  | nil => rfl
  | cons list lists ih =>
      rw [tuples, List.length_flatMap, List.map_cons, List.prod_cons, ← ih]
      simp

/-- Tuples of ascending lists ascend in lexicographic order. -/
theorem pairwise_lt {lists : List (List Nat)}
    (h : ∀ list ∈ lists, list.Pairwise (· < ·)) :
    (tuples lists).Pairwise (· < ·) := by
  induction lists with
  | nil => simp [tuples]
  | cons list lists ih =>
      obtain ⟨hlist, hlists⟩ := List.forall_mem_cons.1 h
      rw [tuples, List.pairwise_flatMap]
      constructor
      · intro a _
        rw [List.pairwise_map]
        refine (ih hlists).imp fun {x y} hxy => ?_
        exact List.cons_lt_cons_iff.2 (.inr ⟨rfl, hxy⟩)
      · refine hlist.imp fun {a b} hab x hx y hy => ?_
        obtain ⟨x, -, rfl⟩ := List.mem_map.1 hx
        obtain ⟨y, -, rfl⟩ := List.mem_map.1 hy
        exact List.cons_lt_cons_iff.2 (.inl hab)

private theorem flatMap_filter {p : α → Bool} {g : α → List β} {list : List α}
    (h : ∀ a ∈ list, p a = false → g a = []) :
    (list.filter p).flatMap g = list.flatMap g := by
  induction list with
  | nil => rfl
  | cons a list ih =>
      obtain ⟨ha, hlist⟩ := List.forall_mem_cons.1 h
      cases hp : p a with
      | true => rw [List.filter_cons_of_pos hp, List.flatMap_cons, List.flatMap_cons,
        ih hlist]
      | false =>
          rw [List.filter_cons_of_neg (by simp [hp]), List.flatMap_cons, ha hp, ih hlist]
          rfl

/-- To drop from each list what is in no wanted tuple drops no wanted
tuple, and leaves the wanted ones in their order. -/
theorem filter_of_filter {σ : Type} {sources : List σ} {rows : σ → List α}
    {keep : σ → α → Bool} {want : List α → Bool}
    (h : ∀ tuple ∈ tuples (sources.map rows), want tuple = true →
      List.Forall₂ (fun s a => keep s a = true) sources tuple) :
    (tuples (sources.map fun s => (rows s).filter (keep s))).filter want
      = (tuples (sources.map rows)).filter want := by
  induction sources generalizing want with
  | nil => rfl
  | cons s sources ih =>
      simp only [List.map_cons, tuples, List.filter_flatMap, List.filter_map]
      have hrest : ∀ a ∈ rows s, ∀ tuple ∈ tuples (sources.map rows),
          want (a :: tuple) = true →
            keep s a = true ∧ List.Forall₂ (fun s a => keep s a
              = true) sources tuple := by
        intro a ha tuple htuple hwant
        have hmem : a :: tuple ∈ tuples ((s :: sources).map rows) :=
          List.mem_flatMap.2 ⟨a, ha, List.mem_map.2 ⟨tuple, htuple, rfl⟩⟩
        obtain _ | ⟨hkeep, hall⟩ := h _ hmem hwant
        exact ⟨hkeep, hall⟩
      -- a member that is dropped begins no wanted tuple
      have hdropped : ∀ a ∈ rows s, keep s a = false →
          ((tuples (sources.map rows)).filter (want ∘ (a :: ·))).map (a :: ·) = [] := by
        intro a ha hkeep
        rw [List.map_eq_nil_iff, List.filter_eq_nil_iff]
        intro tuple htuple hwant
        rw [(hrest a ha tuple htuple hwant).1] at hkeep
        cases hkeep
      rw [← flatMap_filter hdropped]
      refine List.flatMap_congr fun a ha => ?_
      exact congrArg _ (ih fun tuple htuple hwant =>
        (hrest a (List.mem_filter.1 ha).1 tuple htuple hwant).2)

/-- Without the order of their members, the tuples are the sections of
the lists. -/
theorem map_ofList (lists : List (List α)) :
    Multiset.ofList ((tuples lists).map Multiset.ofList)
      = Multiset.Sections (Multiset.ofList (lists.map Multiset.ofList)) := by
  induction lists with
  | nil => rfl
  | cons list lists ih =>
      have hcons : ∀ a, ((tuples lists).map (a :: ·)).map Multiset.ofList
          = ((tuples lists).map Multiset.ofList).map (Multiset.cons a) := by
        intro a
        rw [List.map_map, List.map_map]
        rfl
      rw [List.map_cons, ← Multiset.cons_coe, Multiset.sections_cons, ← ih, tuples,
        List.map_flatMap]
      simp only [hcons, Multiset.map_coe]
      exact (Multiset.coe_bind list _).symm

/-- What does not look at the order of a tuple's members is the same on
the tuples of lists in another order. -/
theorem map_perm {lists lists' : List (List α)} (h : lists.Perm lists') {f : List α → β}
    (hf : ∀ t ∈ tuples lists, ∀ t' ∈ tuples lists', t.Perm t' → f t = f t') :
    ((tuples lists).map f).Perm ((tuples lists').map f) := by
  have hsame : (Multiset.ofList (tuples lists)).map Multiset.ofList
      = (Multiset.ofList (tuples lists')).map Multiset.ofList := by
    rw [Multiset.map_coe, Multiset.map_coe, map_ofList, map_ofList]
    exact congrArg Multiset.Sections (Multiset.coe_eq_coe.2 (h.map _))
  rw [← Multiset.rel_eq, Multiset.rel_map] at hsame
  rw [← Multiset.coe_eq_coe, ← Multiset.map_coe, ← Multiset.map_coe, ← Multiset.rel_eq,
    Multiset.rel_map]
  exact hsame.mono fun t ht t' ht' heq => hf t ht t' ht' (Multiset.coe_eq_coe.1 heq)

end tuples

end FlatQuery
