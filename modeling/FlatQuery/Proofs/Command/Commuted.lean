/-
Conditions that are joined by `and` alone may come in any order. The
order decides which of them are looked at, and so which of them fail on a
row; but a combination is accepted where all of them hold, and a row
passes by itself where those that speak of its relation alone hold
(`admitted_iff`). Neither asks for an order.

In another order the conditions name columns in another order. So a
relation is asked for the same columns, and if one is missing the query
is refused either way (`runnable_commuted`); and what is put out is
looked up by name.
-/
import FlatQuery.Proofs.Command.Interchange
import FlatQuery.Proofs.Statement.Shuffled

namespace FlatQuery.Command

open Text Statement Result

variable {tables : List (String × Table)} {limit : Option Nat} {q q' : Query}

-- ================================================================ truth

theorem isConjunctive_of_joined (h : ∀ c ∈ q.conditions, c.connective = .and) :
    q.predicate.isConjunctive = true := by
  rw [Chain.isConjunctive, List.all_eq_true]
  exact fun c hc => decide_eq_true (h c (List.mem_of_mem_tail hc))

/-- The conditions hold together where they hold in another order, and
nowhere else. -/
theorem holds_commuted (h : Commuted q q') :
    q'.predicate.toPredicate.holds = q.predicate.toPredicate.holds := by
  funext b
  rw [Bool.eq_iff_iff, Chain.holds_iff, Chain.holds_iff,
    Chain.evaluate_conjunctive (isConjunctive_of_joined h.symm.joined),
    Chain.evaluate_conjunctive (isConjunctive_of_joined h.joined)]
  exact forall_congr' fun c => imp_congr_left h.conditions.mem_iff

/-- A row passes by itself if every condition on its relation alone
holds. -/
theorem admitted_iff (hjoined : ∀ c ∈ q.conditions, c.connective = .and) {i : Input}
    {row : Nat} : admitted q i row = true
      ↔ ∀ c ∈ q.conditions, c.onlyReferences i.aliasName = true →
          c.evaluate (i.bind row .empty) = .ok true := by
  unfold admitted
  split
  · next hnone =>
    refine iff_of_true rfl fun c hc honly => ?_
    rcases Chain.restrictedTo_eq_none.1 hnone with ⟨c', hc', hor⟩ | hforeign
    · cases hor.symm.trans (hjoined c' (List.mem_of_mem_tail hc'))
    · cases honly.symm.trans (hforeign c hc)
  · next restricted hsome =>
    rw [Chain.holds_iff]
    exact Chain.evaluate_restrictedTo hsome

/-- The same rows are drawn from, for the relations are the same. -/
theorem candidates_commuted (h : Commuted q q') : candidates q' = candidates q := by
  have hadmitted : admitted q' = admitted q := by
    funext i row
    rw [Bool.eq_iff_iff, admitted_iff h.symm.joined, admitted_iff h.joined]
    exact forall_congr' fun c => imp_congr_left h.conditions.mem_iff
  unfold candidates
  rw [hadmitted]

-- ============================================================== answers

theorem answer_commuted (h : Commuted q q') :
    answer q' (inputs tables q') = answer q (inputs tables q) := by
  have hanswer : answer q' = answer q := by
    funext is
    unfold answer accepted values headers
    rw [holds_commuted h, h.wildcard, h.projection]
  rw [← answer_bare, map_bare_congr tables h.sources, answer_bare, hanswer]

/-- A query that can be run can be run with its conditions in another
order. -/
theorem runnable_commuted (hq : Accepted q) (hq' : Accepted q') (h : Commuted q q')
    (hrun : Runnable tables limit q) : Runnable tables limit q' := by
  have hbare := map_bare_congr tables h.sources
  obtain ⟨hroles, hregistered⟩ := forall₂_and.1 ((registered_iff_sources tables h.sources).2
    fun r hr => ⟨hrun.roles r hr, hrun.registered r hr⟩)
  refine ⟨hroles, hregistered, fun i' hi' => ?_, fun n hn => ?_⟩
  · cases hwildcard : q.wildcard with
    | true =>
        -- a star asks for nothing by name
        intro name hname
        rw [requested, if_pos (h.wildcard.trans hwildcard)] at hname
        cases hname
    | false =>
        obtain ⟨i, hi, halias, htable⟩ := exists_input_of_bare (.of_eq hbare) i' hi'
        have hrelation := map_relation_inputs hrun.registered ▸ List.mem_map_of_mem hi
        have hrelation' := map_relation_inputs hregistered ▸ List.mem_map_of_mem hi'
        have hreferences : ∀ ref, ref ∈ q'.references → ref ∈ q.references := by
          intro ref href
          unfold Query.references at href ⊢
          rw [h.projection] at href
          exact ((h.conditions.flatMap_right _).append_left _).mem_iff.1 href
        refine (supplied_iff hq' (h.wildcard.trans hwildcard) hrelation').2 fun ref href => ?_
        rw [← halias, ← htable]
        exact (supplied_iff hq hwildcard hrelation).1 (hrun.supplied i hi) ref
          (hreferences ref href)
  · rw [counted_congr (candidates_commuted h) (.of_eq hbare)]
    exact hrun.few n hn

variable {disk : Disk} {text text' : String} {d d' : Draft}

/-- One direction, which is enough: to be shuffled is symmetric. -/
theorem executeQuery_of_shuffled (hd : Draft.ofText text = .ok d)
    (hd' : Draft.ofText text' = .ok d') (h : Shuffled d d') {result : QueryResult}
    (hresult : executeQuery disk ⟨text, Catalog.registering tables limit⟩ = .ok result) :
    executeQuery disk ⟨text', Catalog.registering tables limit⟩ = .ok result := by
  obtain ⟨q, hparse, hrun, rfl⟩ := executeQuery_eq_ok.1 hresult
  obtain ⟨q', hparse', hcommuted⟩ := parse_shuffled hd hd' h hparse
  have hrun' := runnable_commuted (accepted_of_parse hparse) (accepted_of_parse hparse')
    hcommuted hrun
  exact executeQuery_eq_ok.2 ⟨q', hparse', hrun', (answer_commuted hcommuted).symm⟩

/-- The order of conditions does not matter. Whatever tables are
registered and whatever the limit for joins: two statements that differ
in the order of their comparisons, joined by `and` alone, are answered by
the same result or neither of them is, whichever comparisons fail on
whichever rows. -/
theorem executeQuery_shuffled (disk : Disk) (tables : List (String × Table))
    (limit : Option Nat) (hd : Draft.ofText text = .ok d)
    (hd' : Draft.ofText text' = .ok d') (h : Shuffled d d') (result : QueryResult) :
    executeQuery disk ⟨text', Catalog.registering tables limit⟩ = .ok result
      ↔ executeQuery disk ⟨text, Catalog.registering tables limit⟩ = .ok result :=
  ⟨executeQuery_of_shuffled hd' hd h.symm, executeQuery_of_shuffled hd hd' h⟩

/-- Guests, two of them of no known age. -/
def guests : List (String × Table) :=
  [("guests", ⟨["who", "age", "city"],
    #[["ann", "30", "oslo"], ["bob", "?", "oslo"], ["cy", "30", "rome"], ["dan", "old", "rome"]],
    by decide +kernel, by decide +kernel⟩)]

/-- In the one order the comparison of ages fails on some pairs, in the
other it is not reached there. -/
theorem executeQuery_shuffled_guests :
    let text := "select g.who, h.who as k from guests g join guests h
      where g.age = 30 and g.city = h.city and g.who <> h.who"
    let text' := "select g.who, h.who as k from guests g join guests h
      where g.who <> h.who AND g.city = h.city and g.age = 30"
    let result : QueryResult := ⟨["who", "k"], [["ann", "bob"], ["cy", "dan"]]⟩
    executeQuery .empty ⟨text, Catalog.registering guests (some 8)⟩ = .ok result
      ∧ executeQuery .empty ⟨text', Catalog.registering guests (some 8)⟩ = .ok result := by
  intro text text' result
  let age : Comparison := ⟨"g.age", "=", "30"⟩
  let city : Comparison := ⟨"g.city", "=", "h.city"⟩
  let who : Comparison := ⟨"g.who", "<>", "h.who"⟩
  let projection := ["g.who", ",", "h.who", "as", "k"]
  let sources : List Source := [⟨.leading, "guests", "g"⟩, ⟨.inner, "guests", "h"⟩]
  let group := ["g.age", "=", "30", "and", "g.city", "=", "h.city", "and", "g.who", "<>", "h.who"]
  let group' := ["g.who", "<>", "h.who", "AND", "g.city", "=", "h.city", "and", "g.age", "=", "30"]
  have hd : Draft.ofText text = .ok ⟨some projection, sources, [group]⟩ :=
    eq_ok_of_toOption (by decide +kernel)
  have hd' : Draft.ofText text' = .ok ⟨some projection, sources, [group']⟩ :=
    eq_ok_of_toOption (by decide +kernel)
  have hlower : lowercase "and" = "and" ∧ lowercase "AND" = "and" := by decide +kernel
  have hgroup : Conjunction [age, city, who] group :=
    .more age hlower.1 (.more city hlower.1 (.last who))
  have hgroup' : Conjunction [who, city, age] group' :=
    .more who hlower.2 (.more city hlower.1 (.last age))
  have hshuffled : Shuffled ⟨some projection, sources, [group]⟩
      ⟨some projection, sources, [group']⟩ :=
    ⟨rfl, rfl, [[age, city, who]], [[who, city, age]], .cons hgroup .nil, .cons hgroup' .nil,
      by decide⟩
  have hparse : Query.parse text = .ok {
      projection := [⟨"g", "who", none, .text⟩, ⟨"h", "who", some "k", .text⟩]
      relations := [.knowing .leading "guests" "g" ["who", "age", "city"],
        .knowing .inner "guests" "h" ["who", "city"]]
      conditions := [⟨.and, ⟨"g", "age"⟩, .equal, .number "30"⟩,
        ⟨.and, ⟨"g", "city"⟩, .equal, .column ⟨"h", "city"⟩⟩,
        ⟨.and, ⟨"g", "who"⟩, .different, .column ⟨"h", "who"⟩⟩]
      wildcard := false } := by
    rw [parse_eq_bind, hd, ok_bind]
    exact eq_ok_of_toOption (by decide +kernel)
  have hrun : executeQuery .empty ⟨text, Catalog.registering guests (some 8)⟩ = .ok result := by
    rw [executeQuery, executeReader, hparse]
    exact eq_ok_of_toOption (by decide +kernel)
  exact ⟨hrun, (executeQuery_shuffled .empty guests (some 8) hd hd' hshuffled result).2 hrun⟩

end FlatQuery.Command
