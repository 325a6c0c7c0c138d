/-
What ON and WHERE mean together. The terms of every ON and of WHERE
stand one after the other in one flat chain, and each of these groups
begins with `and`. So a group is evaluated from the value of the groups
before it, and nothing closes it off: an `or` in a later group starts
from that value too, and can turn a violated join condition into `true`
again.

What holds of every statement is `holds_of_conjunctive_after`: when the
chain is true, no group is false from the last one on that has an `or`,
and all groups behind that one hold. Two closed statements show why it
cannot say more.
-/
import FlatQuery.Proofs.Chain.Truth
import FlatQuery.Proofs.Statement.Stages

namespace FlatQuery.Statement

open Result Token

-- ============================================================= groups

/-- The chains of the ON and WHERE lists of a statement, each by itself,
in the order they are written. -/
def groups (text : String) : Result (List Chain) := do
  let d ← draft (dropSemicolons (← tokenize text))
  let q ← d.outline
  let chains ← d.groups.mapM (conditions q .and)
  return chains.map Chain.mk

/-- The chain of an accepted statement is its groups in a row. -/
theorem groups_of_parse {text : String} {q : Query} (h : Query.parse text = .ok q) :
    ∃ gs, groups text = .ok gs ∧ q.predicate = Chain.inRow gs := by
  obtain ⟨tokens, d, q₀, chains, htokens, hdraft, hq₀, hchains, rfl⟩ := parse_eq_ok.1 h
  refine ⟨chains.map Chain.mk, ?_, ?_⟩
  · unfold groups
    simp only [htokens, ok_bind, hdraft, hq₀, hchains]
    rfl
  · rw [Query.predicate, Query.conditions_foldl_addCondition, conditions_outline hq₀,
      Chain.inRow, List.map_map]
    exact congrArg (Chain.mk ·.flatten) (List.map_id chains).symm

/-- A list of conditions has a first term, with the connective that the
list is read with. -/
theorem head?_conditions {q : Query} {first : Connective} {tokens : List String}
    {terms : List Condition} (h : conditions q first tokens = .ok terms) :
    terms.head?.map (·.connective) = some first := by
  revert h
  fun_cases conditions q first tokens with
  | case1 left operator right =>
      intro h
      obtain ⟨operator, -, h⟩ := bind_eq_ok.1 h
      obtain ⟨ref, -, h⟩ := bind_eq_ok.1 h
      obtain ⟨side, -, h⟩ := bind_eq_ok.1 h
      obtain rfl := Except.ok.inj h
      rfl
  | case2 left operator right word rest =>
      intro h
      obtain ⟨operator, -, h⟩ := bind_eq_ok.1 h
      obtain ⟨ref, -, h⟩ := bind_eq_ok.1 h
      obtain ⟨side, -, h⟩ := bind_eq_ok.1 h
      obtain ⟨next, -, h⟩ := bind_eq_ok.1 h
      obtain ⟨following, -, h⟩ := bind_eq_ok.1 h
      obtain rfl := Except.ok.inj h
      rfl
  | case3 => nofun
  | case4 => nofun

/-- Every ON and WHERE list has terms, and is read with `and` before the
first of them. -/
theorem startsWithAnd_of_mem_groups {text : String} {gs : List Chain}
    (h : groups text = .ok gs) : ∀ g ∈ gs, g.terms ≠ [] ∧ g.startsWithAnd = true := by
  obtain ⟨tokens, -, h⟩ := bind_eq_ok.1 h
  obtain ⟨d, -, h⟩ := bind_eq_ok.1 h
  obtain ⟨q, -, h⟩ := bind_eq_ok.1 h
  obtain ⟨chains, hchains, h⟩ := bind_eq_ok.1 h
  obtain rfl := Except.ok.inj h
  intro g hg
  obtain ⟨terms, hterms, rfl⟩ := List.mem_map.1 hg
  obtain ⟨list, -, hlist⟩ := exists_of_mem_mapM hchains terms hterms
  have hfirst := head?_conditions hlist
  cases terms with
  | nil => cases hfirst
  | cons c terms => exact ⟨List.cons_ne_nil _ _, decide_eq_true (Option.some.inj hfirst)⟩

-- ======================================================== the and-law

/-- ON and WHERE combine by `and` as far as no later group has an `or`.
The chain of an accepted statement is its groups in a row, and each of
them begins with `and`. If the chain is true, then a group with only
conjunctive groups behind it is not false by itself; it holds if the
groups before it are true in a row, as they are if there are none, and
it holds if it has no `or` of its own. -/
theorem holds_of_conjunctive_after {text : String} {q : Query}
    (h : Query.parse text = .ok q) :
    ∃ gs, groups text = .ok gs ∧ q.predicate = Chain.inRow gs
      ∧ (∀ g ∈ gs, g.terms ≠ [] ∧ g.startsWithAnd = true)
      ∧ ∀ bindings, q.predicate.evaluate bindings = .ok true →
          ∀ earlier g later, gs = earlier ++ g :: later →
            (∀ l ∈ later, l.isConjunctive = true) →
            g.evaluate bindings ≠ .ok false
              ∧ ((Chain.inRow earlier).evaluate bindings = .ok true
                    ∨ g.isConjunctive = true →
                  g.evaluate bindings = .ok true) := by
  obtain ⟨gs, hgs, hq⟩ := groups_of_parse h
  have hstart : ∀ g ∈ gs, g.startsWithAnd = true := fun g hg =>
    (startsWithAnd_of_mem_groups hgs g hg).2
  refine ⟨gs, hgs, hq, startsWithAnd_of_mem_groups hgs, ?_⟩
  rintro bindings htrue earlier g later rfl hlater
  have hearlier : ∀ l ∈ earlier, l.startsWithAnd = true := fun l hl =>
    hstart l (List.mem_append_left _ hl)
  rw [hq, Chain.evaluate_eq_resume (Chain.startsWithAnd_inRow hstart),
    Chain.inRow_append] at htrue
  -- with no `or` behind it, what the group leaves is only tested further
  have hback : ∀ c ∈ (Chain.inRow later).terms, c.connective = .and := by
    intro c hc
    obtain ⟨terms, hmem, hc⟩ := List.mem_flatten.1 hc
    obtain ⟨l, hl, rfl⟩ := List.mem_map.1 hmem
    have hstart_l := hstart l (List.mem_append_right _ (List.mem_cons_of_mem _ hl))
    exact Chain.connective_eq_and hstart_l (hlater l hl) c hc
  rw [Chain.evaluate_eq_resume (Chain.startsWithAnd_inRow hearlier)]
  exact Chain.evaluate_of_between (hstart g (by simp)) hback htrue

/-- A join on either of two columns with a filter behind it: on rows that
agree in the second column and pass the filter, both groups hold. -/
theorem join_and_filter_hold :
    Query.parse "select * from a join b on a.x = b.x or a.y = b.y where a.z = 'u'"
        = .ok ⟨[], [.knowing .leading "a" "a" ["x", "y", "z"],
          .knowing .inner "b" "b" ["x", "y"]],
            [⟨.and, ⟨"a", "x"⟩, .equal, .column ⟨"b", "x"⟩⟩,
              ⟨.or, ⟨"a", "y"⟩, .equal, .column ⟨"b", "y"⟩⟩,
              ⟨.and, ⟨"a", "z"⟩, .equal, .text "u"⟩], true⟩
      ∧ Chain.evaluate ⟨[⟨.and, ⟨"a", "x"⟩, .equal, .column ⟨"b", "x"⟩⟩,
            ⟨.or, ⟨"a", "y"⟩, .equal, .column ⟨"b", "y"⟩⟩]⟩
          ⟨[("a.x", "1"), ("a.y", "2"), ("a.z", "u"), ("b.x", "3"), ("b.y", "2")]⟩
            = .ok true
      ∧ Chain.evaluate ⟨[⟨.and, ⟨"a", "z"⟩, .equal, .text "u"⟩]⟩
          ⟨[("a.x", "1"), ("a.y", "2"), ("a.z", "u"), ("b.x", "3"), ("b.y", "2")]⟩
          = .ok true := by
  have hparse : Query.parse "select * from a join b on a.x = b.x or a.y = b.y where a.z = 'u'"
      = .ok _ := eq_ok_of_toOption (a := ⟨[],
        [.knowing .leading "a" "a" ["x", "y", "z"], .knowing .inner "b" "b" ["x", "y"]],
        [⟨.and, ⟨"a", "x"⟩, .equal, .column ⟨"b", "x"⟩⟩,
          ⟨.or, ⟨"a", "y"⟩, .equal, .column ⟨"b", "y"⟩⟩,
          ⟨.and, ⟨"a", "z"⟩, .equal, .text "u"⟩], true⟩) (by decide +kernel)
  obtain ⟨gs, hgs, -, -, hall⟩ := holds_of_conjunctive_after hparse
  have hlist : gs = [⟨[⟨.and, ⟨"a", "x"⟩, .equal, .column ⟨"b", "x"⟩⟩,
      ⟨.or, ⟨"a", "y"⟩, .equal, .column ⟨"b", "y"⟩⟩]⟩,
      ⟨[⟨.and, ⟨"a", "z"⟩, .equal, .text "u"⟩]⟩] :=
    Except.ok.inj (hgs.symm.trans (eq_ok_of_toOption (by decide +kernel)))
  subst hlist
  have htrue := hall
    ⟨[("a.x", "1"), ("a.y", "2"), ("a.z", "u"), ("b.x", "3"), ("b.y", "2")]⟩
    (eq_ok_of_toOption (by decide +kernel))
  refine ⟨hparse, ?_, ?_⟩
  · exact (htrue [] _ [_] rfl (by decide)).2 (.inl rfl)
  · exact (htrue [_] _ [] rfl (by decide)).2 (.inr rfl)

/-- An `or` in the filter lets a combination through that violates the
join condition. And where the join condition is violated, the filter
may be true in the chain though by itself it fails. -/
theorem later_or_admits_violated_group :
    (∃ q gs bindings,
      Query.parse "select * from a join b on a.x = b.x where a.z = 'u' or a.z = 'v'"
        = .ok q
        ∧ groups "select * from a join b on a.x = b.x where a.z = 'u' or a.z = 'v'"
          = .ok gs
        ∧ q.predicate.evaluate bindings = .ok true
        ∧ ∃ g ∈ gs, g.evaluate bindings = .ok false)
      ∧ ∃ q gs bindings e,
          Query.parse "select * from a join b on a.x = b.x where a.n = 1 or a.z = 'v'"
            = .ok q
            ∧ groups "select * from a join b on a.x = b.x where a.n = 1 or a.z = 'v'"
              = .ok gs
            ∧ q.predicate.evaluate bindings = .ok true
            ∧ ∃ g ∈ gs.getLast?, g.evaluate bindings = .error e := by
  constructor
  · refine ⟨⟨[], [.knowing .leading "a" "a" ["x", "z"], .knowing .inner "b" "b" ["x"]],
        [⟨.and, ⟨"a", "x"⟩, .equal, .column ⟨"b", "x"⟩⟩,
          ⟨.and, ⟨"a", "z"⟩, .equal, .text "u"⟩,
          ⟨.or, ⟨"a", "z"⟩, .equal, .text "v"⟩], true⟩,
      [⟨[⟨.and, ⟨"a", "x"⟩, .equal, .column ⟨"b", "x"⟩⟩]⟩,
        ⟨[⟨.and, ⟨"a", "z"⟩, .equal, .text "u"⟩,
          ⟨.or, ⟨"a", "z"⟩, .equal, .text "v"⟩]⟩],
      ⟨[("a.x", "1"), ("a.z", "v"), ("b.x", "2")]⟩, ?_, ?_, ?_, _,
        List.mem_cons_self .., ?_⟩
    all_goals exact eq_ok_of_toOption (by decide +kernel)
  · refine ⟨⟨[], [.knowing .leading "a" "a" ["x", "n", "z"], .knowing .inner "b" "b" ["x"]],
        [⟨.and, ⟨"a", "x"⟩, .equal, .column ⟨"b", "x"⟩⟩,
          ⟨.and, ⟨"a", "n"⟩, .equal, .number "1"⟩,
          ⟨.or, ⟨"a", "z"⟩, .equal, .text "v"⟩], true⟩,
      [⟨[⟨.and, ⟨"a", "x"⟩, .equal, .column ⟨"b", "x"⟩⟩]⟩,
        ⟨[⟨.and, ⟨"a", "n"⟩, .equal, .number "1"⟩,
          ⟨.or, ⟨"a", "z"⟩, .equal, .text "v"⟩]⟩],
      ⟨[("a.x", "1"), ("a.n", "one"), ("a.z", "v"), ("b.x", "2")]⟩,
      .evaluation (.incomparable "a.n" "one" "1"), ?_, ?_, ?_, _, rfl, ?_⟩
    · exact eq_ok_of_toOption (by decide +kernel)
    · exact eq_ok_of_toOption (by decide +kernel)
    · exact eq_ok_of_toOption (by decide +kernel)
    · rfl

end FlatQuery.Statement
