/-
Testing a row before it is combined. The terms that speak of one
relation alone see nothing but its row, so in a conjunctive chain they
hold of the row by itself wherever the whole chain is true
(`holds_restrictedTo`). A chain with an `or` is not restricted at all.
So a row that its scan turns away, whether the restricted chain is false
on it or fails, is missed by no combination (`restrictedTo_sound`).
-/
import FlatQuery.Proofs.Chain.Truth
import FlatQuery.Scan

namespace FlatQuery

open Result

-- ============================================================= terms

namespace Condition

/-- A term sees only the columns it refers to. -/
theorem evaluate_congr {c : Condition} {b b' : Bindings}
    (h : ∀ ref ∈ c.references, ref.lookup b = ref.lookup b') :
    c.evaluate b = c.evaluate b' := by
  obtain ⟨connective, left, comparator, right⟩ := c
  have hleft : left.lookup b = left.lookup b' := by
    cases right <;> exact h left (List.mem_cons_self ..)
  have hright : ∀ value, rightEquals ⟨connective, left, comparator, right⟩ value b
      = rightEquals ⟨connective, left, comparator, right⟩ value b' := by
    intro value
    cases right with
    | number numeral => rfl
    | text text => rfl
    | column ref =>
        have hcolumn : ref.lookup b = ref.lookup b' :=
          h ref (List.mem_cons_of_mem _ (List.mem_cons_self ..))
        simp only [rightEquals, hcolumn]
  simp only [evaluate, hleft, hright]

theorem onlyReferences_eq (c : Condition) (relation : String) :
    c.onlyReferences relation = decide (∀ ref ∈ c.references, ref.relation = relation) := by
  rw [Bool.eq_iff_iff, onlyReferences, List.all_eq_true, decide_eq_true_iff]
  simp only [decide_eq_true_iff]

theorem evaluate_connective (c : Condition) (connective : Connective) (b : Bindings) :
    ({ c with connective } : Condition).evaluate b = c.evaluate b := rfl

end Condition

-- ============================================================= chains

namespace Chain

variable {chain restricted : Chain} {relation : String} {b own : Bindings}

theorem resume_congr {terms : List Condition}
    (h : ∀ c ∈ terms, c.evaluate b = c.evaluate own) (acc : Bool) :
    resume b acc terms = resume own acc terms := by
  induction terms generalizing acc with
  | nil => rfl
  | cons c terms ih =>
      obtain ⟨hc, hterms⟩ := List.forall_mem_cons.1 h
      have hstep : step b acc c = step own acc c := by
        unfold step
        rw [hc]
      rw [resume_cons, resume_cons, hstep]
      exact bind_congr fun acc => ih hterms acc

/-- A chain sees only the columns its terms refer to. -/
theorem evaluate_congr
    (h : ∀ c ∈ chain.terms, ∀ ref ∈ c.references, ref.lookup b = ref.lookup own) :
    chain.evaluate b = chain.evaluate own := by
  obtain ⟨terms⟩ := chain
  have hterms : ∀ c ∈ terms, c.evaluate b = c.evaluate own := fun c hc =>
    Condition.evaluate_congr (h c hc)
  cases terms with
  | nil => rfl
  | cons first rest =>
      obtain ⟨hfirst, hrest⟩ := List.forall_mem_cons.1 hterms
      show (first.evaluate b >>= (resume b · rest)) = _
      rw [hfirst]
      exact bind_congr fun acc => resume_congr hrest acc

/-- A conjunctive chain is true when every term is. -/
theorem evaluate_conjunctive (h : chain.isConjunctive = true) :
    chain.evaluate b = .ok true ↔ ∀ c ∈ chain.terms, c.evaluate b = .ok true := by
  obtain ⟨terms⟩ := chain
  cases terms with
  | nil => exact iff_of_true rfl fun c hc => absurd hc List.not_mem_nil
  | cons first rest =>
      have hrest : ∀ c ∈ rest, c.connective = .and := by simpa [isConjunctive] using h
      show (first.evaluate b >>= (resume b · rest)) = _ ↔ _
      rw [bind_eq_ok, List.forall_mem_cons]
      constructor
      · rintro ⟨acc, hfirst, hgo⟩
        obtain ⟨rfl, hall⟩ := (resume_conjunctive acc hrest).1 hgo
        exact ⟨hfirst, hall⟩
      · rintro ⟨hfirst, hall⟩
        exact ⟨true, hfirst, (resume_conjunctive true hrest).2 ⟨rfl, hall⟩⟩

/-- What a restricted chain is made of. -/
theorem restrictedTo_eq_some (h : chain.restrictedTo relation = some restricted) :
    chain.isConjunctive = true
      ∧ restricted.terms = (chain.terms.filter (·.onlyReferences relation)).map
          ({ · with connective := .and }) := by
  unfold restrictedTo at h
  split at h
  · next hconj =>
    refine ⟨hconj, ?_⟩
    split at h
    · cases h
    · obtain rfl := Option.some.inj h
      rfl
  · cases h

/-- A restricted chain is true where all its terms are. -/
theorem evaluate_restrictedTo (h : chain.restrictedTo relation = some restricted) :
    restricted.evaluate b = .ok true
      ↔ ∀ c ∈ chain.terms, c.onlyReferences relation = true → c.evaluate b = .ok true := by
  obtain ⟨-, hterms⟩ := restrictedTo_eq_some h
  have hrestricted : restricted.isConjunctive = true := by
    rw [isConjunctive, hterms, List.all_eq_true]
    intro c hc
    obtain ⟨c', -, rfl⟩ := List.mem_map.1 (List.mem_of_mem_tail hc)
    rfl
  rw [evaluate_conjunctive hrestricted, hterms]
  simp only [List.forall_mem_map, List.mem_filter, and_imp, Condition.evaluate_connective]

/-- A restricted chain holds of the bindings of one row if the whole
chain holds of bindings with the same values for that relation. -/
theorem holds_restrictedTo (hchain : chain.evaluate b = .ok true)
    (h : chain.restrictedTo relation = some restricted)
    (hsame : ∀ c ∈ chain.terms, ∀ ref ∈ c.references, ref.relation = relation →
      ref.lookup own = ref.lookup b) :
    restricted.evaluate own = .ok true := by
  obtain ⟨hconj, -⟩ := restrictedTo_eq_some h
  refine (evaluate_restrictedTo h).2 fun c hc honly => ?_
  rw [← (evaluate_conjunctive hconj).1 hchain c hc]
  refine Condition.evaluate_congr fun ref href => hsame c hc ref href ?_
  simpa using List.all_eq_true.1 honly ref href

theorem isConjunctive_eq_false :
    chain.isConjunctive = false ↔ ∃ c ∈ chain.terms.tail, c.connective = .or := by
  rw [isConjunctive, List.all_eq_false]
  refine exists_congr fun c => and_congr_right fun _ => ?_
  cases c.connective <;> simp

/-- A chain is restricted unless it has an `or` or says nothing of the
relation alone. -/
theorem restrictedTo_eq_none : chain.restrictedTo relation = none
    ↔ (∃ c ∈ chain.terms.tail, c.connective = .or)
      ∨ ∀ c ∈ chain.terms, c.onlyReferences relation = false := by
  rw [← isConjunctive_eq_false]
  unfold restrictedTo
  cases chain.isConjunctive with
  | false => simp
  | true =>
      rw [if_pos rfl]
      split
      · next hnone => simpa [List.filter_eq_nil_iff] using hnone
      · next hsome => simpa [List.filter_eq_nil_iff] using hsome

/-- What a chain refers to of one relation has the same values, if any,
in two bindings. -/
def AgreeOn (chain : Chain) (relation : String) (own whole : Bindings) : Prop :=
  ∀ c ∈ chain.terms, ∀ ref ∈ c.references, ref.relation = relation →
    ref.lookup own = ref.lookup whole

/-- Testing rows by themselves is sound, whatever the chain. It is not
done exactly if the chain has an `or` behind its first term or no term
that speaks of the relation alone. Otherwise the test is made of exactly
these terms, in order and all joined by `and`, and it is true of a row
wherever the whole chain is true of a combination with its values. So a
row that a scan turns away, because the test is false or because it
fails, is in no combination that the chain accepts. -/
theorem restrictedTo_sound (chain : Chain) (relation : String) :
    (chain.restrictedTo relation = none
        ↔ (∃ c ∈ chain.terms.tail, c.connective = .or)
          ∨ ∀ c ∈ chain.terms, ¬ ∀ ref ∈ c.references, ref.relation = relation)
      ∧ ∀ restricted, chain.restrictedTo relation = some restricted →
          restricted.terms
              = (chain.terms.filter fun c => ∀ ref ∈ c.references, ref.relation = relation).map
                  ({ · with connective := .and })
            ∧ (∀ whole own, chain.AgreeOn relation own whole →
                chain.evaluate whole = .ok true → restricted.evaluate own = .ok true)
            ∧ ∀ (scan : Scan) row whole, chain.AgreeOn relation (scan.bind row .empty) whole →
                scan.admits (some restricted.toPredicate) row = false →
                  chain.evaluate whole ≠ .ok true := by
  constructor
  · rw [restrictedTo_eq_none]
    simp only [Condition.onlyReferences_eq, decide_eq_false_iff_not]
  · intro restricted h
    have htrue : ∀ whole own, chain.AgreeOn relation own whole →
        chain.evaluate whole = .ok true → restricted.evaluate own = .ok true :=
      fun whole own hagree hchain => holds_restrictedTo hchain h hagree
    refine ⟨?_, htrue, fun scan row whole hagree hrejected hchain => ?_⟩
    · rw [(restrictedTo_eq_some h).2]
      simp only [Condition.onlyReferences_eq]
    -- a row that the whole chain lets through passes the part of it, so a
    -- rejected one fails the chain
    · have hadmitted : scan.admits (some restricted.toPredicate) row = true :=
        holds_iff.2 (htrue whole _ hagree hchain)
      rw [hadmitted] at hrejected
      cases hrejected

/-- Starts with an `or` that counts for nothing, and has two terms of `a`
alone. -/
def mixed : Chain :=
  ⟨[⟨.or, ⟨"a", "n"⟩, .equal, .number "5"⟩, ⟨.and, ⟨"b", "k"⟩, .equal, .column ⟨"a", "k"⟩⟩,
    ⟨.and, ⟨"a", "k"⟩, .different, .text "x"⟩]⟩

/-- A scan of `a`. -/
def mixedScan : Scan :=
  .ofTable "a" "a" ⟨["n", "k"], #[["five", "y"], ["5", "x"], ["5.0", "y"]],
    by decide +kernel, by decide +kernel⟩

/-- A row of `a` on which the test fails, one on which it is false, and
one that is in an accepted combination. -/
theorem restrictedTo_sound_mixed :
    let whole (n k : String) := Bindings.bindAll .empty ["b.k", "a.n", "a.k"] [k, n, k]
    ∃ test, mixed.restrictedTo "a" = some test
      ∧ test.terms.map Condition.connective = [.and, .and]
      ∧ (test.evaluate (mixedScan.bind ["five", "y"] .empty)).toOption = none
      ∧ mixed.evaluate (whole "five" "y") ≠ .ok true
      ∧ test.evaluate (mixedScan.bind ["5", "x"] .empty) = .ok false
      ∧ mixed.evaluate (whole "5" "x") ≠ .ok true
      ∧ mixed.evaluate (whole "5.0" "y") = .ok true
      ∧ test.evaluate (mixedScan.bind ["5.0", "y"] .empty) = .ok true := by
  intro whole
  have hagree : ∀ row ∈ [("five", "y"), ("5", "x"), ("5.0", "y")],
      mixed.AgreeOn "a" (mixedScan.bind [row.1, row.2] .empty) (whole row.1 row.2) := by
    unfold AgreeOn
    decide +kernel
  obtain ⟨test, htest⟩ : ∃ test, mixed.restrictedTo "a" = some test := ⟨_, rfl⟩
  obtain ⟨hterms, htrue, hrejected⟩ := (restrictedTo_sound mixed "a").2 test htest
  have haccepted : mixed.evaluate (whole "5.0" "y") = .ok true :=
    eq_ok_of_toOption (by decide +kernel)
  obtain rfl := Option.some.inj htest
  refine ⟨_, htest, by decide +kernel, by decide +kernel, ?_,
    eq_ok_of_toOption (by decide +kernel), ?_, haccepted, ?_⟩
  · exact hrejected mixedScan ["five", "y"] _ (hagree ("five", "y") (by simp)) (by decide +kernel)
  · exact hrejected mixedScan ["5", "x"] _ (hagree ("5", "x") (by simp)) (by decide +kernel)
  · exact htrue _ _ (hagree ("5.0", "y") (by simp)) haccepted

end Chain

end FlatQuery
