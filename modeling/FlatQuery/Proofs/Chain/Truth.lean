/-
When a chain is true. A chain whose first term is joined by `and` is a
fold from `true` over all its terms, so a chain put together from such
chains is evaluated one part after the other, each from the value of
the parts before it.

Two laws of that fold carry everything else:

- terms joined by `and` alone end in `true` exactly when they start
  from `true` and every one of them holds (`resume_conjunctive`);
- terms that end in `true` when started from a value do not end in
  `false` when started from a larger one (`resume_mono`). They may
  fail, though: a term that `false` skips is looked at after `true`.
-/
import FlatQuery.Condition.Chain
import FlatQuery.Proofs.Result

namespace FlatQuery.Chain

open Result

variable {bindings : Bindings}

/-- As a predicate a chain holds where it is true, and not where it
fails. -/
theorem holds_iff {chain : Chain} :
    chain.toPredicate.holds bindings = true ↔ chain.evaluate bindings = .ok true := by
  have hevaluate : chain.toPredicate.evaluate bindings = chain.evaluate bindings := rfl
  unfold Predicate.holds
  rw [hevaluate]
  rcases chain.evaluate bindings with e | answer
  · exact iff_of_false nofun nofun
  · simp

-- =========================================================== the fold

/-- The value of terms, given the value `acc` of those before them. -/
def resume (bindings : Bindings) (acc : Bool) (terms : List Condition) : Result Bool :=
  terms.foldlM (step bindings) acc

theorem resume_nil (acc : Bool) : resume bindings acc [] = .ok acc := rfl

theorem resume_cons (acc : Bool) (c : Condition) (rest : List Condition) :
    resume bindings acc (c :: rest) = step bindings acc c
      >>= (resume bindings · rest) := rfl

/-- A chain in two parts goes on in the second with what the first came to. -/
theorem resume_append (acc : Bool) (front back : List Condition) :
    resume bindings acc (front ++ back)
      = resume bindings acc front >>= (resume bindings · back) :=
  List.foldlM_append

/-- The first term of the chain, if there is one, is joined by `and`. -/
def startsWithAnd (chain : Chain) : Bool := chain.terms.head?.all (·.connective = .and)

/-- Such a chain needs no first term of its own: it goes on from
`true`. -/
theorem evaluate_eq_resume {chain : Chain} (h : chain.startsWithAnd = true) :
    chain.evaluate bindings = resume bindings true chain.terms := by
  obtain ⟨terms⟩ := chain
  cases terms with
  | nil => rfl
  | cons first rest =>
      have hand : first.connective = .and := by simpa [startsWithAnd] using h
      rw [resume_cons]
      show (first.evaluate bindings >>= _) = _
      rw [show step bindings true first = first.evaluate bindings by simp [step, hand]]
      rfl

-- ========================================================= conjunctions

/-- A term behind AND keeps the chain true only if it is true itself. -/
theorem step_and_eq_true_iff {acc : Bool} {c : Condition} (hand : c.connective = .and) :
    step bindings acc c = .ok true ↔ acc = true ∧ c.evaluate bindings = .ok true := by
  cases acc <;> simp [step, hand]

/-- Terms joined by `and` are true only if those before them were, and
if each of them is. -/
theorem resume_conjunctive {terms : List Condition} (acc : Bool)
    (hand : ∀ c ∈ terms, c.connective = .and) :
    resume bindings acc terms = .ok true
      ↔ acc = true ∧ ∀ c ∈ terms, c.evaluate bindings = .ok true := by
  induction terms generalizing acc with
  | nil => simp [resume_nil]
  | cons c rest ih =>
      obtain ⟨hc, hrest⟩ := List.forall_mem_cons.1 hand
      rw [resume_cons, bind_eq_ok, List.forall_mem_cons]
      constructor
      · rintro ⟨a, ha, hgo⟩
        obtain ⟨rfl, hall⟩ := (ih a hrest).1 hgo
        obtain ⟨hacc, hholds⟩ := (step_and_eq_true_iff hc).1 ha
        exact ⟨hacc, hholds, hall⟩
      · rintro ⟨hacc, hholds, hall⟩
        exact ⟨true, (step_and_eq_true_iff hc).2 ⟨hacc, hholds⟩,
          (ih true hrest).2 ⟨rfl, hall⟩⟩

/-- In a conjunctive chain that starts with `and`, that is the connective
of every term. -/
theorem connective_eq_and {chain : Chain} (hstart : chain.startsWithAnd = true)
    (hconj : chain.isConjunctive = true) : ∀ c ∈ chain.terms, c.connective = .and := by
  obtain ⟨terms⟩ := chain
  cases terms with
  | nil => exact fun c hc => absurd hc List.not_mem_nil
  | cons first rest =>
      have hfirst : first.connective = .and := by simpa [startsWithAnd] using hstart
      have hrest : ∀ c ∈ rest, c.connective = .and := by
        simpa [isConjunctive] using hconj
      exact List.forall_mem_cons.2 ⟨hfirst, hrest⟩

/-- The chain that chains make one after the other. -/
def inRow (chains : List Chain) : Chain := ⟨(chains.map terms).flatten⟩

/-- The chain begins as its first group does. -/
theorem startsWithAnd_inRow {chains : List Chain}
    (h : ∀ g ∈ chains, g.startsWithAnd = true) : (inRow chains).startsWithAnd = true := by
  induction chains with
  | nil => rfl
  | cons g rest ih =>
      obtain ⟨hg, hrest⟩ := List.forall_mem_cons.1 h
      obtain ⟨_ | ⟨c, cs⟩⟩ := g
      · exact ih hrest
      · exact hg

theorem inRow_append (front back : List Chain) :
    (inRow (front ++ back)).terms = (inRow front).terms ++ (inRow back).terms := by
  simp [inRow]

-- ========================================================= monotonicity

/-- Terms that make `true` of a value make no `false` of a larger one:
where the two runs still differ, a term that the one skips can only end
the difference or fail. -/
theorem resume_mono {terms : List Condition}
    (h : resume bindings false terms = .ok true) :
    resume bindings true terms ≠ .ok false := by
  induction terms with
  | nil => cases h
  | cons c rest ih =>
      rw [resume_cons, bind_eq_ok] at h
      obtain ⟨low, hlow, hgo⟩ := h
      rw [resume_cons]
      intro hfalse
      obtain ⟨high, hhigh, hend⟩ := bind_eq_ok.1 hfalse
      -- from `high` the rest ends in `false`, from `low` in `true`
      cases low with
      | true =>
          cases high with
          | true => rw [hgo] at hend; cases hend
          | false =>
              -- only `or` lifts `false`, and `or` keeps `true`
              cases hc : c.connective <;> simp [step, hc] at hlow hhigh
      | false =>
          cases high with
          | true => exact ih hgo hend
          | false => rw [hgo] at hend; cases hend

-- ============================================================= groups

/-- In a true chain, a part with nothing but `and` behind it is not false
by itself. It holds if what is before it is true, and if it has no `or`
of its own.

The two cases are the values it is entered with: from `true` it is
evaluated as by itself, and from `false` only an `or` of its own can
have saved it. -/
theorem evaluate_of_between {front back : List Condition} {g : Chain}
    (hstart : g.startsWithAnd = true) (hback : ∀ c ∈ back, c.connective = .and)
    (h : resume bindings true (front ++ (g.terms ++ back)) = .ok true) :
    g.evaluate bindings ≠ .ok false
      ∧ (resume bindings true front = .ok true ∨ g.isConjunctive = true →
          g.evaluate bindings = .ok true) := by
  rw [resume_append, bind_eq_ok] at h
  obtain ⟨entry, hentry, h⟩ := h
  rw [resume_append, bind_eq_ok] at h
  obtain ⟨exit, hexit, h⟩ := h
  -- what is behind the part keeps `true` and makes none
  obtain ⟨rfl, -⟩ := (resume_conjunctive exit hback).1 h
  rw [evaluate_eq_resume hstart, hentry]
  cases entry with
  | true =>
      rw [hexit]
      exact ⟨nofun, fun _ => rfl⟩
  | false =>
      refine ⟨resume_mono hexit, ?_⟩
      rintro (hfront | hconj)
      · cases hfront
      · have := (resume_conjunctive false (connective_eq_and hstart hconj)).1 hexit
        exact absurd this.1 nofun

end FlatQuery.Chain
