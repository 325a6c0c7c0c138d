/-
What a flat chain comes to, told of all its terms at once. A chain fails
as one of its terms does, provided that the terms before it leave that
term to decide (`Reached`). It is true if it is empty, or if some true
term begins it or lifts it from `false` by an `or`, and no later `and`
takes that back (`Upheld`). Everything else is false.

The chain is a fold from the left, so the induction is on its end: one
more term behind a chain is one more step on the chain's value
(`evaluate_concat`), and both closed forms grow by a clause about that
term alone.
-/
import Mathlib.Data.List.Induction
import FlatQuery.Proofs.Chain.Truth

namespace FlatQuery.Chain

open Result

variable {bindings : Bindings} {terms : List Condition} {c : Condition} {e : Error}

-- ========================================================== vocabulary

/-- The chain of the first `k` terms. -/
def upTo (chain : Chain) (k : Nat) : Chain := ⟨chain.terms.take k⟩

/-- The terms before it leave the term at `k` to decide: it is the first,
or they are true before an `and`, or false before an `or`. -/
def Reached (chain : Chain) (bindings : Bindings) (k : Nat) (c : Condition) : Prop :=
  k = 0 ∨ (c.connective = .and ∧ (chain.upTo k).evaluate bindings = .ok true)
    ∨ (c.connective = .or ∧ (chain.upTo k).evaluate bindings = .ok false)

/-- A term that is reached fails in this way. -/
def Broken (chain : Chain) (bindings : Bindings) (e : Error) : Prop :=
  ∃ k c, chain.terms[k]? = some c ∧ c.evaluate bindings = .error e ∧ chain.Reached bindings k c

/-- A true term begins the chain, or an `or` before it finds `false`; and
after it whatever is joined by `and` is true. -/
def Upheld (chain : Chain) (bindings : Bindings) : Prop :=
  ∃ k c, chain.terms[k]? = some c ∧ c.evaluate bindings = .ok true
    ∧ (k = 0 ∨ c.connective = .or ∧ (chain.upTo k).evaluate bindings = .ok false)
    ∧ ∀ i d, k < i → chain.terms[i]? = some d → d.connective = .and →
      d.evaluate bindings = .ok true

-- ======================================================== one more term

/-- A term behind a chain takes one step from the chain's value. -/
theorem evaluate_concat (h : terms ≠ []) :
    (Chain.mk (terms ++ [c])).evaluate bindings
      = (Chain.mk terms).evaluate bindings >>= (step bindings · c) := by
  obtain ⟨first, rest, rfl⟩ := List.exists_cons_of_ne_nil h
  show (first.evaluate bindings >>= (resume bindings · (rest ++ [c]))) = _
  have hrest : ∀ acc, resume bindings acc (rest ++ [c])
      = resume bindings acc rest >>= (step bindings · c) := by
    intro acc
    rw [resume_append]
    refine bind_congr fun acc' => ?_
    rw [resume_cons]
    exact bind_pure _
  simp only [hrest]
  rw [← bind_assoc]
  rfl

/-- A term's error comes through only where the term is evaluated: behind AND
what was true, behind OR what was false. -/
theorem step_eq_error {acc : Bool} :
    step bindings acc c = .error e
      ↔ c.evaluate bindings = .error e
        ∧ (c.connective = .and ∧ acc = true ∨ c.connective = .or ∧ acc = false) := by
  cases hc : c.connective <;> cases acc <;> simp [step, hc]

/-- A value stays true over a term that is not `and`, or holds. -/
theorem step_true_eq_true :
    step bindings true c = .ok true
      ↔ (c.connective = .and → c.evaluate bindings = .ok true) := by
  cases hc : c.connective <;> simp [step, hc]

/-- Only `or` lifts `false`. -/
theorem step_false_eq_true :
    step bindings false c = .ok true
      ↔ c.connective = .or ∧ c.evaluate bindings = .ok true := by
  cases hc : c.connective <;> simp [step, hc]

private theorem getElem?_concat {k : Nat} {d : Condition} :
    (terms ++ [c])[k]? = some d
      ↔ (k < terms.length ∧ terms[k]? = some d) ∨ (k = terms.length ∧ d = c) := by
  rw [List.getElem?_append]
  split
  · next hlt =>
    have hne : k ≠ terms.length := Nat.ne_of_lt hlt
    simp [hlt, hne]
  · next hge =>
    have hlt : ¬ k < terms.length := hge
    rw [List.getElem?_singleton]
    split
    · next hzero =>
      have heq : k = terms.length := by omega
      simp [heq, eq_comm]
    · next hpos =>
      have hne : k ≠ terms.length := by omega
      simp [hlt, hne]

private theorem upTo_concat {k : Nat} (h : k ≤ terms.length) :
    (Chain.mk (terms ++ [c])).upTo k = (Chain.mk terms).upTo k := by
  unfold upTo
  rw [List.take_append_of_le_length h]

private theorem upTo_length : (Chain.mk terms).upTo terms.length = ⟨terms⟩ := by
  unfold upTo
  rw [List.take_length]

/-- A chain with one more term is broken where it was, or by the new term if
that is reached. -/
theorem broken_concat :
    (Chain.mk (terms ++ [c])).Broken bindings e
      ↔ (Chain.mk terms).Broken bindings e
        ∨ c.evaluate bindings = .error e
          ∧ (Chain.mk terms).Reached bindings terms.length c := by
  constructor
  · rintro ⟨k, d, hd, hfail, hreached⟩
    rcases getElem?_concat.1 hd with ⟨hlt, hd⟩ | ⟨rfl, rfl⟩
    · rw [Reached, upTo_concat (Nat.le_of_lt hlt)] at hreached
      exact .inl ⟨k, d, hd, hfail, hreached⟩
    · rw [Reached, upTo_concat (Nat.le_refl _)] at hreached
      exact .inr ⟨hfail, hreached⟩
  · rintro (⟨k, d, hd, hfail, hreached⟩ | ⟨hfail, hreached⟩)
    · have hlt : k < terms.length := (List.getElem?_eq_some_iff.1 hd).1
      refine ⟨k, d, getElem?_concat.2 (.inl ⟨hlt, hd⟩), hfail, ?_⟩
      rw [Reached, upTo_concat (Nat.le_of_lt hlt)]
      exact hreached
    · refine ⟨terms.length, c, getElem?_concat.2 (.inr ⟨rfl, rfl⟩), hfail, ?_⟩
      rw [Reached, upTo_concat (Nat.le_refl _)]
      exact hreached

/-- It is upheld if the new term leaves it so, or if the new term alone
upholds it. -/
theorem upheld_concat :
    (Chain.mk (terms ++ [c])).Upheld bindings
      ↔ ((Chain.mk terms).Upheld bindings
          ∧ (c.connective = .and → c.evaluate bindings = .ok true))
        ∨ c.evaluate bindings = .ok true
          ∧ (terms = [] ∨ c.connective = .or ∧ (Chain.mk terms).evaluate bindings = .ok false) := by
  constructor
  · rintro ⟨k, d, hd, htrue, hlifts, hlater⟩
    -- the term that upholds the chain is one of the earlier ones, which
    -- the last must keep true, or the last itself
    rcases getElem?_concat.1 hd with ⟨hlt, hd⟩ | ⟨rfl, rfl⟩
    · rw [upTo_concat (Nat.le_of_lt hlt)] at hlifts
      refine .inl ⟨⟨k, d, hd, htrue, hlifts, fun i d' hi hd' => ?_⟩, ?_⟩
      · have hlt' : i < terms.length := (List.getElem?_eq_some_iff.1 hd').1
        exact hlater i d' hi (getElem?_concat.2 (.inl ⟨hlt', hd'⟩))
      · exact hlater terms.length c hlt (getElem?_concat.2 (.inr ⟨rfl, rfl⟩))
    · rw [upTo_concat (Nat.le_refl _), upTo_length, List.length_eq_zero_iff] at hlifts
      exact .inr ⟨htrue, hlifts⟩
  · rintro (⟨⟨k, d, hd, htrue, hlifts, hlater⟩, hlast⟩ | ⟨htrue, hlifts⟩)
    · have hlt : k < terms.length := (List.getElem?_eq_some_iff.1 hd).1
      refine ⟨k, d, getElem?_concat.2 (.inl ⟨hlt, hd⟩), htrue, ?_, fun i d' hi hd' => ?_⟩
      · rw [upTo_concat (Nat.le_of_lt hlt)]
        exact hlifts
      · rcases getElem?_concat.1 hd' with ⟨-, hd'⟩ | ⟨rfl, rfl⟩
        · exact hlater i d' hi hd'
        · exact hlast
    · refine ⟨terms.length, c, getElem?_concat.2 (.inr ⟨rfl, rfl⟩), htrue, ?_, ?_⟩
      · rw [upTo_concat (Nat.le_refl _), upTo_length, List.length_eq_zero_iff]
        exact hlifts
      · intro i d hi hd
        have hlt := (List.getElem?_eq_some_iff.1 hd).1
        rw [List.length_append, List.length_singleton] at hlt
        omega

-- ============================================================== chains

/-- A chain fails exactly as a term that it reaches. -/
theorem evaluate_eq_error (chain : Chain) :
    chain.evaluate bindings = .error e ↔ chain.Broken bindings e := by
  obtain ⟨terms⟩ := chain
  induction terms using List.reverseRecOn with
  | nil =>
      refine iff_of_false nofun ?_
      rintro ⟨k, c, hc, -⟩
      cases hc
  | append_singleton terms c ih =>
      rw [broken_concat, ← ih]
      by_cases hnil : terms = []
      · subst hnil
        have hone : (Chain.mk ([] ++ [c])).evaluate bindings = c.evaluate bindings :=
          bind_pure _
        rw [hone]
        exact ⟨fun h => .inr ⟨h, .inl rfl⟩, fun h => h.elim nofun And.left⟩
      -- the last step fails for itself, and it is evaluated where the
      -- terms before left it something to decide
      · have hpos : terms.length ≠ 0 := by simpa using hnil
        rw [evaluate_concat hnil, bind_eq_error, Reached, upTo_length]
        simp only [step_eq_error, hpos, false_or]
        constructor
        · rintro (h | ⟨acc, hacc, hfail, ⟨hand, rfl⟩ | ⟨hor, rfl⟩⟩)
          · exact .inl h
          · exact .inr ⟨hfail, .inl ⟨hand, hacc⟩⟩
          · exact .inr ⟨hfail, .inr ⟨hor, hacc⟩⟩
        · rintro (h | ⟨hfail, ⟨hand, hacc⟩ | ⟨hor, hacc⟩⟩)
          · exact .inl h
          · exact .inr ⟨true, hacc, hfail, .inl ⟨hand, rfl⟩⟩
          · exact .inr ⟨false, hacc, hfail, .inr ⟨hor, rfl⟩⟩

/-- A chain is true exactly if it is empty or upheld. -/
theorem evaluate_eq_true (chain : Chain) :
    chain.evaluate bindings = .ok true ↔ chain.terms = [] ∨ chain.Upheld bindings := by
  obtain ⟨terms⟩ := chain
  induction terms using List.reverseRecOn with
  | nil => exact iff_of_true rfl (.inl rfl)
  | append_singleton terms c ih =>
      have hne : terms ++ [c] ≠ [] := by simp
      rw [or_iff_right hne, upheld_concat]
      by_cases hnil : terms = []
      · subst hnil
        have hone : (Chain.mk ([] ++ [c])).evaluate bindings = c.evaluate bindings :=
          bind_pure _
        rw [hone]
        refine ⟨fun h => .inr ⟨h, .inl rfl⟩, ?_⟩
        rintro (⟨⟨k, d, hd, -⟩, -⟩ | ⟨h, -⟩)
        · cases hd
        · exact h
      · rw [or_iff_right hnil] at ih
        rw [evaluate_concat hnil, bind_eq_ok, ← ih, or_iff_right hnil]
        -- what the terms before came to, and what the last term makes of
        -- it
        constructor
        · rintro ⟨acc, hacc, hstep⟩
          cases acc with
          | true => exact .inl ⟨hacc, step_true_eq_true.1 hstep⟩
          | false =>
              obtain ⟨hor, htrue⟩ := step_false_eq_true.1 hstep
              exact .inr ⟨htrue, hor, hacc⟩
        · rintro (⟨hacc, hkeeps⟩ | ⟨htrue, hor, hacc⟩)
          · exact ⟨true, hacc, step_true_eq_true.2 hkeeps⟩
          · exact ⟨false, hacc, step_false_eq_true.2 ⟨hor, htrue⟩⟩

/-- What a chain of any length comes to. It fails as a term does that it
reaches; it is true if it is empty, or if a true term that begins it or
lifts it from `false` is taken back by no later `and`; and it is false
otherwise. The connective of the first term does not matter. -/
theorem evaluate_settled (chain : Chain) (bindings : Bindings) :
    (∀ e, chain.evaluate bindings = .error e ↔ chain.Broken bindings e)
    ∧ (chain.evaluate bindings = .ok true ↔ chain.terms = [] ∨ chain.Upheld bindings)
    ∧ (chain.evaluate bindings = .ok false
      ↔ (∀ e, ¬ chain.Broken bindings e) ∧ ¬ (chain.terms = [] ∨ chain.Upheld bindings))
    ∧ ∀ connective first rest, chain.terms = first :: rest →
      (Chain.mk ({ first with connective } :: rest)).evaluate bindings
        = chain.evaluate bindings := by
  have herror : ∀ e, chain.evaluate bindings = .error e ↔ chain.Broken bindings e :=
    fun e => evaluate_eq_error chain
  have htrue : chain.evaluate bindings = .ok true ↔ chain.terms = [] ∨ chain.Upheld bindings :=
    evaluate_eq_true chain
  refine ⟨herror, htrue, ?_, ?_⟩
  · simp only [← herror, ← htrue]
    rcases chain.evaluate bindings with e | _ | _ <;> simp
  · rintro connective first rest hterms
    obtain ⟨terms⟩ := chain
    obtain rfl : terms = first :: rest := hterms
    rfl

end FlatQuery.Chain
