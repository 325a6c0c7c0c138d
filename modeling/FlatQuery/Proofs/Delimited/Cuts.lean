/-
Delimited text as a list of records. `record?` is the first record of a
text with what is behind it, `cuts` are all of them, each with the text
from its start on. This is what a text says; how its symbols come to
the splitter, in which blocks and after how many stops, changes nothing
of it (`run_append`), and neither does the return that a text may come
after (`record?_pastReturn`).
-/
import FlatQuery.Delimited.Splitter

namespace FlatQuery.Delimited

variable {α : Type} [DecidableEq α] (d : Dialect α)

-- ================================================================ runs

/-- Progress that is made with more symbols to come. -/
def Progress.append (rest : List α) : Progress α → Progress α
  | .complete record pastReturn taken behind =>
    .complete record pastReturn taken (behind ++ rest)
  | .more p taken => p.run d taken rest

/-- A run can stop anywhere and be carried on. -/
theorem run_append (p : Partial α) (taken : Nat) (text rest : List α) :
    p.run d taken (text ++ rest) = (p.run d taken text).append d rest := by
  induction text generalizing p taken with
  | nil => rfl
  | cons c text ih =>
      rw [List.cons_append, Partial.run, Partial.run]
      split
      · exact ih _ _
      · exact ih _ _
      · exact ih _ _
      · rfl

/-- A run reads symbols one by one from the front. -/
theorem run_complete {p : Partial α} {taken taken' : Nat} {text rest : List α}
    {record : Record α} {pastReturn : Bool}
    (h : p.run d taken text = .complete record pastReturn taken' rest) :
    ∃ count, taken' = taken + count ∧ rest = text.drop count ∧ count ≤ text.length := by
  induction text generalizing p taken with
  | nil => cases h
  | cons c text ih =>
      have hlater : ∀ {p : Partial α},
          p.run d (taken + 1) text = .complete record pastReturn taken' rest →
            ∃ count, taken' = taken + count ∧ rest = (c :: text).drop count
              ∧ count ≤ (c :: text).length := by
        intro p h
        obtain ⟨count, rfl, rfl, hcount⟩ := ih h
        exact ⟨count + 1, by omega, rfl, Nat.succ_le_succ hcount⟩
      unfold Partial.run at h
      split at h
      · exact hlater h
      · exact hlater h
      · exact hlater h
      · cases h
        exact ⟨1, rfl, rfl, Nat.le_add_left ..⟩

theorem run_more {p p' : Partial α} {taken taken' : Nat} {text : List α}
    (h : p.run d taken text = .more p' taken') : taken' = taken + text.length := by
  induction text generalizing p taken with
  | nil =>
      cases h
      rfl
  | cons c text ih =>
      rw [List.length_cons]
      unfold Partial.run at h
      split at h
      · rw [ih h]
        omega
      · rw [ih h]
        omega
      · rw [ih h]
        omega
      · cases h

-- ============================================================= records

/-- The first record of a run and what is behind it. -/
def Progress.record? : Progress α → Option (Record α × List α)
  | .complete record _ _ rest => some (record, rest)
  | .more p _ => p.finish.map (·, [])

/-- The count of symbols does not matter to what is read. -/
theorem record?_run (p : Partial α) (taken taken' : Nat) (text : List α) :
    (p.run d taken text).record? = (p.run d taken' text).record? := by
  induction text generalizing p taken taken' with
  | nil => rfl
  | cons c text ih =>
      rw [Partial.run, Partial.run]
      split
      · exact ih ..
      · exact ih ..
      · exact ih ..
      · rfl

/-- The first record of a text, and the text behind it. -/
def record? (text : List α) : Option (Record α × List α) :=
  ((Partial.start false).run d 0 text).record?

/-- A newline right after a return is skipped like any other. -/
theorem step_afterReturn (c : α) : d.step .afterReturn c = d.step .between c := by
  unfold Dialect.step
  dsimp only
  split
  · next hc =>
    rw [Dialect.stepLine, Dialect.isLineEnd, hc, decide_eq_true rfl, Bool.or_true, if_pos rfl]
  · rfl

theorem record?_pastReturn (pastReturn : Bool) (taken : Nat) (text : List α) :
    ((Partial.start pastReturn).run d taken text).record? = record? d text := by
  unfold record?
  rw [record?_run d _ taken 0]
  cases pastReturn with
  | false => rfl
  | true =>
      cases text with
      | nil => rfl
      | cons c text =>
          show ((⟨.afterReturn, [], []⟩ : Partial α).run d 0 (c :: text)).record?
            = ((⟨.between, [], []⟩ : Partial α).run d 0 (c :: text)).record?
          rw [Partial.run, Partial.run, step_afterReturn]
          rfl

/-- A record takes at least one symbol of the text. -/
theorem length_of_record? {text rest : List α} {record : Record α}
    (h : record? d text = some (record, rest)) : rest.length < text.length := by
  unfold record? at h
  cases hrun : (Partial.start false).run d 0 text with
  | complete record' pastReturn taken rest' =>
      rw [hrun] at h
      cases h
      exact run_complete_length d hrun
  | more p taken =>
      rw [hrun] at h
      cases text with
      | nil =>
          cases hrun
          cases h
      | cons c text =>
          obtain ⟨record', -, heq⟩ := Option.map_eq_some_iff.1 h
          cases heq
          exact Nat.zero_lt_succ _

theorem suffix_of_record? {text rest : List α} {record : Record α}
    (h : record? d text = some (record, rest)) : rest <:+ text := by
  unfold record? at h
  cases hrun : (Partial.start false).run d 0 text with
  | complete record' pastReturn taken rest' =>
      rw [hrun] at h
      cases h
      obtain ⟨count, -, rfl, -⟩ := run_complete d hrun
      exact List.drop_suffix count text
  | more p taken =>
      rw [hrun] at h
      obtain ⟨record', -, heq⟩ := Option.map_eq_some_iff.1 h
      cases heq
      exact List.nil_suffix

/-- The records of a text, each with the text from its start on. Lines
without anything before a record belong to it. -/
def cuts (text : List α) : List (List α × Record α) :=
  match _h : record? d text with
  | none => []
  | some (record, rest) => (text, record) :: cuts rest
termination_by text.length
decreasing_by exact length_of_record? d ‹_›

/-- The records of a text. -/
def records (text : List α) : List (Record α) := (cuts d text).map Prod.snd

/-- The texts of the records, each from its record's start on. -/
def starts (text : List α) : List (List α) := (cuts d text).map Prod.fst

theorem cuts_of_none {text : List α} (h : record? d text = none) : cuts d text = [] := by
  rw [cuts]
  split
  · rfl
  · next hsome =>
    rw [h] at hsome
    cases hsome

theorem cuts_of_some {text rest : List α} {record : Record α}
    (h : record? d text = some (record, rest)) :
    cuts d text = (text, record) :: cuts d rest := by
  rw [cuts]
  split
  · next hnone =>
    rw [h] at hnone
    cases hnone
  · next hsome =>
    rw [h] at hsome
    cases hsome
    rfl

theorem starts_of_some {text rest : List α} {record : Record α}
    (h : record? d text = some (record, rest)) :
    starts d text = text :: starts d rest ∧ records d text = record :: records d rest := by
  rw [starts, records, cuts_of_some d h]
  exact ⟨rfl, rfl⟩

/-- Every cut is where the text from there on begins with its record, and
the cut behind it is where that record ends. -/
theorem record?_of_cuts {text start : List α} {record : Record α} {i : Nat}
    (h : (cuts d text)[i]? = some (start, record)) :
    ∃ rest, record? d start = some (record, rest) ∧ (cuts d text).drop (i + 1) = cuts d rest := by
  induction i generalizing text with
  | zero =>
      cases htext : record? d text with
      | none =>
          rw [cuts_of_none d htext] at h
          cases h
      | some found =>
          obtain ⟨record', rest⟩ := found
          rw [cuts_of_some d htext] at h ⊢
          cases h
          exact ⟨rest, htext, rfl⟩
  | succ i ih =>
      cases htext : record? d text with
      | none =>
          rw [cuts_of_none d htext] at h
          cases h
      | some found =>
          obtain ⟨record', rest⟩ := found
          rw [cuts_of_some d htext] at h ⊢
          exact ih h

end FlatQuery.Delimited
