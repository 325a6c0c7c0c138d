/-
Where a literal and a bracketed name end. In a literal quotes stand in
pairs (`Paired`) up to the quote that closes it, which no other quote
follows; so a literal is closed or runs to the end, and which of the two
is read off the text alone (`splitLiteral_eq_some`,
`splitLiteral_eq_none`). A bracketed name ends at the first closing
bracket.
-/
import FlatQuery.Token.Lexer

namespace FlatQuery.Token

/-- Every quote is followed by another one, so that none of them closes
a literal. -/
inductive Paired (q : Char) : List Char → Prop where
  | nil : Paired q []
  | other {c : Char} {cs : List Char} : c ≠ q → Paired q cs → Paired q (c :: cs)
  | pair {cs : List Char} : Paired q cs → Paired q (q :: q :: cs)

-- ============================================================ literals

/-- Any other character belongs to the literal. -/
theorem splitLiteral_of_ne {q c : Char} (hc : c ≠ q) (cs : List Char) :
    splitLiteral q (c :: cs)
      = (splitLiteral q cs).map fun (body, after) => (c :: body, after) := by
  rw [splitLiteral.eq_def]
  exact if_neg hc

/-- A quote written twice belongs to it as well, and closes nothing. -/
theorem splitLiteral_pair (q : Char) (cs : List Char) :
    splitLiteral q (q :: q :: cs)
      = (splitLiteral q cs).map fun (body, after) => (q :: q :: body, after) := by
  rw [splitLiteral, if_pos rfl]
  exact if_pos rfl

/-- A quote that no other follows closes it. -/
theorem splitLiteral_close {q : Char} {after : List Char} (h : after.head? ≠ some q) :
    splitLiteral q (q :: after) = some ([q], after) := by
  cases after with
  | nil => exact (splitLiteral.eq_def q _).trans (if_pos rfl)
  | cons d after =>
      have hd : d ≠ q := fun hd => h (congrArg some hd)
      rw [splitLiteral, if_pos rfl]
      exact if_neg hd

namespace Paired

variable {q : Char} {cs : List Char}

/-- Without a quote to close it a literal runs to the end. -/
theorem splitLiteral_eq_none (h : Paired q cs) : splitLiteral q cs = none := by
  induction h with
  | nil => rfl
  | other hc _ ih => rw [splitLiteral_of_ne hc, ih, Option.map_none]
  | pair _ ih => rw [splitLiteral_pair, ih, Option.map_none]

/-- The literal ends behind the first quote that is not one of a pair,
whatever comes after. -/
theorem splitLiteral_append (h : Paired q cs) {after : List Char}
    (hafter : after.head? ≠ some q) :
    splitLiteral q (cs ++ q :: after) = some (cs ++ [q], after) := by
  -- the pairs are read off as they were put together, so the induction is
  -- on them and not on the characters
  induction h with
  | nil => exact splitLiteral_close hafter
  | other hc _ ih =>
      rw [List.cons_append, splitLiteral_of_ne hc, ih]
      rfl
  | pair _ ih =>
      rw [List.cons_append, List.cons_append, splitLiteral_pair, ih]
      rfl

end Paired

/-- A literal is closed, or its quotes stand in pairs to the end. -/
theorem paired_of_splitLiteral (q : Char) (cs : List Char) :
    (splitLiteral q cs = none → Paired q cs)
      ∧ ∀ body after, splitLiteral q cs = some (body, after) →
        ∃ inner, Paired q inner ∧ body = inner ++ [q] ∧ cs = inner ++ q :: after
          ∧ after.head? ≠ some q := by
  -- the reader takes two characters at a pair, so the cases are its own:
  -- end, pair, closing quote before more and at the end, other
  fun_induction splitLiteral q cs with
  | case1 =>
      refine ⟨fun _ => .nil, fun body after h => ?_⟩
      cases h
  | case2 more ih =>
      refine ⟨fun h => .pair (ih.1 (Option.map_eq_none_iff.1 h)), fun body after h => ?_⟩
      obtain ⟨⟨body', after'⟩, hmore, heq⟩ := Option.map_eq_some_iff.1 h
      cases heq
      obtain ⟨inner, hinner, rfl, rfl, hafter⟩ := ih.2 _ _ hmore
      exact ⟨q :: q :: inner, .pair hinner, rfl, rfl, hafter⟩
  | case3 d more hd =>
      refine ⟨fun h => absurd h (Option.some_ne_none _), fun body after h => ?_⟩
      cases h
      exact ⟨[], .nil, rfl, rfl, fun hhead => hd (Option.some.inj hhead)⟩
  | case4 =>
      refine ⟨fun h => absurd h (Option.some_ne_none _), fun body after h => ?_⟩
      cases h
      exact ⟨[], .nil, rfl, rfl, Option.some_ne_none q ∘ Eq.symm⟩
  | case5 c more hc ih =>
      refine ⟨fun h => .other hc (ih.1 (Option.map_eq_none_iff.1 h)), fun body after h => ?_⟩
      obtain ⟨⟨body', after'⟩, hmore, heq⟩ := Option.map_eq_some_iff.1 h
      cases heq
      obtain ⟨inner, hinner, rfl, rfl, hafter⟩ := ih.2 _ _ hmore
      exact ⟨c :: inner, .other hc hinner, rfl, rfl, hafter⟩

/-- A literal is split off exactly if pairs lead to a closing quote; what
is split off is the text up to it. -/
theorem splitLiteral_eq_some {q : Char} {cs body after : List Char} :
    splitLiteral q cs = some (body, after)
      ↔ ∃ inner, Paired q inner ∧ body = inner ++ [q] ∧ cs = inner ++ q :: after
        ∧ after.head? ≠ some q := by
  refine ⟨(paired_of_splitLiteral q cs).2 body after, ?_⟩
  rintro ⟨inner, hinner, rfl, rfl, hafter⟩
  exact hinner.splitLiteral_append hafter

/-- None is split off exactly if the quotes stand in pairs to the end. -/
theorem splitLiteral_eq_none {q : Char} {cs : List Char} :
    splitLiteral q cs = none ↔ Paired q cs :=
  ⟨(paired_of_splitLiteral q cs).1, Paired.splitLiteral_eq_none⟩

-- ============================================================ brackets

/-- A bracketed name is the text before the first closing bracket;
brackets are not doubled. -/
theorem splitBracket_eq_some {cs body after : List Char} :
    splitBracket cs = some (body, after) ↔ cs = body ++ ']' :: after ∧ ']' ∉ body := by
  fun_induction splitBracket cs generalizing body after with
  | case1 => simp
  | case2 rest =>
      constructor
      · rintro ⟨⟩
        exact ⟨rfl, List.not_mem_nil⟩
      -- an earlier bracket would have ended the name, so this one is the
      -- first
      · rintro ⟨hcs, hbody⟩
        cases body with
        | nil =>
            obtain ⟨-, rfl⟩ := List.cons.inj hcs
            rfl
        | cons c body => exact absurd (List.mem_cons.2 (.inl (List.cons.inj hcs).1)) hbody
  | case3 c rest hc ih =>
      rw [Option.map_eq_some_iff]
      constructor
      · rintro ⟨⟨body', after'⟩, hrest, heq⟩
        cases heq
        obtain ⟨rfl, hbody⟩ := ih.1 hrest
        exact ⟨rfl, List.not_mem_cons_of_ne_of_not_mem (Ne.symm hc) hbody⟩
      · rintro ⟨hcs, hbody⟩
        cases body with
        | nil => exact absurd (List.cons.inj hcs).1 hc
        | cons c' body =>
            obtain ⟨rfl, hrest⟩ := List.cons.inj hcs
            have hfound := ih.2 ⟨hrest, fun hmem => hbody (List.mem_cons_of_mem _ hmem)⟩
            exact ⟨(body, after), hfound, rfl⟩

/-- Without a closing bracket there is no name. -/
theorem splitBracket_eq_none {cs : List Char} : splitBracket cs = none ↔ ']' ∉ cs := by
  fun_induction splitBracket cs with
  | case1 => simp
  | case2 rest => simp
  | case3 c rest hc ih => simp [ih, Ne.symm hc]

end FlatQuery.Token
