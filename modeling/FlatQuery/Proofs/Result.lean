/-
Computations that may fail, read backwards: a sequence of steps answers
exactly when each of them does. These are the inversion lemmas through
which the other modules take `do` blocks apart.
-/
import Mathlib.Data.List.Forall2
import FlatQuery.Error

namespace FlatQuery.Result

variable {α β : Type}

-- ======================================================== single steps

/-- Two steps answer if the first does and the second does on its
answer. -/
theorem bind_eq_ok {x : Result α} {f : α → Result β} {b : β} :
    (x >>= f) = .ok b ↔ ∃ a, x = .ok a ∧ f a = .ok b := by
  cases x with
  | error e => simp [bind, Except.bind]
  | ok a => simp [bind, Except.bind]

/-- Two steps fail where the first does, or where the second does on its
answer. -/
theorem bind_eq_error {x : Result α} {f : α → Result β} {e : Error} :
    (x >>= f) = .error e ↔ x = .error e ∨ ∃ a, x = .ok a ∧ f a = .error e := by
  cases x with
  | error e' => simp [bind, Except.bind]
  | ok a => simp [bind, Except.bind]

/-- An answer that is looked at once more is still one. -/
theorem map_eq_ok {x : Result α} {f : α → β} {b : β} :
    (f <$> x) = .ok b ↔ ∃ a, x = .ok a ∧ f a = b := by
  cases x with
  | error e => simp [Functor.map, Except.map]
  | ok a => simp [Functor.map, Except.map]

/-- The step after an answer goes on with it. -/
theorem ok_bind (a : α) (f : α → Result β) : (Except.ok a >>= f) = f a := rfl

/-- Answers can be compared where whole results cannot. -/
theorem eq_ok_of_toOption {ε : Type} {x : Except ε α} {a : α}
    (h : x.toOption = some a) : x = .ok a := by
  cases x with
  | error e => cases h
  | ok b => rw [Option.some.inj h]

-- =============================================================== runs

/-- A run takes its first step, and then the rest from there. -/
theorem foldlM_cons_eq_ok {f : β → α → Result β} {b c : β} {a : α} {l : List α} :
    (a :: l).foldlM f b = .ok c ↔ ∃ b', f b a = .ok b' ∧ l.foldlM f b' = .ok c := by
  rw [List.foldlM_cons, bind_eq_ok]

/-- What every step of a run keeps holds at its end. -/
theorem foldlM_induction {f : β → α → Result β} (motive : β → Prop) {l : List α} {b c : β}
    (h : l.foldlM f b = .ok c) (start : motive b)
    (step : ∀ a ∈ l, ∀ b b', motive b → f b a = .ok b' → motive b') : motive c := by
  induction l generalizing b with
  | nil =>
      cases h
      exact start
  | cons a l ih =>
      obtain ⟨b', hb', hrest⟩ := foldlM_cons_eq_ok.1 h
      refine ih hrest (step a (List.mem_cons_self ..) b b' start hb') ?_
      exact fun a' ha' => step a' (List.mem_cons_of_mem _ ha')

/-- A run answers only if each of its steps does. -/
theorem exists_step_of_foldlM {f : β → α → Result β} {l : List α} {b c : β}
    (h : l.foldlM f b = .ok c) : ∀ a ∈ l, ∃ before after, f before a = .ok after := by
  induction l generalizing b with
  | nil => exact nofun
  | cons a l ih =>
      obtain ⟨b', hb', hrest⟩ := foldlM_cons_eq_ok.1 h
      exact List.forall_mem_cons.2 ⟨⟨b, b', hb'⟩, ih hrest⟩

/-- A check of all members is passed if each of them passes. -/
theorem forM_eq_ok {f : α → Result Unit} {l : List α} (h : ∀ a ∈ l, f a = .ok ()) :
    l.forM f = .ok () := by
  induction l with
  | nil => rfl
  | cons a l ih =>
      obtain ⟨ha, hl⟩ := List.forall_mem_cons.1 h
      show (f a >>= fun _ => l.forM f) = .ok ()
      rw [ha]
      exact ih hl

/-- One member more has one result more, in front. -/
theorem mapM_cons_eq_ok {f : α → Result β} {a : α} {l : List α} {bs : List β} :
    (a :: l).mapM f = .ok bs
      ↔ ∃ b, f a = .ok b ∧ ∃ rest, l.mapM f = .ok rest ∧ bs = b :: rest := by
  rw [List.mapM_cons, bind_eq_ok]
  constructor
  · rintro ⟨b, hb, h⟩
    obtain ⟨rest, hrest, h⟩ := bind_eq_ok.1 h
    exact ⟨b, hb, rest, hrest, (Except.ok.inj h).symm⟩
  · rintro ⟨b, hb, rest, hrest, rfl⟩
    exact ⟨b, hb, bind_eq_ok.2 ⟨rest, hrest, rfl⟩⟩

/-- A run has the results of its members, in order. -/
theorem mapM_eq_ok {f : α → Result β} {l : List α} {bs : List β} :
    l.mapM f = .ok bs ↔ List.Forall₂ (fun a b => f a = .ok b) l bs := by
  induction l generalizing bs with
  | nil =>
      rw [List.forall₂_nil_left_iff]
      exact ⟨fun h => (Except.ok.inj h).symm, fun h => congrArg Except.ok h.symm⟩
  | cons a l ih =>
      rw [mapM_cons_eq_ok, List.forall₂_cons_left_iff]
      simp only [ih, exists_and_left]

/-- Runs one after the other. -/
theorem mapM_append_eq_ok {f : α → Result β} {l l' : List α} {bs : List β} :
    (l ++ l').mapM f = .ok bs
      ↔ ∃ front, l.mapM f = .ok front ∧ ∃ back, l'.mapM f = .ok back ∧ bs = front ++ back := by
  rw [List.mapM_append, bind_eq_ok]
  constructor
  · rintro ⟨front, hfront, h⟩
    obtain ⟨back, hback, h⟩ := bind_eq_ok.1 h
    exact ⟨front, hfront, back, hback, (Except.ok.inj h).symm⟩
  · rintro ⟨front, hfront, back, hback, rfl⟩
    exact ⟨front, hfront, bind_eq_ok.2 ⟨back, hback, rfl⟩⟩

/-- If every member has a result, the run has them all. -/
theorem mapM_of_forall {f : α → Result β} {k : α → β} {l : List α}
    (h : ∀ a ∈ l, f a = .ok (k a)) : l.mapM f = .ok (l.map k) :=
  mapM_eq_ok.2 (List.forall₂_map_right_iff.2 (List.forall₂_same.2 h))

/-- The same for members that were made from others. -/
theorem mapM_map_eq_ok {γ : Type} {f : α → Result β} {g : γ → α} {k : γ → β} {l : List γ}
    (h : ∀ c ∈ l, f (g c) = .ok (k c)) : (l.map g).mapM f = .ok (l.map k) := by
  rw [mapM_eq_ok, List.forall₂_map_left_iff, List.forall₂_map_right_iff]
  exact List.forall₂_same.2 h

/-- Lists run through one after the other are run through as one. -/
theorem mapM_flatten_eq_ok {f : α → Result β} {ls : List (List α)} {bs : List β} :
    ls.flatten.mapM f = .ok bs
      ↔ ∃ runs, ls.mapM (·.mapM f) = .ok runs ∧ bs = runs.flatten := by
  induction ls generalizing bs with
  | nil =>
      constructor
      · rintro h
        exact ⟨[], rfl, (Except.ok.inj h).symm⟩
      · rintro ⟨runs, h, rfl⟩
        rw [← Except.ok.inj h]
        rfl
  | cons l ls ih =>
      rw [List.flatten_cons, mapM_append_eq_ok]
      constructor
      · rintro ⟨front, hfront, back, hback, rfl⟩
        obtain ⟨runs, hruns, rfl⟩ := ih.1 hback
        exact ⟨front :: runs, mapM_cons_eq_ok.2 ⟨front, hfront, runs, hruns, rfl⟩, rfl⟩
      · rintro ⟨_, hall, rfl⟩
        obtain ⟨front, hfront, runs, hruns, rfl⟩ := mapM_cons_eq_ok.1 hall
        exact ⟨front, hfront, runs.flatten, ih.2 ⟨runs, hruns, rfl⟩, rfl⟩

/-- In another order a run has the same results in another order. -/
theorem mapM_perm {f : α → Result β} {l l' : List α} (h : l'.Perm l) {bs : List β}
    (hbs : l.mapM f = .ok bs) : ∃ bs', l'.mapM f = .ok bs' ∧ bs'.Perm bs := by
  induction h generalizing bs with
  | nil => exact ⟨bs, hbs, .rfl⟩
  | cons a _ ih =>
      obtain ⟨b, hb, rest, hrest, rfl⟩ := mapM_cons_eq_ok.1 hbs
      obtain ⟨rest', hrest', hperm⟩ := ih hrest
      exact ⟨b :: rest', mapM_cons_eq_ok.2 ⟨b, hb, rest', hrest', rfl⟩, hperm.cons b⟩
  -- the two results change places with their members
  | swap a₁ a₂ l =>
      obtain ⟨b₁, hb₁, _, hall, rfl⟩ := mapM_cons_eq_ok.1 hbs
      obtain ⟨b₂, hb₂, rest, hrest, rfl⟩ := mapM_cons_eq_ok.1 hall
      have hswapped := mapM_cons_eq_ok.2 ⟨b₁, hb₁, rest, hrest, rfl⟩
      exact ⟨b₂ :: b₁ :: rest, mapM_cons_eq_ok.2 ⟨b₂, hb₂, _, hswapped, rfl⟩, .swap _ _ _⟩
  | trans _ _ ih ih' =>
      obtain ⟨bs₁, hbs₁, hperm₁⟩ := ih' hbs
      obtain ⟨bs₂, hbs₂, hperm₂⟩ := ih hbs₁
      exact ⟨bs₂, hbs₂, hperm₂.trans hperm₁⟩

/-- What the results of a run have in common with its members. -/
theorem map_of_mapM {γ : Type} {f : α → Result β} {g : β → γ} {k : α → γ} {l : List α}
    {bs : List β} (hf : ∀ a ∈ l, ∀ b, f a = .ok b → g b = k a) (h : l.mapM f = .ok bs) :
    bs.map g = l.map k := by
  induction l generalizing bs with
  | nil =>
      obtain rfl := Except.ok.inj h
      rfl
  | cons a l ih =>
      obtain ⟨b, hb, rest, hrest, rfl⟩ := mapM_cons_eq_ok.1 h
      obtain ⟨ha, hl⟩ := List.forall_mem_cons.1 hf
      rw [List.map_cons, List.map_cons, ha b hb, ih hl hrest]

/-- Every result of a run is the result of one of its members. -/
theorem exists_of_mem_mapM {f : α → Result β} {l : List α} {bs : List β}
    (h : l.mapM f = .ok bs) : ∀ b ∈ bs, ∃ a ∈ l, f a = .ok b := by
  induction l generalizing bs with
  | nil => cases h; exact fun b hb => absurd hb List.not_mem_nil
  | cons a l ih =>
      obtain ⟨b₀, hb₀, rest, hrest, rfl⟩ := mapM_cons_eq_ok.1 h
      intro b hb
      rcases List.mem_cons.1 hb with rfl | hb
      · exact ⟨a, List.mem_cons_self .., hb₀⟩
      · obtain ⟨a', ha', hf⟩ := ih hrest b hb
        exact ⟨a', List.mem_cons_of_mem _ ha', hf⟩

/-- Every member of a run has a result. -/
theorem exists_result_of_mapM {f : α → Result β} {l : List α} {bs : List β}
    (h : l.mapM f = .ok bs) : ∀ a ∈ l, ∃ b ∈ bs, f a = .ok b := by
  induction l generalizing bs with
  | nil => exact nofun
  | cons a l ih =>
      obtain ⟨b, hb, rest, hrest, rfl⟩ := mapM_cons_eq_ok.1 h
      refine List.forall_mem_cons.2 ⟨⟨b, List.mem_cons_self .., hb⟩, fun a' ha' => ?_⟩
      obtain ⟨b', hb', hf⟩ := ih hrest a' ha'
      exact ⟨b', List.mem_cons_of_mem _ hb', hf⟩

-- =============================================================== indices

/-- An index that answers lies inside. -/
theorem indexed_eq_ok {l : List α} {i : Nat} {a : α} : indexed l i = .ok a ↔ l[i]? = some a := by
  unfold indexed
  cases l[i]? with
  | none => exact iff_of_false nofun nofun
  | some b => rw [Except.ok.injEq, Option.some.injEq]

/-- An index that stops the run lies outside, and nothing else is wrong
with it. -/
theorem indexed_eq_error {l : List α} {i : Nat} {e : Error} :
    indexed l i = .error e ↔ l.length ≤ i ∧ e = .outOfBounds i l.length := by
  unfold indexed
  cases h : l[i]? with
  | none => simp [List.getElem?_eq_none_iff.1 h, eq_comm]
  | some b =>
      obtain ⟨hi, -⟩ := List.getElem?_eq_some_iff.1 h
      exact iff_of_false nofun fun hout => absurd hi (Nat.not_lt.2 hout.1)

/-- Several indices answer if all of them lie inside. -/
theorem mapM_indexed_eq_ok {l : List α} {ids : List Nat} {as : List α} :
    ids.mapM (indexed l) = .ok as
      ↔ (∀ i ∈ ids, i < l.length) ∧ as = ids.filterMap (l[·]?) := by
  induction ids generalizing as with
  | nil =>
      exact ⟨fun h => ⟨nofun, (Except.ok.inj h).symm⟩, fun h => congrArg Except.ok h.2.symm⟩
  | cons i ids ih =>
      rw [mapM_cons_eq_ok, List.forall_mem_cons]
      constructor
      · rintro ⟨a, ha, rest, hrest, rfl⟩
        obtain ⟨hids, rfl⟩ := ih.1 hrest
        rw [indexed_eq_ok] at ha
        refine ⟨⟨(List.getElem?_eq_some_iff.1 ha).1, hids⟩, ?_⟩
        rw [List.filterMap_cons_some ha]
      · rintro ⟨⟨hi, hids⟩, rfl⟩
        have ha := List.getElem?_eq_getElem hi
        refine ⟨_, indexed_eq_ok.2 ha, _, ih.2 ⟨hids, rfl⟩, ?_⟩
        rw [List.filterMap_cons_some ha]

-- ============================================ answers without their errors

/-- Whether two steps answer, and what, apart from what is blamed if they
do not. -/
theorem toOption_bind (x : Result α) (f : α → Result β) :
    (x >>= f).toOption = x.toOption.bind fun a => (f a).toOption := by
  cases x with
  | error e => rfl
  | ok a => rfl

/-- Likewise for an answer that is looked at once more. -/
theorem toOption_map (x : Result α) (f : α → β) :
    (f <$> x).toOption = x.toOption.map f := by
  cases x with
  | error e => rfl
  | ok a => rfl

/-- Computations with the same answer answer alike. -/
theorem eq_ok_iff_of_toOption {x y : Result α} (h : x.toOption = y.toOption) (a : α) :
    x = .ok a ↔ y = .ok a := by
  constructor
  · rintro rfl
    exact eq_ok_of_toOption h.symm
  · rintro rfl
    exact eq_ok_of_toOption h

/-- Runs whose steps correspond have corresponding answers. -/
theorem toOption_foldlM {α' β' : Type} {f : β → α → Result β} {f' : β' → α' → Result β'}
    {g : β → β'} {k : α → α'}
    (h : ∀ b a, (f' (g b) (k a)).toOption = (f b a).toOption.map g) (l : List α) (b : β) :
    ((l.map k).foldlM f' (g b)).toOption = (l.foldlM f b).toOption.map g := by
  induction l generalizing b with
  | nil => rfl
  | cons a l ih =>
      rw [List.map_cons, List.foldlM_cons, List.foldlM_cons, toOption_bind, toOption_bind, h b a]
      cases (f b a).toOption with
      | none => rfl
      | some b' => exact ih b'

/-- The same for members that are run through one by one. -/
theorem toOption_mapM {α' β' : Type} {f : α → Result β} {f' : α' → Result β'}
    {g : β → β'} {k : α → α'} (h : ∀ a, (f' (k a)).toOption = (f a).toOption.map g)
    (l : List α) :
    ((l.map k).mapM f').toOption = (l.mapM f).toOption.map (List.map g) := by
  induction l with
  | nil => rfl
  | cons a l ih =>
      rw [List.map_cons, List.mapM_cons, List.mapM_cons, toOption_bind, toOption_bind, h a]
      cases (f a).toOption with
      | none => rfl
      | some b =>
          show ((l.map k).mapM f' >>= _).toOption = ((l.mapM f >>= _).toOption).map _
          rw [toOption_bind, toOption_bind, ih]
          cases (l.mapM f).toOption with
          | none => rfl
          | some bs => rfl

end FlatQuery.Result
