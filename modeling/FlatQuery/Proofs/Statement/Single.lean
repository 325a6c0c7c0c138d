/-
Statements over one relation. Reading one clause adds what the clause
says (`Added`), and a draft that ends up with one relation has taken
three clauses at most: the select list, FROM, and perhaps WHERE, which
runs to the end (`exists_single`). The converse holds too, so such a
statement can be taken apart and put together again with other tokens in
its lists (`Single.draft_tokens`).
-/
import FlatQuery.Proofs.Statement.Blind

namespace FlatQuery

open Text Token Result

namespace Grammar

-- ====================================================== single keywords

/-- SELECT, up to `from`. -/
def selectClause : Clause := .ofKeywords ["select"] ["from"]

/-- FROM, up to a word that begins a join or a filter. -/
def fromClause : Clause := .ofKeywords ["from"] joinTerminators

/-- WHERE, which nothing ends. -/
def whereClause : Clause := .ofKeywords ["where"] []

/-- The clause of a kind that has one keyword only. -/
def soleClause? : ClauseKind → Option Clause
  | .projection => some selectClause
  | .leading => some fromClause
  | .filter => some whereClause
  | .join _ => none
  | .unsupported _ => none

/-- A token that leads in a clause of one keyword, in whatever case. -/
structure Leads (kind : ClauseKind) (clause : Clause) (t : String) : Prop where
  found : clauseFor? t = some (kind, clause)
  keyword : clause.begins [t] = true

/-- A clause of one keyword is carved off. -/
theorem carve_leads {kind : ClauseKind} {clause : Clause} {t : String} (h : Leads kind clause t)
    (hone : clause.start.length = 1) {body rest : List String}
    (hbody : ∀ t ∈ body, clause.isTerminator t = false)
    (hrest : ∀ t, rest.head? = some t → clause.isTerminator t = true) :
    carve (t :: (body ++ rest))
      = (⟨kind, t, t :: body, body⟩ :: (carve rest).1, (carve rest).2) :=
  carve_append h.found h.keyword hone.symm hbody hrest

/-- The kinds of one keyword have the clause that the grammar gives
them. -/
theorem eq_of_soleClause? {t : String} {kind : ClauseKind} {clause clause' : Clause}
    (h : clauseFor? t = some (kind, clause')) (hsole : soleClause? kind = some clause) :
    clause' = clause ∧ clause.start.length = 1 := by
  have htable : ∀ e ∈ clauses, soleClause? e.2.1 = none
      ∨ soleClause? e.2.1 = some e.2.2 ∧ e.2.2.start.length = 1 := by
    decide +kernel
  obtain ⟨before, after, hmem, -⟩ := List.lookup_eq_some_iff.1 h
  rcases htable (lowercase t, kind, clause') (by rw [hmem]; simp) with hnone | ⟨hsome, hlength⟩
  · cases hsole.symm.trans hnone
  · obtain rfl := Option.some.inj (hsome.symm.trans hsole)
    exact ⟨rfl, hlength⟩

/-- Where a clause of one keyword was carved off, its keyword led in, and
it runs to the first token that ends it. -/
theorem exists_of_carve {tokens : List String} {part : Part} {parts : List Part}
    (h : carve tokens = (part :: parts, none)) {clause : Clause}
    (hsole : soleClause? part.kind = some clause) :
    ∃ first rest, tokens = first :: (part.body ++ rest) ∧ Leads part.kind clause first
      ∧ part.tokens = first :: part.body ∧ (∀ t ∈ part.body, clause.isTerminator t = false)
      ∧ (∀ t, rest.head? = some t → clause.isTerminator t = true)
      ∧ carve rest = (parts, none) := by
  cases tokens with
  | nil =>
      rw [carve] at h
      cases h
  | cons first tail =>
      rw [carve_cons] at h
      cases hfound : clauseFor? first with
      | none =>
          rw [hfound] at h
          cases h
      | some entry =>
          obtain ⟨kind, clause'⟩ := entry
          rw [hfound] at h
          dsimp only at h
          unfold Clause.extract at h
          split at h
          · cases h
          · next tokens remainder hextract =>
            split at hextract
            · next hbegins =>
              obtain ⟨hparts, hfailure⟩ := Prod.mk.inj h
              obtain ⟨rfl, rfl⟩ := List.cons.inj hparts
              -- its one keyword was taken off, so the body begins behind it
              obtain ⟨rfl, hone⟩ := eq_of_soleClause? hfound hsole
              have hstart : clause'.begins ([first] ++ tail) = clause'.begins [first] :=
                Clause.begins_append_of_le (by rw [hone]; exact Nat.le_refl 1) tail
              cases hextract
              rw [hone] at hfailure ⊢
              refine ⟨first, tail.dropWhile (!clause'.isTerminator ·), ?_,
                ⟨hfound, hstart.symm.trans hbegins⟩, rfl, ?_, ?_, Prod.ext rfl hfailure⟩
              · exact congrArg (first :: ·) List.takeWhile_append_dropWhile.symm
              · intro t ht
                simpa using List.all_eq_true.1 List.all_takeWhile t ht
              · intro t ht
                have hhead := List.head?_dropWhile_not (!clause'.isTerminator ·) tail
                rw [ht] at hhead
                simpa using hhead
            · cases hextract

/-- Only from no tokens is no clause carved off without an error. -/
theorem eq_nil_of_carve {tokens : List String} (h : carve tokens = ([], none)) : tokens = [] := by
  cases tokens with
  | nil => rfl
  | cons first tail =>
      rw [carve_cons] at h
      split at h
      · cases h
      · split at h
        · cases h
        · cases h

end Grammar

namespace Statement

open Grammar

-- ============================================================ one relation

/-- The tokens of a statement over one relation: its select list, what
FROM names, and perhaps a filter, each behind its keyword. -/
structure Single where
  select : String
  list : List String
  leading : String
  relation : List String
  filter : Option (String × List String)

namespace Single

/-- The filter with its keyword, if there is one. -/
def filterTokens (p : Single) : List String :=
  match p.filter with
  | none => []
  | some (keyword, terms) => keyword :: terms

/-- The statement as tokens. -/
def tokens (p : Single) : List String :=
  p.select :: (p.list ++ p.leading :: (p.relation ++ p.filterTokens))

/-- The keywords are those of the clauses, and no clause ends early. -/
structure Clear (p : Single) : Prop where
  select : Leads .projection selectClause p.select
  list : ∀ t ∈ p.list, selectClause.isTerminator t = false
  leading : Leads .leading fromClause p.leading
  relation : ∀ t ∈ p.relation, fromClause.isTerminator t = false
  filter : ∀ f, p.filter = some f → Leads .filter whereClause f.1 ∧ f.2 ≠ []

/-- The draft of the statement, if FROM names this relation. -/
def draft (p : Single) (s : Source) : Draft :=
  ⟨some p.list, [s], (p.filter.map Prod.snd).toList⟩

end Single

/-- What leads in a clause of one keyword is that keyword, but for case. -/
theorem sameFolded_of_leads {kind : ClauseKind} {clause : Clause} {t keyword : String}
    (h : Leads kind clause t) (hstart : clause.start = [keyword]) :
    sameFolded t keyword = true := by
  have hkeyword := h.keyword
  rw [Clause.begins, hstart] at hkeyword
  simpa using hkeyword

/-- The keyword of a clause may end the clause before it. -/
theorem isTerminator_of_leads {kind : ClauseKind} {clause clause' : Clause} {t keyword : String}
    (h : Leads kind clause t) (hstart : clause.start = [keyword])
    (hmem : keyword ∈ clause'.terminators) : clause'.isTerminator t = true :=
  List.any_eq_true.2 ⟨keyword, hmem, sameFolded_of_leads h hstart⟩

/-- The clause that a filter is. -/
def Single.filterPart (filter : String × List String) : Part :=
  ⟨.filter, filter.1, filter.1 :: filter.2, filter.2⟩

/-- The clauses of such a statement. -/
def Single.parts (p : Single) : List Part :=
  ⟨.projection, p.select, p.select :: p.list, p.list⟩
    :: ⟨.leading, p.leading, p.leading :: p.relation, p.relation⟩
    :: (p.filter.map filterPart).toList

/-- What stands behind FROM is carved into the filter. -/
theorem carve_filterTokens {p : Single} (h : p.Clear) :
    carve p.filterTokens = ((p.filter.map Single.filterPart).toList, none) := by
  unfold Single.filterTokens
  cases hfilter : p.filter with
  | none =>
      dsimp only
      rw [carve]
      rfl
  | some filter =>
      obtain ⟨keyword, terms⟩ := filter
      have hends : ∀ t, ([] : List String).head? = some t → whereClause.isTerminator t = true := by
        intro t ht
        cases ht
      have hcarve : carve (keyword :: (terms ++ [])) = _ :=
        carve_leads (h.filter _ hfilter).1 (by decide +kernel) (fun _ _ => rfl) hends
      rw [List.append_nil] at hcarve
      dsimp only
      rw [hcarve, carve]
      rfl

/-- Such a statement is carved into its clauses. -/
theorem carve_tokens {p : Single} (h : p.Clear) : carve p.tokens = (p.parts, none) := by
  have hfilter : ∀ t, p.filterTokens.head? = some t → fromClause.isTerminator t = true := by
    intro t ht
    unfold Single.filterTokens at ht
    cases hfilter : p.filter with
    | none =>
        rw [hfilter] at ht
        cases ht
    | some filter =>
        rw [hfilter] at ht
        obtain rfl := Option.some.inj ht
        have hstart : whereClause.start = ["where"] := by decide +kernel
        exact isTerminator_of_leads (h.filter _ hfilter).1 hstart (by decide +kernel)
  have hleading : ∀ t, (p.leading :: (p.relation ++ p.filterTokens)).head? = some t →
      selectClause.isTerminator t = true := by
    intro t ht
    obtain rfl := Option.some.inj ht
    have hstart : fromClause.start = ["from"] := by decide +kernel
    exact isTerminator_of_leads h.leading hstart (by decide +kernel)
  unfold Single.tokens Single.parts
  rw [carve_leads h.select (by decide +kernel) h.list hleading,
    carve_leads h.leading (by decide +kernel) h.relation hfilter, carve_filterTokens h]

/-- Such a statement is read clause by clause. -/
theorem Single.draft_tokens {p : Single} (h : p.Clear) {s : Source}
    (hs : source .leading (p.leading :: p.relation) p.relation = .ok s) :
    Statement.draft p.tokens = .ok (p.draft s) := by
  refine draft_eq_ok.2 ⟨p.parts, carve_tokens h, ?_⟩
  unfold Single.parts Single.draft
  refine foldlM_cons_eq_ok.2 ⟨_, add_eq_ok.2 (.projection rfl rfl), ?_⟩
  refine foldlM_cons_eq_ok.2 ⟨_, add_eq_ok.2 (.leading s rfl rfl rfl hs), ?_⟩
  cases hfilter : p.filter with
  | none => rfl
  | some filter =>
      have hne := (h.filter _ hfilter).2
      exact foldlM_cons_eq_ok.2 ⟨_, add_eq_ok.2 (.filter rfl (List.cons_ne_nil _ _) hne), rfl⟩

/-- No clause takes a relation back. -/
theorem length_sources_le {parts : List Part} {d d' : Draft}
    (h : parts.foldlM Draft.add d = .ok d') : d.sources.length ≤ d'.sources.length := by
  refine foldlM_induction (d.sources.length ≤ ·.sources.length) h (Nat.le_refl _) ?_
  intro part _ b b' hb hadd
  cases add_eq_ok.1 hadd with
  | projection => exact hb
  | leading s _ _ hfirst =>
      rw [hfirst] at hb
      exact Nat.le_trans hb (Nat.zero_le _)
  | join role s =>
      rw [List.length_append]
      exact Nat.le_trans hb (Nat.le_add_right ..)
  | filter => exact hb

/-- The first clause is the select list. -/
theorem add_empty_eq_ok {part : Part} {d : Draft} (h : Draft.add ⟨none, [], []⟩ part = .ok d) :
    part.kind = .projection ∧ d = ⟨some part.body, [], []⟩ := by
  cases add_eq_ok.1 h with
  | projection hkind => exact ⟨hkind, rfl⟩
  | leading _ _ hbehind => cases hbehind
  | join _ _ _ hbehind => exact absurd rfl hbehind
  | filter _ hbehind => exact absurd rfl hbehind

/-- The second is FROM. -/
theorem add_projection_eq_ok {list : List String} {part : Part} {d : Draft}
    (h : Draft.add ⟨some list, [], []⟩ part = .ok d) :
    part.kind = .leading ∧ ∃ s, source .leading part.tokens part.body = .ok s
      ∧ d = ⟨some list, [s], []⟩ := by
  cases add_eq_ok.1 h with
  | projection _ hfirst => cases hfirst
  | leading s hkind _ _ hs => exact ⟨hkind, s, hs, rfl⟩
  | join _ _ _ hbehind => exact absurd rfl hbehind
  | filter _ hbehind => exact absurd rfl hbehind

/-- The third is a filter, unless it adds a relation. -/
theorem add_leading_eq_ok {list : List String} {s : Source} {part : Part} {d : Draft}
    (h : Draft.add ⟨some list, [s], []⟩ part = .ok d) (hone : d.sources.length ≤ 1) :
    part.kind = .filter ∧ part.body ≠ [] ∧ d = ⟨some list, [s], [part.body]⟩ := by
  cases add_eq_ok.1 h with
  | projection _ hfirst => cases hfirst
  | leading _ _ _ hfirst => cases hfirst
  | join _ s' =>
      simp at hone
  | filter hkind _ hne => exact ⟨hkind, hne, rfl⟩

/-- A draft with one relation is that of such a statement. -/
theorem exists_single {tokens : List String} {d : Draft} {s : Source}
    (h : draft tokens = .ok d) (hone : d.sources = [s]) :
    ∃ p : Single, p.tokens = tokens ∧ p.Clear
      ∧ source .leading (p.leading :: p.relation) p.relation = .ok s ∧ d = p.draft s := by
  obtain ⟨parts, hcarve, hread⟩ := draft_eq_ok.1 h
  rcases parts with _ | ⟨p₁, parts⟩
  · cases hread
    cases hone
  obtain ⟨d₁, hd₁, hread⟩ := foldlM_cons_eq_ok.1 hread
  obtain ⟨hkind₁, rfl⟩ := add_empty_eq_ok hd₁
  have hsole₁ : soleClause? p₁.kind = some selectClause := congrArg soleClause? hkind₁
  obtain ⟨select, rest₁, rfl, hselect, -, hlist, -, hcarve₁⟩ := exists_of_carve hcarve hsole₁
  rcases parts with _ | ⟨p₂, parts⟩
  · cases hread
    cases hone
  obtain ⟨d₂, hd₂, hread⟩ := foldlM_cons_eq_ok.1 hread
  obtain ⟨hkind₂, s', hs', rfl⟩ := add_projection_eq_ok hd₂
  have hsole₂ : soleClause? p₂.kind = some fromClause := congrArg soleClause? hkind₂
  obtain ⟨leading, rest₂, rfl, hleading, htokens₂, hrelation, -, hcarve₂⟩ :=
    exists_of_carve hcarve₁ hsole₂
  rw [hkind₁] at hselect
  rw [hkind₂] at hleading
  rw [htokens₂] at hs'
  rcases parts with _ | ⟨p₃, parts⟩
  · cases hread
    cases hone
    obtain rfl := eq_nil_of_carve hcarve₂
    refine ⟨⟨select, p₁.body, leading, p₂.body, none⟩, rfl, ?_, hs', rfl⟩
    exact ⟨hselect, hlist, hleading, hrelation, nofun⟩
  obtain ⟨d₃, hd₃, hread⟩ := foldlM_cons_eq_ok.1 hread
  have hless := length_sources_le hread
  rw [hone] at hless
  obtain ⟨hkind₃, hne, rfl⟩ := add_leading_eq_ok hd₃ hless
  have hsole₃ : soleClause? p₃.kind = some whereClause := congrArg soleClause? hkind₃
  obtain ⟨keyword, rest₃, rfl, hkeyword, -, -, hends, hcarve₃⟩ := exists_of_carve hcarve₂ hsole₃
  rw [hkind₃] at hkeyword
  -- nothing ends a filter
  obtain rfl : rest₃ = [] := by
    cases rest₃ with
    | nil => rfl
    | cons t rest => cases hends t rfl
  rw [carve] at hcarve₃
  obtain rfl := (Prod.mk.inj hcarve₃).1
  cases hread
  cases hone
  refine ⟨⟨select, p₁.body, leading, p₂.body, some (keyword, p₃.body)⟩, ?_, ?_, hs', rfl⟩
  · rw [List.append_nil]
    rfl
  · refine ⟨hselect, hlist, hleading, hrelation, ?_⟩
    intro f hf
    obtain rfl := Option.some.inj hf
    exact ⟨hkeyword, hne⟩

end Statement

end FlatQuery
