/-
The places for columns in a statement over one relation: the start of
each item of the select list, and the two sides of each comparison
(`ColumnPlace`). Reading looks at the token in such a place only to
resolve it. So with another token that resolves to the same reference
the query is the same, and only then: the reference stands in the query,
in the projection or in a term, at a place of its own (`ofTokens_place`).
-/
import FlatQuery.Proofs.Statement.Respelled
import FlatQuery.Proofs.Statement.Single
import FlatQuery.Proofs.Statement.WellFormed
import FlatQuery.Proofs.Token.Replaced

namespace FlatQuery

open Text Token Result Grammar

namespace Statement

-- ================================================================ words

/-- An identifier is a bare word: a letter or underscore, and word characters
behind it. -/
theorem isBare_of_isIdentifier {t : String} (h : isIdentifier t = true) : IsBare t := by
  unfold isIdentifier at h
  cases htext : t.toList with
  | nil =>
      rw [htext] at h
      cases h
  | cons c cs =>
      rw [htext] at h
      obtain ⟨hc, hcs⟩ := Bool.and_eq_true_iff.1 h
      refine ⟨c, cs, htext, hc, fun d hd => ?_⟩
      unfold isWordChar
      rw [List.all_eq_true.1 hcs d hd]
      rfl

/-- A bare word begins like neither a literal nor a number. -/
theorem isLiteral_of_isBare {t : String} (h : IsBare t) :
    isLiteral t = false ∧ isNumber t = false := by
  obtain ⟨c, cs, htext, hc, -⟩ := h
  apply isLiteral_of_isFixed_eq_false
  unfold isFixed
  rw [htext]
  dsimp only
  rw [hc.quote, hc.digit, decide_eq_false (hc.ne (by decide))]
  rfl

/-- No symbol is an identifier. -/
theorem ne_of_isIdentifier {t : String} (h : isIdentifier t = true) {symbol : String}
    (hsymbol : symbol ∈ [",", "*", ";"]) : t ≠ symbol := by
  -- closed: three symbols
  have hnone : ∀ symbol ∈ [",", "*", ";"], isIdentifier symbol = false := by decide +kernel
  rintro rfl
  rw [hnone t hsymbol] at h
  cases h

-- ============================================================ resolving

/-- What is resolved is no literal and no number. -/
theorem isLiteral_of_resolve {q : Query} {t : String} {ref : ColumnRef}
    (h : resolve q t = .ok ref) : isLiteral t = false ∧ isNumber t = false := by
  rw [resolve_eq] at h
  split at h
  · cases h
  · next hneither =>
    rw [Bool.or_eq_true, not_or, Bool.not_eq_true, Bool.not_eq_true] at hneither
    exact hneither

/-- Nor is it a symbol. -/
theorem ne_of_resolve {q : Query} {t : String} {ref : ColumnRef} (h : resolve q t = .ok ref)
    {symbol : String} (hsymbol : symbol ∈ [",", "*", ";"]) : t ≠ symbol := by
  have hnone : ∀ symbol ∈ [",", "*", ";"],
      (lowercase symbol).toList.contains '.' = false
        ∧ isIdentifier (lowercase symbol) = false := by
    decide +kernel
  obtain ⟨hpoint, hidentifier⟩ := hnone symbol hsymbol
  rintro rfl
  rw [resolve_eq, hpoint, hidentifier] at h
  split at h
  · cases h
  · cases h

/-- What is no literal and no number stands for a column on the right as on
the left. -/
theorem operand_eq_resolve {t : String} (hliteral : isLiteral t = false)
    (hnumber : isNumber t = false) (q : Query) : operand q t = (resolve q t).map .column := by
  unfold operand
  rw [hliteral, hnumber]
  rfl

-- ========================================================= select lists

/-- An item is read whatever its column, which a star is not. -/
theorem exists_of_item_cons {c : String} {tokens : List String} {i : Item}
    (h : item (c :: tokens) = .ok i) :
    ∃ aliasName, i = ⟨c, aliasName⟩ ∧ ∀ x, x ≠ "*" → item (x :: tokens) = .ok ⟨x, aliasName⟩ := by
  unfold item at h ⊢
  dsimp only at h ⊢
  rcases tokens with _ | ⟨keyword, _ | ⟨aliasName, _ | ⟨more, tokens⟩⟩⟩
  · dsimp only at h ⊢
    split at h
    · cases h
    · exact ⟨none, (Except.ok.inj h).symm, fun x hx => if_neg hx⟩
  · cases h
  · dsimp only at h ⊢
    split at h
    · next has => exact ⟨_, (Except.ok.inj h).symm, fun x _ => if_pos has⟩
    · cases h
  · cases h

/-- Begins a list, or goes on behind a comma. -/
def BeginsItem (front : List String) : Prop := front = [] ∨ front.getLast? = some ","

theorem splitOn_of_beginsItem {front : List String} (h : BeginsItem front) :
    ∃ pieces, ∀ tokens, (front ++ tokens).splitOn "," = pieces ++ tokens.splitOn "," := by
  rcases h with rfl | hlast
  · exact ⟨[], fun _ => rfl⟩
  · obtain ⟨list, rfl⟩ := List.getLast?_eq_some_iff.1 hlast
    refine ⟨list.splitOn ",", fun tokens => ?_⟩
    rw [List.append_assoc]
    exact List.splitOnP_append_cons list tokens (by decide)

/-- A list is read whatever the column in one of its places. -/
theorem items_place {front behind : List String} {c : String} {found : Option (List Item)}
    (hfront : BeginsItem front) (hcomma : c ≠ ",") (hstar : c ≠ "*")
    (h : items (front ++ c :: behind) = .ok found) :
    ∃ before aliasName after, ∀ x, x ≠ "," → x ≠ "*" →
      items (front ++ x :: behind) = .ok (some (before ++ ⟨x, aliasName⟩ :: after)) := by
  obtain ⟨pieces, hpieces⟩ := splitOn_of_beginsItem hfront
  obtain ⟨piece, more, hbehind⟩ : ∃ piece more, behind.splitOn "," = piece :: more :=
    List.exists_cons_of_ne_nil (List.splitOnP_ne_nil _ _)
  have hlist : ∀ x, x ≠ "," → x ≠ "*" → items (front ++ x :: behind)
      = some <$> (pieces ++ (x :: piece) :: more).mapM item := by
    intro x hx hx'
    -- `x` is no comma, so it opens the first piece behind `front`
    have hcut : (front ++ x :: behind).splitOn "," = pieces ++ (x :: piece) :: more := by
      rw [hpieces, List.splitOn, List.splitOnP_cons_eq_if_modifyHead, if_neg (by simpa using hx)]
      exact congrArg (fun list => pieces ++ list.modifyHead (x :: ·)) hbehind
    -- nor is the list the wildcard, since no item of it is a star
    have hall : front ++ x :: behind ≠ ["*"] := by
      intro hone
      cases front with
      | nil => exact hx' (List.cons.inj hone).1
      | cons t front => cases front <;> cases (List.cons.inj hone).2
    unfold items
    rw [if_neg hall, if_neg (by simp), hcut]
    rfl
  rw [hlist c hcomma hstar] at h
  obtain ⟨list, hread, -⟩ := map_eq_ok.1 h
  obtain ⟨before, hbefore, rest, hrest, rfl⟩ := mapM_append_eq_ok.1 hread
  obtain ⟨i, hi, after, hafter, rfl⟩ := mapM_cons_eq_ok.1 hrest
  obtain ⟨aliasName, -, hitem⟩ := exists_of_item_cons hi
  refine ⟨before, aliasName, after, fun x hx hx' => ?_⟩
  rw [hlist x hx hx']
  exact map_eq_ok.2 ⟨_, mapM_append_eq_ok.2 ⟨before, hbefore, _,
    mapM_cons_eq_ok.2 ⟨_, hitem x hx', after, hafter, rfl⟩, rfl⟩, rfl⟩

/-- No item of a select list adds a relation. -/
theorem aliases_foldlM_addItem {list : List Item} {q q' : Query}
    (h : list.foldlM addItem q = .ok q') : q'.aliases = q.aliases := by
  refine foldlM_induction (·.aliases = q.aliases) h rfl ?_
  intro i _ b b' hb hadd
  obtain ⟨ref, -, hadd⟩ := addItem_eq_ok.1 hadd
  exact (Query.aliases_addProjection hadd).trans hb

/-- The select list puts what its columns resolve to into the projection,
in order. -/
theorem exists_of_foldlM_addItem {list : List Item} {q q' : Query}
    (h : list.foldlM addItem q = .ok q') :
    ∃ refs, list.mapM (fun i => resolve q i.column) = .ok refs
      ∧ q'.projection.map Column.reference = q.projection.map Column.reference ++ refs := by
  induction list generalizing q with
  | nil =>
      obtain rfl := Except.ok.inj h
      exact ⟨[], rfl, (List.append_nil _).symm⟩
  | cons i list ih =>
      obtain ⟨q₁, hadd, hrest⟩ := foldlM_cons_eq_ok.1 h
      obtain ⟨ref, href, hadd⟩ := addItem_eq_ok.1 hadd
      obtain ⟨refs, hrefs, hprojection⟩ := ih hrest
      have hsame : resolve q₁ = resolve q :=
        funext (resolve_congr (.of_eq (Query.aliases_addProjection hadd)))
      rw [hsame] at hrefs
      obtain ⟨-, rfl⟩ := Query.addProjection_eq_ok.1 hadd
      refine ⟨ref :: refs, mapM_cons_eq_ok.2 ⟨ref, href, refs, hrefs, rfl⟩, ?_⟩
      rw [hprojection, List.map_append, List.append_assoc]
      rfl

/-- Two columns that resolve to the same reference are added alike. -/
theorem foldlM_addItem_congr {q : Query} {x y : String} (h : resolve q x = resolve q y)
    (before after : List Item) (aliasName : Option String) :
    (before ++ ⟨x, aliasName⟩ :: after).foldlM addItem q
      = (before ++ ⟨y, aliasName⟩ :: after).foldlM addItem q := by
  rw [List.foldlM_append, List.foldlM_append]
  cases hbefore : before.foldlM addItem q with
  | error e => rfl
  | ok q₁ =>
      have hsame : resolve q₁ = resolve q :=
        funext (resolve_congr (.of_eq (aliases_foldlM_addItem hbefore)))
      have hadd : addItem q₁ ⟨x, aliasName⟩ = addItem q₁ ⟨y, aliasName⟩ := by
        unfold addItem
        dsimp only
        rw [hsame, h]
      rw [ok_bind, ok_bind, List.foldlM_cons, List.foldlM_cons, hadd]

/-- Of the columns in one place of a list, those that resolve to the same
reference are added with the same result, and no others. -/
theorem addItems_place {front behind : List String} {c : String} {q q₀ : Query}
    (hfront : BeginsItem front) (hcomma : c ≠ ",") (hstar : c ≠ "*")
    (h : addItems q (front ++ c :: behind) = .ok q₀) :
    ∃ ref, resolve q c = .ok ref ∧ q₀.aliases = q.aliases
      ∧ ∀ x ref', resolve q x = .ok ref' →
          (ref' = ref → addItems q (front ++ x :: behind) = .ok q₀)
          ∧ ∀ q₀', addItems q (front ++ x :: behind) = .ok q₀' →
              q₀'.projection = q₀.projection → ref' = ref := by
  obtain ⟨found, hfound, -⟩ := bind_eq_ok.1 h
  obtain ⟨before, aliasName, after, hitems⟩ := items_place hfront hcomma hstar hfound
  have hadd : ∀ x, x ≠ "," → x ≠ "*" → addItems q (front ++ x :: behind)
      = (before ++ ⟨x, aliasName⟩ :: after).foldlM addItem q := by
    intro x hx hx'
    unfold addItems
    rw [hitems x hx hx']
    rfl
  rw [hadd c hcomma hstar] at h
  obtain ⟨refs, hrefs, hprojection⟩ := exists_of_foldlM_addItem h
  obtain ⟨early, hearly, rest, hrest, rfl⟩ := mapM_append_eq_ok.1 hrefs
  obtain ⟨ref, href, late, hlate, rfl⟩ := mapM_cons_eq_ok.1 hrest
  refine ⟨ref, href, aliases_foldlM_addItem h, fun x ref' href' => ?_⟩
  rw [hadd x (ne_of_resolve href' (by decide)) (ne_of_resolve href' (by decide))]
  constructor
  · rintro rfl
    rw [foldlM_addItem_congr (href'.trans href.symm)]
    exact h
  · intro q₀' h' hsame
    obtain ⟨refs', hrefs', hprojection'⟩ := exists_of_foldlM_addItem h'
    -- both lists resolve to the same references but in this place
    obtain rfl : refs' = early ++ ref' :: late := by
      have hrest' : (⟨x, aliasName⟩ :: after).mapM (fun i : Item => resolve q i.column)
          = .ok (ref' :: late) :=
        mapM_cons_eq_ok.2 ⟨ref', href', late, hlate, rfl⟩
      have hall := mapM_append_eq_ok.2 ⟨early, hearly, _, hrest', rfl⟩
      exact Except.ok.inj (hrefs'.symm.trans hall)
    rw [hsame, hprojection, List.append_cancel_left_eq, List.append_cancel_left_eq] at hprojection'
    exact (List.cons.inj hprojection').1.symm

-- =========================================================== conditions

/-- In a list of conditions every second token is a column or a value, and
a column is read whatever it resolves to. -/
theorem conditions_place {q : Query} {first : Connective} {front back : List String} {c : String}
    {terms : List Condition} (heven : front.length % 2 = 0) (hliteral : isLiteral c = false)
    (hnumber : isNumber c = false) (h : conditions q first (front ++ c :: back) = .ok terms) :
    ∃ (ref : ColumnRef) (before after : List Condition) (term : ColumnRef → Condition),
      resolve q c = .ok ref ∧ Function.Injective term
        ∧ ∀ x ref', resolve q x = .ok ref' →
            conditions q first (front ++ x :: back) = .ok (before ++ term ref' :: after) := by
  match front with
  | [] =>
      rcases back with _ | ⟨operator, _ | ⟨right, tail⟩⟩
      · cases h
      · cases h
      obtain ⟨sign, ref, side, rest, hsign, href, hside, hrest, -⟩ := conditions_eq_ok.1 h
      refine ⟨ref, [], rest, fun ref => ⟨first, ref, sign, side⟩, href, ?_, fun x ref' href' => ?_⟩
      · exact fun a b hab => congrArg Condition.left hab
      · exact conditions_eq_ok.2 ⟨sign, ref', side, rest, hsign, href', hside, hrest, rfl⟩
  -- an odd number of tokens before it: the place of an operator or connective
  | [left] => exact absurd heven (by simp)
  -- the right side of the first comparison
  | [left, operator] =>
      obtain ⟨sign, ref, side, rest, hsign, href, hside, hrest, -⟩ := conditions_eq_ok.1 h
      rw [operand_eq_resolve hliteral hnumber] at hside
      obtain ⟨ref₂, href₂, -⟩ := map_eq_ok.1 hside
      refine ⟨ref₂, [], rest, fun ref₂ => ⟨first, ref, sign, .column ref₂⟩, href₂, ?_,
        fun x ref' href' => ?_⟩
      · exact fun a b hab => Operand.column.inj (congrArg Condition.right hab)
      · obtain ⟨hliteral', hnumber'⟩ := isLiteral_of_resolve href'
        refine conditions_eq_ok.2 ⟨sign, ref, _, rest, hsign, href, ?_, hrest, rfl⟩
        rw [operand_eq_resolve hliteral' hnumber', href']
        rfl
  | [left, operator, right] => exact absurd heven (by simp)
  -- behind the first comparison and its connective the list begins again
  | left :: operator :: right :: word :: front =>
      obtain ⟨sign, ref, side, rest, hsign, href, hside, hrest, -⟩ := conditions_eq_ok.1 h
      obtain ⟨next, hnext, hrest⟩ := bind_eq_ok.1 hrest
      have heven' : front.length % 2 = 0 := by
        simp only [List.length_cons] at heven
        omega
      obtain ⟨ref₂, before, after, term, href₂, hterm, hread⟩ :=
        conditions_place heven' hliteral hnumber hrest
      refine ⟨ref₂, ⟨first, ref, sign, side⟩ :: before, after, term, href₂, hterm,
        fun x ref' href' => ?_⟩
      exact conditions_eq_ok.2 ⟨sign, ref, side, _, hsign, href, hside,
        bind_eq_ok.2 ⟨next, hnext, hread x ref' href'⟩, rfl⟩

-- =============================================================== places

/-- A token in a place for columns, and the tokens before it: an item of
the select list begins with the token, or a comparison has it on one of
its sides. -/
inductive ColumnPlace : List String → String → Prop
  | item {select : String} {front : List String} {c : String}
      (inside : ∀ t ∈ front ++ [c], sameFolded t "from" = false) (start : BeginsItem front) :
      ColumnPlace (select :: front) c
  | operand {select leading keyword : String} {list relation terms : List String} {c : String}
      (inside : ∀ t ∈ list, sameFolded t "from" = false)
      (hleading : sameFolded leading "from" = true)
      (hrelation : ∀ t ∈ relation, sameFolded t "where" = false)
      (hkeyword : sameFolded keyword "where" = true) (even : terms.length % 2 = 0) :
      ColumnPlace (select :: (list ++ leading :: (relation ++ keyword :: terms))) c

/-- Two lists cut at the first member of a kind are cut alike. -/
theorem eq_of_append_first {α : Type} {p : α → Bool} {l l' r r' : List α} {a a' : α}
    (hl : ∀ x ∈ l, p x = false) (ha : p a = true) (hl' : ∀ x ∈ l', p x = false)
    (ha' : p a' = true) (h : l ++ a :: r = l' ++ a' :: r') : l = l' ∧ a = a' ∧ r = r' := by
  have hcut : ∀ {l r : List α} {a : α}, (∀ x ∈ l, p x = false) → p a = true →
      (l ++ a :: r).takeWhile (!p ·) = l := by
    intro l r a hl ha
    refine (span_until (a :: r) hl fun x hx => ?_).1
    rw [← Option.some.inj hx, ha]
  obtain rfl : l = l' := by rw [← hcut hl ha, h, hcut hl' ha']
  exact ⟨rfl, List.cons.inj (List.append_cancel_left h)⟩

/-- Only `from` ends the select list. -/
theorem isTerminator_selectClause (t : String) :
    selectClause.isTerminator t = sameFolded t "from" := by
  have hends : selectClause.terminators = ["from"] := by decide +kernel
  unfold Clause.isTerminator
  rw [hends, List.any_cons, List.any_nil, Bool.or_false]

/-- What does not end FROM is not `where`. -/
theorem sameFolded_where {t : String} (h : fromClause.isTerminator t = false) :
    sameFolded t "where" = false := by
  have hends : "where" ∈ fromClause.terminators := by decide +kernel
  exact Bool.eq_false_iff.2 (List.any_eq_false.1 h "where" hends)

namespace Single

variable {p : Single} {before after : List String} {c : String}

/-- In a statement over one relation a place for columns is one of the
select list or of the filter, and another token can be put there. -/
theorem exists_place (hp : p.Clear) (hplace : ColumnPlace before c)
    (h : p.tokens = before ++ c :: after) :
    (∃ front behind, BeginsItem front ∧ p.list = front ++ c :: behind
        ∧ ∀ x, ({ p with list := front ++ x :: behind } : Single).tokens = before ++ x :: after)
      ∨ ∃ keyword terms behind, terms.length % 2 = 0
        ∧ p.filter = some (keyword, terms ++ c :: behind)
        ∧ ∀ x, ({ p with filter := some (keyword, terms ++ x :: behind) } : Single).tokens
            = before ++ x :: after := by
  have hlist : ∀ t ∈ p.list, sameFolded t "from" = false := by
    intro t ht
    rw [← isTerminator_selectClause]
    exact hp.list t ht
  have hleading : sameFolded p.leading "from" = true :=
    sameFolded_of_leads hp.leading (by decide +kernel)
  unfold tokens at h
  cases hplace with
  | @item select front c hfrom hstart =>
      rw [List.cons_append, List.cons.injEq] at h
      obtain ⟨rfl, h⟩ := h
      -- the list goes on behind the column up to `from`
      obtain ⟨htake, hdrop⟩ :=
        span_until (p.leading :: (p.relation ++ p.filterTokens)) hlist fun t ht => by
          rw [← Option.some.inj ht, hleading]
      have hcolumn : ∀ t ∈ front ++ [c], (!sameFolded t "from") = true := by
        intro t ht
        rw [hfrom t ht]
        rfl
      rw [h, List.append_cons, List.takeWhile_append_of_pos hcolumn] at htake
      rw [h, List.append_cons, List.dropWhile_append_of_pos hcolumn] at hdrop
      refine .inl ⟨front, after.takeWhile (!sameFolded · "from"), hstart, ?_, fun x => ?_⟩
      · rw [← htake, List.append_assoc]
        rfl
      · show p.select :: (front ++ x :: after.takeWhile _
          ++ p.leading :: (p.relation ++ p.filterTokens)) = p.select :: (front ++ x :: after)
        rw [← hdrop, List.append_assoc, List.cons_append, List.takeWhile_append_dropWhile]
  | @operand select leading keyword list relation terms c hfrom hfirst hwhere hkeyword heven =>
      simp only [List.cons_append, List.append_assoc, List.cons.injEq] at h
      obtain ⟨rfl, h⟩ := h
      -- both sides are cut at their first `from`
      obtain ⟨rfl, rfl, hrest⟩ := eq_of_append_first hlist hleading hfrom hfirst h
      have hrelation : ∀ t ∈ p.relation, sameFolded t "where" = false := fun t ht =>
        sameFolded_where (hp.relation t ht)
      cases hfilter : p.filter with
      | none =>
          -- without a filter the `where` of the place would stand in FROM
          have hmem : keyword ∈ p.relation := by
            rw [filterTokens, hfilter, List.append_nil] at hrest
            rw [hrest]
            simp
          rw [hrelation keyword hmem] at hkeyword
          cases hkeyword
      | some filter =>
          obtain ⟨keyword', terms'⟩ := filter
          have hkeyword' : sameFolded keyword' "where" = true :=
            sameFolded_of_leads (hp.filter _ hfilter).1 (by decide +kernel)
          rw [filterTokens, hfilter] at hrest
          obtain ⟨hsame, rfl, rfl⟩ := eq_of_append_first hrelation hkeyword' hwhere hkeyword hrest
          refine .inr ⟨keyword', terms, after, heven, rfl, fun x => ?_⟩
          rw [← hsame]
          simp [tokens, filterTokens]

-- =============================================================== queries

/-- The query of such a statement. -/
theorem toQuery_draft_eq_ok {s : Source} {q : Query} :
    (p.draft s).toQuery = .ok q
      ↔ ∃ q₁ q₀ chains, addSource .empty s = .ok q₁ ∧ addItems q₁ p.list = .ok q₀
          ∧ (p.filter.map Prod.snd).toList.mapM (conditions q₀ .and) = .ok chains
          ∧ q = chains.flatten.foldl Query.addCondition q₀ := by
  have houtline : (p.draft s).outline = addSource .empty s >>= fun q₁ => addItems q₁ p.list := by
    show ([s].foldlM addSource .empty >>= fun q₁ => addItems q₁ p.list) = _
    rw [List.foldlM_cons, bind_assoc]
    rfl
  rw [toQuery_eq, houtline]
  simp only [bind_eq_ok, foldlM_groups_eq_ok]
  constructor
  · rintro ⟨q₀, ⟨q₁, hsource, hitems⟩, chains, hchains, rfl⟩
    exact ⟨q₁, q₀, chains, hsource, hitems, hchains, rfl⟩
  · rintro ⟨q₁, q₀, chains, hsource, hitems, hchains, rfl⟩
    exact ⟨q₀, ⟨q₁, hsource, hitems⟩, chains, hchains, rfl⟩

/-- A column of the select list can be written otherwise, if it resolves to
the same reference, and only then. -/
theorem toQuery_list_place {s : Source} {q : Query} {front behind : List String}
    (hfront : BeginsItem front) (hc : isIdentifier c = true) (hlist : p.list = front ++ c :: behind)
    (h : (p.draft s).toQuery = .ok q) :
    ∃ ref, resolve q c = .ok ref ∧ ∀ x ref', resolve q x = .ok ref' →
      ((({ p with list := front ++ x :: behind } : Single).draft s).toQuery = .ok q
        ↔ ref' = ref) := by
  obtain ⟨q₁, q₀, chains, hsource, hitems, hchains, rfl⟩ := toQuery_draft_eq_ok.1 h
  rw [hlist] at hitems
  obtain ⟨ref, href, haliases, hplace⟩ := addItems_place hfront
    (ne_of_isIdentifier hc (by decide)) (ne_of_isIdentifier hc (by decide)) hitems
  have hsame : resolve (chains.flatten.foldl Query.addCondition q₀) = resolve q₁ :=
    funext (resolve_congr
      (.of_eq ((Query.aliases_foldl_addCondition chains.flatten q₀).trans haliases)))
  rw [hsame]
  refine ⟨ref, href, fun x ref' href' => ⟨fun h' => ?_, fun heq => ?_⟩⟩
  -- equal queries have equal projections, which tell the reference
  · obtain ⟨q₁', q₀', chains', hsource', hitems', -, hq⟩ := toQuery_draft_eq_ok.1 h'
    obtain rfl := Except.ok.inj (hsource.symm.trans hsource')
    have hprojection := congrArg Query.projection hq
    rw [Query.projection_foldl_addCondition, Query.projection_foldl_addCondition]
      at hprojection
    exact (hplace x ref' href').2 q₀' hitems' hprojection.symm
  · exact toQuery_draft_eq_ok.2
      ⟨q₁, q₀, chains, hsource, (hplace x ref' href').1 heq, hchains, rfl⟩

/-- The same of a column in the filter. -/
theorem toQuery_filter_place {s : Source} {q : Query} {keyword : String}
    {terms behind : List String} (heven : terms.length % 2 = 0) (hc : isIdentifier c = true)
    (hfilter : p.filter = some (keyword, terms ++ c :: behind))
    (h : (p.draft s).toQuery = .ok q) :
    ∃ ref, resolve q c = .ok ref ∧ ∀ x ref', resolve q x = .ok ref' →
      ((({ p with filter := some (keyword, terms ++ x :: behind) } : Single).draft s).toQuery
          = .ok q
        ↔ ref' = ref) := by
  obtain ⟨q₁, q₀, chains, hsource, hitems, hchains, rfl⟩ := toQuery_draft_eq_ok.1 h
  obtain ⟨hliteral, hnumber⟩ := isLiteral_of_isBare (isBare_of_isIdentifier hc)
  rw [hfilter] at hchains
  obtain ⟨chain, hchain, rest, hrest, rfl⟩ := mapM_cons_eq_ok.1 hchains
  obtain ⟨ref, early, late, term, href, hterm, hplace⟩ :=
    conditions_place heven hliteral hnumber hchain
  obtain rfl := Except.ok.inj (hchain.symm.trans (hplace c ref href))
  have hsame : resolve (((early ++ term ref :: late) :: rest).flatten.foldl
      Query.addCondition q₀) = resolve q₀ :=
    funext (resolve_congr (.of_eq (Query.aliases_foldl_addCondition _ q₀)))
  rw [hsame]
  refine ⟨ref, href, fun x ref' href' => ⟨fun h' => ?_, fun heq => ?_⟩⟩
  · obtain ⟨q₁', q₀', chains', hsource', hitems', hchains', hq⟩ := toQuery_draft_eq_ok.1 h'
    obtain rfl := Except.ok.inj (hsource.symm.trans hsource')
    obtain rfl := Except.ok.inj (hitems.symm.trans hitems')
    -- the filter in place gives the same terms but one, and `term` is injective
    have hall := Except.ok.inj (hchains'.symm.trans
      (mapM_cons_eq_ok.2 ⟨_, hplace x ref' href', rest, hrest, rfl⟩))
    have hconditions := congrArg Query.conditions hq
    rw [hall, Query.conditions_foldl_addCondition, Query.conditions_foldl_addCondition,
      List.flatten_cons, List.flatten_cons] at hconditions
    simp only [List.append_assoc, List.cons_append, List.append_cancel_left_eq,
      List.cons.injEq] at hconditions
    exact (hterm hconditions.1).symm
  · subst heq
    exact toQuery_draft_eq_ok.2 ⟨q₁, q₀, _, hsource, hitems,
      mapM_cons_eq_ok.2 ⟨_, hplace x ref' href', rest, hrest, rfl⟩, rfl⟩

end Single

/-- A query over one relation comes from a draft with one. -/
theorem exists_source {d : Draft} {q : Query} {r : Relation} (h : d.toQuery = .ok q)
    (hone : q.relations = [r]) : ∃ s, d.sources = [s] := by
  rw [toQuery_eq] at h
  obtain ⟨q₀, houtline, h⟩ := bind_eq_ok.1 h
  obtain ⟨chains, -, rfl⟩ := foldlM_groups_eq_ok.1 h
  have hsources := Query.sources_foldl_addCondition chains.flatten q₀
  rw [(outline_fields houtline).1, Query.sources, hone] at hsources
  exact ⟨_, hsources.symm⟩

/-- In a place for columns another token has the same query behind it if
it resolves to the same reference, and only then. -/
theorem ofTokens_place {before after : List String} {c : String} {q : Query} {r : Relation}
    (hplace : ColumnPlace before c) (hc : isIdentifier c = true)
    (h : ofTokens (before ++ c :: after) = .ok q) (hone : q.relations = [r]) :
    ∃ ref, resolve q c = .ok ref ∧ ∀ x ref', sameFolded x "from" = false →
      resolve q x = .ok ref' → (ofTokens (before ++ x :: after) = .ok q ↔ ref' = ref) := by
  unfold ofTokens at h ⊢
  rw [dropSemicolons_append (ne_of_isIdentifier hc (by decide))] at h
  obtain ⟨d, hdraft, hquery⟩ := bind_eq_ok.1 h
  obtain ⟨s, hs⟩ := exists_source hquery hone
  obtain ⟨p, hp, hclear, hsource, rfl⟩ := exists_single hdraft hs
  rcases Single.exists_place hclear hplace hp with
    ⟨front, behind, hfront, hlist, htokens⟩ | ⟨keyword, terms, behind, heven, hfilter, htokens⟩
  · obtain ⟨ref, href, hall⟩ := Single.toQuery_list_place hfront hc hlist hquery
    refine ⟨ref, href, fun x ref' hfrom href' => ?_⟩
    have hclear' : ({ p with list := front ++ x :: behind } : Single).Clear := by
      refine ⟨hclear.select, ?_, hclear.leading, hclear.relation, hclear.filter⟩
      have hinside := hclear.list
      rw [hlist, List.forall_mem_append, List.forall_mem_cons] at hinside
      rw [List.forall_mem_append, List.forall_mem_cons, isTerminator_selectClause]
      exact ⟨hinside.1, hfrom, hinside.2.2⟩
    rw [dropSemicolons_append (ne_of_resolve href' (by decide)), ← htokens x,
      Single.draft_tokens hclear' hsource, ok_bind]
    exact hall x ref' href'
  · obtain ⟨ref, href, hall⟩ := Single.toQuery_filter_place heven hc hfilter hquery
    refine ⟨ref, href, fun x ref' _ href' => ?_⟩
    have hclear' : ({ p with filter := some (keyword, terms ++ x :: behind) } : Single).Clear := by
      refine ⟨hclear.select, hclear.list, hclear.leading, hclear.relation, ?_⟩
      intro f hf
      obtain rfl := Option.some.inj hf
      exact ⟨(hclear.filter _ hfilter).1, by simp⟩
    rw [dropSemicolons_append (ne_of_resolve href' (by decide)), ← htokens x,
      Single.draft_tokens hclear' hsource, ok_bind]
    exact hall x ref' href'

end Statement

end FlatQuery
