/-
Bare columns and qualified ones. A statement over one relation may name
a column with or without the relation's alias. Bare, the column is
lowercased by itself; behind the alias and a point it is lowercased with
them, and then cut off at the point. The query is the same unless the
column has a lone sigma and the alias ends like a word, and in that case
it is never the same (`parse_qualified`): the sigma becomes a final one
behind the alias, and an ordinary one without it (`lone_sigma_parted`).
-/
import FlatQuery.Proofs.Statement.Place
import FlatQuery.Proofs.Text.Sigma

namespace FlatQuery.Statement

open Text Token Result

-- ========================================================= identifiers

/-- Identifiers are words without points. -/
theorem point_not_mem_of_isIdentifier {t : String} (h : isIdentifier t = true) :
    '.' ∉ t.toList := by
  unfold isIdentifier at h
  cases htext : t.toList with
  | nil => exact List.not_mem_nil
  | cons c cs =>
      have hpoint : (isAlphabetic '.' || '.' = '_') = false
          ∧ (isAlphanumeric '.' || '.' = '_') = false := by
        decide +kernel
      rw [htext] at h
      obtain ⟨hc, hcs⟩ := Bool.and_eq_true_iff.1 h
      intro hmem
      rcases List.mem_cons.1 hmem with rfl | hmem
      · rw [hpoint.1] at hc
        cases hc
      · have hall := List.all_eq_true.1 hcs '.' hmem
        rw [hpoint.2] at hall
        cases hall

/-- A column behind an alias is one word. -/
theorem isBare_qualified {a c : String} (ha : isIdentifier a = true) (hc : isIdentifier c = true) :
    IsBare (a ++ "." ++ c) := by
  obtain ⟨x, xs, hatext, hx, hxs⟩ := isBare_of_isIdentifier ha
  obtain ⟨y, ys, hctext, hy, hys⟩ := isBare_of_isIdentifier hc
  refine ⟨x, xs ++ '.' :: y :: ys, ?_, hx, ?_⟩
  · rw [String.toList_append, String.toList_append, hatext, hctext]
    simp
  · rw [List.forall_mem_append, List.forall_mem_cons, List.forall_mem_cons]
    exact ⟨hxs, by decide +kernel, hy.word, hys⟩

-- ============================================================ resolving

variable {q : Query} {a c : String}

/-- A bare column is one of the only relation. -/
theorem eq_of_resolve_bare (honly : q.aliases = [a]) (hc : isIdentifier c = true)
    {ref : ColumnRef} (h : resolve q c = .ok ref) : ref = ⟨a, lowercase c⟩ := by
  have hpoint : (lowercase c).toList.contains '.' = false := by
    rw [← Bool.not_eq_true, List.contains_iff_mem, lowercase, String.toList_ofList]
    exact mt point_mem_of_mem_lowerFrom (point_not_mem_of_isIdentifier hc)
  rw [resolve_eq, hpoint, honly, if_neg Bool.false_ne_true] at h
  split at h
  · cases h
  split at h
  · cases h
  · exact (Except.ok.inj h).symm

/-- Behind the alias the column is lowercased as if it went on with it. -/
theorem resolve_behind_alias (honly : q.aliases = [a]) (ha : isIdentifier a = true)
    (hsmall : ∀ x ∈ a.toList, IsSmall x) (hc : isIdentifier c = true) :
    resolve q (a ++ "." ++ c)
      = .ok ⟨a, String.ofList (lowerFrom a.toList.reverse c.toList)⟩ := by
  have htext := toList_lowercase_qualified hsmall c
  obtain ⟨hliteral, hnumber⟩ := isLiteral_of_isBare (isBare_qualified ha hc)
  have hdotted : (lowercase (a ++ "." ++ c)).toList.contains '.' = true := by
    rw [List.contains_iff_mem, htext]
    simp
  have hcolumn : lowerFrom a.toList.reverse c.toList ≠ [] := by
    obtain ⟨y, ys, hctext, -, -⟩ := isBare_of_isIdentifier hc
    rw [hctext]
    exact lowerFrom_cons_ne_nil _ y ys
  have hparse : ColumnRef.parse? (lowercase (a ++ "." ++ c))
      = some ⟨a, String.ofList (lowerFrom a.toList.reverse c.toList)⟩ := by
    refine ColumnRef.parse?_of_parts ?_ (isIdentifier_ne_empty ha) ?_
      (point_not_mem_of_isIdentifier ha) ?_
    · rw [htext, String.toList_ofList]
    · rw [Ne, ← String.toList_eq_nil_iff, String.toList_ofList]
      exact hcolumn
    · rw [String.toList_ofList]
      exact mt point_mem_of_mem_lowerFrom (point_not_mem_of_isIdentifier hc)
  rw [resolve_eq, hliteral, hnumber, hdotted, hparse, honly]
  exact if_pos (List.mem_singleton_self a)

/-- The two columns are the same unless a lone sigma is in the one and a
word in front of it. -/
theorem lowerFrom_behind_iff (before cs : List Char) :
    lowerFrom before cs = lowerFrom [] cs
      ↔ ¬ (isLoneSigma cs = true ∧ meetsCased before = true) := by
  by_cases hbefore : meetsCased before = true
  · rw [lowerFrom_eq_iff hbefore, and_iff_left hbefore, Bool.not_eq_true]
  · refine iff_of_true (lowerFrom_congr ?_ cs) fun h => hbefore h.2
    rw [Bool.not_eq_true] at hbefore
    rw [hbefore]
    rfl

-- =========================================================== statements

/-- The alias of a query over one relation is lowercase. -/
theorem isSmall_alias {text : String} {r : Relation} (hq : Query.parse text = .ok q)
    (hone : q.relations = [r]) : ∀ x ∈ r.aliasName.toList, IsSmall x := by
  have hmem : r.aliasName ∈ q.aliases := by
    rw [Query.aliases, hone]
    exact List.mem_singleton_self _
  exact ((accepted_of_parse hq).named _ hmem).small

/-- In a statement over one relation, whose alias is an identifier, a
bare column is replaced by the column behind the alias: the tokens around
it stay, and the query is the same unless the column has a lone sigma and
the alias ends in a cased character, or in case-ignorable ones behind
it. -/
theorem parse_qualified {text : String} {before after : List String} {r : Relation}
    (htokens : tokenize text = .ok (before ++ c :: after)) (hplace : ColumnPlace before c)
    (hc : isIdentifier c = true) (hq : Query.parse text = .ok q) (hone : q.relations = [r])
    (halias : isIdentifier r.aliasName = true) :
    (∀ text', tokenize text' = .ok (before ++ (r.aliasName ++ "." ++ c) :: after) →
      (Query.parse text' = .ok q
        ↔ ¬ (isLoneSigma c.toList = true ∧ meetsCased r.aliasName.toList.reverse = true)))
    ∧ ∀ front back, text = front ++ c ++ back → tokenize front = .ok before →
        tokenize (front ++ (r.aliasName ++ "." ++ c) ++ back)
          = .ok (before ++ (r.aliasName ++ "." ++ c) :: after) := by
  have honly : q.aliases = [r.aliasName] := by
    rw [Query.aliases, hone]
    rfl
  constructor
  · intro text' htokens'
    have hread := hq
    rw [parse_eq_ofTokens, htokens, ok_bind] at hread
    obtain ⟨ref, href, hsame⟩ := ofTokens_place hplace hc hread hone
    obtain rfl := eq_of_resolve_bare honly hc href
    have hfrom : sameFolded (r.aliasName ++ "." ++ c) "from" = false := by
      refine inert_of_mem (c := '.') ?_ (by decide +kernel) "from" (by decide)
      rw [String.toList_append, String.toList_append]
      simp
    have hresolve := resolve_behind_alias honly halias (isSmall_alias hq hone) hc
    rw [parse_eq_ofTokens, htokens', ok_bind, hsame _ _ hfrom hresolve,
      ← lowerFrom_behind_iff, ColumnRef.mk.injEq, and_iff_right rfl, lowercase, String.ofList_inj]
  · rintro front back rfl hfront
    exact tokenize_replaced (isBare_of_isIdentifier hc) (isBare_qualified halias hc) hfront htokens

/-- A sigma with a letter behind it is not final. -/
theorem parse_qualified_sigma :
    ∃ q, Query.parse "select k from t a where Σk = 'x'" = .ok q
      ∧ tokenize "select k from t a where a.Σk = 'x'"
          = .ok ["select", "k", "from", "t", "a", "where", "a.Σk", "=", "'x'"]
      ∧ Query.parse "select k from t a where a.Σk = 'x'" = .ok q := by
  have hq : Query.parse "select k from t a where Σk = 'x'" = .ok
      ⟨[⟨"a", "k", none, .text⟩], [.knowing .leading "t" "a" ["k", "σk"]],
        [⟨.and, ⟨"a", "σk"⟩, .equal, .text "x"⟩], false⟩ :=
    eq_ok_of_toOption (by decide +kernel)
  have htokens : tokenize "select k from t a where Σk = 'x'"
      = .ok (["select", "k", "from", "t", "a", "where"] ++ "Σk" :: ["=", "'x'"]) :=
    eq_ok_of_toOption (by decide +kernel)
  have hplace : ColumnPlace
      ("select" :: (["k"] ++ "from" :: (["t", "a"] ++ "where" :: []))) "Σk" :=
    .operand (by decide +kernel) (by decide +kernel) (by decide +kernel) (by decide +kernel) rfl
  obtain ⟨hsame, hreplaced⟩ :=
    parse_qualified htokens hplace (by decide +kernel) hq rfl (by decide +kernel)
  have hread := hreplaced "select k from t a where " " = 'x'" rfl
    (eq_ok_of_toOption (by decide +kernel))
  exact ⟨_, hq, hread, (hsame _ hread).2 (by decide +kernel)⟩

/-- A lone sigma is another column behind an alias than bare. -/
theorem lone_sigma_parted :
    Query.parse "select Σ from t a" = .ok
        ⟨[⟨"a", "σ", none, .text⟩], [.knowing .leading "t" "a" ["σ"]], [], false⟩
      ∧ Query.parse "select a.Σ from t a" = .ok
        ⟨[⟨"a", "ς", none, .text⟩], [.knowing .leading "t" "a" ["ς"]], [], false⟩ :=
  ⟨eq_ok_of_toOption (by decide +kernel), eq_ok_of_toOption (by decide +kernel)⟩

end FlatQuery.Statement
