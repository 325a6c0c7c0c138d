/-
Clauses partition a statement. A clause is split off exactly where its
keywords stand first, and it and the rest are then the tokens, cut
before the first that ends the clause (`Clause.extract_eq_ok`). So every
round of carving takes the keywords at least, though keywords are what a
clause is looked for at its end, and the clauses put together are the
tokens up to where no clause begins (`Grammar.carve_spec`).

An accepted statement is a select list, FROM, its joins, and a filter
that is the last clause if there is one, for nothing ends a filter
(`exists_clauses`). Each of its relations, each column it puts out and
each of its lists of conditions is read from one of these clauses
(`parse_partition`).
-/
import FlatQuery.Proofs.Statement.Place
import FlatQuery.Proofs.Statement.Reordered
import FlatQuery.Proofs.Statement.WellFormed

namespace FlatQuery

open Text Token Result

-- ========================================================== one clause

namespace Clause

/-- The words are the clause's keywords, in whatever case. -/
def Starts (clause : Clause) (words : List String) : Prop :=
  List.Forall₂ (fun word keyword => sameFolded word keyword = true) words clause.start

variable {clause : Clause} {tokens part rest : List String}

theorem begins_iff :
    clause.begins tokens = true ↔ clause.Starts (tokens.take clause.start.length) := by
  unfold begins Starts
  rw [Bool.and_eq_true, decide_eq_true_eq, List.all_eq_true, List.forall₂_iff_zip]
  constructor
  · rintro ⟨hlength, hall⟩
    have htake : (tokens.take clause.start.length).length = clause.start.length := by
      rw [List.length_take, Nat.min_eq_left hlength]
    refine ⟨htake, fun {word keyword} hpair => hall (word, keyword) ?_⟩
    rw [List.zip_eq_zip_take_min, Nat.min_eq_right hlength, List.take_length]
    exact hpair
  · rintro ⟨hlength, hall⟩
    have hle : clause.start.length ≤ tokens.length := by
      rw [List.length_take] at hlength
      omega
    refine ⟨hle, fun pair hpair => ?_⟩
    rw [List.zip_eq_zip_take_min, Nat.min_eq_right hle, List.take_length] at hpair
    exact hall hpair

/-- A clause is split off where its keywords stand. -/
theorem extract_isOk :
    (∃ found, clause.extract tokens = .ok found)
      ↔ clause.Starts (tokens.take clause.start.length) := by
  rw [← begins_iff]
  unfold extract
  constructor
  · rintro ⟨found, h⟩
    split at h
    · assumption
    · cases h
  · intro hbegins
    exact ⟨_, if_pos hbegins⟩

/-- What is split off is the keywords and what does not end the clause,
up to the end or a token that does. -/
theorem extract_eq_ok :
    clause.extract tokens = .ok (part, rest)
      ↔ ∃ words body, part = words ++ body ∧ tokens = part ++ rest ∧ clause.Starts words
          ∧ (∀ t ∈ body, clause.isTerminator t = false)
          ∧ ∀ t, rest.head? = some t → clause.isTerminator t = true := by
  constructor
  · intro h
    have hstarts := extract_isOk.1 ⟨_, h⟩
    unfold extract at h
    rw [if_pos (begins_iff.2 hstarts)] at h
    obtain ⟨rfl, rfl⟩ := Prod.mk.inj (Except.ok.inj h)
    refine ⟨_, _, rfl, ?_, hstarts, fun t ht => ?_, fun t ht => ?_⟩
    · rw [List.append_assoc, List.takeWhile_append_dropWhile, List.take_append_drop]
    · simpa using List.all_eq_true.1 List.all_takeWhile t ht
    · have hhead := List.head?_dropWhile_not (!clause.isTerminator ·)
        (tokens.drop clause.start.length)
      rw [ht] at hhead
      simpa using hhead
  · rintro ⟨words, body, rfl, rfl, hstarts, hbody, hrest⟩
    have hlength : words.length = clause.start.length := hstarts.length_eq
    rw [List.append_assoc]
    refine extract_append (begins_iff.2 ?_) hlength hbody hrest
    rw [← hlength, List.take_length]
    exact hstarts

end Clause

-- ============================================================= carving

namespace Grammar

/-- A clause by the grammar: the keywords that its first one calls for,
and then nothing that ends it. -/
def Part.Regular (part : Part) : Prop :=
  ∃ clause words, clauseFor? part.keyword = some (part.kind, clause)
    ∧ part.tokens = words ++ part.body ∧ clause.Starts words
    ∧ words.head? = some part.keyword ∧ ∀ t ∈ part.body, clause.isTerminator t = false

/-- The lists of conditions in a clause: what is behind ON in a join, and
all that is behind WHERE. -/
def Part.groups (part : Part) : List (List String) :=
  match part.kind with
  | .join _ => (Statement.splitOn part.body).2.toList
  | .filter => [part.body]
  | _ => []

/-- The clause names this relation. -/
def Part.Names (part : Part) (s : Statement.Source) : Prop :=
  match part.kind with
  | .leading => Statement.source .leading part.tokens part.body = .ok s
  | .join role => Statement.source role part.tokens (Statement.splitOn part.body).1 = .ok s
  | _ => False

/-- How often a clause is looked for: once for every clause there is,
and once more where none begins. -/
def rounds (tokens : List String) : Nat :=
  (carve tokens).1.length + (carve tokens).2.toList.length

/-- The first clause is regular, and the others are carved from the rest,
which is shorter and is nothing behind a filter. -/
theorem carve_eq_cons {tokens : List String} {part : Part} {parts : List Part}
    {failure : Option Error} (h : carve tokens = (part :: parts, failure)) :
    part.Regular ∧ ∃ rest, tokens = part.tokens ++ rest ∧ carve rest = (parts, failure)
      ∧ rest.length < tokens.length ∧ (part.kind = .filter → rest = []) := by
  cases tokens with
  | nil =>
      rw [carve] at h
      cases h
  | cons first tail =>
      rw [carve_cons] at h
      split at h
      · cases h
      next kind clause hclause =>
      split at h
      · cases h
      next tokens rest hextract =>
      obtain ⟨hparts, hfailure⟩ := Prod.mk.inj h
      obtain ⟨rfl, rfl⟩ := List.cons.inj hparts
      have hshorter := length_lt_of_extract (start_ne_nil hclause) hextract
      obtain ⟨words, body, rfl, hwhole, hstarts, hbody, hrest⟩ :=
        Clause.extract_eq_ok.1 hextract
      have hlength : words.length = clause.start.length := hstarts.length_eq
      have hbody' : (words ++ body).drop clause.start.length = body := by
        rw [← hlength, List.drop_left]
      refine ⟨⟨clause, words, hclause, ?_, hstarts, ?_, ?_⟩, rest, hwhole,
        Prod.ext rfl hfailure, hshorter, ?_⟩
      · rw [hbody']
      · cases words with
        | nil => exact absurd (List.length_eq_zero_iff.1 hlength.symm) (start_ne_nil hclause)
        | cons word words =>
            rw [List.append_assoc, List.cons_append] at hwhole
            exact congrArg some (List.cons.inj hwhole).1.symm
      · rw [hbody']
        exact hbody
      · rintro hkind
        obtain rfl : kind = .filter := hkind
        obtain ⟨rfl, -⟩ := eq_of_soleClause? hclause rfl
        -- no token ends a filter
        cases rest with
        | nil => rfl
        | cons t rest => cases hrest t rfl

/-- The clauses are the tokens up to where none begins, each is regular,
and every round takes a token. -/
theorem carve_spec (tokens : List String) :
    (∃ rest, tokens = (carve tokens).1.flatMap Part.tokens ++ rest
        ∧ ((carve tokens).2 = none ↔ rest = []))
      ∧ (∀ part ∈ (carve tokens).1, part.Regular) ∧ rounds tokens ≤ tokens.length := by
  unfold rounds
  generalize hcarve : carve tokens = carved
  obtain ⟨parts, failure⟩ := carved
  dsimp only
  induction parts generalizing tokens with
  | nil =>
      refine ⟨⟨tokens, rfl, ?_⟩, nofun, ?_⟩
      · constructor
        · rintro rfl
          exact eq_nil_of_carve hcarve
        · rintro rfl
          rw [carve] at hcarve
          exact (Prod.mk.inj hcarve).2.symm
      · cases failure with
        | none => exact Nat.zero_le _
        | some e =>
            refine List.length_pos_iff.2 ?_
            rintro rfl
            rw [carve] at hcarve
            cases hcarve
  | cons part parts ih =>
      obtain ⟨hregular, rest, hwhole, hrest, hshorter, -⟩ := carve_eq_cons hcarve
      obtain ⟨⟨left, hleft, hend⟩, hall, hrounds⟩ := ih rest hrest
      refine ⟨⟨left, ?_, hend⟩, List.forall_mem_cons.2 ⟨hregular, hall⟩, ?_⟩
      · rw [List.flatMap_cons, List.append_assoc, ← hleft]
        exact hwhole
      · rw [List.length_cons]
        omega

end Grammar

namespace Statement

open Grammar

-- ============================================================= clauses

/-- The clauses of a statement. -/
structure Clauses where
  select : Part
  leading : Part
  joins : List Part
  filter : Option Part

/-- In the order they are written. -/
def Clauses.parts (s : Clauses) : List Part :=
  s.select :: s.leading :: (s.joins ++ s.filter.toList)

/-- Each of its kind. -/
structure Clauses.Sorted (s : Clauses) : Prop where
  select : s.select.kind = .projection
  leading : s.leading.kind = .leading
  joins : ∀ part ∈ s.joins, ∃ role, part.kind = .join role
  filter : ∀ part ∈ s.filter, part.kind = .filter

/-- Behind FROM there are joins, and then a filter or nothing. -/
theorem exists_joins {parts : List Part} {d d' : Draft}
    (h : parts.foldlM Draft.add d = .ok d') (hselect : d.projection ≠ none)
    (hsources : d.sources ≠ []) {tokens : List String} (hcarve : carve tokens = (parts, none)) :
    ∃ joins filter, parts = joins ++ Option.toList filter
      ∧ (∀ part ∈ joins, ∃ role, part.kind = .join role)
      ∧ (∀ part ∈ filter, part.kind = .filter)
      ∧ d'.projection = d.projection
      ∧ (∃ more, d'.sources = d.sources ++ more ∧ List.Forall₂ Part.Names joins more)
      ∧ d'.groups = d.groups ++ parts.flatMap Part.groups := by
  induction parts generalizing d tokens with
  | nil =>
      obtain rfl := Except.ok.inj h
      exact ⟨[], none, rfl, nofun, nofun, rfl, ⟨[], (List.append_nil _).symm, .nil⟩,
        (List.append_nil _).symm⟩
  | cons part parts ih =>
      obtain ⟨d₁, hd₁, hrun⟩ := foldlM_cons_eq_ok.1 h
      obtain ⟨-, rest, -, hrest, -, hfilter⟩ := carve_eq_cons hcarve
      cases add_eq_ok.1 hd₁ with
      | projection _ hfirst => exact absurd hfirst hselect
      | leading _ _ _ hfirst => exact absurd hfirst hsources
      | join role s hkind _ hs _ =>
          obtain ⟨joins, filter, rfl, hjoins, hfilter, hprojection, ⟨more, hmore, hnames⟩,
            hgroups⟩ := ih hrun hselect (by simp) hrest
          refine ⟨part :: joins, filter, rfl, List.forall_mem_cons.2 ⟨⟨role, hkind⟩, hjoins⟩,
            hfilter, hprojection, ⟨s :: more, ?_, .cons ?_ hnames⟩, ?_⟩
          · rw [hmore, List.append_assoc]
            rfl
          · unfold Part.Names
            rw [hkind]
            exact hs
          · rw [hgroups, List.flatMap_cons, Part.groups, hkind, List.append_assoc]
      | filter hkind _ _ =>
          -- a filter is the last clause
          obtain rfl := hfilter hkind
          rw [carve] at hrest
          obtain rfl := (Prod.mk.inj hrest).1
          obtain rfl := Except.ok.inj hrun
          refine ⟨[], some part, rfl, nofun, ?_, rfl, ⟨[], (List.append_nil _).symm, .nil⟩, ?_⟩
          · rintro part' ⟨⟩
            exact hkind
          · rw [List.flatMap_cons, Part.groups, hkind]
            rfl

/-- A statement with a relation is a select list, FROM, joins, and
perhaps a filter. -/
theorem exists_clauses {tokens : List String} {d : Draft} (h : draft tokens = .ok d)
    (hsources : d.sources ≠ []) :
    ∃ s : Clauses, carve tokens = (s.parts, none) ∧ s.Sorted
      ∧ d.projection = some s.select.body
      ∧ List.Forall₂ Part.Names (s.leading :: s.joins) d.sources
      ∧ d.groups = s.parts.flatMap Part.groups := by
  obtain ⟨parts, hcarve, hread⟩ := draft_eq_ok.1 h
  rcases parts with _ | ⟨select, parts⟩
  · obtain rfl := Except.ok.inj hread
    exact absurd rfl hsources
  obtain ⟨d₁, hd₁, hread⟩ := foldlM_cons_eq_ok.1 hread
  obtain ⟨hselect, rfl⟩ := add_empty_eq_ok hd₁
  obtain ⟨-, rest₁, -, hcarve₁, -⟩ := carve_eq_cons hcarve
  rcases parts with _ | ⟨leading, parts⟩
  · obtain rfl := Except.ok.inj hread
    exact absurd rfl hsources
  obtain ⟨d₂, hd₂, hread⟩ := foldlM_cons_eq_ok.1 hread
  obtain ⟨hleading, s, hs, rfl⟩ := add_projection_eq_ok hd₂
  obtain ⟨-, rest₂, -, hcarve₂, -⟩ := carve_eq_cons hcarve₁
  obtain ⟨joins, filter, rfl, hjoins, hfilter, hprojection, ⟨more, hmore, hnames⟩, hgroups⟩ :=
    exists_joins hread nofun (List.cons_ne_nil _ _) hcarve₂
  refine ⟨⟨select, leading, joins, filter⟩, hcarve, ⟨hselect, hleading, hjoins, hfilter⟩,
    hprojection, ?_, ?_⟩
  · rw [hmore]
    refine .cons ?_ hnames
    unfold Part.Names
    rw [hleading]
    exact hs
  · rw [hgroups, Clauses.parts, List.flatMap_cons, List.flatMap_cons, Part.groups, hselect,
      Part.groups, hleading]
    rfl

/-- The semicolons behind a statement are all that is dropped. -/
theorem exists_semicolons (tokens : List String) :
    (∃ count, tokens = dropSemicolons tokens ++ List.replicate count ";")
      ∧ (dropSemicolons tokens).getLast? ≠ some ";" := by
  unfold dropSemicolons
  refine ⟨⟨(tokens.reverse.takeWhile (· = ";")).length, ?_⟩, ?_⟩
  · have hsemicolons : tokens.reverse.takeWhile (· = ";")
        = List.replicate (tokens.reverse.takeWhile (· = ";")).length ";" :=
      List.eq_replicate_iff.2 ⟨rfl, fun t ht => by
        simpa using List.all_eq_true.1 List.all_takeWhile t ht⟩
    have hwhole := congrArg List.reverse
      (List.takeWhile_append_dropWhile (p := fun t => decide (t = ";")) (l := tokens.reverse))
    rw [List.reverse_append, List.reverse_reverse, hsemicolons, List.reverse_replicate] at hwhole
    exact hwhole.symm
  · rw [List.getLast?_reverse]
    intro hhead
    have hnot := List.head?_dropWhile_not (fun t => decide (t = ";")) tokens.reverse
    rw [hhead] at hnot
    cases hnot

-- ============================================================= queries

/-- The column that a piece of the select list puts out. -/
def Lists (q : Query) (piece : List String) (column : Column) : Prop :=
  ∃ i ref, item piece = .ok i ∧ resolve q i.column = .ok ref
    ∧ column = ⟨ref.relation, ref.column, i.aliasName, .text⟩

/-- What a query has is read from these clauses: its relations from FROM
and the joins, what it puts out from the select list, and its conditions
from the lists of conditions, in the order of the clauses. -/
structure ReadFrom (q : Query) (s : Clauses) : Prop where
  relations : List.Forall₂ (fun part r => part.Names r.source) (s.leading :: s.joins)
    q.relations
  output : q.wildcard = true ∧ q.projection = [] ∧ s.select.body = ["*"]
    ∨ q.wildcard = false ∧ List.Forall₂ (Lists q) (s.select.body.splitOn ",") q.projection
  conditions : ∃ chains,
    List.Forall₂ (fun group terms => Statement.conditions q .and group = .ok terms)
      (s.parts.flatMap Part.groups) chains
    ∧ q.conditions = chains.flatten

/-- The pieces of the select list put out a column each. -/
theorem lists_of_addItems {pieces : List (List String)} {list : List Item} {q q' : Query}
    (hlist : pieces.mapM item = .ok list) (h : list.foldlM addItem q = .ok q') :
    ∃ columns, q'.projection = q.projection ++ columns
      ∧ List.Forall₂ (Lists q) pieces columns := by
  induction pieces generalizing list q with
  | nil =>
      obtain rfl := Except.ok.inj hlist
      obtain rfl := Except.ok.inj h
      exact ⟨[], (List.append_nil _).symm, .nil⟩
  | cons piece pieces ih =>
      obtain ⟨i, hi, rest, hitems, rfl⟩ := mapM_cons_eq_ok.1 hlist
      obtain ⟨q₁, hadd, hrest⟩ := foldlM_cons_eq_ok.1 h
      obtain ⟨ref, href, hadd⟩ := addItem_eq_ok.1 hadd
      obtain ⟨columns, hcolumns, hall⟩ := ih hitems hrest
      have hsame : Lists q₁ = Lists q := by
        unfold Lists
        rw [funext (resolve_congr (.of_eq (Query.aliases_addProjection hadd)))]
      rw [hsame] at hall
      obtain ⟨-, rfl⟩ := Query.addProjection_eq_ok.1 hadd
      refine ⟨_ :: columns, ?_, .cons ⟨i, ref, hi, href, rfl⟩ hall⟩
      rw [hcolumns, List.append_assoc]
      rfl

/-- The query of an accepted draft is read from the draft's clauses. -/
theorem readFrom_of_outline {d : Draft} {q : Query} {chains : List (List Condition)}
    {s : Clauses} (houtline : d.outline = .ok q)
    (hchains : d.groups.mapM (Statement.conditions q .and) = .ok chains)
    (hselect : d.projection = some s.select.body)
    (hnames : List.Forall₂ Part.Names (s.leading :: s.joins) d.sources)
    (hgroups : d.groups = s.parts.flatMap Part.groups) :
    ReadFrom (chains.flatten.foldl Query.addCondition q) s := by
  have haliases : (chains.flatten.foldl Query.addCondition q).aliases.Perm q.aliases :=
    .of_eq (Query.aliases_foldl_addCondition chains.flatten q)
  refine ⟨?_, ?_, chains, ?_, ?_⟩
  · rw [← List.forall₂_map_right_iff (f := Relation.source)]
    show List.Forall₂ _ _ (Query.sources _)
    rw [Query.sources_foldl_addCondition, (outline_fields houtline).1]
    exact hnames
  · rw [Query.wildcard_foldl_addCondition, Query.projection_foldl_addCondition]
    obtain ⟨projection, q₁, hprojection, -, hsources, hitems⟩ := outline_eq_ok.1 houtline
    obtain rfl := Option.some.inj (hselect.symm.trans hprojection)
    obtain ⟨-, hnone, -, hwildcard⟩ := Query.foldlM_addSource_fields hsources
    rcases addItems_eq_ok.1 hitems with ⟨hstar, rfl⟩ | ⟨list, hlist, hadd⟩
    · exact .inl ⟨rfl, hnone, items_eq_none hstar⟩
    · obtain ⟨columns, hcolumns, hall⟩ := lists_of_addItems (mapM_item_of_items hlist) hadd
      have hsame : Lists (chains.flatten.foldl Query.addCondition q) = Lists q₁ := by
        unfold Lists
        rw [funext (resolve_congr haliases),
          funext (resolve_congr (.of_eq (aliases_foldlM_addItem hadd)))]
      rw [hnone] at hcolumns
      rw [hsame, hcolumns]
      exact .inr ⟨(foldlM_addItem_fields hadd).2.1.trans hwildcard, hall⟩
  · rw [← hgroups]
    have hsame : Statement.conditions (chains.flatten.foldl Query.addCondition q) .and
        = Statement.conditions q .and := funext (conditions_congr haliases .and)
    rw [hsame]
    exact mapM_eq_ok.1 hchains
  · rw [Query.conditions_foldl_addCondition, conditions_outline houtline, List.nil_append]

/-- Clauses partition a statement. Whatever the keywords and the tokens,
a clause is split off exactly if the tokens begin with the keywords it
starts with, in whatever case; it and the rest are then the tokens, only
its keywords may end it, and the rest begins with what does. Clauses are
looked for at most as often as there are tokens.

So if a text is accepted, its tokens are those of a select list, of FROM,
of any number of joins and of at most one filter, in this order, and then
semicolons; and each relation, each column and each list of conditions of
the query is read from one of these clauses. -/
theorem parse_partition :
    (∀ clause tokens, (∃ found, Clause.extract clause tokens = .ok found)
      ↔ clause.Starts (tokens.take clause.start.length))
    ∧ (∀ clause tokens part rest, Clause.extract clause tokens = .ok (part, rest) →
      part ++ rest = tokens
        ∧ (∀ t ∈ part.drop clause.start.length, clause.isTerminator t = false)
        ∧ (rest = [] ∨ ∃ t more, rest = t :: more ∧ clause.isTerminator t = true))
    ∧ (∀ tokens, rounds tokens ≤ tokens.length)
    ∧ ∀ text q, Query.parse text = .ok q → ∃ tokens count, ∃ s : Clauses,
      tokenize text = .ok tokens
        ∧ tokens = s.parts.flatMap Part.tokens ++ List.replicate count ";"
        ∧ (s.parts.flatMap Part.tokens).getLast? ≠ some ";"
        ∧ carve (s.parts.flatMap Part.tokens) = (s.parts, none)
        ∧ s.Sorted ∧ (∀ part ∈ s.parts, part.Regular) ∧ ReadFrom q s := by
  refine ⟨fun clause tokens => Clause.extract_isOk, fun clause tokens part rest h => ?_,
    fun tokens => (carve_spec tokens).2.2, fun text q h => ?_⟩
  · obtain ⟨words, body, rfl, rfl, hstarts, hbody, hrest⟩ := Clause.extract_eq_ok.1 h
    have hlength : words.length = clause.start.length := hstarts.length_eq
    refine ⟨rfl, ?_, ?_⟩
    · rw [← hlength, List.drop_left]
      exact hbody
    · cases rest with
      | nil => exact .inl rfl
      | cons t more => exact .inr ⟨t, more, rfl, hrest t rfl⟩
  · obtain ⟨tokens, d, q₀, chains, htokens, hdraft, houtline, hchains, rfl⟩ := parse_eq_ok.1 h
    obtain ⟨projection, q₁, -, hsources, -, -⟩ := outline_eq_ok.1 houtline
    obtain ⟨s, hcarve, hsorted, hselect, hnames, hgroups⟩ := exists_clauses hdraft hsources
    obtain ⟨⟨count, hcount⟩, hlast⟩ := exists_semicolons tokens
    obtain ⟨⟨rest, hwhole, hend⟩, hregular, -⟩ := carve_spec (dropSemicolons tokens)
    rw [hcarve] at hwhole hend hregular
    obtain rfl := hend.1 rfl
    rw [List.append_nil] at hwhole
    rw [hwhole] at hcount hlast hcarve
    exact ⟨tokens, count, s, htokens, hcount, hlast, hcarve, hsorted, hregular,
      readFrom_of_outline houtline hchains hselect hnames hgroups⟩

/-- A join and a filter: the statement is cut before each keyword. -/
theorem parse_partition_filtered :
    Query.parse "select a.x from a JOIN b on a.x = b.x where a.z = 'u'"
        = .ok ⟨[⟨"a", "x", none, .text⟩],
          [.knowing .leading "a" "a" ["x", "z"], .knowing .inner "b" "b" ["x"]],
          [⟨.and, ⟨"a", "x"⟩, .equal, .column ⟨"b", "x"⟩⟩,
            ⟨.and, ⟨"a", "z"⟩, .equal, .text "u"⟩], false⟩
      ∧ ∃ s : Clauses, s.Sorted
        ∧ s.parts.map Part.tokens = [["select", "a.x"], ["from", "a"],
          ["JOIN", "b", "on", "a.x", "=", "b.x"], ["where", "a.z", "=", "'u'"]] := by
  have hparse : Query.parse "select a.x from a JOIN b on a.x = b.x where a.z = 'u'" = .ok _ :=
    eq_ok_of_toOption (a := ⟨[⟨"a", "x", none, .text⟩],
      [.knowing .leading "a" "a" ["x", "z"], .knowing .inner "b" "b" ["x"]],
      [⟨.and, ⟨"a", "x"⟩, .equal, .column ⟨"b", "x"⟩⟩,
        ⟨.and, ⟨"a", "z"⟩, .equal, .text "u"⟩], false⟩) (by decide +kernel)
  obtain ⟨tokens, count, s, htokens, hcount, -, hcarve, hsorted, -, -⟩ :=
    parse_partition.2.2.2 _ _ hparse
  have hread : tokens = ["select", "a.x", "from", "a", "JOIN", "b", "on", "a.x", "=", "b.x",
      "where", "a.z", "=", "'u'"] :=
    Except.ok.inj (htokens.symm.trans (eq_ok_of_toOption (by decide +kernel)))
  -- no semicolon is left to drop
  obtain rfl : count = 0 := by
    refine Nat.eq_zero_of_not_pos fun hpos => ?_
    have hlast := congrArg List.getLast? hcount
    rw [hread, List.getLast?_append_of_ne_nil _ (by simp; omega), List.getLast?_replicate,
      if_neg (by omega)] at hlast
    exact absurd hlast (by decide)
  rw [List.replicate_zero, List.append_nil] at hcount
  rw [← hcount, hread] at hcarve
  have hparts := congrArg (List.map Part.tokens) (congrArg Prod.fst hcarve)
  refine ⟨hparse, s, hsorted, hparts.symm.trans ?_⟩
  decide +kernel

end Statement

end FlatQuery
