/-
Columns by name. Names that are distinct up to the case of ASCII letters
stand each at one place only, so to look a column up among selected ones
and read it there is to read it in the full row
(`exists_position?_selected`).
-/
import FlatQuery.Columns
import FlatQuery.Proofs.Result

namespace FlatQuery.Columns

open Text

-- ============================================================ distinct

/-- Names are the same if folding makes them equal. -/
theorem sameFolded_iff {s t : String} :
    sameFolded s t = true ↔ s.toList.map foldChar = t.toList.map foldChar := by
  unfold sameFolded
  exact beq_iff_eq

/-- Nothing is repeated if no name was seen before and no two are the same. -/
private theorem repeatedAfter?_eq_none_iff {seen names : List String} :
    repeatedAfter? seen names = none
      ↔ (∀ name ∈ names, ∀ earlier ∈ seen, sameFolded earlier name = false)
        ∧ names.Pairwise fun a b => sameFolded a b = false := by
  induction names generalizing seen with
  | nil => exact iff_of_true rfl ⟨fun _ hn => absurd hn List.not_mem_nil, .nil⟩
  | cons name names ih =>
      -- a name meets one seen before it, or joins those seen
      unfold repeatedAfter?
      split
      · next hseen =>
        obtain ⟨earlier, hearlier, hsame⟩ := List.any_eq_true.1 hseen
        refine iff_of_false nofun fun h => ?_
        cases hsame.symm.trans (h.1 name (List.mem_cons_self ..) earlier hearlier)
      · next hseen =>
        rw [Bool.not_eq_true, List.any_eq_false] at hseen
        rw [ih, List.forall_mem_cons, List.pairwise_cons]
        constructor
        · rintro ⟨hearlier, hpairwise⟩
          refine ⟨⟨?_, ?_⟩, ?_, hpairwise⟩
          · exact fun earlier he => Bool.eq_false_iff.2 (hseen earlier he)
          · exact fun n hn earlier he => hearlier n hn earlier (List.mem_cons_of_mem _ he)
          · exact fun n hn => hearlier n hn name (List.mem_cons_self ..)
        · rintro ⟨⟨-, hearlier⟩, hname, hpairwise⟩
          refine ⟨fun n hn => ?_, hpairwise⟩
          exact List.forall_mem_cons.2 ⟨hname n hn, hearlier n hn⟩

/-- No name is repeated where no two names equal each other. -/
theorem repeated?_eq_none_iff {names : List String} :
    repeated? names = none ↔ names.Pairwise fun a b => sameFolded a b = false := by
  refine repeatedAfter?_eq_none_iff.trans (and_iff_right ?_)
  exact fun _ _ earlier he => absurd he List.not_mem_nil

/-- Where no name is repeated, a column stands at one place only. -/
theorem getElem?_unique {names : List String} (h : repeated? names = none) {i j : Nat}
    {a b : String} (ha : names[i]? = some a) (hb : names[j]? = some b)
    (hab : sameFolded a b = true) : i = j := by
  have hpairwise := List.pairwise_iff_getElem.1 (repeated?_eq_none_iff.1 h)
  obtain ⟨hi, rfl⟩ := List.getElem?_eq_some_iff.1 ha
  obtain ⟨hj, rfl⟩ := List.getElem?_eq_some_iff.1 hb
  rcases Nat.lt_trichotomy i j with hlt | heq | hlt
  · rw [hpairwise i j hi hj hlt] at hab
    cases hab
  · exact heq
  · rw [sameFolded_comm, hpairwise j i hj hi hlt] at hab
    cases hab

-- =========================================================== positions

/-- Where a name was found there is a column of that name. -/
theorem exists_getElem?_of_position? {names : List String} {name : String} {i : Nat}
    (h : position? names name = some i) :
    ∃ column, names[i]? = some column ∧ sameFolded column name = true := by
  obtain ⟨hi, hsame, -⟩ := List.findIdx?_eq_some_iff_getElem.1 h
  exact ⟨names[i], List.getElem?_eq_getElem hi, hsame⟩

/-- A name is found if some column has it. -/
theorem isSome_position? {names : List String} {name : String} :
    (position? names name).isSome = true
      ↔ ∃ column ∈ names, sameFolded column name = true := by
  unfold position?
  rw [List.findIdx?_isSome, List.any_eq_true]

theorem lt_of_position? {names : List String} {name : String} {i : Nat}
    (h : position? names name = some i) : i < names.length := by
  obtain ⟨column, hcolumn, -⟩ := exists_getElem?_of_position? h
  exact (List.getElem?_eq_some_iff.1 hcolumn).1

/-- A column is found at its own place. -/
theorem position?_of_getElem? {names : List String} (h : repeated? names = none) {i : Nat}
    {name : String} (hi : names[i]? = some name) : position? names name = some i := by
  have hsome : (position? names name).isSome = true :=
    isSome_position?.2 ⟨name, List.mem_of_getElem? hi, sameFolded_self name⟩
  obtain ⟨j, hj⟩ := Option.isSome_iff_exists.1 hsome
  obtain ⟨column, hcolumn, hsame⟩ := exists_getElem?_of_position? hj
  rw [hj, getElem?_unique h hcolumn hi hsame]

/-- The places of requested columns, of every column if none is
requested. -/
def places (names requested : List String) : List Nat :=
  if requested.isEmpty then List.range names.length
  else requested.filterMap (position? names)

theorem lt_of_mem_places {names requested : List String} :
    ∀ i ∈ places names requested, i < names.length := by
  unfold places
  split
  · exact fun i hi => List.mem_range.1 hi
  · intro i hi
    obtain ⟨name, -, hname⟩ := List.mem_filterMap.1 hi
    exact lt_of_position? hname

/-- A request is resolved if every column of it exists. -/
theorem resolve_eq_ok (relation : String) {names requested : List String}
    (h : ∀ name ∈ requested, (position? names name).isSome = true) :
    resolve relation names requested = .ok (places names requested) := by
  unfold resolve places
  split
  · rfl
  · next hne =>
    clear hne
    induction requested with
    | nil => rfl
    | cons name requested ih =>
        obtain ⟨hname, hrequested⟩ := List.forall_mem_cons.1 h
        obtain ⟨i, hi⟩ := Option.isSome_iff_exists.1 hname
        rw [List.filterMap_cons_some hi]
        refine Result.mapM_cons_eq_ok.2 ⟨i, ?_, _, ih hrequested, rfl⟩
        rw [hi]

/-- A request that is resolved asks for columns that exist. -/
theorem isSome_of_resolve {relation : String} {names requested : List String}
    {ids : List Nat} (h : resolve relation names requested = .ok ids) :
    ∀ name ∈ requested, (position? names name).isSome = true := by
  unfold resolve at h
  split at h
  · next hempty =>
    rw [List.isEmpty_iff.1 hempty]
    exact fun name hname => absurd hname List.not_mem_nil
  · intro name hname
    obtain ⟨i, -, hi⟩ := Result.exists_result_of_mapM h name hname
    split at hi
    · next j hj => rw [hj, Option.isSome_some]
    · cases hi

/-- A request is resolved to places that there are. -/
theorem lt_of_mem_resolve {relation : String} {names requested : List String} {ids : List Nat}
    (h : resolve relation names requested = .ok ids) : ∀ i ∈ ids, i < names.length := by
  unfold resolve at h
  split at h
  · obtain rfl := Except.ok.inj h
    exact fun i hi => List.mem_range.1 hi
  · intro i hi
    obtain ⟨name, -, hname⟩ := Result.exists_of_mem_mapM h i hi
    split at hname
    · next j hj =>
      obtain rfl := Except.ok.inj hname
      exact lt_of_position? hj
    · cases hname

-- ============================================================ selection

/-- Places inside a list pick as many members. -/
theorem length_filterMap_getElem? {α : Type} {l : List α} {ids : List Nat}
    (h : ∀ i ∈ ids, i < l.length) : (ids.filterMap (l[·]?)).length = ids.length := by
  induction ids with
  | nil => rfl
  | cons i ids ih =>
      obtain ⟨hi, hids⟩ := List.forall_mem_cons.1 h
      rw [List.filterMap_cons_some (List.getElem?_eq_getElem hi), List.length_cons, ih hids,
        List.length_cons]

/-- What is found at places that there are, one by one. -/
theorem map_getElem?_eq {α : Type} {l : List α} {ids : List Nat}
    (h : ∀ i ∈ ids, i < l.length) :
    ids.map (l[·]?) = (ids.filterMap (l[·]?)).map some := by
  induction ids with
  | nil => rfl
  | cons i ids ih =>
      obtain ⟨hi, hids⟩ := List.forall_mem_cons.1 h
      rw [List.filterMap_cons_some (List.getElem?_eq_getElem hi), List.map_cons, List.map_cons,
        ih hids, List.getElem?_eq_getElem hi]

/-- The members of a list at places that it has. -/
theorem getElem?_filterMap_getElem? {α : Type} {l : List α} {ids : List Nat}
    (h : ∀ i ∈ ids, i < l.length) (p : Nat) :
    (ids.filterMap (l[·]?))[p]? = ids[p]?.bind (l[·]?) := by
  induction ids generalizing p with
  | nil => rfl
  | cons i ids ih =>
      obtain ⟨hi, hids⟩ := List.forall_mem_cons.1 h
      rw [List.filterMap_cons_some (List.getElem?_eq_getElem hi)]
      cases p with
      | zero => simp [hi]
      | succ p => simpa using ih hids p

theorem filterMap_range_getElem? {α : Type} (l : List α) :
    (List.range l.length).filterMap (l[·]?) = l := by
  refine List.ext_getElem? fun p => ?_
  rw [getElem?_filterMap_getElem? fun i hi => List.mem_range.1 hi]
  by_cases hp : p < l.length
  · simp [hp]
  · simp [hp]

/-- What is found under a name stands where the name does. -/
theorem find?_zip {α β : Type} {p : α → Bool} {as : List α} {bs : List β}
    {k : Nat} {a : α} {b : β} (h : as.findIdx? p = some k) (ha : as[k]? = some a)
    (hb : bs[k]? = some b) :
    (as.zip bs).find? (fun x => p x.1) = some (a, b) := by
  obtain ⟨hk, hp, hfirst⟩ := List.findIdx?_eq_some_iff_getElem.1 h
  obtain ⟨-, rfl⟩ := List.getElem?_eq_some_iff.1 ha
  obtain ⟨hk', rfl⟩ := List.getElem?_eq_some_iff.1 hb
  refine List.find?_eq_some_iff_getElem.2 ⟨hp, k, by simp; omega, by simp, fun j hj => ?_⟩
  simpa using hfirst j hj

/-- A column that is among the selected ones is found there, and its
place among them leads to its value in the row. -/
theorem exists_position?_selected {names : List String} (hnames : repeated? names = none)
    (row : List String) (hrow : row.length = names.length) {ids : List Nat}
    (hids : ∀ i ∈ ids, i < names.length)
    {name : String} {k : Nat} (hk : position? names name = some k) (hmem : k ∈ ids) :
    ∃ p, position? (ids.filterMap (names[·]?)) name = some p
      ∧ (ids.filterMap (row[·]?)).getD p "" = row.getD k "" := by
  obtain ⟨column, hcolumn, hsame⟩ := exists_getElem?_of_position? hk
  have hsome : (position? (ids.filterMap (names[·]?)) name).isSome = true :=
    isSome_position?.2 ⟨column, List.mem_filterMap.2 ⟨k, hmem, hcolumn⟩, hsame⟩
  obtain ⟨p, hp⟩ := Option.isSome_iff_exists.1 hsome
  obtain ⟨column', hcolumn', hsame'⟩ := exists_getElem?_of_position? hp
  rw [getElem?_filterMap_getElem? hids, Option.bind_eq_some_iff] at hcolumn'
  obtain ⟨k', hk', hcolumn'⟩ := hcolumn'
  have hboth : sameFolded column' column = true := by
    rw [sameFolded_iff] at hsame hsame' ⊢
    rw [hsame', hsame]
  obtain rfl := getElem?_unique hnames hcolumn' hcolumn hboth
  refine ⟨p, hp, ?_⟩
  rw [List.getD_eq_getElem?_getD, getElem?_filterMap_getElem? (by rwa [hrow]), hk',
    List.getD_eq_getElem?_getD]
  rfl

end FlatQuery.Columns
