/-
A column has two ways to be named: a request to read it, which folds
ASCII letters, and a reference in a predicate, which is looked up in
lowercase under the alias of the relation.

Whatever the names, a column that a request resolves to is also found by
the reference, because what folding identifies is bound under one key
(`key_of_sameFolded`). Where the only capitals are those of ASCII, no
two columns share a key (`nodup_keys`), and the two ways agree
(`resolved_iff_found`). A capital of another script breaks this: the
table keeps it apart from its small letter, and the key does not
(`capitals_share_key`).
-/
import FlatQuery.Condition
import FlatQuery.Proofs.Bindings.Rebinding
import FlatQuery.Proofs.Scan.Lifecycle
import FlatQuery.Proofs.Text.Folding

namespace FlatQuery

open Text Result

-- ============================================================= requests

/-- A request for one column is resolved to where it stands. -/
theorem Columns.resolve_singleton (relation : String) (names : List String) (name : String) :
    resolve relation names [name]
      = (position? names name).elim (.error (.unknownColumn name relation)) fun i => .ok [i] := by
  unfold resolve
  rw [List.isEmpty_cons, if_neg Bool.false_ne_true, List.mapM_cons, List.mapM_nil]
  cases position? names name <;> rfl

namespace Scan

/-- A request to read this column alone is granted, and it stands at this
place. -/
def Resolves (s : Scan) (name : String) (i : Nat) : Prop :=
  (s.startRead [name]).1 = .ok () ∧ (s.startRead [name]).2.selectedIds = [i]

variable {s : Scan}

/-- What a request for one column answers. -/
theorem startRead_singleton (hphase : s.phase = .selected ∨ s.phase = .reading) (name : String) :
    (s.startRead [name]).1 = (Columns.position? s.columns name).elim
        (.error (.unknownColumn name s.aliasName)) (fun _ => .ok ())
      ∧ ∀ i, s.Resolves name i ↔ Columns.position? s.columns name = some i := by
  have hexpect : s.expect .startRead [.selected, .reading] = .ok () := by
    rcases hphase with hp | hp <;> simp [expect, hp]
  unfold Resolves startRead
  rw [hexpect, ok_bind, Columns.resolve_singleton]
  cases Columns.position? s.columns name with
  | none =>
      refine ⟨rfl, fun i => ⟨fun h => ?_, fun h => ?_⟩⟩
      · cases h.1
      · cases h
  | some k =>
      refine ⟨rfl, fun i => ⟨fun h => ?_, fun h => ?_⟩⟩
      · exact congrArg some (List.singleton_inj.1 h.2)
      · exact ⟨rfl, congrArg (fun i => [i]) (Option.some.inj h)⟩

/-- No operation changes which relation a scan is of. -/
theorem Turn.relation {operation : Operation} {outcome : Result (Option (List String))}
    {t : Scan} (h : Turn s operation (outcome, t)) :
    t.columns = s.columns ∧ t.aliasName = s.aliasName := by
  cases h <;> exact ⟨rfl, rfl⟩

theorem relation_after (s : Scan) (history : List (Disk × Operation)) :
    (s.after history).columns = s.columns ∧ (s.after history).aliasName = s.aliasName := by
  induction history generalizing s with
  | nil => exact ⟨rfl, rfl⟩
  | cons step history ih =>
      obtain ⟨hcolumns, haliasName⟩ := (turn_perform step.1 s step.2).relation
      obtain ⟨hcolumns', haliasName'⟩ := ih (s.perform step.1 step.2).2
      exact ⟨hcolumns'.trans hcolumns, haliasName'.trans haliasName⟩

-- ================================================================= keys

/-- What folding identifies is bound under one key. -/
theorem key_of_sameFolded (aliasName : String) {name name' : String}
    (h : sameFolded name name' = true) : key aliasName name = key aliasName name' :=
  lowercase_of_sameFolded ((sameFolded_append _ _ _).trans h)

/-- Distinct columns have distinct keys, if their only capitals are those
of ASCII. -/
theorem nodup_keys {columns : List String} (hdistinct : Columns.repeated? columns = none)
    (hcased : ∀ c ∈ columns, AsciiCased c) (aliasName : String) :
    (columns.map (key aliasName)).Nodup := by
  rw [List.nodup_iff_pairwise_ne, List.pairwise_map, List.pairwise_iff_getElem]
  intro i j hi hj hlt hkey
  have hsame := sameFolded_of_lowercase_append (hcased _ (List.getElem_mem hi))
    (hcased _ (List.getElem_mem hj)) hkey
  have := Columns.getElem?_unique hdistinct (List.getElem?_eq_getElem hi)
    (List.getElem?_eq_getElem hj) hsame
  omega

-- =========================================================== references

/-- A reference to a column is looked up under the column's key. -/
theorem lookup_bind (s : Scan) (row : List String) (name : String) :
    (⟨s.aliasName, name⟩ : ColumnRef).lookup (s.bind row .empty)
      = (s.bind row .empty).get? (key s.aliasName name) := by
  have hkey : lowercase (⟨s.aliasName, name⟩ : ColumnRef).qualified = key s.aliasName name := rfl
  unfold ColumnRef.lookup
  rw [hkey]
  by_cases hmem : (⟨s.aliasName, name⟩ : ColumnRef).qualified ∈ s.keys
  · -- it stands as it is written, so it is in lowercase already
    rw [s.keys_eq] at hmem
    obtain ⟨column, -, hcolumn⟩ := List.mem_map.1 hmem
    have hsmall : key s.aliasName name = (⟨s.aliasName, name⟩ : ColumnRef).qualified := by
      rw [← hkey, ← hcolumn]
      exact lowercase_lowercase _
    rw [hsmall, Option.or_self]
  · have hnone : (s.bind row .empty).get? (⟨s.aliasName, name⟩ : ColumnRef).qualified = none :=
      Bindings.get?_bindAll_of_notMem .empty row hmem
    rw [hnone, Option.none_or]

/-- A reference is found if some column has its key. -/
theorem isSome_lookup_bind (s : Scan) {row : List String} (hrow : row.length = s.columns.length)
    (name : String) :
    ((⟨s.aliasName, name⟩ : ColumnRef).lookup (s.bind row .empty)).isSome = true
      ↔ ∃ column ∈ s.columns, key s.aliasName column = key s.aliasName name := by
  have hlength : row.length = s.keys.length := by rw [s.keys_eq, List.length_map, hrow]
  rw [lookup_bind, Bindings.isSome_get?, bind, Bindings.mem_names_bindAll hlength, s.keys_eq,
    List.mem_map]
  exact or_iff_left List.not_mem_nil

/-- A column that a request resolves to is bound under the key of the
name that was requested. -/
theorem key_of_position? {name : String} {i : Nat}
    (h : Columns.position? s.columns name = some i) :
    s.keys[i]? = some (key s.aliasName name) := by
  obtain ⟨column, hcolumn, hsame⟩ := Columns.exists_getElem?_of_position? h
  rw [s.keys_eq, List.getElem?_map, hcolumn, Option.map_some, key_of_sameFolded _ hsame]

/-- Where capitals are those of ASCII, a request finds what has its key. -/
theorem isSome_position?_of_key {name column : String} (hname : AsciiCased name)
    (hcolumn : column ∈ s.columns) (hcased : AsciiCased column)
    (hkey : key s.aliasName column = key s.aliasName name) :
    (Columns.position? s.columns name).isSome = true :=
  Columns.isSome_position?.2
    ⟨column, hcolumn, sameFolded_of_lowercase_append hcased hname hkey⟩

-- ========================================================== agreement

/-- What a request to read a column resolves, a predicate finds. For
every table that was accepted, every alias, whatever the scan was asked
before, every full row and every name: a column that the request
resolves to is not missing for the reference. And where neither the
columns nor the name have capitals beyond ASCII, the two ways agree: the
request resolves to a column exactly if the reference is found, it has
that column's value, the request reports an unknown column exactly if
the reference is missing, and no two columns are bound under one key. -/
theorem resolved_iff_found (relation aliasName : String) (table : Table)
    (history : List (Disk × Operation)) {s : Scan}
    (hs : s = (ofTable relation aliasName table).after history)
    (hphase : s.phase = .selected ∨ s.phase = .reading)
    {row : List String} (hrow : row.length = table.columns.length) (name : String) :
    (∀ i, s.Resolves name i →
        ((⟨aliasName, name⟩ : ColumnRef).lookup (s.bind row .empty)).isSome = true)
      ∧ ((∀ column ∈ table.columns, AsciiCased column) →
        s.keys.Nodup
          ∧ (AsciiCased name →
            ((∃ i, s.Resolves name i)
                ↔ ((⟨aliasName, name⟩ : ColumnRef).lookup (s.bind row .empty)).isSome = true)
              ∧ (∀ i, s.Resolves name i →
                (⟨aliasName, name⟩ : ColumnRef).lookup (s.bind row .empty) = row[i]?)
              ∧ ((s.startRead [name]).1 = .error (.unknownColumn name aliasName)
                ↔ (⟨aliasName, name⟩ : ColumnRef).lookup (s.bind row .empty) = none))) := by
  obtain ⟨hcolumns, haliasName⟩ := relation_after (ofTable relation aliasName table) history
  rw [← hs] at hcolumns haliasName
  obtain rfl : s.aliasName = aliasName := haliasName
  replace hcolumns : s.columns = table.columns := hcolumns
  rw [← hcolumns] at hrow
  obtain ⟨hanswer, hresolves⟩ := startRead_singleton hphase name
  have hfound : ∀ i, s.Resolves name i →
      ((⟨s.aliasName, name⟩ : ColumnRef).lookup (s.bind row .empty)).isSome = true := by
    intro i hi
    obtain ⟨column, hcolumn, hsame⟩ :=
      Columns.exists_getElem?_of_position? ((hresolves i).1 hi)
    exact (isSome_lookup_bind s hrow name).2
      ⟨column, List.mem_of_getElem? hcolumn, key_of_sameFolded _ hsame⟩
  refine ⟨hfound, fun hcased => ?_⟩
  rw [← hcolumns] at hcased
  have hdistinct : Columns.repeated? s.columns = none := hcolumns ▸ table.distinct
  have hnodup : s.keys.Nodup := s.keys_eq ▸ nodup_keys hdistinct hcased s.aliasName
  refine ⟨hnodup, fun hname => ?_⟩
  have hiff : (∃ i, s.Resolves name i)
      ↔ ((⟨s.aliasName, name⟩ : ColumnRef).lookup (s.bind row .empty)).isSome = true := by
    refine ⟨fun ⟨i, hi⟩ => hfound i hi, fun hsome => ?_⟩
    obtain ⟨column, hcolumn, hkey⟩ := (isSome_lookup_bind s hrow name).1 hsome
    obtain ⟨i, hi⟩ := Option.isSome_iff_exists.1
      (isSome_position?_of_key hname hcolumn (hcased column hcolumn) hkey)
    exact ⟨i, (hresolves i).2 hi⟩
  refine ⟨hiff, fun i hi => ?_, ?_⟩
  · have hlength : row.length = s.keys.length := by rw [s.keys_eq, List.length_map, hrow]
    rw [lookup_bind]
    exact Bindings.get?_bindAll_of_nodup .empty hnodup hlength
      (key_of_position? ((hresolves i).1 hi))
  · rw [← Option.not_isSome_iff_eq_none, ← hiff, hanswer]
    cases hposition : Columns.position? s.columns name with
    | none =>
        refine iff_of_true rfl ?_
        rintro ⟨i, hi⟩
        cases hposition.symm.trans ((hresolves i).1 hi)
    | some i => exact iff_of_false nofun (not_not.2 ⟨i, (hresolves i).2 hposition⟩)

/-- Two columns with capitals. -/
def streetsTable : Table where
  columns := ["ID", "Street"]
  rows := #[["1", "Σ 5"]]
  distinct := by decide
  rectangular := by decide

/-- Case is ignored both ways, under an alias that has a sigma. -/
theorem resolved_iff_found_streets :
    let s := (ofTable "streets" "ΑΣ" streetsTable).after [(Disk.empty, .select none)]
    s.Resolves "STREET" 1
      ∧ (⟨"ΑΣ", "STREET"⟩ : ColumnRef).lookup (s.bind ["1", "Σ 5"] .empty) = some "Σ 5"
      ∧ (⟨"ΑΣ", "town"⟩ : ColumnRef).lookup (s.bind ["1", "Σ 5"] .empty) = none := by
  intro s
  have hphase : s.phase = .selected := rfl
  have hcased : ∀ column ∈ streetsTable.columns, AsciiCased column := by
    have hascii : ∀ column ∈ streetsTable.columns,
        column.toList.all (·.toNat < 0x80) = true := by
      decide +kernel
    exact fun column hcolumn => asciiCased_of_ascii (hascii column hcolumn)
  have hrow : ["1", "Σ 5"].length = streetsTable.columns.length := rfl
  have hagree := resolved_iff_found "streets" "ΑΣ" streetsTable [(Disk.empty, .select none)] rfl
    (.inl hphase) hrow
  obtain ⟨-, hstreet⟩ := (hagree "STREET").2 hcased
  obtain ⟨-, htown⟩ := (hagree "town").2 hcased
  obtain ⟨-, hvalue, -⟩ := hstreet (asciiCased_of_ascii (by decide +kernel))
  obtain ⟨-, -, hmissing⟩ := htown (asciiCased_of_ascii (by decide +kernel))
  have hresolves : s.Resolves "STREET" 1 := ⟨by decide +kernel, by decide +kernel⟩
  exact ⟨hresolves, hvalue 1 hresolves, hmissing.1 (by decide +kernel)⟩

/-- Two columns that differ in the case of a letter beyond ASCII. -/
def accentsTable : Table where
  columns := ["É", "é"]
  rows := #[["1", "2"]]
  distinct := by decide
  rectangular := by decide

/-- The table keeps a capital beyond ASCII apart from its small letter,
and so does a request; but both columns are bound under one key, and the
reference to the first finds the value of the second. -/
theorem capitals_share_key :
    Table.ofRows ["É", "é"] [["1", "2"]] = .ok accentsTable
      ∧ let s := (ofTable "t" "t" accentsTable).after [(Disk.empty, .select none)]
        s.keys = ["t.é", "t.é"]
          ∧ s.Resolves "É" 0
          ∧ (⟨"t", "É"⟩ : ColumnRef).lookup (s.bind ["1", "2"] .empty) = some "2" := by
  refine ⟨rfl, by decide +kernel, ⟨?_, ?_⟩, ?_⟩ <;> decide +kernel

end Scan

end FlatQuery
