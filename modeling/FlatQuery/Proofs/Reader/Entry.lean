/-
One entry of a result. Its scans give their rows for it, each scan at
most once: what was given is remembered until the entry is done
(`Remembered`), and it is what would be given again. So the values of
the columns do not depend on each other (`collect_fst`), and of the
scans only the backends move, whatever comes of the entry
(`map_collect`).

Where every column is one that its scan reads and every entry has a row
for each scan (`Placed`), all indices that a read uses lie inside but
one kind: a row that was fetched may be too short for its relation
(`Placed.exists_lacks`).
-/
import FlatQuery.Proofs.Scan.Lifecycle
import FlatQuery.Reader

namespace FlatQuery.Reader

open Result

variable {disk : Disk} {rows : List Nat} {scans : List Scan}

-- ============================================================= one scan

/-- What the scan of this number gives for an entry, as it stands. -/
def gives (disk : Disk) (scans : List Scan) (rows : List Nat) (scan : Nat) :
    Result (List String) :=
  match visit rows scan scans with
  | .error e => .error e
  | .ok (s, row) => (s.read disk row).1

/-- A visit leads to a scan and to the row that the entry names of it. -/
theorem visit_eq_ok {scan row : Nat} {s : Scan} :
    visit rows scan scans = .ok (s, row) ↔ scans[scan]? = some s ∧ rows[scan]? = some row := by
  unfold visit
  rw [bind_eq_ok]
  constructor
  · rintro ⟨t, ht, h⟩
    obtain ⟨number, hnumber, heq⟩ := bind_eq_ok.1 h
    cases heq
    exact ⟨indexed_eq_ok.1 ht, indexed_eq_ok.1 hnumber⟩
  · rintro ⟨hs, hrow⟩
    exact ⟨s, indexed_eq_ok.2 hs, bind_eq_ok.2 ⟨row, indexed_eq_ok.2 hrow, rfl⟩⟩

/-- Where a visit leads depends on the scan and on how many there are. -/
theorem visit_congr {scans' : List Scan} {scan : Nat} (hlength : scans'.length = scans.length)
    (hscan : scans'[scan]? = scans[scan]?) :
    visit rows scan scans' = visit rows scan scans := by
  unfold visit indexed
  rw [hscan, hlength]

-- ============================================================ one entry

/-- To obtain the row of a scan leaves the scans as they are, or as
reading that one leaves it. -/
theorem obtain_snd (disk : Disk) (rows : List Nat) (scan : Nat) (fetched : Fetched)
    (scans : List Scan) :
    (obtain disk rows scan fetched scans).2 = scans
      ∨ ∃ s row, scans[scan]? = some s
        ∧ (obtain disk rows scan fetched scans).2 = scans.set scan (s.read disk row).2 := by
  unfold obtain
  split
  · exact .inl rfl
  · split
    · exact .inl rfl
    · next s row hvisit =>
      refine .inr ⟨s, row, (visit_eq_ok.1 hvisit).1, ?_⟩
      split
      · next heq => rw [heq]
      · next heq => rw [heq]

/-- What is true of the scans, and stays so when one of them is read, is
true once an entry was read, or could not be. -/
theorem collect_induction {P : List Scan → Prop}
    (hread : ∀ scans scan s row, P scans → scans[scan]? = some s →
      P (scans.set scan (s.read disk row).2))
    (rows : List Nat) (columns : List OutputColumn) (fetched : Fetched) {scans : List Scan}
    (h : P scans) : P (collect disk rows columns fetched scans).2 := by
  induction columns generalizing fetched scans with
  | nil => exact h
  | cons column columns ih =>
      have hfirst : P (obtain disk rows column.scan fetched scans).2 := by
        rcases obtain_snd disk rows column.scan fetched scans with hsame | ⟨s, row, hs, hset⟩
        · rwa [hsame]
        · rw [hset]
          exact hread scans column.scan s row h hs
      unfold collect
      split
      · next heq => rwa [heq] at hfirst
      · next values fetched' scans' heq =>
        rw [heq] at hfirst
        split
        · exact hfirst
        · exact ih fetched' hfirst

section
variable {β : Type} {part : Scan → β}

/-- A part of the scans that is not their backend is what it was, once an
entry was read, or could not be. -/
theorem map_collect (hpart : ∀ s backend, part { s with backend := backend } = part s)
    (disk : Disk) (rows : List Nat) (columns : List OutputColumn) (fetched : Fetched)
    (scans : List Scan) :
    (collect disk rows columns fetched scans).2.map part = scans.map part := by
  refine collect_induction (P := fun scans' => scans'.map part = scans.map part)
    ?_ rows columns fetched rfl
  intro scans' scan s row hsame hs
  obtain ⟨backend, hbackend⟩ := s.read_backend disk row
  obtain ⟨hlt, hget⟩ := List.getElem?_eq_some_iff.1 hs
  rw [List.map_set, hbackend, hpart, ← hget,
    ← List.getElem_map part (h := by simpa using hlt), List.set_getElem_self]
  exact hsame

/-- The same, read off an outcome. -/
theorem map_of_collect (hpart : ∀ s backend, part { s with backend := backend } = part s)
    {columns : List OutputColumn} {fetched : Fetched} {outcome : Result (List String)}
    {scans' : List Scan} (h : collect disk rows columns fetched scans = (outcome, scans')) :
    scans'.map part = scans.map part := by
  rw [← map_collect hpart disk rows columns fetched scans, h]

end

/-- What is remembered for an entry was given by its scan, and a scan that
gave nothing yet stands as it stood. -/
structure Remembered (disk : Disk) (rows : List Nat) (start : List Scan) (fetched : Fetched)
    (scans : List Scan) : Prop where
  length : scans.length = start.length
  given : ∀ scan values, fetched.lookup scan = some values →
    gives disk start rows scan = .ok values
  untouched : ∀ scan, fetched.lookup scan = none → scans[scan]? = start[scan]?

/-- At the start of an entry nothing is remembered. -/
theorem remembered_nil (disk : Disk) (rows : List Nat) (start : List Scan) :
    Remembered disk rows start [] start :=
  ⟨rfl, nofun, fun _ _ => rfl⟩

/-- A scan that is not remembered is read, and what it gives is
remembered. -/
theorem Remembered.record {start : List Scan} {fetched : Fetched}
    (h : Remembered disk rows start fetched scans) {scan : Nat} {values : List String}
    (hgives : gives disk start rows scan = .ok values) (t : Scan) :
    Remembered disk rows start ((scan, values) :: fetched) (scans.set scan t) := by
  refine ⟨(List.length_set ..).trans h.length, ?_, ?_⟩
  · -- what is remembered now is what was given, or was remembered before
    intro other found hfound
    rw [List.lookup_cons] at hfound
    split at hfound
    · next heq =>
      rw [eq_of_beq heq, hgives, Option.some.inj hfound]
    · exact h.given other found hfound
  · -- a scan that is still not remembered is not the one that was read
    intro other hother
    rw [List.lookup_cons] at hother
    split at hother
    · cases hother
    · next hne =>
      have hdifferent : other ≠ scan := by simpa using hne
      rw [List.getElem?_set_ne (Ne.symm hdifferent)]
      exact h.untouched other hother

/-- A scan gives what it would have given at the start of the entry. -/
theorem Remembered.obtain {start : List Scan} {fetched : Fetched}
    (h : Remembered disk rows start fetched scans) (scan : Nat) :
    match obtain disk rows scan fetched scans with
    | (.ok (values, fetched'), scans') =>
      gives disk start rows scan = .ok values ∧ Remembered disk rows start fetched' scans'
    | (.error e, _) => gives disk start rows scan = .error e := by
  unfold Reader.obtain
  cases hlookup : fetched.lookup scan with
  | some values => exact ⟨h.given scan values hlookup, h⟩
  | none =>
      -- not remembered, so not read for this entry yet
      have hvisit : visit rows scan scans = visit rows scan start :=
        visit_congr h.length (h.untouched scan hlookup)
      dsimp only
      rw [hvisit]
      rcases hcase : visit rows scan start with e | ⟨s, row⟩
      · simp only [gives, hcase]
      · dsimp only
        rcases hread : s.read disk row with ⟨e | values, t⟩
        · simp only [gives, hcase, hread]
        · have hgives : gives disk start rows scan = .ok values := by
            simp only [gives, hcase, hread]
          exact ⟨hgives, h.record hgives t⟩

/-- Column by column an entry takes what the scans would have given at its
start. -/
theorem Remembered.collect {start : List Scan} {fetched : Fetched}
    (h : Remembered disk rows start fetched scans) (columns : List OutputColumn) :
    (collect disk rows columns fetched scans).1
      = columns.mapM fun column =>
          gives disk start rows column.scan >>= (indexed · column.position) := by
  induction columns generalizing fetched scans with
  | nil => rfl
  | cons column columns ih =>
      have hobtain := h.obtain column.scan
      rw [Reader.collect, List.mapM_cons]
      rcases hcases : Reader.obtain disk rows column.scan fetched scans with
        ⟨e | ⟨values, fetched'⟩, scans'⟩
      · rw [hcases] at hobtain
        have hgives : gives disk start rows column.scan = .error e := hobtain
        rw [hgives]
        rfl
      · rw [hcases] at hobtain
        obtain ⟨hgives, hremembered⟩ := hobtain
        rw [hgives, ok_bind]
        dsimp only
        rcases indexed values column.position with e | value
        · rfl
        · dsimp only
          rw [ih hremembered, ok_bind]
          exact (bind_pure_comp (m := Result) _ _).symm

/-- An entry has the values that the scans give for its columns, or fails
as the first of them that fails. -/
theorem collect_fst (disk : Disk) (rows : List Nat) (columns : List OutputColumn)
    (scans : List Scan) :
    (collect disk rows columns [] scans).1
      = columns.mapM fun column =>
          gives disk scans rows column.scan >>= (indexed · column.position) :=
  (remembered_nil disk rows scans).collect columns

/-- An entry that is read has a value for each column. -/
theorem length_of_collect {columns : List OutputColumn} {values : List String}
    {scans' : List Scan} (h : collect disk rows columns [] scans = (.ok values, scans')) :
    values.length = columns.length := by
  have hvalues := (collect_fst disk rows columns scans).symm.trans (congrArg Prod.fst h)
  exact (mapM_eq_ok.1 hvalues).length_eq.symm

-- =============================================================== places

/-- A column that its scan reads. -/
def Fits (scans : List Scan) (column : OutputColumn) : Prop :=
  ∃ s, scans[column.scan]? = some s ∧ column.position < s.selectedIds.length

/-- What a scan gives reaches as far as its columns. -/
theorem Fits.lt_length {column : OutputColumn} (h : Fits scans column) {values : List String}
    (hgives : gives disk scans rows column.scan = .ok values) :
    column.position < values.length := by
  obtain ⟨s, hs, hposition⟩ := h
  unfold gives at hgives
  split at hgives
  · cases hgives
  · next t row hvisit =>
    obtain rfl := Option.some.inj (hs.symm.trans (visit_eq_ok.1 hvisit).1)
    obtain ⟨record, -, hproject⟩ := Scan.read_ok (Prod.ext hgives rfl)
    rw [Scan.length_of_project hproject]
    exact hposition

/-- The columns are ones that the scans read, and each entry names a row of
every scan. -/
structure Placed (r : Reader) : Prop where
  entries : ∀ rows ∈ r.index.rows.toList, rows.length = r.scans.length
  columns : ∀ column ∈ r.columns, Fits r.scans column
  selects : ∀ s ∈ r.scans, s.Selects

variable {r t : Reader}

/-- Places are kept as long as the layouts of the scans are. -/
theorem Placed.of_layouts (h : r.Placed) (hindex : t.index = r.index)
    (hcolumns : t.columns = r.columns)
    (hscans : t.scans.map Scan.layout = r.scans.map Scan.layout) : t.Placed := by
  constructor
  case entries =>
    intro rows hrows
    have hlength := congrArg List.length hscans
    rw [List.length_map, List.length_map] at hlength
    rw [hlength]
    exact h.entries rows (hindex ▸ hrows)
  case columns =>
    intro column hcolumn
    obtain ⟨s, hs, hposition⟩ := h.columns column (hcolumns ▸ hcolumn)
    have hlayout := congrArg (·[column.scan]?) hscans
    rw [List.getElem?_map, List.getElem?_map, hs, Option.map_some, Option.map_eq_some_iff]
      at hlayout
    obtain ⟨s', hs', hsame⟩ := hlayout
    have hids : s'.selectedIds = s.selectedIds := congrArg (·.2.2) hsame
    exact ⟨s', hs', hids ▸ hposition⟩
  case selects =>
    intro s' hs'
    obtain ⟨s, hs, hsame⟩ := List.mem_map.1 (hscans ▸ List.mem_map_of_mem (f := Scan.layout) hs')
    exact (h.selects s hs).of_layout hsame.symm

/-- If an entry stops the run, one of its scans has fetched a row that is
too short. -/
theorem Placed.exists_lacks (h : r.Placed) (hrows : rows ∈ r.index.rows.toList)
    {index length : Nat}
    (hstop : (collect disk rows r.columns [] r.scans).1 = .error (.outOfBounds index length)) :
    ∃ (scan : Nat) (s : Scan) (row : Nat), r.scans[scan]? = some s ∧ rows[scan]? = some row
      ∧ s.Lacks disk row index length := by
  -- one kind of error bounds those of all columns
  have hkind : FailsAs (fun e => ∀ index length, e = .outOfBounds index length →
      ∃ (scan : Nat) (s : Scan) (row : Nat), r.scans[scan]? = some s ∧ rows[scan]? = some row
        ∧ s.Lacks disk row index length) (r.columns.mapM fun column =>
          gives disk r.scans rows column.scan >>= (indexed · column.position)) := by
    refine failsAs_mapM fun column hcolumn => FailsAs.bind ?_ ?_
    · -- the scan and its row are there, so it is the read that stops
      rintro e hgives index length rfl
      obtain ⟨s, hs, -⟩ := h.columns column hcolumn
      obtain ⟨hlt, -⟩ := List.getElem?_eq_some_iff.1 hs
      have hrow := List.getElem?_eq_getElem (h.entries rows hrows ▸ hlt)
      have hvisit := visit_eq_ok.2 ⟨hs, hrow⟩
      simp only [gives, hvisit] at hgives
      exact ⟨column.scan, s, _, hs, hrow,
        (h.selects s (List.mem_of_getElem? hs)).lacks_of_read hgives⟩
    · intro values hgives e he
      have hlt := (h.columns column hcolumn).lt_length hgives
      have hle := (indexed_eq_error.1 he).1
      omega
  rw [collect_fst] at hstop
  exact hkind _ hstop index length rfl

end FlatQuery.Reader
