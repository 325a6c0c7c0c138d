/-
The state machine of a reader over whole runs, whatever is asked of it
in whatever order, and whatever becomes of the files meanwhile.

Only a read and a close do anything. A read visits the entry at hand and
moves on, also when it fails on it; a close stops the scans for good.
`Turn` says what each operation makes of the reader, `Sound` what none of
them breaks, and from the two follows what a run looks like from outside
(`Orderly`): when a row is current, which entries were visited, and in
which phase the scans are.
-/
import Mathlib.Data.List.Induction
import FlatQuery.Proofs.Reader.Entry

namespace FlatQuery.Reader

open Result

-- ============================================================ histories

/-- What can be asked of a reader. -/
inductive Operation where
  | read
  | getValue (ordinal : Nat)
  | getName (ordinal : Nat)
  | getOrdinal (name : String)
  | getTypeName (ordinal : Nat)
  | currentRow
  | close
  deriving DecidableEq

/-- What an operation answers. -/
inductive Reply where
  | moved (answer : Result Bool)
  | text (answer : Result String)
  | ordinal (answer : Result Nat)
  | row (current : Option (List String))
  | closed

/-- The answer of an operation, and the reader after it. -/
def perform (disk : Disk) (r : Reader) : Operation → Reply × Reader
  | .read => (.moved (r.read disk).1, (r.read disk).2)
  | .getValue ordinal => (.text (r.getValue ordinal), r)
  | .getName ordinal => (.text (r.getName ordinal), r)
  | .getOrdinal name => (.ordinal (r.getOrdinal name), r)
  | .getTypeName ordinal => (.text (r.getTypeName ordinal), r)
  | .currentRow => (.row r.current, r)
  | .close => (.closed, r.close)

/-- The reader after a history. -/
def after (r : Reader) : List (Disk × Operation) → Reader
  | [] => r
  | (disk, operation) :: history => (r.perform disk operation).2.after history

/-- The entry that a read is about to visit. -/
def upcoming? (r : Reader) : Option (List Nat) :=
  if r.closed then none else r.index.rows[r.nextEntry]?

/-- The entries that were visited in a history, one after the other. -/
def visited (r : Reader) : List (Disk × Operation) → List (List Nat)
  | [] => []
  | (disk, operation) :: history =>
    (if operation = .read then r.upcoming?.toList else [])
      ++ (r.perform disk operation).2.visited history

/-- The last read answered yes, and no close came after it. -/
def Standing (r : Reader) (history : List (Disk × Operation)) : Prop :=
  ∃ before disk later, history = before ++ (disk, .read) :: later
    ∧ ((r.after before).read disk).1 = .ok true
    ∧ ∀ step ∈ later, step.2 ≠ .read ∧ step.2 ≠ .close

/-- Every scan is in this phase. -/
def AllIn (phase : Scan.Phase) (scans : List Scan) : Prop :=
  ∀ scan ∈ scans, scan.phase = phase

/-- A history in two parts is gone through part by part. -/
theorem after_append (r : Reader) (history later : List (Disk × Operation)) :
    r.after (history ++ later) = (r.after history).after later := by
  induction history generalizing r with
  | nil => rfl
  | cons step history ih => exact ih _

/-- So are the entries that it visits. -/
theorem visited_append (r : Reader) (history later : List (Disk × Operation)) :
    r.visited (history ++ later) = r.visited history ++ (r.after history).visited later := by
  induction history generalizing r with
  | nil => rfl
  | cons step history ih =>
      rw [List.cons_append, visited, ih, visited, List.append_assoc]
      rfl

/-- Whether a row stands is settled by the last operation, or by those
before it. -/
theorem standing_snoc {r : Reader} {history : List (Disk × Operation)} {disk : Disk}
    {operation : Operation} :
    r.Standing (history ++ [(disk, operation)])
      ↔ (operation = .read ∧ ((r.after history).read disk).1 = .ok true)
        ∨ (operation ≠ .read ∧ operation ≠ .close ∧ r.Standing history) := by
  constructor
  · rintro ⟨before, disk', later, hsplit, hread, hlater⟩
    rcases List.eq_nil_or_concat later with rfl | ⟨later, last, rfl⟩
    -- the read that stands is the last operation
    · obtain ⟨rfl, hlast⟩ := List.append_inj' hsplit rfl
      cases hlast
      exact .inl ⟨rfl, hread⟩
    -- or the last operation is one of those after it
    · rw [List.concat_eq_append, ← List.cons_append, ← List.append_assoc] at hsplit
      obtain ⟨rfl, hlast⟩ := List.append_inj' hsplit rfl
      cases hlast
      rw [List.concat_eq_append, List.forall_mem_append] at hlater
      obtain ⟨hlater, hlast⟩ := hlater
      obtain ⟨hne, hne'⟩ := List.forall_mem_singleton.1 hlast
      exact .inr ⟨hne, hne', before, disk', later, rfl, hread, hlater⟩
  · rintro (⟨rfl, hread⟩ | ⟨hne, hne', before, disk', later, rfl, hread, hlater⟩)
    · exact ⟨history, disk, [], rfl, hread, fun _ h => absurd h List.not_mem_nil⟩
    · refine ⟨before, disk', later ++ [(disk, operation)], by simp, hread, ?_⟩
      exact List.forall_mem_append.2 ⟨hlater, List.forall_mem_singleton.2 ⟨hne, hne'⟩⟩

/-- A phase is kept where the phases are. -/
theorem AllIn.of_phases {phase : Scan.Phase} {scans scans' : List Scan} (h : AllIn phase scans)
    (hphases : scans'.map Scan.phase = scans.map Scan.phase) : AllIn phase scans' := by
  intro scan hscan
  obtain ⟨scan', hscan', hphase⟩ :=
    List.mem_map.1 (hphases ▸ List.mem_map_of_mem (f := Scan.phase) hscan)
  exact hphase ▸ h scan' hscan'

-- ============================================================== turns

/-- What an operation answers, and the reader it leaves behind. -/
inductive Turn (disk : Disk) (r : Reader) : Operation → Reply × Reader → Prop where
  | looked (operation : Operation) (reply : Reply) (noRead : operation ≠ .read)
      (noClose : operation ≠ .close) : Turn disk r operation (reply, r)
  | missed (entry : r.upcoming? = none) :
      Turn disk r .read (.moved (.ok false), { r with current := none })
  | failed (rows : List Nat) (e : Error) (scans : List Scan) (entry : r.upcoming? = some rows)
      (collected : collect disk rows r.columns [] r.scans = (.error e, scans)) :
      Turn disk r .read (.moved (.error e),
        { r with scans := scans, nextEntry := r.nextEntry + 1, current := none })
  | took (rows : List Nat) (values : List String) (scans : List Scan)
      (entry : r.upcoming? = some rows)
      (collected : collect disk rows r.columns [] r.scans = (.ok values, scans)) :
      Turn disk r .read (.moved (.ok true),
        { r with scans := scans, nextEntry := r.nextEntry + 1, current := some values })
  | closed (isOpen : r.closed = false) :
      Turn disk r .close (.closed,
        { r with scans := r.scans.map Scan.stop, current := none, closed := true })
  | again (isClosed : r.closed = true) : Turn disk r .close (.closed, r)

/-- An entry is ahead of an open reader, and it is the one it has come to. -/
theorem upcoming?_eq_some {r : Reader} {rows : List Nat} :
    r.upcoming? = some rows ↔ r.closed = false ∧ r.index.rows[r.nextEntry]? = some rows := by
  unfold upcoming?
  cases r.closed <;> simp

/-- A read finds no entry, or visits one; if all its values can be had,
they are the current row. -/
theorem read_cases (disk : Disk) (r : Reader) :
    (r.upcoming? = none ∧ r.read disk = (.ok false, { r with current := none }))
      ∨ ∃ rows outcome scans, r.upcoming? = some rows
        ∧ collect disk rows r.columns [] r.scans = (outcome, scans)
        ∧ r.read disk = (outcome.map fun _ => true, { r with
            scans := scans
            nextEntry := r.nextEntry + 1
            current := outcome.toOption }) := by
  cases hentry : r.upcoming? with
  | none =>
      refine .inl ⟨rfl, ?_⟩
      unfold read
      dsimp only
      split
      · rfl
      · next hopen =>
        have hnone : r.index.rows[r.nextEntry]? = none := by
          rwa [upcoming?, if_neg hopen] at hentry
        rw [hnone]
  | some rows =>
      obtain ⟨hopen, hrows⟩ := upcoming?_eq_some.1 hentry
      rcases hcollect : collect disk rows r.columns [] r.scans with ⟨outcome, scans⟩
      refine .inr ⟨rows, outcome, scans, rfl, hcollect, ?_⟩
      unfold read
      simp only [hopen, hrows, hcollect]
      cases outcome with
      | error e => rfl
      | ok values => rfl

/-- So it misses an entry, fails in it, or takes it. -/
theorem turn_read (disk : Disk) (r : Reader) : Turn disk r .read (r.perform disk .read) := by
  rw [perform]
  rcases read_cases disk r with ⟨hentry, hread⟩ | ⟨rows, outcome, scans, hentry, hcollect, hread⟩
  · rw [hread]
    exact .missed hentry
  · rw [hread]
    cases outcome with
    | error e => exact .failed rows e scans hentry hcollect
    | ok values => exact .took rows values scans hentry hcollect

/-- Every operation takes one of these turns. -/
theorem turn_perform (disk : Disk) (r : Reader) (operation : Operation) :
    Turn disk r operation (r.perform disk operation) := by
  cases operation with
  | read => exact turn_read disk r
  | close =>
      cases hclosed : r.closed with
      | true =>
          have hclose : r.close = r := if_pos hclosed
          rw [perform, hclose]
          exact .again hclosed
      | false =>
          have hclose : r.close
              = { r with scans := r.scans.map Scan.stop, current := none, closed := true } :=
            if_neg (by rw [hclosed]; exact Bool.false_ne_true)
          rw [perform, hclose]
          exact .closed hclosed
  | getValue ordinal => exact .looked _ _ nofun nofun
  | getName ordinal => exact .looked _ _ nofun nofun
  | getOrdinal name => exact .looked _ _ nofun nofun
  | getTypeName ordinal => exact .looked _ _ nofun nofun
  | currentRow => exact .looked _ _ nofun nofun

-- ========================================================== invariants

/-- What holds of a reader whatever it was asked. -/
structure Sound (r : Reader) : Prop where
  /-- The current row has a value for each column. -/
  width : ∀ row, r.current = some row → row.length = r.fieldCount
  /-- A closed reader has no row. -/
  idle : r.closed = true → r.current = none
  /-- The scans are read until the reader is closed. -/
  phases : AllIn (if r.closed then .stopped else .reading) r.scans
  /-- The next entry is one of the index, or behind the last. -/
  bound : r.nextEntry ≤ r.index.rows.size

variable {disk : Disk} {r t : Reader} {operation : Operation} {reply : Reply}

/-- A reader goes on reading the result that it was made for. -/
theorem Turn.result (h : Turn disk r operation (reply, t)) :
    t.index = r.index ∧ t.columns = r.columns := by
  cases h <;> exact ⟨rfl, rfl⟩

/-- No turn takes this from a reader. -/
theorem Sound.turn (h : r.Sound) (hturn : Turn disk r operation (reply, t)) : t.Sound := by
  obtain ⟨hwidth, hidle, hphases, hbound⟩ := h
  cases hturn with
  | looked => exact ⟨hwidth, hidle, hphases, hbound⟩
  | missed => exact ⟨nofun, fun _ => rfl, hphases, hbound⟩
  | failed rows e scans hentry hcollect =>
      obtain ⟨hopen, hrows⟩ := upcoming?_eq_some.1 hentry
      obtain ⟨hlt, -⟩ := Array.getElem?_eq_some_iff.1 hrows
      have hscans : scans.map Scan.phase = r.scans.map Scan.phase :=
        map_of_collect (fun _ _ => rfl) hcollect
      exact ⟨nofun, fun _ => rfl, hphases.of_phases hscans, hlt⟩
  | took rows values scans hentry hcollect =>
      obtain ⟨hopen, hrows⟩ := upcoming?_eq_some.1 hentry
      obtain ⟨hlt, -⟩ := Array.getElem?_eq_some_iff.1 hrows
      have hscans : scans.map Scan.phase = r.scans.map Scan.phase :=
        map_of_collect (fun _ _ => rfl) hcollect
      refine ⟨fun row hrow => ?_, fun hclosed => ?_, hphases.of_phases hscans, hlt⟩
      · rw [← Option.some.inj hrow]
        exact length_of_collect hcollect
      · cases hopen.symm.trans hclosed
  | closed =>
      refine ⟨nofun, fun _ => rfl, List.forall_mem_map.2 fun scan _ => ?_, hbound⟩
      unfold Scan.stop
      split
      · next hstopped => exact hstopped
      · rfl
  | again => exact ⟨hwidth, hidle, hphases, hbound⟩

/-- A reader that nothing was asked of yet. -/
structure Unread (r : Reader) : Prop where
  isOpen : r.closed = false
  noRow : r.current = none
  atStart : r.nextEntry = 0
  reading : AllIn .reading r.scans

/-- It holds at the start. -/
theorem Unread.sound (h : r.Unread) : r.Sound where
  width := fun row hrow => by
    rw [h.noRow] at hrow
    cases hrow
  idle := fun _ => h.noRow
  phases := by
    rw [h.isOpen]
    exact h.reading
  bound := by
    rw [h.atStart]
    exact Nat.zero_le _

theorem layout_stop (s : Scan) : s.stop.layout = s.layout := by
  unfold Scan.stop
  split
  · rfl
  · rfl

/-- No operation changes the layouts of the scans. -/
theorem Placed.turn (h : r.Placed) (hturn : Turn disk r operation (reply, t)) : t.Placed := by
  obtain ⟨hindex, hcolumns⟩ := hturn.result
  refine h.of_layouts hindex hcolumns ?_
  cases hturn with
  | looked => rfl
  | missed => rfl
  | failed _ _ _ _ hcollect => exact map_of_collect (fun _ _ => rfl) hcollect
  | took _ _ _ _ hcollect => exact map_of_collect (fun _ _ => rfl) hcollect
  | closed => rw [List.map_map]; exact List.map_congr_left fun s _ => layout_stop s
  | again => rfl

-- ================================================================ runs

/-- After a history the reader is sound and reads the same result. -/
theorem Sound.after (h : r.Sound) (history : List (Disk × Operation)) :
    (r.after history).Sound ∧ (r.after history).index = r.index
      ∧ (r.after history).columns = r.columns := by
  induction history generalizing r with
  | nil => exact ⟨h, rfl, rfl⟩
  | cons step history ih =>
      have hturn := turn_perform step.1 r step.2
      obtain ⟨hindex, hcolumns⟩ := hturn.result
      obtain ⟨hsound, hindex', hcolumns'⟩ := ih (h.turn hturn)
      exact ⟨hsound, hindex'.trans hindex, hcolumns'.trans hcolumns⟩

/-- A reader in which all is in place stays so. -/
theorem Placed.after (h : r.Placed) (history : List (Disk × Operation)) :
    (r.after history).Placed := by
  induction history generalizing r with
  | nil => exact h
  | cons step history ih => exact ih (h.turn (turn_perform step.1 r step.2))

/-- One more operation visits the entry at hand, if it is a read, and
passes it. -/
theorem Turn.passed (h : Turn disk r operation (reply, t)) :
    r.index.rows.toList.take t.nextEntry = r.index.rows.toList.take r.nextEntry
      ++ (if operation = .read then r.upcoming?.toList else []) := by
  cases h with
  | looked _ _ hread => rw [if_neg hread, List.append_nil]
  | missed hentry => simp [hentry]
  | failed rows e scans hentry =>
      have hrows := (upcoming?_eq_some.1 hentry).2
      simp [hentry, List.take_add_one, hrows]
  | took rows values scans hentry =>
      have hrows := (upcoming?_eq_some.1 hentry).2
      simp [hentry, List.take_add_one, hrows]
  | closed => simp
  | again => simp

/-- The visited entries are those before the next one. -/
theorem Unread.visited_eq (h : r.Unread) (history : List (Disk × Operation)) :
    r.visited history = r.index.rows.toList.take (r.after history).nextEntry := by
  induction history using List.reverseRecOn with
  | nil =>
      rw [Reader.after, h.atStart]
      rfl
  | append_singleton history step ih =>
      have hpassed := (turn_perform step.1 (r.after history) step.2).passed
      obtain ⟨-, hindex, -⟩ := h.sound.after history
      rw [hindex] at hpassed
      -- one more operation: what it visits is what it passes
      rw [visited_append, after_append, ih]
      simp only [visited, Reader.after, List.append_nil]
      exact hpassed.symm

/-- A reader is closed by a close, and stays so. -/
theorem closed_after (r : Reader) (history : List (Disk × Operation)) :
    (r.after history).closed = true
      ↔ r.closed = true ∨ ∃ step ∈ history, step.2 = .close := by
  induction history generalizing r with
  | nil => simp [after]
  | cons step history ih =>
      have hstep : (r.perform step.1 step.2).2.closed = true
          ↔ r.closed = true ∨ step.2 = .close := by
        have hturn := turn_perform step.1 r step.2
        generalize r.perform step.1 step.2 = result at hturn ⊢
        generalize step.2 = operation at hturn ⊢
        cases hturn with
        | looked _ _ _ hclose => exact (or_iff_left hclose).symm
        | missed => exact (or_iff_left nofun).symm
        | failed => exact (or_iff_left nofun).symm
        | took => exact (or_iff_left nofun).symm
        | closed => exact iff_of_true rfl (.inr rfl)
        | again hclosed => exact iff_of_true hclosed (.inr rfl)
      rw [after, ih, hstep, List.exists_mem_cons_iff, or_assoc]

/-- A row is current as long as it stands. -/
theorem Unread.current_after (h : r.Unread) (history : List (Disk × Operation)) :
    (r.after history).current.isSome = true ↔ r.Standing history := by
  induction history using List.reverseRecOn with
  | nil =>
      rw [Reader.after, h.noRow]
      refine iff_of_false nofun ?_
      rintro ⟨before, disk, later, hsplit, -⟩
      simp at hsplit
  | append_singleton history step ih =>
      obtain ⟨disk, operation⟩ := step
      rw [after_append, standing_snoc, ← ih]
      obtain ⟨hsound, -, -⟩ := h.sound.after history
      have hreply : operation = .read →
          ((r.after history).perform disk operation).1
            = .moved ((r.after history).read disk).1 := by
        rintro rfl
        rfl
      have hturn := turn_perform disk (r.after history) operation
      simp only [Reader.after]
      generalize (r.after history).perform disk operation = result at hturn hreply ⊢
      cases hturn with
      | looked _ _ hread hclose => simp [hread, hclose]
      | missed => simp [← Reply.moved.inj (hreply rfl)]
      | failed => simp [← Reply.moved.inj (hreply rfl)]
      | took => simp [← Reply.moved.inj (hreply rfl)]
      | closed => simp
      | again hclosed => simp [hsound.idle hclosed]

-- ========================================================== the machine

/-- How a reader that was unread stands after a history. -/
structure Orderly (r : Reader) (history : List (Disk × Operation)) : Prop where
  /-- A row is current as long as the last read answered yes and no close
  came after it. -/
  current : (r.after history).current.isSome = true ↔ r.Standing history
  /-- It has a value for each field. -/
  width : ∀ row, (r.after history).current = some row → row.length = r.fieldCount
  /-- Values are those of the current row; without one there are none,
  whatever the ordinal. -/
  value : ∀ ordinal, (r.after history).getValue ordinal =
    match (r.after history).current with
    | none => .error .noCurrentRow
    | some row =>
      match row[ordinal]? with
      | some value => .ok value
      | none => .error (.columnOutOfRange ordinal r.fieldCount)
  /-- Entries are visited in the order of the index, none of them twice. -/
  visited : r.visited history <+: r.index.rows.toList
  /-- The next read visits the first entry that was not visited, unless
  the reader is closed. -/
  entry : (r.after history).upcoming? =
    if (r.after history).closed then none else r.index.rows[(r.visited history).length]?
  /-- A read answers whether there is an entry, or fails as reading that
  entry fails. -/
  answer : ∀ disk, ((r.after history).read disk).1 =
    match (r.after history).upcoming? with
    | none => .ok false
    | some rows =>
      (collect disk rows r.columns [] (r.after history).scans).1.map fun _ => true
  /-- The run stops in a read only where a scan has fetched a row for the
  entry that is too short for its relation. -/
  stops : ∀ disk index length,
    ((r.after history).read disk).1 = .error (.outOfBounds index length) →
      ∃ (rows : List Nat) (scan : Nat) (s : Scan) (row : Nat),
        (r.after history).upcoming? = some rows ∧ (r.after history).scans[scan]? = some s
          ∧ rows[scan]? = some row ∧ s.Lacks disk row index length
  /-- A read that fails leaves no current row, and the reader open. -/
  failure : ∀ disk e, ((r.after history).read disk).1 = .error e →
    ((r.after history).read disk).2.current = none
      ∧ ((r.after history).read disk).2.closed = false
  /-- The reader is closed from the first close on. -/
  closed : (r.after history).closed = true ↔ ∃ step ∈ history, step.2 = .close
  /-- Until then all scans are being read, and after it all are stopped. -/
  phases : AllIn (if (r.after history).closed then .stopped else .reading)
    (r.after history).scans
  /-- Reading and closing again change nothing after that, and there is no
  row. -/
  shut : (r.after history).closed = true → ∀ disk,
    (r.after history).perform disk .read = (.moved (.ok false), r.after history)
      ∧ (r.after history).perform disk .close = (.closed, r.after history)
  /-- To look changes nothing at any time. -/
  looked : ∀ disk operation, operation ≠ .read → operation ≠ .close →
    ((r.after history).perform disk operation).2 = r.after history

/-- A value is that of the current row, which is as wide as the columns. -/
theorem getValue_eq (hwidth : ∀ row, r.current = some row → row.length = r.fieldCount)
    (ordinal : Nat) :
    r.getValue ordinal = match r.current with
      | none => .error .noCurrentRow
      | some row =>
        match row[ordinal]? with
        | some value => .ok value
        | none => .error (.columnOutOfRange ordinal r.fieldCount) := by
  unfold getValue column
  cases hcurrent : r.current with
  | none => rfl
  | some row =>
      have hlength : row.length = r.columns.length := hwidth row hcurrent
      by_cases hlt : ordinal < row.length
      · have hcolumn := List.getElem?_eq_getElem (hlength ▸ hlt)
        have hvalue := List.getElem?_eq_getElem hlt
        simp only [hcolumn, hvalue, ok_bind, indexed]
      · have hcolumn : r.columns[ordinal]? = none := List.getElem?_eq_none (by omega)
        have hvalue : row[ordinal]? = none := List.getElem?_eq_none (by omega)
        simp only [hcolumn, hvalue]
        rfl

/-- A read answers whether there is an entry, or fails as reading it does. -/
theorem read_answer (disk : Disk) (r : Reader) :
    (r.read disk).1 = match r.upcoming? with
      | none => .ok false
      | some rows => (collect disk rows r.columns [] r.scans).1.map fun _ => true := by
  rcases read_cases disk r with ⟨hentry, hread⟩ | ⟨rows, outcome, scans, hentry, hcollect, hread⟩
  · rw [hread, hentry]
  · rw [hread, hentry]
    dsimp only
    rw [hcollect]

/-- A read that stops the run does so at the row of a scan. -/
theorem Placed.read_stops (h : r.Placed) {index length : Nat}
    (hstop : (r.read disk).1 = .error (.outOfBounds index length)) :
    ∃ (rows : List Nat) (scan : Nat) (s : Scan) (row : Nat), r.upcoming? = some rows
      ∧ r.scans[scan]? = some s ∧ rows[scan]? = some row ∧ s.Lacks disk row index length := by
  rw [read_answer] at hstop
  cases hentry : r.upcoming? with
  | none =>
      rw [hentry] at hstop
      cases hstop
  | some rows =>
      rw [hentry] at hstop
      dsimp only at hstop
      rcases hcollect : (collect disk rows r.columns [] r.scans).1 with e | values
      · rw [hcollect] at hstop
        cases hstop
        have hrows := Array.mem_toList_iff.2
          (Array.mem_of_getElem? (upcoming?_eq_some.1 hentry).2)
        obtain ⟨scan, s, row, hs, hrow, hlacks⟩ := h.exists_lacks hrows hcollect
        exact ⟨rows, scan, s, row, rfl, hs, hrow, hlacks⟩
      · rw [hcollect] at hstop
        cases hstop

/-- A read that fails leaves no row, and the reader open. -/
theorem read_failure {e : Error} (h : (r.read disk).1 = .error e) :
    (r.read disk).2.current = none ∧ (r.read disk).2.closed = false := by
  rcases read_cases disk r with ⟨-, hread⟩ | ⟨rows, outcome, scans, hentry, -, hread⟩
  · rw [hread] at h
    cases h
  · rw [hread] at h ⊢
    cases outcome with
    | error => exact ⟨rfl, (upcoming?_eq_some.1 hentry).1⟩
    | ok => cases h

/-- A closed reader has nothing to read, and nothing to close. -/
theorem Sound.shut (h : r.Sound) (hclosed : r.closed = true) (disk : Disk) :
    r.perform disk .read = (.moved (.ok false), r) ∧ r.perform disk .close = (.closed, r) := by
  have hidle : { r with current := none } = r := by rw [← h.idle hclosed]
  have hread : r.read disk = (.ok false, { r with current := none }) := if_pos hclosed
  have hclose : r.close = r := if_pos hclosed
  rw [perform, perform, hread, hclose, hidle]
  exact ⟨rfl, rfl⟩

/-- To look at a reader leaves it as it is. -/
theorem perform_looked (disk : Disk) (r : Reader) (hread : operation ≠ .read)
    (hclose : operation ≠ .close) : (r.perform disk operation).2 = r := by
  cases operation with
  | read => exact absurd rfl hread
  | close => exact absurd rfl hclose
  | getValue | getName | getOrdinal | getTypeName | currentRow => rfl

/-- Whatever is asked of a reader that was unread, it stands as `Orderly`
says. -/
theorem Unread.orderly (h : r.Unread) (hplaced : r.Placed)
    (history : List (Disk × Operation)) : r.Orderly history := by
  obtain ⟨hsound, hindex, hcolumns⟩ := h.sound.after history
  have hfields : (r.after history).fieldCount = r.fieldCount := congrArg List.length hcolumns
  have hvisited := h.visited_eq history
  have hlength : (r.visited history).length = (r.after history).nextEntry := by
    have hbound := hsound.bound
    rw [hindex] at hbound
    rw [hvisited, List.length_take, Array.length_toList, Nat.min_eq_left hbound]
  constructor
  case current => exact h.current_after history
  case width => exact fun row hrow => hfields ▸ hsound.width row hrow
  case value => exact fun ordinal => hfields ▸ getValue_eq hsound.width ordinal
  case visited => exact hvisited ▸ List.take_prefix _ _
  case entry => rw [upcoming?, hindex, hlength]
  case answer => exact fun disk => hcolumns ▸ read_answer disk (r.after history)
  case stops => exact fun disk index length => (hplaced.after history).read_stops
  case failure => exact fun disk e he => read_failure he
  case closed =>
    rw [closed_after, h.isOpen]
    exact or_iff_right Bool.false_ne_true
  case phases => exact hsound.phases
  case shut => exact hsound.shut
  case looked => exact fun disk operation => perform_looked disk (r.after history)

end FlatQuery.Reader
