/-
Cursors that fail on the way and are moved on all the same. A reader
moves before it fetches, so an entry that cannot be fetched when its
turn comes is passed, and no read goes back to it: what is given are the
rows of the other entries, in order, and every failure costs a row. A
scan that is read on by itself moves once it has fetched, so the next
call tries the same row again and failures cost nothing. Both are a
`Course` of tries; all that sets them apart is where a failure leaves
the cursor.

A scan gives of a row what its file has there at the time. That this is
the row that it holds, or else a failure, is assumed of the run
(`Truthful`); which of the two it is, and when, is left open.
-/
import FlatQuery.Proofs.Command.Stepped
import FlatQuery.Proofs.Reader.Partway

namespace FlatQuery

open Result

-- =============================================================== tries

namespace Tries

/-- What a try answers: a row, or none because there is no entry, or a
failure. -/
abbrev Try := Result (Option (List String))

/-- How tries of these entries come out, one after the other. Each is for
the first entry and gives its row, and the next one is for the entries
behind it; after a failure they are for what `lapse` leaves of them. -/
inductive Course {α : Type} (row : α → List String) (lapse : List α → List α) :
    List α → List Try → Prop where
  | untried (entries : List α) : Course row lapse entries []
  | gave {entry rest tries} (later : Course row lapse rest tries) :
      Course row lapse (entry :: rest) (.ok (some (row entry)) :: tries)
  | failed {entry rest tries} (e : Error) (later : Course row lapse (lapse (entry :: rest)) tries) :
      Course row lapse (entry :: rest) (.error e :: tries)
  | ended {tries} (later : Course row lapse [] tries) :
      Course row lapse [] (.ok none :: tries)

/-- The rows that tries have given. -/
def given (tries : List Try) : List (List String) :=
  tries.filterMap fun answer => answer.toOption.join

def fails (answer : Try) : Bool := !answer.isOk

@[simp] theorem given_nil : given [] = [] := rfl

@[simp] theorem given_some (row : List String) (tries : List Try) :
    given (.ok (some row) :: tries) = row :: given tries := rfl

@[simp] theorem given_none (tries : List Try) : given (.ok none :: tries) = given tries := rfl

@[simp] theorem given_error (e : Error) (tries : List Try) :
    given (.error e :: tries) = given tries := rfl

@[simp] theorem fails_ok (row : Option (List String)) : fails (.ok row) = false := rfl

@[simp] theorem fails_error (e : Error) : fails (.error e) = true := rfl

namespace Course

variable {α : Type} {row : α → List String} {entries : List α} {tries : List Try}

/-- If a failure passes its entry, the rows that are given are those of
the entries that were not failed on. -/
theorem given_eq (h : Course row List.tail entries tries) :
    given tries = ((entries.zip tries).filter (!fails ·.2)).map fun visit => row visit.1 := by
  induction h with
  | untried entries => simp
  | gave _ ih => simp [ih]
  | failed e _ ih => simpa using ih
  | ended _ ih => simpa using ih

/-- Then every failure costs a row. -/
theorem cost (h : Course row List.tail entries tries) :
    (given tries).length + tries.countP fails = min entries.length tries.length := by
  induction h with
  | untried entries => simp
  | gave _ ih => simp; omega
  | failed e _ ih =>
      rw [given_error, List.countP_cons_of_pos rfl, List.length_cons, List.length_cons]
      rw [List.tail_cons] at ih
      omega
  | ended _ ih => simpa using ih

/-- With enough tries, no row is lost just if none fails. -/
theorem lossless_iff (h : Course row List.tail entries tries)
    (hlong : entries.length ≤ tries.length) :
    given tries = entries.map row ↔ ∀ answer ∈ tries, fails answer = false := by
  have hcost := h.cost
  rw [Nat.min_eq_left hlong] at hcost
  constructor
  · intro hgiven
    have hlength := congrArg List.length hgiven
    rw [List.length_map] at hlength
    have hnone : tries.countP fails = 0 := by omega
    simpa using List.countP_eq_zero.1 hnone
  · intro hnone
    have hall : (entries.zip tries).filter (!fails ·.2) = entries.zip tries :=
      List.filter_eq_self.2 fun visit hvisit => by
        rw [hnone visit.2 (List.of_mem_zip hvisit).2]
        rfl
    have hentries := congrArg (List.map row) (List.map_fst_zip hlong)
    rw [List.map_map] at hentries
    rw [h.given_eq, hall]
    exact hentries

/-- If a failure leaves its entry to be tried again, the rows come in
order and each once, and all of them before there is none. -/
theorem given_inOrder (h : Course row id entries tries) :
    given tries <+: entries.map row ∧ (.ok none ∈ tries → given tries = entries.map row) := by
  induction h with
  | untried entries => exact ⟨List.nil_prefix, nofun⟩
  | @gave entry rest tries _ ih =>
      obtain ⟨hstart, hall⟩ := ih
      refine ⟨List.cons_prefix_cons.2 ⟨rfl, hstart⟩, fun hended => ?_⟩
      have hlater : .ok none ∈ tries := by simpa using hended
      rw [given_some, hall hlater, List.map_cons]
  | @failed entry rest tries e _ ih =>
      obtain ⟨hstart, hall⟩ := ih
      refine ⟨hstart, fun hended => hall ?_⟩
      simpa using hended
  | ended _ ih => exact ⟨ih.1, fun _ => List.prefix_nil.1 ih.1⟩

end Course

end Tries

open Tries

/-- These values were given, or none. -/
def Genuine (values : List String) : Result (List String) → Prop
  | .ok given => given = values
  | .error _ => True

instance (values : List String) : DecidablePred (Genuine values)
  | .ok given => inferInstanceAs (Decidable (given = values))
  | .error _ => inferInstanceAs (Decidable True)

namespace Scan

-- ===================================================== a scan by itself

/-- What reading on answers, once on each of these disks. -/
def nextEach (s : Scan) : List Disk → List Try
  | [] => []
  | disk :: disks => (s.next disk).1 :: (s.next disk).2.nextEach disks

/-- The matching rows that were not passed. -/
def ahead (s : Scan) : List Nat := s.matching.toList.drop s.cursor

/-- Whatever the scan gives on the way of the row at its cursor, it is
what it holds. -/
def Truthful (held : Nat → List String) (s : Scan) : List Disk → Prop
  | [] => True
  | disk :: disks =>
    (∀ row ∈ s.ahead.head?, Genuine (held row) (s.read disk row).1)
      ∧ (s.next disk).2.Truthful held disks

variable {held : Nat → List String} {disk : Disk} {s : Scan} {row : Nat}

theorem getElem?_cursor (s : Scan) : s.matching[s.cursor]? = s.ahead.head? := by
  rw [ahead, List.head?_drop, Array.getElem?_toList]

/-- Reading on passes the row that it gives, and stays at a row that it
fails on. -/
theorem next_cons (hphase : s.phase = .reading) {rest : List Nat}
    (hahead : s.ahead = row :: rest) (hgenuine : Genuine (held row) (s.read disk row).1) :
    ((s.next disk).1 = .ok (some (held row)) ∧ (s.next disk).2.ahead = rest
        ∨ ∃ e, (s.next disk).1 = .error e ∧ (s.next disk).2.ahead = s.ahead)
      ∧ (s.next disk).2.phase = .reading := by
  have hrow : s.matching[s.cursor]? = some row := by
    rw [getElem?_cursor, hahead, List.head?_cons]
  obtain ⟨outcome, backend, hread, -⟩ := read_cases disk row hphase
  rw [hread] at hgenuine
  rw [next_eq_read hphase hrow disk, hread]
  cases outcome with
  | error e => exact ⟨.inr ⟨e, rfl, rfl⟩, hphase⟩
  | ok values =>
      have hvalues : values = held row := hgenuine
      have hrest : s.matching.toList.drop (s.cursor + 1) = rest := by
        rw [← List.tail_drop, show s.matching.toList.drop s.cursor = row :: rest from hahead,
          List.tail_cons]
      exact ⟨.inl ⟨by rw [hvalues], hrest⟩, hphase⟩

/-- Reading on is a course in which failures stay. -/
theorem Truthful.course {disks : List Disk} (h : s.Truthful held disks)
    (hphase : s.phase = .reading) : Course held id s.ahead (s.nextEach disks) := by
  induction disks generalizing s with
  | nil => exact .untried _
  | cons disk disks ih =>
      obtain ⟨hgenuine, htruthful⟩ := h
      unfold nextEach
      -- behind the last row the scan answers that it is at the end; a row
      -- ahead is given, or the read fails and the row stays ahead
      cases hahead : s.ahead with
      | nil =>
          have hlater := ih htruthful
          have hrow : s.matching[s.cursor]? = none := by
            rw [getElem?_cursor, hahead, List.head?_nil]
          rw [next_eq_none hphase hrow disk] at hlater ⊢
          exact .ended (hahead ▸ hlater hphase)
      | cons row rest =>
          rw [hahead] at hgenuine
          obtain ⟨hanswer, hphase'⟩ := next_cons hphase hahead (hgenuine row rfl)
          have hlater := ih htruthful hphase'
          rcases hanswer with ⟨hanswer, hrest⟩ | ⟨e, hanswer, hstays⟩
          · rw [hrest] at hlater
            rw [hanswer]
            exact .gave hlater
          · rw [hstays, hahead] at hlater
            rw [hanswer]
            exact .failed e hlater

/-- Read on by itself, a scan loses no row to failures: the rows come in
order, each once, and all of them before there is none. -/
theorem Truthful.given_inOrder {disks : List Disk} (h : s.Truthful held disks)
    (hphase : s.phase = .reading) :
    given (s.nextEach disks) <+: s.ahead.map held
      ∧ (.ok none ∈ s.nextEach disks → given (s.nextEach disks) = s.ahead.map held) :=
  (h.course hphase).given_inOrder

end Scan

namespace Reader

-- ============================================================ a reader

/-- What was read: the row that is current after a read that finds one. -/
def taken : Result Bool × Option (List String) → Try
  | (.ok true, current) => .ok (some (current.getD []))
  | (.ok false, _) => .ok none
  | (.error e, _) => .error e

/-- What reads take, one on each of these disks. -/
def takeEach (r : Reader) (disks : List Disk) : List Try :=
  (r.readEach disks).1.map taken

/-- The entries that are still to be visited. -/
def ahead (r : Reader) : List (List Nat) :=
  if r.closed then [] else r.index.rows.toList.drop r.nextEntry

/-- What a scan holds for an entry, by the number of the row. -/
def heldFor (held : Nat → Nat → List String) (rows : List Nat) (scan : Nat) : List String :=
  rows[scan]?.elim [] (held scan)

/-- The row of an entry. -/
def rowOf (held : Nat → Nat → List String) (columns : List OutputColumn) (rows : List Nat) :
    List String :=
  columns.map fun column => (heldFor held rows column.scan).getD column.position ""

/-- Whatever a scan gives for the entry at hand, it is what it holds. -/
def Honest (held : Nat → Nat → List String) (disk : Disk) (r : Reader) : Prop :=
  ∀ rows ∈ r.upcoming?, ∀ column ∈ r.columns,
    Genuine (heldFor held rows column.scan) (gives disk r.scans rows column.scan)

/-- Whatever the scans give on the way, it is what they hold. -/
def Truthful (held : Nat → Nat → List String) (r : Reader) : List Disk → Prop
  | [] => True
  | disk :: disks => r.Honest held disk ∧ (r.read disk).2.Truthful held disks

instance (held : Nat → Nat → List String) (disk : Disk) (r : Reader) :
    Decidable (r.Honest held disk) :=
  inferInstanceAs (Decidable (∀ rows ∈ r.upcoming?, ∀ column ∈ r.columns,
    Genuine (heldFor held rows column.scan) (gives disk r.scans rows column.scan)))

instance decidableTruthful (held : Nat → Nat → List String) :
    (r : Reader) → (disks : List Disk) → Decidable (r.Truthful held disks)
  | _, [] => isTrue trivial
  | r, disk :: disks =>
    haveI := decidableTruthful held (r.read disk).2 disks
    inferInstanceAs (Decidable (r.Honest held disk ∧ (r.read disk).2.Truthful held disks))

variable {held : Nat → Nat → List String} {disk : Disk} {r : Reader} {rows : List Nat}

/-- An honest entry has the values that are held, if it has any. -/
theorem Honest.row (h : r.Honest held disk) (hentry : r.upcoming? = some rows)
    {values : List String} {scans : List Scan}
    (hcollect : Reader.collect disk rows r.columns [] r.scans = (.ok values, scans)) :
    values = rowOf held r.columns rows := by
  have hmap := (collect_fst disk rows r.columns r.scans).symm.trans (congrArg Prod.fst hcollect)
  have hvalues := map_of_mapM (g := id) (k := fun column =>
    (heldFor held rows column.scan).getD column.position "") ?_ hmap
  · rwa [List.map_id] at hvalues
  · intro column hcolumn value hvalue
    have hhonest := h rows hentry column hcolumn
    obtain ⟨given, hgives, hplace⟩ := bind_eq_ok.1 hvalue
    rw [hgives] at hhonest
    obtain rfl : given = heldFor held rows column.scan := hhonest
    rw [List.getD_eq_getElem?_getD, indexed_eq_ok.1 hplace]
    rfl

theorem head?_ahead (r : Reader) : r.ahead.head? = r.upcoming? := by
  unfold ahead upcoming?
  split
  · rfl
  · rw [List.head?_drop, Array.getElem?_toList]

/-- All entries are ahead of a reader that was not read. -/
theorem Unread.ahead_eq (h : r.Unread) : r.ahead = r.index.rows.toList := by
  rw [ahead, if_neg (by simp [h.isOpen]), h.atStart, List.drop_zero]

/-- A read that finds no entry leaves none to be found. -/
theorem read_none (h : r.ahead = []) (disk : Disk) :
    r.read disk = (.ok false, { r with current := none }) := by
  have hentry : r.upcoming? = none := by rw [← head?_ahead, h, List.head?_nil]
  have hturn := turn_read disk r
  rw [perform] at hturn
  generalize r.read disk = result at hturn ⊢
  obtain ⟨answer, t⟩ := result
  cases hturn with
  | looked _ _ hread => exact absurd rfl hread
  | missed => rfl
  | failed _ _ _ hsome => cases hentry.symm.trans hsome
  | took _ _ _ hsome => cases hentry.symm.trans hsome

/-- A read visits the first entry, and leaves the others also if it
fails. -/
theorem Honest.read {rest : List (List Nat)} (h : r.Honest held disk)
    (hahead : r.ahead = rows :: rest) :
    ((r.read disk).1 = .ok true ∧ (r.read disk).2.current = some (rowOf held r.columns rows)
        ∨ ∃ e, (r.read disk).1 = .error e ∧ (r.read disk).2.current = none)
      ∧ (r.read disk).2.ahead = rest ∧ (r.read disk).2.columns = r.columns := by
  have hentry : r.upcoming? = some rows := by rw [← head?_ahead, hahead, List.head?_cons]
  have hopen : ¬ r.closed = true := by simp [(upcoming?_eq_some.1 hentry).1]
  have hrest : r.index.rows.toList.drop (r.nextEntry + 1) = rest := by
    rw [ahead, if_neg hopen] at hahead
    rw [← List.tail_drop, hahead, List.tail_cons]
  have hturn := turn_read disk r
  rw [perform] at hturn
  generalize r.read disk = result at hturn ⊢
  obtain ⟨answer, t⟩ := result
  cases hturn with
  | looked _ _ hread => exact absurd rfl hread
  | missed hnone => cases hnone.symm.trans hentry
  | failed _ e => exact ⟨.inr ⟨e, rfl, rfl⟩, (if_neg hopen).trans hrest, rfl⟩
  | took _ values scans hsome hcollect =>
      obtain rfl := Option.some.inj (hentry.symm.trans hsome)
      exact ⟨.inl ⟨rfl, congrArg some (h.row hentry hcollect)⟩,
        (if_neg hopen).trans hrest, rfl⟩

/-- The reads of a reader are a course in which failures pass. -/
theorem Truthful.course {disks : List Disk} (h : r.Truthful held disks) :
    Course (rowOf held r.columns) List.tail r.ahead (r.takeEach disks) := by
  induction disks generalizing r with
  | nil => exact .untried _
  | cons disk disks ih =>
      obtain ⟨hhonest, htruthful⟩ := h
      have hlater := ih htruthful
      unfold takeEach readEach
      rw [List.map_cons]
      cases hahead : r.ahead with
      | nil =>
          rw [read_none hahead disk] at hlater ⊢
          rw [show ahead { r with current := none } = [] from hahead] at hlater
          exact .ended hlater
      | cons rows rest =>
          obtain ⟨hvisit, hrest, hcolumns⟩ := hhonest.read hahead
          rw [hrest, hcolumns] at hlater
          rcases hvisit with ⟨hanswer, hcurrent⟩ | ⟨e, hanswer, hcurrent⟩
          · rw [hanswer, hcurrent]
            exact .gave hlater
          · rw [hanswer, hcurrent]
            exact .failed e hlater

theorem length_takeEach (r : Reader) (disks : List Disk) :
    (r.takeEach disks).length = disks.length := by
  rw [takeEach, List.length_map]
  induction disks generalizing r with
  | nil => rfl
  | cons disk disks ih => exact congrArg (· + 1) (ih _)

/-- What reads make of the entries ahead of them, where some of them fail
and others after these do not. -/
structure Skips (held : Nat → Nat → List String) (r : Reader) (disks : List Disk) : Prop where
  /-- Each read visits the next entry, whatever became of those before. -/
  course : Course (rowOf held r.columns) List.tail r.ahead (r.takeEach disks)
  /-- The rows that are given are those of the entries whose read did not
  fail, in order, each once. -/
  rows : given (r.takeEach disks)
    = ((r.ahead.zip (r.takeEach disks)).filter (!fails ·.2)).map
        fun visit => rowOf held r.columns visit.1
  /-- Every failure costs a row. -/
  cost : (given (r.takeEach disks)).length + (r.takeEach disks).countP fails
    = min r.ahead.length disks.length
  /-- With enough reads, no row is lost just if no read fails. -/
  lossless : r.ahead.length ≤ disks.length →
    (given (r.takeEach disks) = r.ahead.map (rowOf held r.columns)
      ↔ ∀ answer ∈ r.takeEach disks, fails answer = false)

/-- A read that fails loses its row, and only that. -/
theorem skips_of_truthful {disks : List Disk} (h : r.Truthful held disks) :
    r.Skips held disks := by
  have hlength := length_takeEach r disks
  constructor
  case course => exact h.course
  case rows => exact h.course.given_eq
  case cost => exact hlength ▸ h.course.cost
  case lossless => exact fun hlong => h.course.lossless_iff (hlength ▸ hlong)

end Reader

namespace Command

/-- A file with three rows. -/
def numbersDisk : Disk := Scan.diskOf "a\n1\n2\n3\n"

/-- The file without them. -/
def blankDisk : Disk := Scan.diskOf "a\n\n"

/-- The values of its rows. -/
def numbersRow (row : Nat) : List String := [["1"], ["2"], ["3"]].getD row []

/-- The rows are gone the first time and back after that. -/
def lapsingDisks : List Disk :=
  [blankDisk, numbersDisk, numbersDisk, numbersDisk, numbersDisk]

/-- The first read fails, and the second gives the second row. -/
theorem skips_of_truthful_blank :
    ∃ reader, executeReader numbersDisk ⟨"select t.a from t", pairsCatalog⟩ = .ok reader
      ∧ reader.ahead = reader.index.rows.toList
      ∧ reader.Truthful (fun _ => numbersRow) lapsingDisks
      ∧ reader.takeEach lapsingDisks
        = [.error (.rowNotFound "t" 0), .ok (some ["2"]), .ok (some ["3"]), .ok none, .ok none]
      ∧ reader.Skips (fun _ => numbersRow) lapsingDisks := by
  have hrun : (executeReader numbersDisk ⟨"select t.a from t", pairsCatalog⟩).toOption.map
      (fun reader => (decide (reader.Truthful (fun _ => numbersRow) lapsingDisks),
        reader.takeEach lapsingDisks))
      = some (true, [.error (.rowNotFound "t" 0), .ok (some ["2"]), .ok (some ["3"]),
          .ok none, .ok none]) := by
    decide +kernel
  obtain ⟨reader, hreader, hfound⟩ := Option.map_eq_some_iff.1 hrun
  obtain ⟨htruthful, htaken⟩ := Prod.mk.inj hfound
  replace hreader := eq_ok_of_toOption hreader
  replace htruthful := of_decide_eq_true htruthful
  have hahead := (unread_of_executeReader hreader).ahead_eq
  exact ⟨reader, hreader, hahead, htruthful, htaken, Reader.skips_of_truthful htruthful⟩

/-- The reader has lost the first row for good, which the scan that it
reads would have given. -/
theorem row_lost_blank :
    ∃ reader, executeReader numbersDisk ⟨"select t.a from t", pairsCatalog⟩ = .ok reader
      ∧ reader.Truthful (fun _ => numbersRow) lapsingDisks
      ∧ reader.index.rows.toList.map (Reader.rowOf (fun _ => numbersRow) reader.columns)
        = [["1"], ["2"], ["3"]]
      ∧ given (reader.takeEach lapsingDisks) = [["2"], ["3"]]
      ∧ reader.scans.map (fun scan => given (scan.nextEach lapsingDisks))
        = [[["1"], ["2"], ["3"]]] := by
  have hrows : (executeReader numbersDisk ⟨"select t.a from t", pairsCatalog⟩).toOption.map
      (fun reader => (decide (reader.Truthful (fun _ => numbersRow) lapsingDisks),
        reader.index.rows.toList.map (Reader.rowOf (fun _ => numbersRow) reader.columns)))
      = some (true, [["1"], ["2"], ["3"]]) := by
    decide +kernel
  have hgiven : (executeReader numbersDisk ⟨"select t.a from t", pairsCatalog⟩).toOption.map
      (fun reader => (given (reader.takeEach lapsingDisks),
        reader.scans.map fun scan => given (scan.nextEach lapsingDisks)))
      = some ([["2"], ["3"]], [[["1"], ["2"], ["3"]]]) := by
    decide +kernel
  obtain ⟨reader, hreader, hfound⟩ := Option.map_eq_some_iff.1 hrows
  rw [hreader, Option.map_some, Option.some.injEq, Prod.mk.injEq] at hgiven
  simp only [Prod.mk.injEq, decide_eq_true_eq] at hfound
  obtain ⟨htruthful, hentries⟩ := hfound
  exact ⟨reader, eq_ok_of_toOption hreader, htruthful, hentries, hgiven⟩

end Command

end FlatQuery
