/-
The state machine of a scan over whole runs, with its rows in memory or
in a file, and whatever becomes of the file meanwhile.

An operation is refused by the phase, or it fails, or it answers, and
`Turn` says what each of these makes of the scan. A failure moves the
backend only. What an answer changes is an invariant's matter
(`Lawful`): the matching rows ascend, the columns to read are columns of
the relation, and the cursor has passed matching rows only. Once rows
are selected they stay, and so does the end (`after_stopped`,
`matching_after`).
-/
import FlatQuery.Proofs.Failure
import FlatQuery.Proofs.Scan.File

namespace FlatQuery.Scan

open Result

-- =========================================================== vocabulary

/-- The scans that were asked for nothing yet. -/
inductive Fresh : Scan → Prop where
  | ofTable (name aliasName : String) (table : Table) : Fresh (ofTable name aliasName table)
  | ofFile {disk : Disk} {name aliasName path : String} {o : Delimited.Options} {s : Scan}
      (opened : ofFile disk name aliasName path o = .ok s) : Fresh s

namespace Operation

/-- What an operation is called when a phase refuses it. To fetch by
itself and to stop are never refused. -/
def request : Operation → Option Request
  | .select _ => some .select
  | .startRead _ => some .startRead
  | .readRow _ => some .read
  | .read _ => some .read
  | .next => some .advance
  | .fetch _ => none
  | .stop => none

/-- The phases that allow an operation. -/
def phases : Operation → List Phase
  | .select _ => [.unselected]
  | .startRead _ => [.selected, .reading]
  | .readRow _ => [.selected, .reading]
  | .read _ => [.reading]
  | .next => [.reading]
  | .fetch _ => [.unselected, .selected, .reading, .stopped]
  | .stop => [.unselected, .selected, .reading, .stopped]

/-- The phase after an operation that has answered. -/
def leadsTo : Operation → Phase → Phase
  | .select _, _ => .selected
  | .startRead _, _ => .reading
  | .stop, _ => .stopped
  | _, phase => phase

end Operation

/-- What an operation answers, and the scan it leaves behind. -/
inductive Turn (s : Scan) (operation : Operation) :
    Result (Option (List String)) × Scan → Prop where
  | refused (request : Request) (called : operation.request = some request)
      (phase : s.phase ∉ operation.phases) :
      Turn s operation (.error (.invalidPhase s.aliasName request s.phase), s)
  | failed (e : Error) (backend : Backend) (phase : s.phase ∈ operation.phases)
      (fault : ReadFault e ∨ ∃ name, e = .unknownColumn name s.aliasName) :
      Turn s operation (.error e, { s with backend := backend })
  | gave (answer : Option (List String)) (backend : Backend)
      (phase : s.phase ∈ operation.phases) (keeps : operation.leadsTo s.phase = s.phase) :
      Turn s operation (.ok answer, { s with backend := backend })
  | passed (values : List String) (backend : Backend) (called : operation = .next)
      (phase : s.phase = .reading) (more : s.cursor < s.matching.size) :
      Turn s operation (.ok (some values), { s with backend := backend, cursor := s.cursor + 1 })
  | selected (filter : Option Predicate) (backend : Backend) (rows : Array Nat)
      (called : operation = .select filter) (phase : s.phase = .unselected)
      (ascending : rows.toList.Pairwise (· < ·)) :
      Turn s operation (.ok none,
        { s with backend := backend, matching := rows, phase := .selected })
  | started (columns : List String) (ids : List Nat) (called : operation = .startRead columns)
      (phase : s.phase ∈ operation.phases) (bounded : ∀ id ∈ ids, id < s.columns.length) :
      Turn s operation (.ok none, { s with
        selectedIds := ids
        selected := ids.filterMap (s.columns[·]?)
        cursor := 0
        phase := .reading })
  | stopped (backend : Backend) (called : operation = .stop) :
      Turn s operation (.ok none, { s with backend := backend, phase := .stopped })

variable {s : Scan}

-- =============================================================== rows

/-- A walk numbers the rows in order, so the matching ones ascend. -/
theorem walk_ascending {disk : Disk} {o : Delimited.Options} {width : Nat}
    {admits : List String → Bool} {stream : Delimited.Stream} {positions matching : Array Nat}
    {found : Delimited.Source.Selection}
    (h : Delimited.Source.walk disk o width admits stream positions matching = .ok found)
    (hascending : matching.toList.Pairwise (· < ·))
    (hbounded : ∀ row ∈ matching.toList, row < positions.size) :
    found.matching.toList.Pairwise (· < ·) := by
  fun_induction Delimited.Source.walk disk o width admits stream positions matching with
  | case1 stream positions matching after hread =>
      cases h
      exact hascending
  | case2 stream positions matching record after hread hwidth ih =>
      have hbounded' : ∀ row ∈ matching.toList, row < (positions.push stream.position).size := by
        intro row hrow
        have := hbounded row hrow
        rw [Array.size_push]
        omega
      refine ih h ?_ ?_
      · split
        · rw [Array.toList_push, List.pairwise_append]
          refine ⟨hascending, List.pairwise_singleton .., fun row hrow last hlast => ?_⟩
          rw [List.mem_singleton.1 hlast]
          exact hbounded row hrow
        · exact hascending
      · split
        · rw [Array.toList_push, List.forall_mem_append]
          refine ⟨hbounded', List.forall_mem_singleton.2 ?_⟩
          rw [Array.size_push]
          exact Nat.lt_succ_self _
        · exact hbounded'
  | case3 => cases h

/-- Rows of a file are found in ascending order. -/
theorem ascending_of_select {disk : Disk} {name : String} {width : Nat}
    {admits : List String → Bool} {source : Delimited.Source} {rows : Array Nat}
    (h : (source.select disk name width admits).1 = .ok rows) :
    rows.toList.Pairwise (· < ·) := by
  unfold Delimited.Source.select at h
  split at h
  · cases h
  · dsimp only at h
    split at h
    · cases h
    · next found hwalk =>
      rw [← Except.ok.inj h]
      exact walk_ascending hwalk .nil nofun

/-- Whatever the backend, the rows that are found ascend. -/
theorem ascending_of_selectRows {disk : Disk} {filter : Option Predicate} {rows : Array Nat}
    {backend : Backend} (h : s.selectRows disk filter = (.ok rows, backend)) :
    rows.toList.Pairwise (· < ·) := by
  have hrows := congrArg Prod.fst h
  unfold selectRows at hrows
  split at hrows
  · next table _ =>
    rw [← Except.ok.inj hrows]
    have hnumbers : (table.rows.toList.zipIdx.map Prod.snd).Pairwise (· < ·) := by
      rw [List.zipIdx_map_snd]
      exact List.pairwise_lt_range'
    exact hnumbers.sublist (List.filter_sublist.map Prod.snd)
  · exact ascending_of_select hrows

-- ============================================================== turns

/-- A request is granted or refused by the phase alone. -/
theorem expect_cases (s : Scan) (request : Request) (allowed : List Phase) :
    (s.phase ∈ allowed ∧ s.expect request allowed = .ok ())
      ∨ (s.phase ∉ allowed
        ∧ s.expect request allowed = .error (.invalidPhase s.aliasName request s.phase)) := by
  unfold expect
  by_cases h : s.phase ∈ allowed
  · exact .inl ⟨h, if_pos (by simpa using h)⟩
  · exact .inr ⟨h, if_neg (by simpa using h)⟩

/-- A selection is refused, fails, or takes over what it finds. -/
theorem turn_select (disk : Disk) (filter : Option Predicate) (s : Scan) :
    Turn s (.select filter) (s.perform disk (.select filter)) := by
  rcases expect_cases s .select [.unselected] with ⟨hphase, hexpect⟩ | ⟨hphase, hexpect⟩
  · have hfails := failsAs_selectRows disk filter s
    rcases hrows : s.selectRows disk filter with ⟨e | rows, backend⟩
    · have hselect : s.select disk filter = (.error e, { s with backend := backend }) := by
        rw [select, hexpect]
        simp only [hrows]
      rw [hrows] at hfails
      rw [perform, hselect]
      exact .failed e backend hphase (.inl (.inl (hfails e rfl)))
    · have hselect : s.select disk filter
          = (.ok (), { s with backend := backend, matching := rows, phase := .selected }) := by
        rw [select, hexpect]
        simp only [hrows]
      rw [perform, hselect]
      exact .selected filter backend rows rfl (List.mem_singleton.1 hphase)
        (ascending_of_selectRows hrows)
  · rw [perform, select, hexpect]
    exact .refused .select rfl hphase

/-- Reading starts where it may and the columns are there. -/
theorem turn_startRead (disk : Disk) (columns : List String) (s : Scan) :
    Turn s (.startRead columns) (s.perform disk (.startRead columns)) := by
  unfold perform startRead
  dsimp only
  rcases expect_cases s .startRead [.selected, .reading] with ⟨hphase, hexpect⟩ | ⟨hphase, hexpect⟩
  · rw [hexpect, ok_bind]
    have hfails := Columns.failsAs_resolve s.aliasName s.columns columns
    rcases hids : Columns.resolve s.aliasName s.columns columns with e | ids
    · obtain ⟨name, -, he⟩ := hfails e hids
      exact .failed e s.backend hphase (.inr ⟨name, he⟩)
    · exact .started columns ids rfl hphase (Columns.lt_of_mem_resolve hids)
  · rw [hexpect]
    exact .refused .startRead rfl hphase

/-- To fetch moves the backend, whatever comes of it. -/
theorem fetch_cases (disk : Disk) (row : Nat) (s : Scan) :
    ∃ outcome backend, s.fetch disk row = (outcome, { s with backend := backend })
      ∧ FailsAs RowFault outcome := by
  obtain ⟨backend, hbackend⟩ := fetch_snd disk row s
  exact ⟨(s.fetch disk row).1, backend, Prod.ext rfl hbackend, failsAs_fetch disk row s⟩

/-- A row that may be read is fetched, or is missing. -/
theorem readRow_cases (disk : Disk) (row : Nat)
    (h : s.expect .read [.selected, .reading] = .ok ()) :
    ∃ outcome backend, s.readRow disk row = (outcome, { s with backend := backend })
      ∧ FailsAs RowFault outcome := by
  unfold readRow
  rw [h]
  dsimp only
  split
  · exact fetch_cases disk row s
  · exact ⟨_, s.backend, rfl, failsAs_error (.missing ..)⟩

/-- A scan that is read moves its backend, whatever comes of it. -/
theorem read_cases (disk : Disk) (row : Nat) (h : s.phase = .reading) :
    ∃ outcome backend, s.read disk row = (outcome, { s with backend := backend })
      ∧ FailsAs ReadFault outcome := by
  have hread : s.expect .read [.reading] = .ok () := by simp [expect, h]
  have hrow : s.expect .read [.selected, .reading] = .ok () := by simp [expect, h]
  obtain ⟨outcome, backend, heq, hfails⟩ := readRow_cases disk row hrow
  unfold read
  rw [hread, heq]
  cases outcome with
  | error e => exact ⟨_, backend, rfl, hfails.mono fun _ => .inl⟩
  | ok values =>
      -- the row was fetched, so what is left to fail is its projection
      refine ⟨_, backend, rfl, (failsAs_project _ values).mono ?_⟩
      rintro e ⟨id, -, -, rfl⟩
      exact .inr ⟨id, values.length, rfl⟩

/-- What is read leaves the phase as it is. -/
theorem turn_of_read {operation : Operation} {outcome : Result (List String)}
    {backend : Backend} (hphase : s.phase ∈ operation.phases)
    (hkeeps : operation.leadsTo s.phase = s.phase) (hfails : FailsAs ReadFault outcome) :
    Turn s operation (outcome.map some, { s with backend := backend }) := by
  cases outcome with
  | error e => exact .failed e backend hphase (.inl (hfails e rfl))
  | ok values => exact .gave (some values) backend hphase hkeeps

/-- Reading on ends, fails, or passes a row. -/
theorem turn_next (disk : Disk) (s : Scan) : Turn s .next (s.perform disk .next) := by
  unfold perform next
  rcases expect_cases s .advance [.reading] with ⟨hphase, hexpect⟩ | ⟨hphase, hexpect⟩
  · rw [hexpect]
    dsimp only
    cases hrow : s.matching[s.cursor]? with
    | none => exact .gave none s.backend hphase rfl
    | some row =>
        obtain ⟨hmore, -⟩ := Array.getElem?_eq_some_iff.1 hrow
        obtain ⟨outcome, backend, heq, hfails⟩ :=
          read_cases disk row (List.mem_singleton.1 hphase)
        dsimp only
        rw [heq]
        cases outcome with
        | error e => exact .failed e backend hphase (.inl (hfails e rfl))
        | ok values => exact .passed values backend rfl (List.mem_singleton.1 hphase) hmore
  · rw [hexpect]
    exact .refused .advance rfl hphase

/-- Every operation takes one of these turns. -/
theorem turn_perform (disk : Disk) (s : Scan) (operation : Operation) :
    Turn s operation (s.perform disk operation) := by
  have hany : s.phase ∈ [Phase.unselected, .selected, .reading, .stopped] := by
    cases s.phase <;> simp
  cases operation with
  | select filter => exact turn_select disk filter s
  | startRead columns => exact turn_startRead disk columns s
  | fetch row =>
      obtain ⟨outcome, backend, heq, hfails⟩ := fetch_cases disk row s
      rw [perform, heq]
      exact turn_of_read hany rfl (hfails.mono fun _ => .inl)
  | readRow row =>
      rcases expect_cases s .read [.selected, .reading] with ⟨hphase, hexpect⟩ | ⟨hphase, hexpect⟩
      · obtain ⟨outcome, backend, heq, hfails⟩ := readRow_cases disk row hexpect
        rw [perform, heq]
        exact turn_of_read hphase rfl (hfails.mono fun _ => .inl)
      · rw [perform, readRow, hexpect]
        exact .refused .read rfl hphase
  | read row =>
      rcases expect_cases s .read [.reading] with ⟨hphase, hexpect⟩ | ⟨hphase, hexpect⟩
      · obtain ⟨outcome, backend, heq, hfails⟩ :=
          read_cases disk row (List.mem_singleton.1 hphase)
        rw [perform, heq]
        exact turn_of_read hphase rfl hfails
      · rw [perform, read, hexpect]
        exact .refused .read rfl hphase
  | next => exact turn_next disk s
  | stop =>
      by_cases hphase : s.phase = .stopped
      · rw [perform, stop, if_pos hphase]
        exact .gave none s.backend hany hphase.symm
      · rw [perform, stop, if_neg hphase]
        exact .stopped _ rfl

-- ========================================================= short rows

/-- The row that is fetched on this disk is too short for a column of the
relation: it has `length` values, and none at `index`. -/
def Lacks (disk : Disk) (s : Scan) (row index length : Nat) : Prop :=
  ∃ record t, s.fetch disk row = (.ok record, t) ∧ record.length = length ∧ length ≤ index
    ∧ index < s.columns.length

/-- Reading a row stops the run only where the row lacks a column. -/
theorem Selects.lacks_of_read (h : s.Selects) {disk : Disk} {row index length : Nat}
    (hstop : (s.read disk row).1 = .error (.outOfBounds index length)) :
    s.Lacks disk row index length := by
  have hrow := failsAs_readRow disk row s
  obtain ⟨backend, hbackend⟩ := readRow_backend disk row s
  unfold read at hstop
  split at hstop
  · next e hexpect =>
    rcases expect_cases s .read [.reading] with ⟨-, hok⟩ | ⟨-, herror⟩
    · cases hok.symm.trans hexpect
    · cases herror.symm.trans hexpect
      cases hstop
  · split at hstop
    · next e t heq =>
      rw [heq] at hrow
      cases hstop
      rcases hrow _ rfl with ⟨phase, hphase⟩ | hfault
      · cases hphase
      · exact absurd rfl (hfault.ne_outOfBounds index length)
    · next record t heq =>
      -- the columns to read are still those of the scan before the fetch
      rw [heq] at hbackend
      obtain rfl : t = { s with backend := backend } := hbackend
      obtain ⟨place, hplace, hshort, he⟩ := failsAs_project _ record _ hstop
      obtain ⟨rfl, rfl⟩ := Error.outOfBounds.inj he
      exact ⟨record, _, readRow_ok heq, rfl, hshort, h.bounded index hplace⟩

/-- A scan whose rows are full lacks nothing. -/
theorem Full.not_lacks {disk : Disk} (h : s.Full disk) (row index length : Nat) :
    ¬ s.Lacks disk row index length := by
  rintro ⟨record, t, hfetch, rfl, hshort, hindex⟩
  have hwidth := h row record t hfetch
  omega

/-- So it never stops the run. -/
theorem Full.read_ne_outOfBounds {disk : Disk} (h : s.Full disk) (hselects : s.Selects)
    (row index length : Nat) : (s.read disk row).1 ≠ .error (.outOfBounds index length) :=
  fun hstop => h.not_lacks row index length (hselects.lacks_of_read hstop)

theorem Full.next_ne_outOfBounds {disk : Disk} (h : s.Full disk) (hselects : s.Selects)
    (index length : Nat) : (s.next disk).1 ≠ .error (.outOfBounds index length) := by
  intro hstop
  unfold next at hstop
  split at hstop
  · next e hexpect =>
    rcases expect_cases s .advance [.reading] with ⟨-, hok⟩ | ⟨-, herror⟩
    · cases hok.symm.trans hexpect
    · cases herror.symm.trans hexpect
      cases hstop
  · split at hstop
    · cases hstop
    · next row _ =>
      have hread := h.read_ne_outOfBounds hselects row index length
      split at hstop
      · next e t heq =>
        cases hstop
        exact hread (congrArg Prod.fst heq)
      · cases hstop

-- ========================================================== invariants

/-- What holds of a scan whatever it was asked. -/
structure Lawful (s : Scan) : Prop where
  /-- The matching rows are in order, none of them twice. -/
  ascending : s.matching.toList.Pairwise (· < ·)
  /-- Each column to read is the column of the relation at its place. -/
  named : s.selectedIds.map (s.columns[·]?) = s.selected.map some
  /-- The cursor is among the matching rows, or behind the last. -/
  passed : s.cursor ≤ s.matching.size
  /-- Without a selection no row was passed. -/
  waiting : s.phase = .unselected → s.cursor = 0

theorem lawful_ofBackend (name aliasName : String) (columns : List String) (backend : Backend) :
    (ofBackend name aliasName columns backend).Lawful where
  ascending := .nil
  named := rfl
  passed := Nat.zero_le _
  waiting := fun _ => rfl

theorem Fresh.lawful (h : Fresh s) : s.Lawful := by
  cases h with
  | ofTable name aliasName table => exact lawful_ofBackend ..
  | ofFile hfile =>
      obtain ⟨⟨columns, source⟩, -, hs⟩ := bind_eq_ok.1 hfile
      obtain rfl := Except.ok.inj hs
      exact lawful_ofBackend ..

theorem Lawful.turn (h : s.Lawful) {operation : Operation}
    {outcome : Result (Option (List String))} {t : Scan}
    (hturn : Turn s operation (outcome, t)) : t.Lawful := by
  obtain ⟨hascending, hnamed, hpassed, hwaiting⟩ := h
  cases hturn with
  | refused => exact ⟨hascending, hnamed, hpassed, hwaiting⟩
  | failed => exact ⟨hascending, hnamed, hpassed, hwaiting⟩
  | gave => exact ⟨hascending, hnamed, hpassed, hwaiting⟩
  | passed values backend hcalled hphase hmore =>
      exact ⟨hascending, hnamed, hmore, fun hp => nomatch hphase.symm.trans hp⟩
  | selected filter backend rows hcalled hphase hrows =>
      -- the cursor still stands where it was before any row was known
      refine ⟨hrows, hnamed, ?_, nofun⟩
      rw [hwaiting hphase]
      exact Nat.zero_le _
  | started columns ids hcalled hphase hbounded =>
      exact ⟨hascending, Columns.map_getElem?_eq hbounded, Nat.zero_le _, nofun⟩
  | stopped => exact ⟨hascending, hnamed, hpassed, nofun⟩

theorem Lawful.after (h : s.Lawful) (history : List (Disk × Operation)) :
    (s.after history).Lawful := by
  induction history generalizing s with
  | nil => exact h
  | cons step history ih => exact ih (h.turn (turn_perform step.1 s step.2))

/-- What a scan has selected, and that it was stopped, stays so. -/
theorem turn_keeps {operation : Operation} {outcome : Result (Option (List String))}
    {t : Scan} (hturn : Turn s operation (outcome, t)) :
    (s.phase = .stopped → t.phase = .stopped)
      ∧ (s.phase ≠ .unselected → t.phase ≠ .unselected ∧ t.matching = s.matching) := by
  cases hturn with
  | refused => exact ⟨id, fun h => ⟨h, rfl⟩⟩
  | failed => exact ⟨id, fun h => ⟨h, rfl⟩⟩
  | gave => exact ⟨id, fun h => ⟨h, rfl⟩⟩
  | passed => exact ⟨id, fun h => ⟨h, rfl⟩⟩
  | selected filter backend rows hcalled hphase =>
      exact ⟨fun h => (nomatch hphase.symm.trans h), fun h => absurd hphase h⟩
  | started columns ids hcalled hphase =>
      subst hcalled
      refine ⟨fun h => ?_, fun _ => ⟨nofun, rfl⟩⟩
      simp [Operation.phases, h] at hphase
  | stopped => exact ⟨fun _ => rfl, fun _ => ⟨nofun, rfl⟩⟩

theorem after_stopped (h : s.phase = .stopped) (history : List (Disk × Operation)) :
    (s.after history).phase = .stopped := by
  induction history generalizing s with
  | nil => exact h
  | cons step history ih => exact ih ((turn_keeps (turn_perform step.1 s step.2)).1 h)

theorem matching_after (h : s.phase ≠ .unselected) (history : List (Disk × Operation)) :
    (s.after history).matching = s.matching := by
  induction history generalizing s with
  | nil => rfl
  | cons step history ih =>
      obtain ⟨hphase, hmatching⟩ := (turn_keeps (turn_perform step.1 s step.2)).2 h
      exact (ih hphase).trans hmatching

-- ========================================================== the machine

/-- Scans obey their state machine, over every run. Whatever a scan was
asked before, on whatever disks: its matching rows ascend and are final
once selected, the columns to read and their places agree, the cursor
stays within the matching rows, and a stopped scan stays stopped. What
it is asked next is refused exactly in the phases that do not allow it;
an answer leads to the phase of the operation, and an error, be it a
refusal or a failure half-way, moves nothing but the backend. -/
theorem lawful_run (hs : Fresh s) (history : List (Disk × Operation)) :
    (s.after history).Lawful
      ∧ (∀ later, (s.after history).phase = .stopped →
        ((s.after history).after later).phase = .stopped)
      ∧ (∀ later, (s.after history).phase ≠ .unselected →
        ((s.after history).after later).matching = (s.after history).matching)
      ∧ ∀ disk operation outcome t, (s.after history).perform disk operation = (outcome, t) →
        ((s.after history).phase ∉ operation.phases
            ↔ ∃ request, operation.request = some request
              ∧ outcome = .error (.invalidPhase (s.after history).aliasName request
                  (s.after history).phase))
          ∧ (∀ answer, outcome = .ok answer →
            t.phase = operation.leadsTo (s.after history).phase)
          ∧ ∀ e, outcome = .error e →
            ∃ backend, t = { s.after history with backend := backend } := by
  refine ⟨hs.lawful.after history, fun later h => after_stopped h later,
    fun later h => matching_after h later, ?_⟩
  intro disk operation outcome t hperform
  have hturn := turn_perform disk (s.after history) operation
  rw [hperform] at hturn
  cases hturn with
  | refused request hcalled hphase =>
      exact ⟨iff_of_true hphase ⟨request, hcalled, rfl⟩, nofun, fun _ _ => ⟨_, rfl⟩⟩
  | failed e backend hphase hfault =>
      refine ⟨iff_of_false (fun h => h hphase) ?_, nofun, fun _ _ => ⟨backend, rfl⟩⟩
      rintro ⟨request, -, he⟩
      obtain rfl := Except.error.inj he
      rcases hfault with (hrow | ⟨index, length, hstop⟩) | ⟨name, hname⟩
      · cases hrow
      · cases hstop
      · cases hname
  | gave answer backend hphase hkeeps =>
      exact ⟨iff_of_false (fun h => h hphase) nofun, fun _ _ => hkeeps.symm, nofun⟩
  | passed values backend hcalled hphase hmore =>
      subst hcalled
      exact ⟨iff_of_false (fun h => h (List.mem_singleton.2 hphase)) nofun, fun _ _ => rfl, nofun⟩
  | selected filter backend rows hcalled hphase hrows =>
      subst hcalled
      exact ⟨iff_of_false (fun h => h (List.mem_singleton.2 hphase)) nofun, fun _ _ => rfl, nofun⟩
  | started columns ids hcalled hphase hbounded =>
      subst hcalled
      exact ⟨iff_of_false (fun h => h hphase) nofun, fun _ _ => rfl, nofun⟩
  | stopped backend hcalled =>
      subst hcalled
      refine ⟨iff_of_false (fun h => h ?_) nofun, fun _ _ => rfl, nofun⟩
      cases (s.after history).phase <;> simp [Operation.phases]

/-- Two columns, and a value missing in the second row. -/
def lateFault : String := "a;b\n1;2\n3\n"

/-- Selecting breaks off in the second row: the first row was admitted,
and yet no row is selected and the scan can be asked again. -/
theorem lawful_run_half_way :
    ∃ s, ofFile (diskOf lateFault) "t" "t" "t" plainOptions = .ok s
      ∧ s.phase = .unselected
      ∧ (s.select (diskOf lateFault) none).1 = .error (.malformedRow "t" 1 2 1)
      ∧ (s.select (diskOf lateFault) none).2.phase = .unselected
      ∧ (s.select (diskOf lateFault) none).2.matching = s.matching
      ∧ (s.after [(diskOf lateFault, .select none)]).Lawful := by
  have hrun : (ofFile (diskOf lateFault) "t" "t" "t" plainOptions).toOption.map
      (fun s => (s.phase, (((s.select (diskOf lateFault) none).1.map fun _ => none).tryCatch
        fun e => .ok (some e)).toOption))
        = some (.unselected, some (some (.malformedRow "t" 1 2 1))) := by
    decide +kernel
  obtain ⟨s, hs, hfound⟩ := Option.map_eq_some_iff.1 hrun
  obtain ⟨hphase, hfault⟩ := Prod.mk.inj hfound
  have hfresh : Fresh s := .ofFile (eq_ok_of_toOption hs)
  have hselect : (s.select (diskOf lateFault) none).1 = .error (.malformedRow "t" 1 2 1) := by
    cases he : (s.select (diskOf lateFault) none).1 with
    | error e =>
        rw [he] at hfault
        exact congrArg Except.error (Option.some.inj (Option.some.inj hfault))
    | ok answer =>
        rw [he] at hfault
        cases Option.some.inj hfault
  obtain ⟨-, -, -, hmachine⟩ := lawful_run hfresh []
  rw [after] at hmachine
  obtain ⟨-, -, hkept⟩ := hmachine (diskOf lateFault) (.select none) _ _ rfl
  have hanswer := congrArg (Except.map fun _ => (none : Option (List String))) hselect
  obtain ⟨backend, hbackend⟩ := hkept (.malformedRow "t" 1 2 1) hanswer
  obtain ⟨hlawful, -⟩ := lawful_run hfresh [(diskOf lateFault, .select none)]
  refine ⟨s, eq_ok_of_toOption hs, hphase, hselect, ?_, ?_, hlawful⟩
  · rw [hbackend]
    exact hphase
  · rw [hbackend]

end FlatQuery.Scan
