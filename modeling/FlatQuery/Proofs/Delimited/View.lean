/-
What a stream is about to read. Of a file whose contents stay, what was
fetched and what was not are together the bytes behind the stream's
position (`View`), so blocks do not matter: asking for a record gives
the first one of the bytes ahead (`readRecord_eq`), and then the bytes
behind that record are ahead.

A byte-order mark is the one thing that depends on how the stream came
to a position. It is no part of the bytes ahead after a jump, and it is
after reading up to there (`ahead`). Jumping to where the stream is
counts as the latter (`ahead_seek`).
-/
import FlatQuery.Delimited.Stream
import FlatQuery.Proofs.Delimited.Cuts

namespace FlatQuery

/-- The bytes of a file. -/
def Disk.bytes (disk : Disk) (number : Nat) : List UInt8 :=
  (disk.contents.getD number #[]).toList

/-- Reading a file takes bytes out of its contents. -/
theorem Disk.read_eq (disk : Disk) (number position count : Nat) :
    disk.read number position count = ((disk.bytes number).drop position).take count := by
  rw [read, bytes, Array.toList_extract, List.extract_eq_take_drop, Nat.add_sub_cancel_left]

/-- A block is what the file has there, and the rest comes behind it. -/
theorem Disk.read_append (disk : Disk) (number position count : Nat) :
    disk.read number position count
        ++ (disk.bytes number).drop (position + (disk.read number position count).length)
      = (disk.bytes number).drop position := by
  rw [read_eq, ← List.drop_drop, List.length_take]
  rcases Nat.le_total count ((disk.bytes number).drop position).length with hle | hle
  · rw [Nat.min_eq_left hle, List.take_append_drop]
  · rw [Nat.min_eq_right hle, List.drop_length, List.append_nil, List.take_of_length_le hle]

namespace Delimited

-- ============================================================ the mark

/-- The byte-order mark. -/
def mark : List UInt8 := [0xEF, 0xBB, 0xBF]

/-- The bytes without a mark that they begin with. -/
def dropMark : List UInt8 → List UInt8
  | 0xEF :: 0xBB :: 0xBF :: rest => rest
  | bytes => bytes

/-- Only a mark at the very beginning is dropped. -/
theorem dropMark_eq_self {bytes : List UInt8} (h : ¬ mark <+: bytes) :
    dropMark bytes = bytes := by
  unfold dropMark
  split
  · next rest => exact absurd ⟨rest, rfl⟩ h
  · rfl

/-- What is left is the end of what there was. -/
theorem dropMark_suffix (bytes : List UInt8) : dropMark bytes <:+ bytes := by
  unfold dropMark
  split
  · next rest => exact ⟨mark, rfl⟩
  · exact List.suffix_rfl

/-- Dropping a mark makes nothing longer. -/
theorem length_dropMark_le (bytes : List UInt8) : (dropMark bytes).length ≤ bytes.length :=
  (dropMark_suffix bytes).length_le

namespace Stream

-- ============================================================= the view

/-- What holds of a stream over these bytes: it has fetched the bytes at
its position and no others. -/
structure View (bytes : List UInt8) (s : Stream) : Prop where
  behind : s.pending ++ bytes.drop s.offset = bytes.drop s.position
  bounded : s.position ≤ bytes.length
  fresh : s.fresh = true → s.pending = [] ∧ s.offset = s.position ∧ s.ended = false
  ended : s.ended = true → bytes.drop s.position = []

/-- A stream that has read something, if there is something. -/
structure Settled (bytes : List UInt8) (s : Stream) : Prop extends View bytes s where
  begun : s.fresh = false
  primed : s.primed = true
  moved : s.position = 0 → bytes = []

/-- The bytes that the stream reads next. -/
def ahead (bytes : List UInt8) (s : Stream) : List UInt8 :=
  if s.fresh then dropMark (bytes.drop s.position) else bytes.drop s.position

variable {bytes : List UInt8} {s : Stream} {disk : Disk} (d : Dialect UInt8)

/-- A stream that was just opened has fetched nothing and is at the
beginning. -/
theorem view_ofFile (bytes : List UInt8) (number : Nat) : View bytes (ofFile number) :=
  ⟨rfl, Nat.zero_le _, fun _ => ⟨rfl, rfl, rfl⟩, nofun⟩

/-- A stream that has read something drops no mark any more. -/
theorem Settled.ahead_eq (h : Settled bytes s) : ahead bytes s = bytes.drop s.position := by
  rw [ahead, h.begun]
  rfl

/-- No more is ahead than the file has. -/
theorem length_ahead_le (bytes : List UInt8) (s : Stream) :
    (ahead bytes s).length ≤ bytes.length := by
  unfold ahead
  split
  · have hle := length_dropMark_le (bytes.drop s.position)
    rw [List.length_drop] at hle
    omega
  · rw [List.length_drop]
    omega

/-- In the midst of reading only the bytes matter. -/
theorem view_of_begun (hbehind : s.pending ++ bytes.drop s.offset = bytes.drop s.position)
    (hbounded : s.position ≤ bytes.length) (hfresh : s.fresh = false)
    (hended : s.ended = false) : View bytes s where
  behind := hbehind
  bounded := hbounded
  fresh := fun h => absurd (hfresh.symm.trans h) Bool.false_ne_true
  ended := fun h => absurd (hended.symm.trans h) Bool.false_ne_true

/-- Behind what was fetched comes what was not. -/
theorem View.drop_pending (h : View bytes s) :
    bytes.drop (s.position + s.pending.length) = bytes.drop s.offset := by
  rw [← List.drop_drop, ← h.behind, List.drop_left]

/-- No more was fetched than the file has. -/
theorem View.pending_le (h : View bytes s) :
    s.position + s.pending.length ≤ bytes.length := by
  have hlength := congrArg List.length h.behind
  have hbounded := h.bounded
  rw [List.length_append, List.length_drop, List.length_drop] at hlength
  omega

-- ============================================================== reading

/-- Looking for a mark leaves alone which file it is and how far the
stream has come otherwise. -/
theorem begin_fields (disk : Disk) (s : Stream) :
    (s.begin disk).file = s.file ∧ (s.begin disk).fresh = false
      ∧ (s.begin disk).ended = s.ended ∧ (s.begin disk).primed = s.primed := by
  unfold begin fetch
  dsimp only
  split
  · exact ⟨rfl, rfl, rfl, rfl⟩
  · exact ⟨rfl, rfl, rfl, rfl⟩

/-- Skipping a mark brings the stream to the bytes ahead. -/
theorem view_begin (h : View bytes s) (hbytes : disk.bytes s.file = bytes)
    (hfresh : s.fresh = true) :
    View bytes (s.begin disk) ∧ bytes.drop (s.begin disk).position = ahead bytes s := by
  obtain ⟨hpending, hoffset, hended⟩ := h.fresh hfresh
  have hblock := disk.read_append s.file s.offset blockSize
  rw [hbytes, hoffset] at hblock
  rw [ahead, hfresh, if_pos rfl]
  unfold begin fetch
  dsimp only
  rw [hoffset]
  split
  -- the block begins with a mark, and the stream is behind it
  · next rest heq =>
    rw [heq] at hblock ⊢
    have hrest : rest ++ bytes.drop (s.position + (0xEF :: 0xBB :: 0xBF :: rest).length)
        = bytes.drop (s.position + 3) := by
      rw [← List.drop_drop (i := 3), ← hblock]
      rfl
    have hbounded : s.position + 3 ≤ bytes.length := by
      have hlength := congrArg List.length hblock
      simp only [List.length_append, List.length_cons, List.length_drop] at hlength
      omega
    refine ⟨⟨hrest, hbounded, nofun, fun hended' => ?_⟩, ?_⟩
    · rw [hended] at hended'
      cases hended'
    · rw [← hrest, ← hblock]
      rfl
  -- it does not, and the stream is where it was
  · next hmark =>
    refine ⟨⟨hblock, h.bounded, nofun, h.ended⟩, ?_⟩
    rw [dropMark_eq_self]
    -- the first block is long enough to show a mark
    rintro ⟨rest, hrest⟩
    refine hmark (rest.take (blockSize - 3)) ?_
    rw [Disk.read_eq, hbytes, ← hrest]
    rfl

/-- Fetching further blocks does not change what is read. -/
theorem advance_eq (h : View bytes s) (hbytes : disk.bytes s.file = bytes)
    (hfresh : s.fresh = false) (hended : s.ended = false) {p : Partial UInt8}
    {record : Option (Record UInt8)} {after : Stream}
    (hadvance : s.advance disk d p = (record, after)) :
    (p.run d 0 (bytes.drop s.position)).record? = record.map (·, bytes.drop after.position)
      ∧ (record = none → bytes.drop after.position = [])
      ∧ View bytes after ∧ after.file = s.file ∧ after.fresh = false
      ∧ after.primed = s.primed := by
  fun_induction advance disk d s p with
  -- the record ends in what was fetched
  | case1 s p record' pastReturn taken rest hrun =>
      cases hadvance
      have hwhole : p.run d 0 (bytes.drop s.position)
          = .complete record' pastReturn taken (rest ++ bytes.drop s.offset) := by
        rw [← h.behind, run_append, hrun]
        rfl
      obtain ⟨count, rfl, hrest, hcount⟩ := run_complete d hwhole
      rw [Nat.zero_add, List.drop_drop] at *
      rw [List.length_drop] at hcount
      rw [hwhole, hrest]
      have hbounded := h.bounded
      have hle : s.position + count ≤ bytes.length := by omega
      refine ⟨rfl, fun hnone => ?_, view_of_begun hrest hle hfresh hended, rfl, hfresh, rfl⟩
      cases hnone
  -- nothing is left to fetch, so the record ends with the file
  | case2 s p p' taken hrun block hblock =>
      cases hadvance
      obtain rfl := run_more d hrun
      rw [Nat.zero_add] at hrun ⊢
      have hall : bytes.drop s.offset = [] := by
        have hread := disk.read_eq s.file s.offset blockSize
        rw [hbytes] at hread
        have htake := hread.symm.trans hblock
        rw [List.take_eq_nil_iff] at htake
        exact htake.resolve_left (by decide)
      have hend := h.drop_pending.trans hall
      have hwhole : (p.run d 0 (bytes.drop s.position)).record?
          = p'.finish.map (·, []) := by
        rw [← h.behind, hall, List.append_nil, hrun]
        rfl
      dsimp only
      rw [hwhole, hend]
      refine ⟨rfl, fun _ => rfl, ⟨?_, h.pending_le, fun h => ?_, fun _ => hend⟩, rfl, hfresh, rfl⟩
      · rw [hend, hall]
        rfl
      · exact absurd (hfresh.symm.trans h) Bool.false_ne_true
  -- a block is fetched and the record goes on in it, which is the
  -- recursion
  | case3 s p p' taken hrun block hblock ih =>
      obtain rfl := run_more d hrun
      rw [Nat.zero_add] at *
      have hnext : View bytes { s with
          pending := block
          position := s.position + s.pending.length
          offset := s.offset + block.length } := by
        refine view_of_begun ?_ h.pending_le hfresh hended
        show block ++ bytes.drop (s.offset + block.length)
          = bytes.drop (s.position + s.pending.length)
        rw [h.drop_pending, ← hbytes]
        exact disk.read_append ..
      have hwhole : (p.run d 0 (bytes.drop s.position)).record?
          = (p'.run d 0 (bytes.drop (s.position + s.pending.length))).record? := by
        rw [← h.behind, run_append, hrun, h.drop_pending]
        exact record?_run ..
      rw [hwhole]
      exact ih hnext hbytes hfresh hended hadvance

/-- A stream reads the first record ahead, and is then where it ends. -/
theorem readRecord_eq (h : View bytes s) (hbytes : disk.bytes s.file = bytes)
    {record : Option (Record UInt8)} {after : Stream}
    (hread : s.readRecord disk d = (record, after)) :
    record? d (ahead bytes s) = record.map (·, bytes.drop after.position)
      ∧ (record = none → bytes.drop after.position = [])
      ∧ Settled bytes after ∧ after.file = s.file := by
  have hmain : record? d (ahead bytes s) = record.map (·, bytes.drop after.position)
      ∧ (record = none → bytes.drop after.position = [])
      ∧ View bytes after ∧ after.file = s.file ∧ after.fresh = false
      ∧ after.primed = true := by
    unfold readRecord at hread
    dsimp only at hread
    -- at the end of the file nothing is read; else the mark is looked for
    -- first, if the stream is fresh
    split at hread
    · next hended =>
      cases hread
      have hfresh : s.fresh = false := by
        refine Bool.eq_false_iff.2 fun hfresh => ?_
        rw [(h.fresh hfresh).2.2] at hended
        cases hended
      have hnone := h.ended hended
      refine ⟨?_, fun _ => hnone, ⟨h.behind, h.bounded, h.fresh, h.ended⟩, rfl, hfresh, rfl⟩
      rw [ahead, hfresh, if_neg Bool.false_ne_true, hnone]
      rfl
    · next hended =>
      rw [Bool.not_eq_true] at hended
      have hasked : View bytes { s with primed := true } :=
        ⟨h.behind, h.bounded, h.fresh, h.ended⟩
      by_cases hfresh : s.fresh = true
      · obtain ⟨hview, hposition⟩ := view_begin hasked hbytes hfresh
        obtain ⟨hfile, hbegun, hended', hprimed⟩ := begin_fields disk { s with primed := true }
        rw [if_pos hfresh] at hread
        obtain ⟨hrecord, hend, hafter, hfile', hfresh', hprimed'⟩ :=
          advance_eq d hview (by rw [hfile]; exact hbytes) hbegun (hended'.trans hended) hread
        rw [record?_pastReturn, hposition] at hrecord
        exact ⟨hrecord, hend, hafter, hfile'.trans hfile, hfresh', hprimed'.trans hprimed⟩
      · rw [if_neg hfresh] at hread
        rw [Bool.not_eq_true] at hfresh
        obtain ⟨hrecord, hend, hafter, hfile', hfresh', hprimed'⟩ :=
          advance_eq d hasked hbytes hfresh hended hread
        rw [record?_pastReturn] at hrecord
        refine ⟨?_, hend, hafter, hfile', hfresh', hprimed'⟩
        rw [ahead, hfresh, if_neg Bool.false_ne_true]
        exact hrecord
  obtain ⟨hrecord, hend, hview, hfile, hfresh, hprimed⟩ := hmain
  -- after a record the stream has moved, since no record is empty
  refine ⟨hrecord, hend, ⟨hview, hfresh, hprimed, fun hzero => ?_⟩, hfile⟩
  rw [hzero, List.drop_zero] at hrecord hend
  cases record with
  | none => exact hend rfl
  | some record =>
      have hshorter := length_of_record? d hrecord
      have hle := length_ahead_le bytes s
      omega

-- ============================================================== jumping

/-- The stream from which a jump is made: one that has read nothing reads
a record first. -/
def primedStream (disk : Disk) (d : Dialect UInt8) (s : Stream) : Stream :=
  if s.primed then s else (s.readRecord disk d).2

/-- A stream that has read a record, or that reads one now, is settled. -/
theorem settled_primedStream (h : View bytes s) (hsettled : s.primed = true → Settled bytes s)
    (hbytes : disk.bytes s.file = bytes) :
    Settled bytes (s.primedStream disk d) ∧ (s.primedStream disk d).file = s.file := by
  unfold primedStream
  split
  · next hprimed => exact ⟨hsettled hprimed, rfl⟩
  · obtain ⟨-, -, hafter, hfile⟩ := readRecord_eq d h hbytes rfl
    exact ⟨hafter, hfile⟩

/-- Jumping to where the stream is changes nothing. -/
theorem seek_of_position {position : Nat} (h : (s.primedStream disk d).position = position) :
    s.seek disk d position = s.primedStream disk d :=
  if_pos h

/-- A jump elsewhere forgets what was fetched and is fresh. -/
theorem seek_of_ne {position : Nat} (h : (s.primedStream disk d).position ≠ position) :
    s.seek disk d position = { s.primedStream disk d with
      offset := position, pending := [], position, pastReturn := false
      fresh := true, ended := false } :=
  if_neg h

/-- A jump leads to its target. -/
theorem position_seek (position : Nat) : (s.seek disk d position).position = position := by
  by_cases h : (s.primedStream disk d).position = position
  · rw [seek_of_position d h, h]
  · rw [seek_of_ne d h]

/-- After a jump the bytes from its target on are ahead, without a mark
that they begin with; or with it, if the stream was there already. -/
theorem ahead_seek (h : Settled bytes (s.primedStream disk d)) {position : Nat}
    (hposition : position ≤ bytes.length) :
    View bytes (s.seek disk d position)
      ∧ (s.seek disk d position).file = (s.primedStream disk d).file
      ∧ (ahead bytes (s.seek disk d position) = dropMark (bytes.drop position)
        ∨ ahead bytes (s.seek disk d position) = bytes.drop position
          ∧ (position = 0 → bytes = [])) := by
  by_cases hsame : (s.primedStream disk d).position = position
  · rw [seek_of_position d hsame]
    refine ⟨h.toView, rfl, .inr ⟨?_, ?_⟩⟩
    · rw [h.ahead_eq, hsame]
    · exact fun hzero => h.moved (hsame.trans hzero)
  · rw [seek_of_ne d hsame]
    exact ⟨⟨rfl, hposition, fun _ => ⟨rfl, rfl, rfl⟩, nofun⟩, rfl, .inl rfl⟩

end Stream

end Delimited

end FlatQuery
