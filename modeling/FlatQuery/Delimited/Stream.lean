/-
Reading records from an open file. Bytes are fetched in blocks, so a
stream may hold bytes that the file no longer does. A byte-order mark is
skipped where reading starts: at the beginning of the file and after
every jump.

`position` counts the bytes consumed. Jumping to the position the stream
is at changes nothing, not even the end it may have reported.
-/
import FlatQuery.Delimited.Splitter
import FlatQuery.Disk

namespace FlatQuery.Delimited

/-- An open file with what was fetched from it. -/
structure Stream where
  /-- The number of the file's contents. -/
  file : Nat
  /-- Where the next block is fetched. -/
  offset : Nat
  /-- Fetched and not consumed. -/
  pending : List UInt8
  position : Nat
  /-- The last record ended by a return. -/
  pastReturn : Bool
  /-- Nothing was read since reading started here. -/
  fresh : Bool
  /-- The end was reported. -/
  ended : Bool
  /-- A record was asked for since the file was opened. -/
  primed : Bool
  deriving Repr

namespace Stream

/-- The number of bytes fetched at a time. -/
def blockSize : Nat := 8192

/-- The stream at the beginning of a file. -/
def ofFile (number : Nat) : Stream := ⟨number, 0, [], 0, false, true, false, false⟩

/-- The next block of the file, and the stream beyond it. -/
def fetch (disk : Disk) (s : Stream) : List UInt8 × Stream :=
  let block := disk.read s.file s.offset blockSize
  (block, { s with offset := s.offset + block.length })

/-- The bytes the stream can still give. -/
def remaining (disk : Disk) (s : Stream) : Nat :=
  s.pending.length + (disk.size s.file - s.offset)

/-- Starts reading: fetches the first block and skips a byte-order mark
that it begins with. -/
def begin (disk : Disk) (s : Stream) : Stream :=
  let (block, s) := s.fetch disk
  match block with
  | 0xEF :: 0xBB :: 0xBF :: rest =>
    { s with pending := rest, position := s.position + 3, fresh := false }
  | _ => { s with pending := block, fresh := false }

private theorem size_eq (disk : Disk) (number : Nat) :
    disk.size number = (disk.contents.getD number #[]).size := rfl

theorem length_read (disk : Disk) (number position count : Nat) :
    (disk.read number position count).length = min count (disk.size number - position) := by
  simp only [Disk.read, Array.length_toList, Array.size_extract, size_eq]
  omega

/-- Reads on until a record ends or the file does. -/
def advance (disk : Disk) (d : Dialect UInt8) (s : Stream) (p : Partial UInt8) :
    Option (Record UInt8) × Stream :=
  match p.run d 0 s.pending with
  | .complete record pastReturn taken rest =>
    (some record, { s with pending := rest, position := s.position + taken, pastReturn })
  | .more p taken =>
    let block := disk.read s.file s.offset blockSize
    if _h : block = [] then
      (p.finish, { s with
        pending := [], position := s.position + taken
        pastReturn := false, ended := p.mode.isOutside })
    else
      advance disk d { s with
        pending := block, position := s.position + taken
        offset := s.offset + block.length } p
termination_by disk.size s.file - s.offset
decreasing_by
  have hl := length_read disk s.file s.offset blockSize
  have hpos := List.length_pos_iff.2 _h
  simp only [block, blockSize] at *
  omega

/-- The next record, if there is one. -/
def readRecord (disk : Disk) (d : Dialect UInt8) (s : Stream) :
    Option (Record UInt8) × Stream :=
  let s := { s with primed := true }
  if s.ended then (none, s)
  else
    let s := if s.fresh then s.begin disk else s
    s.advance disk d (.start s.pastReturn)

/-- Jumps to a position. A stream that has read nothing reads a record
first. -/
def seek (disk : Disk) (d : Dialect UInt8) (s : Stream) (position : Nat) : Stream :=
  let s := if s.primed then s else (s.readRecord disk d).2
  if s.position = position then s
  else
    { s with
      offset := position, pending := [], position, pastReturn := false
      fresh := true, ended := false }

-- ========================================================== progress

private theorem remaining_begin (disk : Disk) (s : Stream) :
    (s.begin disk).remaining disk ≤ s.remaining disk := by
  have hl := length_read disk s.file s.offset blockSize
  unfold begin fetch
  simp only [remaining]
  split
  · next rest h =>
    simp only [h, List.length_cons] at hl ⊢
    omega
  · simp only
    omega

private theorem remaining_advance {disk : Disk} {d : Dialect UInt8} {s s' : Stream}
    {p : Partial UInt8} {record : Record UInt8}
    (h : s.advance disk d p = (some record, s')) :
    s'.remaining disk ≤ s.remaining disk
      ∧ (p.mode.isOutside = true → s'.remaining disk < s.remaining disk) := by
  fun_induction advance disk d s p with
  | case1 s p record' pastReturn taken rest hrun =>
    have := run_complete_length d hrun
    cases h
    simp only [remaining]
    exact ⟨by omega, fun _ => by omega⟩
  | case2 s p p' taken hrun block hblock =>
    simp only [Prod.mk.injEq] at h
    obtain ⟨hf, rfl⟩ := h
    simp only [remaining, List.length_nil]
    refine ⟨by omega, fun hout => ?_⟩
    cases hp : s.pending with
    | nil =>
      rw [hp] at hrun
      cases hrun
      simp [Partial.finish, hout] at hf
    | cons c rest => simp only [List.length_cons]; omega
  | case3 s p p' taken hrun block hblock ih =>
    obtain ⟨hle, hlt⟩ := ih h
    have hl := length_read disk s.file s.offset blockSize
    have hsize : block.length + (disk.size s.file - (s.offset + block.length))
        = disk.size s.file - s.offset := by
      simp only [block]
      omega
    simp only [remaining, hsize] at hle hlt ⊢
    refine ⟨by omega, fun hout => ?_⟩
    cases hp : s.pending with
    | nil =>
      rw [hp] at hrun
      cases hrun
      simpa using hlt hout
    | cons c rest => simp only [List.length_cons]; omega

/-- Every record takes at least one byte, so a file has only so many. -/
theorem remaining_readRecord {disk : Disk} {d : Dialect UInt8} {s s' : Stream}
    {record : Record UInt8} (h : s.readRecord disk d = (some record, s')) :
    s'.remaining disk < s.remaining disk := by
  unfold readRecord at h
  simp only at h
  split at h
  · simp at h
  · have hlt := (remaining_advance h).2 (isOutside_start _)
    split at hlt
    · exact Nat.lt_of_lt_of_le hlt (remaining_begin disk _)
    · exact hlt

end Stream

end FlatQuery.Delimited
