/-
Delimited text: records of fields, with a separator between fields and a
line end after each record. A field may be wrapped in quotes; inside
them separators and line ends are ordinary, and a quote written twice
stands for one. What follows a closing quote is taken as it stands. A
quote that never closes runs to the end. Lines without anything are
skipped. A return, a newline, or one after the other ends a line.

The splitter reads one symbol at a time and never looks ahead, so it
works on bytes and on characters alike, and can stop anywhere and be
carried on.
-/
namespace FlatQuery.Delimited

/-- The four symbols that mean something. -/
structure Dialect (α : Type) where
  separator : α
  quote : α
  carriageReturn : α
  newline : α
  deriving DecidableEq, Repr

/-- Where the splitter stands. -/
inductive Mode where
  /-- Before a record; lines without anything are skipped here. -/
  | between
  /-- Before a record, right after the return that ended the last one. -/
  | afterReturn
  | fieldStart
  | bare
  | quoted
  /-- Right after a quote inside quotes. -/
  | quoteSeen
  deriving DecidableEq, Repr

/-- What a symbol does. -/
inductive Event where
  | skip
  | keep
  | endField
  | endRecord
  deriving DecidableEq, Repr

/-- Whether nothing of a record has been read. -/
def Mode.isOutside : Mode → Bool
  | .between | .afterReturn => true
  | _ => false

section
variable {α : Type} [DecidableEq α] (d : Dialect α)

namespace Dialect

/-- Whether the symbol ends a line. -/
def isLineEnd (c : α) : Bool := c = d.carriageReturn || c = d.newline

/-- A symbol that ends a record. -/
def endRecord (c : α) : Mode × Event :=
  (if c = d.carriageReturn then .afterReturn else .between, .endRecord)

/-- A symbol in a field that no quote protects. -/
def stepPlain (c : α) : Mode × Event :=
  if c = d.separator then (.fieldStart, .endField)
  else if d.isLineEnd c then d.endRecord c
  else (.bare, .keep)

/-- The first symbol of a field. -/
def stepField (c : α) : Mode × Event :=
  if c = d.quote then (.quoted, .skip) else d.stepPlain c

/-- The first symbol of a line. -/
def stepLine (c : α) : Mode × Event :=
  if d.isLineEnd c then (.between, .skip) else d.stepField c

/-- One symbol: where the splitter stands after it, and what it does. -/
def step : Mode → α → Mode × Event
  | .between, c => d.stepLine c
  | .afterReturn, c => if c = d.newline then (.between, .skip) else d.stepLine c
  | .fieldStart, c => d.stepField c
  | .bare, c => d.stepPlain c
  | .quoted, c => if c = d.quote then (.quoteSeen, .skip) else (.quoted, .keep)
  | .quoteSeen, c => if c = d.quote then (.quoted, .keep) else d.stepPlain c

end Dialect

/-- A record: its fields in order. -/
abbrev Record (α : Type) := List (List α)

/-- A record half read: the symbols of the current field and the fields
before it, the latest first in both. -/
structure Partial (α : Type) where
  mode : Mode
  field : List α
  fields : List (List α)
  deriving Repr

namespace Partial

/-- Nothing of a record read yet, perhaps right after a return. -/
def start (pastReturn : Bool) : Partial α :=
  ⟨if pastReturn then .afterReturn else .between, [], []⟩

/-- The record, as if the current field were its last. -/
def close (p : Partial α) : Record α := (p.field.reverse :: p.fields).reverse

end Partial

/-- How far a run of symbols leads. -/
inductive Progress (α : Type) where
  /-- A record has ended, perhaps by a return; `taken` symbols were read
  and `rest` were not. -/
  | complete (record : Record α) (pastReturn : Bool) (taken : Nat) (rest : List α)
  /-- All symbols were read. -/
  | more (p : Partial α) (taken : Nat)
  deriving Repr

/-- Reads symbols until a record ends. -/
def Partial.run (p : Partial α) (taken : Nat) : List α → Progress α
  | [] => .more p taken
  | c :: rest =>
    match d.step p.mode c with
    | (mode, .skip) => Partial.run { p with mode } (taken + 1) rest
    | (mode, .keep) => Partial.run { p with mode, field := c :: p.field } (taken + 1) rest
    | (mode, .endField) =>
      Partial.run ⟨mode, [], p.field.reverse :: p.fields⟩ (taken + 1) rest
    | (mode, .endRecord) => .complete p.close (mode = .afterReturn) (taken + 1) rest

/-- What the end of the input makes of a record half read. -/
def Partial.finish (p : Partial α) : Option (Record α) :=
  if p.mode.isOutside then none else some p.close

-- ==================================================== lengths of a run

omit [DecidableEq α] in
theorem isOutside_start (pastReturn : Bool) :
    (Partial.start pastReturn : Partial α).mode.isOutside = true := by
  cases pastReturn <;> rfl

/-- A record that ends takes at least one symbol. -/
theorem run_complete_length {p : Partial α} {taken taken' : Nat} {input rest : List α}
    {record : Record α} {pastReturn : Bool}
    (h : p.run d taken input = .complete record pastReturn taken' rest) :
    rest.length < input.length := by
  induction input generalizing p taken with
  | nil => simp [Partial.run] at h
  | cons c cs ih =>
    unfold Partial.run at h
    split at h
    · have := ih h; simp only [List.length_cons]; omega
    · have := ih h; simp only [List.length_cons]; omega
    · have := ih h; simp only [List.length_cons]; omega
    · cases h; simp

end

end FlatQuery.Delimited
