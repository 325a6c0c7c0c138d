/-
The phases of a scan, in the order it goes through them, and the
operations that a phase may refuse. Both appear in error texts.
-/
namespace FlatQuery.Scan

/-- Where a scan stands. -/
inductive Phase where
  | unselected
  | selected
  | reading
  | stopped
  deriving DecidableEq, Repr

/-- The word for a phase. -/
def Phase.name : Phase → String
  | .unselected => "unselected"
  | .selected => "selected"
  | .reading => "reading"
  | .stopped => "stopped"

/-- What was asked of a scan. -/
inductive Request where
  | select
  | startRead
  | read
  | advance
  | join
  deriving DecidableEq, Repr

/-- The verb for a request. -/
def Request.verb : Request → String
  | .select => "select"
  | .startRead => "start reading"
  | .read => "read"
  | .advance => "advance"
  | .join => "join"

end FlatQuery.Scan
