/-
What a text is that is accepted, and what cannot go wrong with it. Its
query is well formed, and running it is never blamed on its predicate:
it can fail for its relations, their columns, their rows and the number
of combinations, on any catalogue (`failsAs_executeReader`). The one
place that could blame the predicate is the check before a join, and
what was accepted passes it.
-/
import FlatQuery.Command
import FlatQuery.Proofs.Join.Course
import FlatQuery.Proofs.Statement.Positions
import FlatQuery.Proofs.Statement.Refusal
import FlatQuery.Proofs.Statement.WellFormed

namespace FlatQuery

open Result

/-- Not that a predicate makes no sense. -/
def NotPredicate (e : Error) : Prop := ∀ fault, e ≠ .invalidPredicate fault

/-- The parser knows no predicate yet, so it blames none. -/
theorem Refusal.notPredicate {e : Error} (h : Refusal e) : NotPredicate e := by
  cases h <;> exact nofun

/-- What is wrong with a row is wrong with the row. -/
theorem Scan.RowFault.notPredicate {e : Error} (h : RowFault e) : NotPredicate e := by
  cases h <;> exact nofun

-- =============================================================== scans

namespace Scan

/-- Out of its phase an operation is refused as such. -/
theorem failsAs_expect (s : Scan) (request : Request) (allowed : List Phase) :
    FailsAs NotPredicate (s.expect request allowed) := by
  unfold expect
  split
  · exact failsAs_ok _
  · exact failsAs_error nofun

/-- A selection fails for the phase or for a row; that the filter fails on
a row is no failure of the selection. -/
theorem failsAs_select (disk : Disk) (filter : Option Predicate) (s : Scan) :
    FailsAs NotPredicate (s.select disk filter).1 := by
  have hexpect := s.failsAs_expect .select [.unselected]
  have hrows := (s.failsAs_selectRows disk filter).mono fun _ => RowFault.notPredicate
  unfold select
  split
  · next e hphase => exact failsAs_error (hexpect e hphase)
  · split
    · next e backend hselect =>
      rw [hselect] at hrows
      exact failsAs_error (hrows e rfl)
    · exact failsAs_ok _

/-- Reading starts unless the phase forbids it or a column is unknown. -/
theorem failsAs_startRead (columns : List String) (s : Scan) :
    FailsAs NotPredicate (s.startRead columns).1 := by
  have houtcome : FailsAs NotPredicate (do
      s.expect .startRead [.selected, .reading]
      Columns.resolve s.aliasName s.columns columns) := by
    refine (s.failsAs_expect .startRead _).bind fun _ _ => ?_
    refine (Columns.failsAs_resolve _ _ _).mono ?_
    rintro e ⟨name, -, rfl⟩
    exact nofun
  unfold startRead
  dsimp only
  split
  · next e he => exact failsAs_error (houtcome e he)
  · exact failsAs_ok _

/-- One row is refused for the phase or for what is at its place. -/
theorem notPredicate_readRow (disk : Disk) (row : Nat) (s : Scan) :
    FailsAs NotPredicate (s.readRow disk row).1 := by
  refine (s.failsAs_readRow disk row).mono ?_
  rintro e (⟨phase, rfl⟩ | hrow)
  · exact nofun
  · exact hrow.notPredicate

end Scan

/-- A scan is opened unless the relation is unknown, its file cannot be
read, or its columns are ambiguous. -/
theorem Catalog.failsAs_openScan (disk : Disk) (c : Catalog) (name aliasName : String) :
    FailsAs NotPredicate (c.openScan disk name aliasName) := by
  unfold openScan
  split
  · next path _ =>
    refine FailsAs.bind ?_ fun source _ => failsAs_ok _
    refine (Delimited.Source.failsAs_ofFile disk path (c.config.options c.decoders)).mono ?_
    rintro e (⟨fault, rfl⟩ | ⟨name, rfl⟩) <;> exact nofun
  · exact failsAs_ok _
  · exact failsAs_error nofun

-- ================================================================ joins

namespace Join

variable (predicate : Predicate)

/-- Before a join the predicate is checked, and this is the one step that
could blame it; here the check has been passed. -/
theorem failsAs_precheck (hvalid : predicate.validate = .ok ()) (limit : Option Nat)
    (scans : List Scan) (odometer : Odometer) :
    FailsAs NotPredicate (precheck predicate limit scans odometer) := by
  unfold precheck
  refine (failsAs_forM fun scan _ => ?_).bind fun _ _ => ?_
  -- the phases of the scans
  · split
    · exact failsAs_ok _
    · exact failsAs_error nofun
  -- the predicate, then the limit
  · rw [hvalid, ok_bind]
    cases limit with
    | none => exact failsAs_ok _
    | some limit =>
        dsimp only
        split
        · exact failsAs_error nofun
        · exact failsAs_ok _

/-- A join over a predicate that passes its check blames it nowhere, on
any scans and within any limit. -/
theorem failsAs_execute (hvalid : predicate.validate = .ok ()) (disk : Disk)
    (limit : Option Nat) (scans : List Scan) :
    FailsAs NotPredicate (execute predicate disk limit scans).1 :=
  failsAs_observing _ predicate (failsAs_precheck predicate hvalid limit scans _)
    (Scan.notPredicate_readRow disk) ()

end Join

-- ============================================================== running

namespace Command

/-- Each of the steps up to a scan that is ready is one of those above. -/
theorem failsAs_openRelation (disk : Disk) (catalog : Catalog) (q : Query) (r : Relation) :
    FailsAs NotPredicate (openRelation disk catalog q r) := by
  unfold openRelation
  refine (catalog.failsAs_openScan disk r.name r.aliasName).bind fun scan _ => ?_
  refine (scan.failsAs_select disk _).bind fun _ _ => ?_
  exact (Scan.failsAs_startRead _ _).bind fun _ _ => failsAs_ok _

/-- Columns of the result are blamed on their relation or on their
name. -/
theorem failsAs_outputColumns (q : Query) (scans : List Scan) :
    FailsAs NotPredicate (outputColumns q scans) := by
  unfold outputColumns
  split
  · exact failsAs_ok _
  -- a star takes what there is, so only named columns can be missing
  · refine failsAs_mapM fun c _ => ?_
    unfold projectedColumn
    split
    · exact failsAs_error nofun
    · split
      · exact failsAs_error nofun
      · exact failsAs_ok _

/-- A full join and a missing relation are both found before any file is
touched. -/
theorem failsAs_checkRelations (catalog : Catalog) (q : Query) :
    FailsAs NotPredicate (checkRelations catalog q) := by
  unfold checkRelations
  dsimp only
  split
  · exact failsAs_error nofun
  · split
    · exact failsAs_error nofun
    · exact failsAs_ok _

/-- No text is run in vain for its predicate. -/
theorem failsAs_executeReader (disk : Disk) (c : Command) :
    FailsAs NotPredicate (c.executeReader disk) := by
  unfold executeReader
  refine ((Query.failsAs_parse c.text).mono fun _ => Refusal.notPredicate).bind fun q hq => ?_
  refine (failsAs_checkRelations c.catalog q).bind fun _ _ => ?_
  refine (failsAs_mapM fun r _ => failsAs_openRelation disk c.catalog q r).bind
    fun scans _ => ?_
  have hvalid := (Statement.accepted_of_parse hq).validate_eq_ok
  refine (Join.failsAs_execute q.predicate.toPredicate hvalid disk _ scans).bind
    fun index _ => ?_
  exact (failsAs_outputColumns q _).bind fun columns _ => failsAs_ok _

/-- Whatever text is read, no step reaches outside of its tokens. If it
is accepted, its query is well formed; and on no catalogue does running
it fail for its predicate. -/
theorem parse_sound (text : String) :
    (Query.parseAt text).run = some (Query.parse text)
      ∧ (∀ q, Query.parse text = .ok q → Statement.WellFormed q)
      ∧ ∀ disk catalog fault,
          executeReader disk ⟨text, catalog⟩ ≠ .error (.invalidPredicate fault) := by
  refine ⟨?_, ?_, ?_⟩
  · rw [Query.parseAt_eq]
    rfl
  · exact fun q hq => Statement.wellFormed_of_parse hq
  · exact fun disk catalog fault h =>
      failsAs_executeReader disk ⟨text, catalog⟩ _ h fault rfl

/-- Brackets can hold a literal and a number that is not written as one
elsewhere. -/
theorem parse_sound_brackets :
    let text := "select [t.a] as b from [T.csv] t full join u
      on t.k = [u.k] where t.a <> ['it''s'] or t.n = [-1e3];"
    let q : Query := {
      projection := [⟨"t", "a", some "b", .text⟩]
      relations := [.knowing .leading "t" "t" ["a", "k", "n"], .knowing .full "u" "u" ["k"]]
      conditions := [⟨.and, ⟨"t", "k"⟩, .equal, .column ⟨"u", "k"⟩⟩,
        ⟨.and, ⟨"t", "a"⟩, .different, .text "it's"⟩,
        ⟨.or, ⟨"t", "n"⟩, .equal, .number "-1e3"⟩]
      wildcard := false }
    Query.parse text = .ok q ∧ Statement.WellFormed q := by
  intro text q
  have hparse : Query.parse text = .ok q := eq_ok_of_toOption (by decide +kernel)
  exact ⟨hparse, (parse_sound text).2.1 q hparse⟩

end Command

end FlatQuery
