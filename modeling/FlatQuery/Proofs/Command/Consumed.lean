/-
Three ways to a result: taken whole, read row by row, and the first
value alone. Over tables in memory they agree on every statement
(`consumed_alike`). They begin alike, so they fail alike; and the reader
that they begin with is steady, so nothing fails after that, and
wherever reading stops, the rows that were read and those taken whole
afterwards make up the result.
-/
import FlatQuery.Proofs.Command.Outcome

namespace FlatQuery.Command

open Statement Result

variable {disk : Disk} {c : Command} {reader : Reader}

/-- A reader that was given is one over tables in memory, before its first
row. -/
theorem steady_of_executeReader {tables : List (String × Table)} {limit : Option Nat}
    {text : String}
    (h : executeReader disk ⟨text, Catalog.registering tables limit⟩ = .ok reader) :
    reader.Steady := by
  obtain ⟨q, hparse, hrunnable⟩ := runnable_of_executeReader h
  obtain ⟨columns, hreader, hsteady, -, -⟩ := executeReader_of_runnable disk hparse hrunnable
  obtain rfl := Except.ok.inj (h.symm.trans hreader)
  exact hsteady

/-- What gives no reader has no result either, and no first value. -/
theorem execute_of_refused {e : Error} (h : c.executeReader disk = .error e) :
    c.executeQuery disk = .error e ∧ c.executeScalar disk = .error e := by
  unfold executeQuery executeScalar
  rw [h]
  exact ⟨rfl, rfl⟩

theorem executeQuery_of_steady (h : c.executeReader disk = .ok reader) (hsteady : reader.Steady) :
    c.executeQuery disk = .ok ⟨reader.columnNames, reader.left⟩ := by
  unfold executeQuery
  rw [h, ok_bind, hsteady.intoResult_left disk]

/-- The first value is that of the first row that is left. -/
theorem executeScalar_of_steady (h : c.executeReader disk = .ok reader)
    (hsteady : reader.Steady) :
    c.executeScalar disk = .ok (reader.left.head?.bind List.head?) := by
  unfold executeScalar
  rw [h, ok_bind]
  -- no row is left, a row without fields, or a row with a first value
  rcases hleft : reader.left with _ | ⟨row, rest⟩
  · rw [hsteady.read_nil hleft disk]
    split <;> rfl
  · have hlength : row.length = reader.fieldCount :=
      Reader.length_of_mem_left row (hleft ▸ List.mem_cons_self ..)
    rcases row with _ | ⟨value, values⟩
    · have hfields : reader.fieldCount = 0 := hlength.symm
      rw [if_pos hfields]
      rfl
    · obtain ⟨r', hread, hcurrent, -, -, hcolumns⟩ := hsteady.read_cons hleft disk
      have hfieldCount : r'.fieldCount = reader.fieldCount := congrArg List.length hcolumns
      have hvalue : r'.getValue 0 = .ok value :=
        Reader.getValue_zero hcurrent (hlength.trans hfieldCount.symm)
      have hfields : reader.fieldCount ≠ 0 := by
        rw [← hlength]
        exact Nat.succ_ne_zero _
      rw [if_neg hfields, hread]
      simp only [ok_bind, hvalue]
      rfl

/-- All ways of consuming a result agree. Whatever was registered, and
whatever the limit for joins, the text and the disks: to ask for a
reader, for the whole result and for the first value fails with one
error, or all three succeed. Then every row has a value for each field,
the first value is that of the first row, if it has one, and after any
number of reads the rows that were read and those taken whole afterwards
are the rows of the result, in their order. A read answers yes as long
as there is a row, which it makes current, and no from then on. -/
theorem consumed_alike (disk : Disk) (tables : List (String × Table)) (limit : Option Nat)
    (text : String) :
    let c : Command := ⟨text, Catalog.registering tables limit⟩
    (∃ e, c.executeReader disk = .error e ∧ c.executeQuery disk = .error e
        ∧ c.executeScalar disk = .error e)
      ∨ ∃ reader result, c.executeReader disk = .ok reader ∧ c.executeQuery disk = .ok result
        ∧ c.executeScalar disk = .ok (result.rows.head?.bind List.head?)
        ∧ (∀ row ∈ result.rows, row.length = reader.fieldCount)
        ∧ ∀ disks last,
          (reader.readEach disks).1
              = (result.rows.take disks.length).map (fun row => (.ok true, some row))
                ++ List.replicate (disks.length - result.rows.length) (.ok false, none)
            ∧ (reader.readEach disks).2.intoResult last
              = .ok ⟨result.columns, result.rows.drop disks.length⟩ := by
  intro c
  rcases hreader : c.executeReader disk with e | reader
  · exact .inl ⟨e, rfl, execute_of_refused hreader⟩
  · have hsteady := steady_of_executeReader hreader
    refine .inr ⟨reader, _, rfl, executeQuery_of_steady hreader hsteady,
      executeScalar_of_steady hreader hsteady, Reader.length_of_mem_left, fun disks last => ?_⟩
    obtain ⟨hanswers, hlater, hleft, hcolumns⟩ := hsteady.readEach_eq disks
    refine ⟨hanswers, ?_⟩
    rw [hlater.intoResult_left last, hleft, Reader.columnNames, hcolumns]
    rfl

end FlatQuery.Command
