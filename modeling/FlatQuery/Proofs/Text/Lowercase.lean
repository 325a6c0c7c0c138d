/-
Lowercase twice is lowercase once. A character is small (`IsSmall`) if
taking lowercase leaves it as it is, whatever stands beside it. That all
characters of a lowercase text are small is read off the tables of the
standard: no run moves a code point onto one that moves again.
-/
import FlatQuery.Text.Lowercase

namespace FlatQuery.Text

/-- Left alone by lowercase, whatever stands beside it. -/
def IsSmall (c : Char) : Prop := c.toNat ≠ 0x3A3 ∧ lowerChar c = [c]

/-- The test for small characters. -/
def isSmall (c : Char) : Bool := c.toNat != 0x3A3 && lowerChar c == [c]

/-- The test decides it. -/
theorem isSmall_iff {c : Char} : isSmall c = true ↔ IsSmall c := by
  unfold isSmall IsSmall
  rw [Bool.and_eq_true, bne_iff_ne, beq_iff_eq]

-- ========================================================== the tables

/-- A code point without a rule of its own. -/
def plain (n : Nat) : Bool := n ≠ 0x130 && n ≠ 0x3A3

/-- A code point that no rule moves. -/
def Fixed (n : Nat) : Prop := plain n = true ∧ ∀ run ∈ lowercaseRuns, run.covers n = false

/-- Where the run moves a code point. -/
def CaseRun.land (run : CaseRun) (n : Nat) : Nat := (n + run.shift).toNat

/-- What `run` moves lands beside `other`: before it, behind it, or in
the gaps between its steps. -/
def CaseRun.misses (run other : CaseRun) : Bool :=
  Nat.blt (run.land run.last) other.first || Nat.blt other.last (run.land run.first)
    || ((run.stride == 2 || run.first == run.last) && other.stride == 2
      && (run.land run.first + other.first) % 2 == 1)

/-- Beside a run, nothing that lands is covered: it is out of the range,
or of the wrong parity. -/
theorem CaseRun.covers_eq_false_of_misses {run other : CaseRun}
    (h : run.misses other = true) {n : Nat} (hn : run.covers n = true)
    (hfirst : run.land run.first = run.first + run.shift) :
    other.covers (run.land n) = false := by
  refine Bool.eq_false_iff.2 fun hcovers => ?_
  simp only [covers, Bool.and_eq_true, decide_eq_true_eq, beq_iff_eq] at hn hcovers
  simp only [misses, Bool.and_eq_true, Bool.or_eq_true, beq_iff_eq, Nat.blt_eq] at h
  simp only [land] at h hfirst hcovers
  obtain ⟨⟨hlow, hhigh⟩, hstep⟩ := hn
  obtain ⟨⟨hlow', hhigh'⟩, hstep'⟩ := hcovers
  -- before, behind, or between the steps of the other run
  rcases h with (h | h) | ⟨⟨h, h'⟩, hodd⟩
  · omega
  · omega
  · rw [h'] at hstep'
    rcases h with h | h
    · rw [h] at hstep
      omega
    · omega

/-- No run moves a code point onto one that some run moves. -/
private theorem misses_of_mem_runs :
    (lowercaseRuns.all fun run => lowercaseRuns.all run.misses) = true := by
  decide +kernel

/-- The code points from the first of a run to its last. -/
def CaseRun.codes (run : CaseRun) : List Nat :=
  (List.range (run.last - run.first + 1)).map (run.first + ·)

/-- What a run covers is one of its code points. -/
theorem CaseRun.mem_codes {run : CaseRun} {n : Nat} (h : run.covers n = true) :
    n ∈ run.codes := by
  simp only [covers, Bool.and_eq_true, decide_eq_true_eq] at h
  exact List.mem_map.2 ⟨n - run.first, List.mem_range.2 (by omega), by omega⟩

/-- What the runs move stays a character, and a plain one. -/
private theorem plain_of_mem_runs : ∀ run ∈ lowercaseRuns,
    (run.land run.first : Int) = run.first + run.shift
      ∧ ∀ n ∈ run.codes, (Char.ofNat (run.land n)).toNat = run.land n
        ∧ plain (run.land n) = true := by
  decide +kernel

/-- So what a run moves is moved by no run again. -/
theorem fixed_of_covers {run : CaseRun} (hrun : run ∈ lowercaseRuns) {n : Nat}
    (hn : run.covers n = true) : Fixed (Char.ofNat (run.land n)).toNat := by
  -- that it stays a character was checked for each code point, that no run
  -- covers it for each pair of runs
  obtain ⟨hfirst, hcodes⟩ := plain_of_mem_runs run hrun
  obtain ⟨hchar, hplain⟩ := hcodes n (CaseRun.mem_codes hn)
  rw [hchar]
  refine ⟨hplain, fun other hother => ?_⟩
  have hmisses :=
    List.all_eq_true.1 (List.all_eq_true.1 misses_of_mem_runs run hrun) other hother
  exact CaseRun.covers_eq_false_of_misses hmisses hn hfirst

/-- In ASCII only capitals change, and they become small. -/
private theorem lowercase_ascii : ∀ n < 0x80,
    (CaseRun.covers ⟨0x41, 0x5A, 1, 32⟩ n = false → lowerChar (Char.ofNat n) = [Char.ofNat n])
      ∧ (lowerChar (Char.ofNat n)).all isSmall = true := by
  decide +kernel

/-- Such a character is its own lowercase: in ASCII by the table of
capitals, and beyond it because no run is found. -/
theorem isSmall_of_fixed {c : Char} (h : Fixed c.toNat) : IsSmall c := by
  obtain ⟨hplain, hruns⟩ := h
  obtain ⟨hdotted, hsigma⟩ : c.toNat ≠ 0x130 ∧ c.toNat ≠ 0x3A3 := by
    simpa [plain] using hplain
  refine ⟨hsigma, ?_⟩
  by_cases hascii : c.toNat < 0x80
  · have hsmall := (lowercase_ascii c.toNat hascii).1 (hruns _ (by decide))
    rwa [Char.ofNat_toNat] at hsmall
  · have hnone : lowercaseRuns.find? (·.covers c.toNat) = none :=
      List.find?_eq_none.2 fun run hrun => by simp [hruns run hrun]
    rw [lowerChar, if_neg hascii, if_neg hdotted, hnone]

/-- The lowercase of a character is small. -/
theorem isSmall_of_mem_lowerChar {c d : Char} (hc : c.toNat ≠ 0x3A3)
    (hd : d ∈ lowerChar c) :
    IsSmall d := by
  by_cases hascii : c.toNat < 0x80
  · have hall := (lowercase_ascii c.toNat hascii).2
    rw [Char.ofNat_toNat] at hall
    exact isSmall_iff.1 (List.all_eq_true.1 hall d hd)
  -- beyond ASCII: the dotted capital i, which becomes two characters, or
  -- at most one run
  rw [lowerChar, if_neg hascii] at hd
  split at hd
  · have hboth : ['i', Char.ofNat 0x307].all isSmall = true := rfl
    exact isSmall_iff.1 (List.all_eq_true.1 hboth d hd)
  · next hdotted =>
    cases hfind : lowercaseRuns.find? (·.covers c.toNat) with
    | none =>
        simp only [hfind, List.mem_singleton] at hd
        subst hd
        exact ⟨hc, by rw [lowerChar, if_neg hascii, if_neg hdotted, hfind]⟩
    | some run =>
        simp only [hfind, List.mem_singleton] at hd
        subst hd
        have hcovers : run.covers c.toNat = true := by simpa using List.find?_some hfind
        exact isSmall_of_fixed (fixed_of_covers (List.mem_of_find?_eq_some hfind) hcovers)

-- =============================================================== texts

/-- The lowercase of a text is small throughout; the two small sigmas are,
whichever is taken. -/
theorem isSmall_of_mem_lowerFrom {before cs : List Char} {d : Char}
    (h : d ∈ lowerFrom before cs) : IsSmall d := by
  induction cs generalizing before with
  | nil => cases h
  | cons c cs ih =>
      -- what the first character became, or what those behind it did
      rcases List.mem_append.1 h with h | h
      · split at h
        · have hsigmas : ∀ last : Bool,
              isSmall (Char.ofNat (if last then 0x3C2 else 0x3C3)) = true := by
            intro last
            cases last with
            | true => rfl
            | false => rfl
          rw [List.mem_singleton.1 h]
          exact isSmall_iff.1 (hsigmas _)
        · next hc => exact isSmall_of_mem_lowerChar hc h
      · exact ih h

/-- Small characters at the beginning stay there. -/
theorem lowerFrom_append {cs : List Char} (h : ∀ c ∈ cs, IsSmall c)
    (before rest : List Char) :
    lowerFrom before (cs ++ rest) = cs ++ lowerFrom (cs.reverse ++ before) rest := by
  induction cs generalizing before with
  | nil => rfl
  | cons c cs ih =>
      obtain ⟨⟨hsigma, hc⟩, hcs⟩ := List.forall_mem_cons.1 h
      rw [List.cons_append, lowerFrom, if_neg hsigma, hc, ih hcs]
      simp

/-- A small beginning of a text stays when lowercase is taken, whatever
follows it. -/
theorem lowercase_append {s t : String} (h : ∀ c ∈ s.toList, IsSmall c) :
    ∃ u : String, lowercase (s ++ t) = s ++ u := by
  refine ⟨String.ofList (lowerFrom (s.toList.reverse ++ []) t.toList), ?_⟩
  rw [lowercase, String.toList_append, lowerFrom_append h, String.ofList_append,
    String.ofList_toList]

/-- A small text is its own lowercase. -/
theorem lowercase_of_isSmall {s : String} (h : ∀ c ∈ s.toList, IsSmall c) :
    lowercase s = s := by
  have := lowerFrom_append h [] []
  rw [List.append_nil, lowerFrom, List.append_nil] at this
  rw [lowercase, this, String.ofList_toList]

/-- Every character of a lowercase text is small. -/
theorem isSmall_of_mem_lowercase {s : String} :
    ∀ c ∈ (lowercase s).toList, IsSmall c := by
  intro c hc
  rw [lowercase, String.toList_ofList] at hc
  exact isSmall_of_mem_lowerFrom hc

/-- So lowercase twice is lowercase once. -/
theorem lowercase_lowercase (s : String) : lowercase (lowercase s) = lowercase s :=
  lowercase_of_isSmall isSmall_of_mem_lowercase

/-- No character is lost. -/
theorem lowerChar_ne_nil (c : Char) : lowerChar c ≠ [] := by
  unfold lowerChar
  split
  · exact nofun
  · split
    · exact nofun
    · split <;> exact nofun

/-- Nor is the first one of a text. -/
theorem lowerFrom_cons_ne_nil (before : List Char) (c : Char) (cs : List Char) :
    lowerFrom before (c :: cs) ≠ [] := by
  rw [lowerFrom, Ne, List.append_eq_nil_iff]
  intro hnil
  split at hnil
  · exact absurd hnil.1 nofun
  · exact lowerChar_ne_nil c hnil.1

/-- Lowercase leaves no text empty that is not. -/
theorem lowercase_ne_empty {s : String} (h : s ≠ "") : lowercase s ≠ "" := by
  rw [Ne, ← String.toList_eq_nil_iff] at h ⊢
  rw [lowercase, String.toList_ofList]
  cases hs : s.toList with
  | nil => exact absurd hs h
  | cons c cs => exact lowerFrom_cons_ne_nil [] c cs

end FlatQuery.Text
