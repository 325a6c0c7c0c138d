/-
The layers of a configuration: the variables and the options are layers
on what a file or a preset says, each with a value for the fields that
it names (`Layer.atop`). To set fields one after the other is to put a
layer on a configuration (`setAll_settings`), and to take over variables
is to put on top what they spell (`override_eq_ok`).
-/
import FlatQuery.Config
import FlatQuery.Proofs.Result
import FlatQuery.Proofs.Text.Folding

namespace FlatQuery

open Text Result

namespace Config

-- ============================================================== layers

/-- A value for every field that the layer names. -/
structure Layer where
  directory : Option String
  separator : Option Char
  quote : Option Char
  encoding : Option String
  hasHeader : Option Bool
  /-- The inner `none` stands for any number of combinations. -/
  maxCombinations : Option (Option Nat)
  logLevel : Option String

namespace Layer

/-- The configuration with the layer on top: in each field what the
layer names, or else what was there. -/
def atop (l : Layer) (c : Config) : Config where
  environment := c.environment
  data := {
    directory := l.directory.getD c.data.directory
    separator := l.separator.getD c.data.separator
    quote := l.quote.getD c.data.quote
    hasHeader := l.hasHeader.getD c.data.hasHeader
    encoding := l.encoding.getD c.data.encoding }
  maxCombinations := l.maxCombinations.getD c.maxCombinations
  logLevel := l.logLevel.getD c.logLevel
  logFormat := c.logFormat

/-- Two layers as one: in each field what the upper one names, or else
what the lower one does. -/
def on (upper lower : Layer) : Layer where
  directory := upper.directory.or lower.directory
  separator := upper.separator.or lower.separator
  quote := upper.quote.or lower.quote
  encoding := upper.encoding.or lower.encoding
  hasHeader := upper.hasHeader.or lower.hasHeader
  maxCombinations := upper.maxCombinations.or lower.maxCombinations
  logLevel := upper.logLevel.or lower.logLevel

/-- Laying one layer on another and both on a configuration is laying them one
after the other. -/
theorem on_atop (upper lower : Layer) (c : Config) :
    (upper.on lower).atop c = upper.atop (lower.atop c) := by
  simp only [atop, on, Option.getD_or]

/-- What the layer sets, field by field. -/
def settings (l : Layer) : List Setting :=
  (l.directory.map .directory).toList
    ++ (l.separator.map .separator).toList
    ++ (l.quote.map .quote).toList
    ++ (l.encoding.map .encoding).toList
    ++ (l.hasHeader.map .header).toList
    ++ (l.maxCombinations.map .maxCombinations).toList
    ++ (l.logLevel.map .logLevel).toList

end Layer

theorem setAll_append (c : Config) (front back : List Setting) :
    c.setAll (front ++ back) = (c.setAll front).setAll back :=
  List.foldl_append

/-- To set a field to what it is changes nothing, so a field that may not
be named can be set in any case. -/
theorem setAll_toList {α : Type} (field : α → Setting) (get : Config → α)
    (hget : ∀ c : Config, c.set (field (get c)) = c) (named : Option α) (c : Config) :
    c.setAll (named.map field).toList = c.set (field (named.getD (get c))) := by
  cases named with
  | none => exact (hget c).symm
  | some a => rfl

/-- To set what a layer names is to put the layer on top. -/
theorem setAll_settings (l : Layer) (c : Config) : c.setAll l.settings = l.atop c := by
  unfold Layer.settings
  rw [setAll_append, setAll_append, setAll_append, setAll_append, setAll_append, setAll_append,
    setAll_toList .directory (·.data.directory) (fun _ => rfl),
    setAll_toList .separator (·.data.separator) (fun _ => rfl),
    setAll_toList .quote (·.data.quote) (fun _ => rfl),
    setAll_toList .encoding (·.data.encoding) (fun _ => rfl),
    setAll_toList .header (·.data.hasHeader) (fun _ => rfl),
    setAll_toList .maxCombinations (·.maxCombinations) (fun _ => rfl),
    setAll_toList .logLevel (·.logLevel) (fun _ => rfl)]
  rfl

-- ============================================================ variables

/-- How a limit is written: as a natural number below 2 ^ 64, perhaps
with a plus, or as the word for no limit, in any case. -/
inductive SpellsLimit (text : String) : Option Nat → Prop where
  | unlimited (h : sameFolded text "none" = true) : SpellsLimit text none
  | limited {digits : List Char} (hsign : text.toList = digits ∨ text.toList = '+' :: digits)
      (hne : digits ≠ []) (hdigits : ∀ d ∈ digits, isDigit d = true)
      (hbound : Numeral.natOf digits ≤ largestLimit) :
      SpellsLimit text (some (Numeral.natOf digits))

/-- What follows the plus, if there is one. -/
def unsigned : List Char → List Char
  | '+' :: rest => rest
  | cs => cs

theorem eq_unsigned (cs : List Char) : cs = unsigned cs ∨ cs = '+' :: unsigned cs := by
  unfold unsigned
  split
  · exact .inr rfl
  · exact .inl rfl

theorem unsigned_of_digits {cs digits : List Char} (hdigits : ∀ d ∈ digits, isDigit d = true)
    (hsign : cs = digits ∨ cs = '+' :: digits) : unsigned cs = digits := by
  rcases hsign with rfl | rfl
  · unfold unsigned
    split
    · exact absurd (hdigits '+' (List.mem_cons_self ..)) (by decide)
    · rfl
  · rfl

theorem natural?_eq (text : String) :
    natural? text
      = if (unsigned text.toList).isEmpty || !(unsigned text.toList).all isDigit then none
        else if Numeral.natOf (unsigned text.toList) ≤ largestLimit then
          some (Numeral.natOf (unsigned text.toList))
        else none :=
  rfl

/-- It is read from the ways of writing it, and from no other text. -/
theorem natural?_eq_some {text : String} {n : Nat} :
    natural? text = some n ↔ SpellsLimit text (some n) := by
  rw [natural?_eq]
  constructor
  · intro h
    split at h
    · cases h
    next hdigits =>
    split at h
    next hbound =>
      cases h
      rw [Bool.or_eq_true, not_or, List.isEmpty_iff, Bool.not_eq_true', Bool.not_eq_false,
        List.all_eq_true] at hdigits
      exact .limited (eq_unsigned _) hdigits.1 hdigits.2 hbound
    · cases h
  · intro h
    cases h with
    | limited hsign hne hdigits hbound =>
        rw [unsigned_of_digits hdigits hsign, List.all_eq_true.2 hdigits,
          List.isEmpty_eq_false_iff.2 hne, if_pos hbound]
        rfl

/-- A number is not the word for no limit. -/
theorem sameFolded_none_of_spells {text : String} {n : Nat} (h : SpellsLimit text (some n)) :
    sameFolded text "none" = false := by
  refine Bool.eq_false_iff.2 fun hnone => ?_
  rw [Columns.sameFolded_iff] at hnone
  cases h with
  | @limited digits hsign hne hdigits hbound =>
      obtain ⟨d, rest, rfl⟩ := List.exists_cons_of_ne_nil hne
      rcases hsign with hsign | hsign
      · rw [hsign] at hnone
        have hletter : foldChar d = 'n' := (List.cons.inj hnone).1
        have hdigit := hdigits d (List.mem_cons_self ..)
        rw [← isDigit_foldChar, hletter] at hdigit
        cases hdigit
      · rw [hsign] at hnone
        exact absurd (List.cons.inj hnone).1 (by decide)

/-- A limit is written as its number, or as the word for none. -/
theorem limit_eq_ok {name text : String} {m : Option Nat} :
    limit name text = .ok m ↔ SpellsLimit text m := by
  unfold limit
  -- the word for no limit, in any case, or a number
  by_cases hnone : sameFolded text "none" = true
  · rw [if_pos hnone]
    constructor
    · intro h
      cases h
      exact .unlimited hnone
    · intro h
      cases m with
      | none => rfl
      | some n => cases hnone.symm.trans (sameFolded_none_of_spells h)
  · rw [if_neg hnone]
    cases m with
    | none =>
        refine iff_of_false ?_ fun h => ?_
        · split <;> exact nofun
        · cases h
          contradiction
    | some n =>
        rw [← natural?_eq_some]
        cases natural? text with
        | none => exact iff_of_false nofun nofun
        | some k => simp

/-- A character is written as itself. -/
theorem oneChar_eq_ok {name text : String} {c : Char} :
    oneChar name text = .ok c ↔ text = String.singleton c := by
  rw [← String.toList_inj, String.toList_singleton]
  unfold oneChar
  split
  next d hd => rw [hd, List.singleton_inj, Except.ok.injEq]
  next hmany =>
    refine iff_of_false nofun fun hc => ?_
    exact hmany c hc

/-- A truth value is written as its name. -/
theorem truth_eq_ok {name text : String} {b : Bool} :
    truth name text = .ok b ↔ text = toString b := by
  unfold truth
  split
  next htrue =>
    rw [htrue]
    cases b with
    | true => exact iff_of_true rfl rfl
    | false => exact iff_of_false nofun (by decide)
  next htrue =>
    split
    next hfalse =>
      rw [hfalse]
      cases b with
      | true => exact iff_of_false nofun (by decide)
      | false => exact iff_of_true rfl rfl
    next hfalse =>
      cases b with
      | true => exact iff_of_false nofun htrue
      | false => exact iff_of_false nofun hfalse

/-- The variables are set where the layer names a field, to its value as
it is written. Of the two variables for the level of the log the
engine's own is the one that counts. -/
structure Layer.WrittenIn (l : Layer) (vars : Variables) : Prop where
  directory : vars "POLLYDB_DATA_DIR" = l.directory
  separator : vars "POLLYDB_SEPARATOR" = l.separator.map String.singleton
  quote : vars "POLLYDB_QUOTE" = l.quote.map String.singleton
  encoding : vars "POLLYDB_ENCODING" = l.encoding
  hasHeader : vars "POLLYDB_HEADER" = l.hasHeader.map toString
  maxCombinations : Option.Rel SpellsLimit (vars "POLLYDB_MAX_COMBINATIONS") l.maxCombinations
  logLevel : (vars "POLLYDB_LOG_LEVEL").or (vars "LOG_LEVEL") = l.logLevel

/-- Takes over one variable. -/
def adopt (vars : Variables) (c : Config) (reader : String × (String → Result Setting)) :
    Result Config :=
  match vars reader.1 with
  | none => pure c
  | some text => (reader.2 text).map c.set

theorem override_eq (vars : Variables) (c : Config) :
    c.override vars
      = readers.foldlM (adopt vars) c >>= fun c => .ok (c.setAll (logLevelOf vars).toList) :=
  rfl

section adopt

variable {α : Type} {vars : Variables} {c c' : Config} {name : String}
  {read : String → Result α} {field : α → Setting}
  {rest : List (String × (String → Result Setting))}

/-- A variable that is set must spell a value, and sets its field to
it. -/
theorem adopt_eq_ok {Spells : String → α → Prop}
    (hread : ∀ text a, read text = .ok a ↔ Spells text a) :
    c.adopt vars (name, fun text => (read text).map field) = .ok c'
      ↔ ∃ named, Option.Rel Spells (vars name) named ∧ c.setAll (named.map field).toList = c' := by
  unfold adopt
  dsimp only
  -- an absent variable sets nothing; one that is there is read and then
  -- set
  cases vars name with
  | none =>
      constructor
      · intro h
        cases h
        exact ⟨none, .none, rfl⟩
      · rintro ⟨_, ⟨⟩, rfl⟩
        rfl
  | some text =>
      have hset : ((read text).map field).map c.set = .ok c'
          ↔ ∃ a, read text = .ok a ∧ c.set (field a) = c' := by
        cases read text with
        | error e => exact iff_of_false nofun nofun
        | ok a => simp [Except.map]
      constructor
      · intro h
        obtain ⟨a, ha, rfl⟩ := hset.1 h
        exact ⟨some a, .some ((hread text a).1 ha), rfl⟩
      · rintro ⟨_, ⟨hspells⟩, rfl⟩
        exact hset.2 ⟨_, (hread text _).2 hspells, rfl⟩

theorem adopt_cons_eq_ok {Spells : String → α → Prop}
    (hread : ∀ text a, read text = .ok a ↔ Spells text a) :
    ((name, fun text => (read text).map field) :: rest).foldlM (adopt vars) c = .ok c'
      ↔ ∃ named, Option.Rel Spells (vars name) named
          ∧ rest.foldlM (adopt vars) (c.setAll (named.map field).toList) = .ok c' := by
  rw [foldlM_cons_eq_ok]
  constructor
  · rintro ⟨next, hnext, hrest⟩
    obtain ⟨named, hnamed, rfl⟩ := (adopt_eq_ok hread).1 hnext
    exact ⟨named, hnamed, hrest⟩
  · rintro ⟨named, hnamed, hrest⟩
    exact ⟨_, (adopt_eq_ok hread).2 ⟨named, hnamed, rfl⟩, hrest⟩

theorem rel_eq_iff {write : α → String} {text : Option String} {named : Option α} :
    Option.Rel (fun text a => text = write a) text named ↔ text = named.map write := by
  cases text with
  | none =>
      cases named with
      | none => exact iff_of_true .none rfl
      | some a => exact iff_of_false nofun nofun
  | some text =>
      cases named with
      | none => exact iff_of_false nofun nofun
      | some a =>
          rw [Option.map_some, Option.some_inj]
          exact ⟨fun | .some h => h, fun h => .some h⟩

end adopt

/-- A layer put on top field by field, in the order in which variables
are read. -/
theorem atop_eq_setAll (l : Layer) (c : Config) :
    l.atop c = ((((((c.setAll (l.directory.map .directory).toList).setAll
      (l.separator.map .separator).toList).setAll (l.quote.map .quote).toList).setAll
      (l.encoding.map .encoding).toList).setAll (l.hasHeader.map .header).toList).setAll
      (l.maxCombinations.map .maxCombinations).toList).setAll
      (l.logLevel.map .logLevel).toList := by
  rw [← setAll_settings, Layer.settings, setAll_append, setAll_append, setAll_append,
    setAll_append, setAll_append, setAll_append]

/-- Variables are taken over if each that is set is well written, and
what they spell is then on top. -/
theorem override_eq_ok {vars : Variables} {c c' : Config} :
    c.override vars = .ok c' ↔ ∃ l : Layer, l.WrittenIn vars ∧ l.atop c = c' := by
  have hplain : ∀ text a : String, (.ok text : Result String) = .ok a ↔ text = id a :=
    fun _ _ => ⟨Except.ok.inj, congrArg _⟩
  -- one variable after the other, in the order they are looked at; each
  -- step has its own spelling
  rw [override_eq, bind_eq_ok]
  constructor
  · rintro ⟨last, hrun, hlog⟩
    obtain ⟨directory, hdirectory, hrun⟩ := (adopt_cons_eq_ok hplain).1 hrun
    obtain ⟨separator, hseparator, hrun⟩ := (adopt_cons_eq_ok fun _ _ => oneChar_eq_ok).1 hrun
    obtain ⟨quote, hquote, hrun⟩ := (adopt_cons_eq_ok fun _ _ => oneChar_eq_ok).1 hrun
    obtain ⟨encoding, hencoding, hrun⟩ := (adopt_cons_eq_ok hplain).1 hrun
    obtain ⟨hasHeader, hheader, hrun⟩ := (adopt_cons_eq_ok fun _ _ => truth_eq_ok).1 hrun
    obtain ⟨maxCombinations, hlimit, hrun⟩ := (adopt_cons_eq_ok fun _ _ => limit_eq_ok).1 hrun
    cases hrun
    refine ⟨⟨directory, separator, quote, encoding, hasHeader, maxCombinations, _⟩,
      ⟨?_, rel_eq_iff.1 hseparator, rel_eq_iff.1 hquote, ?_, rel_eq_iff.1 hheader, hlimit, rfl⟩, ?_⟩
    · rw [rel_eq_iff.1 hdirectory, Option.map_id_fun, id]
    · rw [rel_eq_iff.1 hencoding, Option.map_id_fun, id]
    · rw [atop_eq_setAll]
      exact Except.ok.inj hlog
  · rintro ⟨l, hl, rfl⟩
    have hdirectory : vars "POLLYDB_DATA_DIR" = l.directory.map id := by
      rw [hl.directory, Option.map_id_fun, id]
    have hencoding : vars "POLLYDB_ENCODING" = l.encoding.map id := by
      rw [hl.encoding, Option.map_id_fun, id]
    rw [atop_eq_setAll, ← hl.logLevel]
    refine ⟨_, (adopt_cons_eq_ok hplain).2 ⟨_, rel_eq_iff.2 hdirectory, ?_⟩, rfl⟩
    refine (adopt_cons_eq_ok fun _ _ => oneChar_eq_ok).2 ⟨_, rel_eq_iff.2 hl.separator, ?_⟩
    refine (adopt_cons_eq_ok fun _ _ => oneChar_eq_ok).2 ⟨_, rel_eq_iff.2 hl.quote, ?_⟩
    refine (adopt_cons_eq_ok hplain).2 ⟨_, rel_eq_iff.2 hencoding, ?_⟩
    refine (adopt_cons_eq_ok fun _ _ => truth_eq_ok).2 ⟨_, rel_eq_iff.2 hl.hasHeader, ?_⟩
    exact (adopt_cons_eq_ok fun _ _ => limit_eq_ok).2 ⟨_, hl.maxCombinations, rfl⟩

end Config

end FlatQuery
