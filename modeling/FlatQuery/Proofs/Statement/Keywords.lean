/-
Keywords in whatever case. A clause keeps its keywords in lowercase, the
lowercase of every script, but compares them with tokens by folding,
which knows the letters of ASCII only. So a token is taken for a keyword
exactly if it has the lowercase of the keyword and no capitals beyond
ASCII (`Text.sameFolded_lowercase_iff`). Tokens with such capitals are
no keywords, not even where the clause was given the very same words
(`extract_ofKeywords`).
-/
import FlatQuery.Proofs.Statement.Partition
import FlatQuery.Proofs.Text.Folding

namespace FlatQuery.Clause

open Text

variable {start terminators words tokens tokens' : List String} {t t' : String}

-- ============================================================ one token

/-- A token ends a clause if it is one of the words the clause was given,
up to case, and has no capitals beyond ASCII. -/
theorem isTerminator_ofKeywords :
    (ofKeywords start terminators).isTerminator t = true
      ↔ AsciiCased t ∧ ∃ word ∈ terminators, lowercase t = lowercase word := by
  unfold isTerminator ofKeywords
  dsimp only
  rw [List.any_eq_true]
  constructor
  · rintro ⟨_, hkeyword, hsame⟩
    obtain ⟨word, hword, rfl⟩ := List.mem_map.1 hkeyword
    obtain ⟨hcased, hlower⟩ := sameFolded_lowercase_iff.1 hsame
    exact ⟨hcased, word, hword, hlower⟩
  · rintro ⟨hcased, word, hword, hlower⟩
    exact ⟨_, List.mem_map_of_mem hword, sameFolded_lowercase_iff.2 ⟨hcased, hlower⟩⟩

-- ======================================================== lists of tokens

/-- Tokens that agree in lowercase, one by one, and lists that do. -/
theorem forall₂_lowercase_iff :
    List.Forall₂ (fun t t' => lowercase t = lowercase t') tokens tokens'
      ↔ tokens.map lowercase = tokens'.map lowercase := by
  rw [← List.forall₂_eq_eq_eq, List.forall₂_map_left_iff, List.forall₂_map_right_iff]

/-- The same for the words a clause begins with, all of them at once. -/
theorem starts_ofKeywords :
    (ofKeywords start terminators).Starts words
      ↔ (∀ word ∈ words, AsciiCased word) ∧ words.map lowercase = start.map lowercase := by
  unfold Starts ofKeywords
  simp only [List.forall₂_map_right_iff, sameFolded_lowercase_iff]
  rw [List.forall₂_and_left, forall₂_lowercase_iff]

/-- How many tokens are the clause's, if it begins with its keywords. The
others are the rest. -/
def size? (clause : Clause) (tokens : List String) : Option Nat :=
  (clause.extract tokens).toOption.map fun found => found.1.length

/-- The tokens differ in case only. If that makes keywords of them, both
or neither have capitals beyond ASCII. -/
def SameWord (keywords : List String) (t t' : String) : Prop :=
  lowercase t = lowercase t'
    ∧ ((∃ word ∈ keywords, lowercase t = lowercase word) → (AsciiCased t ↔ AsciiCased t'))

/-- To differ in case only is mutual. -/
theorem SameWord.symm {keywords : List String} (h : SameWord keywords t t') :
    SameWord keywords t' t :=
  ⟨h.1.symm, fun hkeyword => (h.2 (h.1 ▸ hkeyword)).symm⟩

/-- Without capitals beyond ASCII it is the lowercase that counts. -/
theorem forall₂_sameWord (h : ∀ t ∈ tokens, AsciiCased t) (h' : ∀ t ∈ tokens', AsciiCased t)
    (hlower : tokens.map lowercase = tokens'.map lowercase) (keywords : List String) :
    List.Forall₂ (SameWord keywords) tokens tokens' := by
  rw [← forall₂_lowercase_iff, List.forall₂_iff_zip] at hlower
  refine List.forall₂_iff_zip.2 ⟨hlower.1, fun hpair => ⟨hlower.2 hpair, fun _ => ?_⟩⟩
  obtain ⟨ht, ht'⟩ := List.of_mem_zip hpair
  exact iff_of_true (h _ ht) (h' _ ht')

/-- Such tokens end the same clauses. -/
theorem isTerminator_sameWord (h : SameWord (start ++ terminators) t t') :
    (ofKeywords start terminators).isTerminator t
      = (ofKeywords start terminators).isTerminator t' := by
  -- with one lowercase they are terminators alike; the capitals are what
  -- the second half of the assumption is for
  rw [Bool.eq_iff_iff, isTerminator_ofKeywords, isTerminator_ofKeywords, ← h.1]
  refine and_congr_left fun ⟨word, hword, hlower⟩ => ?_
  exact h.2 ⟨word, List.mem_append_right _ hword, hlower⟩

/-- And they begin the same clauses. -/
theorem starts_sameWord {words' : List String}
    (h : List.Forall₂ (SameWord (start ++ terminators)) words words')
    (hstarts : (ofKeywords start terminators).Starts words) :
    (ofKeywords start terminators).Starts words' := by
  have hlower : words.map lowercase = words'.map lowercase :=
    forall₂_lowercase_iff.1 (h.imp fun _ _ hsame => hsame.1)
  obtain ⟨hcased, hstart⟩ := starts_ofKeywords.1 hstarts
  refine starts_ofKeywords.2 ⟨fun word' hword' => ?_, hlower.symm.trans hstart⟩
  -- each word is the lowercase of a keyword, so its own pair of words says
  -- that capitals beyond ASCII are in both or in neither
  obtain ⟨i, hi, rfl⟩ := List.getElem_of_mem hword'
  have hlt : i < words.length := h.length_eq ▸ hi
  have hmem : words[i] ∈ words := List.getElem_mem hlt
  have hsame : SameWord (start ++ terminators) words[i] words'[i] := h.get hlt hi
  obtain ⟨keyword, hkeyword, hsaid⟩ := List.mem_map.1 (hstart ▸ List.mem_map_of_mem hmem)
  exact (hsame.2 ⟨keyword, List.mem_append_left _ hkeyword, hsaid.symm⟩).1 (hcased _ hmem)

/-- Where the one list begins the clause, the other does too, and the
other way round. -/
theorem begins_sameWord
    (h : List.Forall₂ (SameWord (start ++ terminators)) tokens tokens') :
    (ofKeywords start terminators).begins tokens
      = (ofKeywords start terminators).begins tokens' := by
  rw [Bool.eq_iff_iff, begins_iff, begins_iff]
  exact ⟨starts_sameWord (List.forall₂_take _ h),
    starts_sameWord (List.forall₂_take _ (h.flip.imp fun _ _ => SameWord.symm))⟩

/-- A prefix taken by a test is as long in two lists that the test does
not tell apart. -/
theorem length_takeWhile_congr {α : Type} {p : α → Bool} {l l' : List α}
    (h : List.Forall₂ (fun a a' => p a = p a') l l') :
    (l.takeWhile p).length = (l'.takeWhile p).length := by
  induction h with
  | nil => rfl
  | @cons a a' l l' ha hl ih =>
      rw [List.takeWhile_cons, List.takeWhile_cons, ← ha]
      split
      · rw [List.length_cons, List.length_cons, ih]
      · rfl

/-- A clause is as long as its keywords and the tokens up to the next
terminator. -/
theorem size?_eq (clause : Clause) (tokens : List String) :
    clause.size? tokens
      = if clause.begins tokens then
          some ((tokens.take clause.start.length).length
            + ((tokens.drop clause.start.length).takeWhile (!clause.isTerminator ·)).length)
        else none := by
  unfold size? extract
  split
  · rw [← List.length_append]
    rfl
  · rfl

/-- So a clause is as long in either list. -/
theorem size?_sameWord
    (h : List.Forall₂ (SameWord (start ++ terminators)) tokens tokens') :
    (ofKeywords start terminators).size? tokens = (ofKeywords start terminators).size? tokens' := by
  have hbody : List.Forall₂ (fun t t' => (!(ofKeywords start terminators).isTerminator t)
        = !(ofKeywords start terminators).isTerminator t')
      (tokens.drop (ofKeywords start terminators).start.length)
      (tokens'.drop (ofKeywords start terminators).start.length) :=
    (List.forall₂_drop _ h).imp fun _ _ hsame => by rw [isTerminator_sameWord hsame]
  rw [size?_eq, size?_eq, begins_sameWord h, length_takeWhile_congr hbody,
    List.length_take, List.length_take, h.length_eq]

/-- Which keywords a clause recognises, given them in whatever case. A
token ends the clause if it is one of its terminators up to case and has
no capitals beyond ASCII. Likewise the clause is split off where its
first words are up to case, without such capitals; where they stand as
they were given, it is split off if they have none. Tokens that differ
in case only are split alike, unless a keyword has such capitals in one
spelling and not in the other. -/
theorem extract_ofKeywords (start terminators : List String) :
    (∀ t, (ofKeywords start terminators).isTerminator t = true
      ↔ AsciiCased t ∧ ∃ word ∈ terminators, lowercase t = lowercase word)
    ∧ (∀ tokens, (∃ found, (ofKeywords start terminators).extract tokens = .ok found)
      ↔ ∃ words rest, tokens = words ++ rest ∧ (∀ word ∈ words, AsciiCased word)
          ∧ words.map lowercase = start.map lowercase)
    ∧ (∀ rest, (∃ found, (ofKeywords start terminators).extract (start ++ rest) = .ok found)
      ↔ ∀ word ∈ start, AsciiCased word)
    ∧ ∀ tokens tokens', List.Forall₂ (SameWord (start ++ terminators)) tokens tokens' →
        (ofKeywords start terminators).size? tokens
          = (ofKeywords start terminators).size? tokens' := by
  have hlength : (ofKeywords start terminators).start.length = start.length := List.length_map _
  refine ⟨fun t => isTerminator_ofKeywords, fun tokens => ?_, fun rest => ?_,
    fun tokens tokens' => size?_sameWord⟩
  -- the clause is split off where its keywords are
  · rw [extract_isOk, starts_ofKeywords]
    constructor
    · rintro ⟨hcased, hlower⟩
      exact ⟨_, _, (List.take_append_drop _ _).symm, hcased, hlower⟩
    · rintro ⟨words, rest, rfl, hcased, hlower⟩
      have hwords : words.length = start.length := by
        rw [← List.length_map lowercase, hlower, List.length_map]
      rw [hlength, ← hwords, List.take_left]
      exact ⟨hcased, hlower⟩
  -- and at its very own words
  · rw [extract_isOk, starts_ofKeywords, hlength, List.take_left]
    exact and_iff_left rfl

/-- Words with a letter beyond ASCII, which is small throughout. -/
theorem extract_ofKeywords_street :
    (∃ found, (ofKeywords ["An", "der"] ["Straße"]).extract ["AN", "Der", "Ecke"] = .ok found)
      ∧ (ofKeywords ["An", "der"] ["Straße"]).isTerminator "STRAßE" = true
      ∧ (ofKeywords ["An", "der"] ["Straße"]).size? ["AN", "Der", "STRAßE"]
        = (ofKeywords ["An", "der"] ["Straße"]).size? ["an", "der", "straße"] := by
  obtain ⟨hends, hbegins, -, hsize⟩ := extract_ofKeywords ["An", "der"] ["Straße"]
  have hcapitals : ∀ t ∈ ["AN", "Der", "STRAßE"], AsciiCased t := by
    simp only [asciiCased_iff]
    decide +kernel
  have hsmall : ∀ t ∈ ["an", "der", "straße"], AsciiCased t := by
    simp only [asciiCased_iff]
    decide +kernel
  refine ⟨(hbegins _).2 ⟨["AN", "Der"], ["Ecke"], rfl, ?_, by decide +kernel⟩,
    (hends _).2 ⟨hcapitals _ (by decide), "Straße", by decide, by decide +kernel⟩, hsize _ _ ?_⟩
  · exact fun t ht => hcapitals t (List.mem_append_left ["STRAßE"] ht)
  · exact forall₂_sameWord hcapitals hsmall (by decide +kernel) _

/-- A clause does not begin with its own keyword, nor end with it, if
the keyword is a capital beyond ASCII, though it does with the small
letter. -/
theorem capital_unrecognised :
    (ofKeywords ["É"] []).extract ["É"] = .error (.unexpected "É")
      ∧ (ofKeywords ["a"] ["É"]).extract ["a", "É"] = .ok (["a", "É"], [])
      ∧ lowercase "é" = lowercase "É"
      ∧ (ofKeywords ["É"] []).extract ["é"] = .ok (["é"], []) := by
  decide +kernel

end FlatQuery.Clause
