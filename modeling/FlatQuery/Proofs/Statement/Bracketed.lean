/-
A relation named between brackets. Whatever stands between them is one
token (`spells_bracketed`), but the token has lost its brackets, and the
reader of statements knows no more of it than its text. So the name of
every relation can be written between brackets but for two kinds of
names: a keyword that may follow FROM ends the clause it was to name a
relation in, and a name that is itself enclosed in quotes is taken for a
literal. `parse_bracketed` says what becomes of each name.
-/
import FlatQuery.Proofs.Statement.Blind
import FlatQuery.Proofs.Statement.Clauses
import FlatQuery.Proofs.Text.Folding

namespace FlatQuery

open Text Token Result

-- ============================================================== tokens

namespace Token

theorem splitBracket_append_bracket {cs : List Char} (h : ']' ∉ cs) (rest : List Char) :
    splitBracket (cs ++ ']' :: rest) = some (cs, rest) := by
  induction cs with
  | nil => rfl
  | cons c cs ih =>
      obtain ⟨hc, hcs⟩ := List.ne_and_not_mem_of_not_mem_cons h
      rw [List.cons_append, splitBracket, if_neg (Ne.symm hc), ih hcs]
      rfl

/-- What stands between brackets is one token, without the brackets. -/
theorem spells_bracketed {name : String} (h : ']' ∉ name.toList) :
    Spells ("[" ++ name ++ "]") [name] := by
  intro rest _
  have htext : ("[" ++ name ++ "]").toList ++ rest = '[' :: (name.toList ++ ']' :: rest) := by
    rw [String.toList_append, String.toList_append]
    simp
  have hlexeme : lexeme '[' (name.toList ++ ']' :: rest) = .ok (name, rest) := by
    simp [lexeme, isQuote, splitBracket_append_bracket h]
  rw [htext, scan_lexeme (by decide) hlexeme]
  rfl

end Token

namespace Statement

-- =============================================================== names

/-- A name that a catalogue gives its relations and that brackets can
hold: in lowercase, with a letter or number, without blanks at its ends,
without the extension of a file and without a closing bracket. -/
structure Listed (name : String) : Prop where
  lower : lowercase name = name
  letter : name.toList.any isAlphanumeric = true
  trimmed : trim name = name
  extension : ¬ ".csv".toList <:+ name.toList
  bracket : ']' ∉ name.toList

/-- Such a name is taken as it is. -/
theorem Listed.relationName {name : String} (h : Listed name) :
    Statement.relationName name = name := by
  have hkept : dropExtension name.toList = name.toList := by
    unfold dropExtension
    apply if_neg
    intro hsuffix
    rw [Bool.and_eq_true, decide_eq_true_eq, decide_eq_true_eq] at hsuffix
    apply h.extension
    show ['.', 'c', 's', 'v'] <:+ _
    rw [← hsuffix.2]
    exact List.drop_suffix _ _
  unfold Statement.relationName
  rw [h.trimmed, h.lower, hkept, String.ofList_toList]

/-- Such a name ends the clause of a relation only if it is one of the
keywords that do. -/
theorem Listed.isTerminator {name : String} (h : Listed name) :
    (Clause.ofKeywords ["from"] Grammar.joinTerminators).isTerminator name
      = Grammar.joinTerminators.contains name := by
  have hsmall : ∀ c ∈ name.toList, IsSmall c := h.lower ▸ isSmall_of_mem_lowercase
  have hkeywords : ∀ keyword ∈ Grammar.joinTerminators, lowercase keyword = keyword := by
    decide +kernel
  have hsame : ∀ keyword ∈ Grammar.joinTerminators,
      sameFolded name keyword = (name == keyword) := by
    intro keyword hkeyword
    rw [Bool.eq_iff_iff, beq_iff_eq]
    apply sameFolded_iff_of_small hsmall
    rw [← hkeywords keyword hkeyword]
    exact isSmall_of_mem_lowercase
  have hterminators : (Clause.ofKeywords ["from"] Grammar.joinTerminators).terminators
      = Grammar.joinTerminators := by
    decide +kernel
  unfold Clause.isTerminator
  rw [hterminators, Bool.eq_iff_iff, List.any_eq_true, List.contains_iff_mem]
  constructor
  · rintro ⟨keyword, hkeyword, h⟩
    rw [hsame keyword hkeyword, beq_iff_eq] at h
    exact h ▸ hkeyword
  · intro hname
    exact ⟨name, hname, sameFolded_self name⟩

-- ============================================================ statement

/-- The query for every row and column of one relation. -/
def wholeOf (name : String) : Query := ⟨[], [.ofName .leading name name], [], true⟩

theorem tokenize_bracketed {name : String} (h : ']' ∉ name.toList) :
    tokenize ("select * from [" ++ name ++ "]") = .ok ["select", "*", "from", name] := by
  have hselect : Spells "select" ["select"] := spells_word (by decide +kernel)
  have hfrom : Spells "from" ["from"] := spells_word (by decide +kernel)
  have htext : "select * from [" ++ name ++ "]"
      = "select" ++ " " ++ "*" ++ " " ++ "from" ++ " " ++ ("[" ++ name ++ "]") := by
    rw [← String.append_assoc, ← String.append_assoc]
    rfl
  rw [htext]
  apply tokenize_of_spells
  exact ((hselect.spaced spells_star).spaced hfrom).spaced (spells_bracketed h)

/-- The keyword FROM and its clause. -/
theorem clauseFor_from :
    Grammar.clauseFor? "from" = some (.leading, .ofKeywords ["from"] Grammar.joinTerminators)
      ∧ (Clause.ofKeywords ["from"] Grammar.joinTerminators).start = ["from"] := by
  decide +kernel

/-- FROM reads the one token behind it as the name of a relation, unless
the token ends the clause. -/
theorem read_from {name : String} (h : Listed name) :
    Draft.read ⟨some ["*"], [], []⟩ ["from", name]
      = if name ∈ Grammar.joinTerminators then .error (.unexpected "from")
        else if isLiteral name then .error (.unexpected name)
        else .ok ⟨some ["*"], [⟨.leading, name, name⟩], []⟩ := by
  obtain ⟨hclause, hstart⟩ := clauseFor_from
  have hend := h.isTerminator
  by_cases hkeyword : name ∈ Grammar.joinTerminators
  · rw [if_pos hkeyword]
    rw [List.contains_iff_mem.2 hkeyword] at hend
    have hread : Draft.read ⟨some ["*"], [], []⟩ (_ ++ ([] ++ [name])) = _ :=
      read_clause_eq_bind hclause hstart (fun _ ht => absurd ht List.not_mem_nil)
        (fun t ht => Option.some.inj ht ▸ hend)
    rw [hstart] at hread
    rw [show ["from", name] = ["from"] ++ ([] ++ [name]) from rfl, hread]
    rfl
  · rw [if_neg hkeyword]
    rw [Bool.eq_false_iff.2 (mt List.contains_iff_mem.1 hkeyword)] at hend
    have hread : Draft.read ⟨some ["*"], [], []⟩ (_ ++ ([name] ++ [])) = _ :=
      read_clause_eq_bind hclause hstart (fun t ht => List.mem_singleton.1 ht ▸ hend) nofun
    rw [hstart] at hread
    rw [show ["from", name] = ["from"] ++ ([name] ++ []) from rfl, hread]
    by_cases hliteral : isLiteral name = true
    · rw [if_pos hliteral]
      show (source .leading _ [name] >>= _) >>= _ = _
      unfold source splitAlias
      rw [ok_bind]
      dsimp only
      rw [hliteral]
      rfl
    · rw [if_neg hliteral]
      show (source .leading _ [name] >>= _) >>= _ = _
      have hsource : source .leading (["from"] ++ [name]) [name] = .ok ⟨.leading, name, name⟩ := by
        unfold source splitAlias
        rw [ok_bind]
        dsimp only
        rw [Bool.eq_false_iff.2 hliteral, h.letter, h.relationName]
        rfl
      rw [hsource]
      show Draft.read _ [] = _
      exact read_nil _

/-- The clause of a star is read before FROM. -/
theorem read_select_star (rest : List String) :
    draft ("select" :: "*" :: "from" :: rest)
      = Draft.read ⟨some ["*"], [], []⟩ ("from" :: rest) := by
  have hclause : Grammar.clauseFor? "select"
      = some (.projection, .ofKeywords ["select"] ["from"]) := by
    decide +kernel
  have hstart : (Clause.ofKeywords ["select"] ["from"]).start = ["select"] := by
    decide +kernel
  have hstar : (Clause.ofKeywords ["select"] ["from"]).isTerminator "*" = false := by
    decide +kernel
  have hfrom : (Clause.ofKeywords ["select"] ["from"]).isTerminator "from" = true := by
    decide +kernel
  have hread : Draft.read ⟨none, [], []⟩ (_ ++ (["*"] ++ "from" :: rest)) = _ :=
    read_clause_eq_bind hclause hstart (fun t ht => List.mem_singleton.1 ht ▸ hstar)
      (fun t ht => Option.some.inj ht ▸ hfrom)
  rw [hstart] at hread
  exact hread

/-- The query for all of a relation whose name is written between
brackets: every listed name is accepted but for the keywords that may
follow FROM, which leave FROM without a relation, and for names in
quotes, which are taken for literals. -/
theorem parse_bracketed {name : String} (h : Listed name) :
    Query.parse ("select * from [" ++ name ++ "]")
      = if name ∈ Grammar.joinTerminators then .error (.unexpected "from")
        else if isLiteral name then .error (.unexpected name)
        else .ok (wholeOf name) := by
  have hsemicolon : name ≠ ";" := by
    rintro rfl
    exact absurd h.letter (by decide +kernel)
  have hdrop : dropSemicolons (["select", "*", "from"] ++ name :: []) = _ :=
    dropSemicolons_append hsemicolon
  unfold Query.parse
  rw [tokenize_bracketed h.bracket, ok_bind]
  show draft (dropSemicolons (["select", "*", "from"] ++ name :: [])) >>= _ = _
  rw [hdrop]
  show draft ("select" :: "*" :: "from" :: [name]) >>= _ = _
  rw [read_select_star, read_from h]
  split
  · rfl
  split
  · rfl
  · rfl

theorem parse_bracketed_orders :
    Listed "my 'old' orders" ∧ Query.parse ("select * from [" ++ "my 'old' orders" ++ "]")
      = .ok (wholeOf "my 'old' orders") := by
  have h : Listed "my 'old' orders" := by
    constructor
    all_goals decide +kernel
  refine ⟨h, ?_⟩
  rw [parse_bracketed h, if_neg (by decide), if_neg (by decide +kernel)]

/-- Two names that brackets do not protect: a keyword and a quotation. -/
theorem bracketed_refused :
    Listed "where" ∧ Query.parse "select * from [where]" = .error (.unexpected "from")
      ∧ Listed "'a'" ∧ Query.parse "select * from ['a']" = .error (.unexpected "'a'") := by
  refine ⟨?_, ?_, ?_, ?_⟩
  · constructor
    all_goals decide +kernel
  · decide +kernel
  · constructor
    all_goals decide +kernel
  · decide +kernel

end Statement

end FlatQuery
