/-
Queries as statements. `Query.toText` writes a query down clause by
clause, the conditions all behind WHERE, and `Query.tokens` are the
tokens of that text. What a query must be for its text to be cut into
these tokens, and for the clauses to be told apart, is `Printable`: its
names are those that a statement can hold bare.
-/
import FlatQuery.Proofs.Query.Coherence
import FlatQuery.Proofs.Token.Spelling
import FlatQuery.Query.Grammar

namespace FlatQuery

open Token

-- ============================================================== texts

/-- The keywords a relation's clause begins with. -/
def Role.toText : Role → String
  | .leading => "from"
  | .inner => "inner join"
  | .full => "full join"

/-- The clause of a relation. -/
def Relation.toText (r : Relation) : String :=
  r.role.toText ++ " " ++ r.name ++ " " ++ r.aliasName

/-- The column as the select list writes it. -/
def Column.toText (c : Column) : String :=
  match c.aliasName with
  | none => c.qualified
  | some name => c.qualified ++ " as " ++ name

/-- A reference is written with one dot between its two names. -/
theorem ColumnRef.toList_qualified (ref : ColumnRef) :
    ref.qualified.toList = ref.relation.toList ++ '.' :: ref.column.toList := by
  rw [qualified, String.toList_append, String.toList_append, List.append_assoc]
  rfl

/-- A column is named in the select list as in a condition. -/
theorem Column.qualified_eq (c : Column) :
    c.qualified = ColumnRef.qualified ⟨c.relation, c.name⟩ := by
  unfold Column.qualified ColumnRef.qualified
  rfl

namespace Query

/-- The select list, a star or the columns with commas between them. -/
def selectText (q : Query) : String :=
  if q.wildcard then "*" else ", ".intercalate (q.projection.map Column.toText)

/-- The condition list with its keyword, or nothing at all: a bare WHERE
is refused. -/
def filterText (q : Query) : String :=
  if q.conditions.isEmpty then "" else " where " ++ q.predicate.toText

/-- The statement that asks for the query. -/
def toText (q : Query) : String :=
  "select " ++ q.selectText ++ String.join (q.relations.map fun r => " " ++ r.toText)
    ++ q.filterText

end Query

-- ============================================================== tokens

/-- The keyword tokens of a relation's clause. -/
def Role.tokens : Role → List String
  | .leading => ["from"]
  | .inner => ["inner", "join"]
  | .full => ["full", "join"]

/-- An alias is always written, also where it is the name itself. -/
def Relation.tokens (r : Relation) : List String := r.role.tokens ++ [r.name, r.aliasName]

/-- A column is one token, and two more if it has an output name. -/
def Column.tokens (c : Column) : List String :=
  match c.aliasName with
  | none => [c.qualified]
  | some name => [c.qualified, "as", name]

/-- An operand is one token, whatever it is. -/
def Condition.tokens (c : Condition) : List String :=
  [c.left.qualified, c.comparator.toText, c.right.toText]

/-- A term behind another one, with the word that joins them. -/
def Chain.continuedTokens (c : Condition) : List String := c.connective.toText :: c.tokens

/-- The tokens of a chain; the connective of its first term is not
written. -/
def Chain.tokens (chain : Chain) : List String :=
  match chain.terms with
  | [] => []
  | first :: rest => first.tokens ++ rest.flatMap continuedTokens

namespace Query

/-- The tokens of the select list, each comma one of its own. -/
def selectTokens (q : Query) : List String :=
  if q.wildcard then ["*"] else [","].intercalate (q.projection.map Column.tokens)

/-- The tokens of the condition list with its keyword. -/
def filterTokens (q : Query) : List String :=
  if q.conditions.isEmpty then [] else "where" :: q.predicate.tokens

/-- The tokens of the statement that asks for the query. -/
def tokens (q : Query) : List String :=
  "select" :: q.selectTokens ++ q.relations.flatMap Relation.tokens ++ q.filterTokens

end Query

-- =========================================================== printable

/-- The words that statements use for themselves. -/
def keywords : List String :=
  ["select", "from", "inner", "left", "right", "full", "join", "where", "on", "as",
    "and", "or"]

/-- A name that is no keyword. -/
def isFreeName (s : String) : Bool := isName s && !keywords.contains s

/-- The query can be written as a statement: one leading relation and
then joined ones, names that can stand bare, references to relations
that are there, and numbers that are decimals. -/
structure Query.Printable (q : Query) : Prop where
  roles : ∃ first rest, q.relations = first :: rest ∧ first.role = .leading
    ∧ ∀ r ∈ rest, r.role = .inner ∨ r.role = .full
  names : ∀ r ∈ q.relations, isFreeName r.name = true ∧ isFreeName r.aliasName = true
  outputs : ∀ c ∈ q.projection, ∀ name, c.aliasName = some name → isFreeName name = true
  known : ∀ ref ∈ q.references, ref.relation ∈ q.aliases ∧ isName ref.column = true
  first : ∀ c, q.conditions.head? = some c → c.connective = .and
  numbers : ∀ c ∈ q.conditions, ∀ n, c.right = .number n → IsDecimal n

/-- A name that is no keyword is a name. -/
theorem isName_of_isFreeName {s : String} (h : isFreeName s = true) :
    isName s = true := by
  rw [isFreeName, Bool.and_eq_true] at h
  exact h.1

/-- And a name is a word of the lexer. -/
theorem isWord_of_isFreeName {s : String} (h : isFreeName s = true) : isWord s = true :=
  isWord_of_isName (isName_of_isFreeName h)

namespace Query.Printable

variable {q : Query} (h : q.Printable)
include h

/-- Every alias is a name, since its relation is printable. -/
theorem isName_alias {a : String} (ha : a ∈ q.aliases) : isName a = true := by
  obtain ⟨r, hr, rfl⟩ := List.mem_map.1 ha
  exact isName_of_isFreeName (h.names r hr).2

/-- Both parts of a reference are names. -/
theorem isName_reference {ref : ColumnRef} (href : ref ∈ q.references) :
    isName ref.relation = true ∧ isName ref.column = true :=
  ⟨h.isName_alias (h.known ref href).1, (h.known ref href).2⟩

/-- A reference is one word: the dot does not end it. -/
theorem isWord_reference {ref : ColumnRef} (href : ref ∈ q.references) :
    isWord ref.qualified = true :=
  isWord_qualified (h.isName_reference href).1 (h.isName_reference href).2

end Query.Printable

-- ============================================================ spelling

/-- The select list refers to the columns it puts out. -/
theorem Query.mem_references_projection {q : Query} {c : Column} (hc : c ∈ q.projection) :
    ⟨c.relation, c.name⟩ ∈ q.references :=
  List.mem_append_left _ (List.mem_map.2 ⟨c, hc, rfl⟩)

/-- A condition list refers to the sides of its terms. -/
theorem Query.mem_references_condition {q : Query} {c : Condition} (hc : c ∈ q.conditions)
    {ref : ColumnRef} (href : ref ∈ c.references) : ref ∈ q.references :=
  List.mem_append_right _ (List.mem_flatMap.2 ⟨c, hc, href⟩)

/-- The left side of a term is always a column. -/
theorem Condition.left_mem_references (c : Condition) : c.left ∈ c.references := by
  unfold Condition.references
  split
  · exact List.mem_cons_self ..
  · exact List.mem_cons_self ..

/-- The right side is a reference if it is a column, and else none. -/
theorem Condition.right_mem_references {c : Condition} {ref : ColumnRef}
    (h : c.right = .column ref) : ref ∈ c.references := by
  unfold Condition.references
  rw [h]
  exact List.mem_cons_of_mem _ (List.mem_cons_self ..)

namespace Query.Printable

variable {q : Query} (h : q.Printable)
include h

/-- A column of the select list is one word. -/
theorem isWord_column {c : Column} (hc : c ∈ q.projection) :
    isWord c.qualified = true := by
  rw [Column.qualified_eq]
  exact h.isWord_reference (mem_references_projection hc)

/-- A column is cut into its words at the blanks around `as`. -/
theorem spells_column {c : Column} (hc : c ∈ q.projection) :
    Spells c.toText c.tokens := by
  -- the column alone; an output name only adds to its right
  have hqualified : Spells c.qualified [c.qualified] := spells_word (h.isWord_column hc)
  unfold Column.toText Column.tokens
  cases halias : c.aliasName with
  | none => exact hqualified
  | some name =>
      have hname := spells_word (isWord_of_isFreeName (h.outputs c hc name halias))
      have has : Spells "as" ["as"] := spells_word (by decide)
      have htext : " as " = " " ++ "as" ++ " " := by decide
      dsimp only
      rw [htext, ← String.append_assoc, ← String.append_assoc]
      exact (hqualified.spaced has).spaced hname

/-- A relation is cut into keyword, name and alias. -/
theorem spells_relation {r : Relation} (hr : r ∈ q.relations) :
    Spells r.toText r.tokens := by
  obtain ⟨hname, halias⟩ := h.names r hr
  -- two of the three keywords are two words each
  have hrole : Spells r.role.toText r.role.tokens := by
    have hjoin : Spells "join" ["join"] := spells_word (by decide)
    cases r.role with
    | leading => exact spells_word (by decide)
    | inner =>
        have htext : Role.inner.toText = "inner" ++ " " ++ "join" := by decide
        rw [htext]
        exact (spells_word (s := "inner") (by decide)).spaced hjoin
    | full =>
        have htext : Role.full.toText = "full" ++ " " ++ "join" := by decide
        rw [htext]
        exact (spells_word (s := "full") (by decide)).spaced hjoin
  have hnamed := hrole.spaced (spells_word (isWord_of_isFreeName hname))
  have := hnamed.spaced (spells_word (isWord_of_isFreeName halias))
  rw [List.append_assoc] at this
  exact this

/-- A term is cut into its two sides and the operator between them. -/
theorem spells_condition {c : Condition} (hc : c ∈ q.conditions) :
    Spells c.toText c.tokens := by
  have hreference : ∀ ref ∈ c.references, Spells ref.qualified [ref.qualified] :=
    fun ref href => spells_word (h.isWord_reference (mem_references_condition hc href))
  -- what the right side needs to be one token depends on its kind
  have hright : Spells c.right.toText [c.right.toText] := by
    cases hcase : c.right with
    | number n => exact spells_decimal (h.numbers c hc n hcase)
    | text value => exact spells_literal value
    | column ref => exact hreference ref (c.right_mem_references hcase)
  have hleft := hreference c.left c.left_mem_references
  unfold Condition.toText Condition.tokens
  exact (hleft.spaced (spells_comparator c.comparator)).spaced hright

/-- A chain is cut term by term: what joins two of them begins with a
blank, so no term runs into the next. -/
theorem spells_predicate : Spells q.predicate.toText q.predicate.tokens := by
  -- of every term but the first: its own tokens, and that a blank comes
  -- before them
  have hcontinued : ∀ c ∈ q.conditions,
      Spells (Chain.continued c) (Chain.continuedTokens c)
        ∧ Apart (Chain.continued c).toList := by
    intro c hc
    have hword : Spells c.connective.toText [c.connective.toText] := by
      cases c.connective with
      | and => exact spells_word (by decide)
      | or => exact spells_word (by decide)
    refine ⟨hword.blank.spaced (h.spells_condition hc), ?_⟩
    rw [Chain.continued, String.append_assoc, String.append_assoc]
    exact apart_blank_append _
  have hterm := fun c hc => h.spells_condition (c := c) hc
  unfold Chain.toText Chain.tokens Query.predicate
  cases hconditions : q.conditions with
  | nil => exact spells_empty
  | cons first rest =>
      rw [hconditions] at hcontinued hterm
      obtain ⟨hjoin, hapart⟩ := spells_join (List.forall_mem_cons.1 hcontinued).2
      exact (hterm first (List.mem_cons_self ..)).append hjoin hapart

/-- The text of a query is cut into its tokens. -/
theorem tokenize_toText : tokenize q.toText = .ok q.tokens := by
  -- the three parts of the text, each cut by itself; the later two begin
  -- with a blank, or are empty
  have hselect : Spells ("select " ++ q.selectText) ("select" :: q.selectTokens) := by
    have hlist : Spells q.selectText q.selectTokens := by
      unfold selectText selectTokens
      split
      · exact spells_star
      · exact spells_intercalate fun c hc => h.spells_column hc
    have htext : "select " = "select" ++ " " := by decide
    rw [htext]
    exact (spells_word (s := "select") (by decide)).spaced hlist
  have hrelations : ∀ r ∈ q.relations, Spells (" " ++ r.toText) r.tokens
      ∧ Apart (" " ++ r.toText).toList :=
    fun r hr => ⟨(h.spells_relation hr).blank, apart_blank_append _⟩
  have hfilter : Spells q.filterText q.filterTokens ∧ Apart q.filterText.toList := by
    unfold filterText filterTokens
    split
    · exact ⟨spells_empty, apart_nil⟩
    · have hwhere : Spells "where" ["where"] := spells_word (by decide)
      have htext : " where " = " " ++ "where" ++ " " := by decide
      rw [htext]
      refine ⟨hwhere.blank.spaced h.spells_predicate, ?_⟩
      rw [String.append_assoc, String.append_assoc]
      exact apart_blank_append _
  obtain ⟨hjoin, hapart⟩ := spells_join hrelations
  exact tokenize_of_spells ((hselect.append hjoin hapart).append hfilter.1 hfilter.2)

end Query.Printable

end FlatQuery
