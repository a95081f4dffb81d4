import MarkupQuery.Proofs.Selector.Parsing

namespace MarkupQuery.Selector

/-!
# Canonical segments

The segments that parsing gives are canonical: they test something, names are folded, arguments are
trimmed, and a value that holds both quotes could have been written bare. Nothing is asked of the
combinators.
-/

open MarkupQuery.Text

/-- A non-empty name of identifier characters. -/
structure IsIdent (name : String) : Prop where
  nonempty : name ≠ ""
  inside : ∀ c ∈ name.toList, isIdentChar c = true

/-- A value that can be written without quotes, unless it is empty. -/
structure IsBareValue (value : String) : Prop where
  noBracket : ']' ∉ value.toList
  noBlank : ∀ c ∈ value.toList, isBlank c = false
  noDoubleQuote : value.toList.head? ≠ some '"'
  noSingleQuote : value.toList.head? ≠ some '\''

/-- A tag test for any element, or for a non-empty name of lower-case letters and digits. -/
def TagTest.Canonical : TagTest → Prop
  | .universal => True
  | .named tag =>
      tag ≠ "" ∧ ∀ c ∈ tag.toList, c.isLower = true ∨ c.isDigit = true

/-- An attribute test with a folded name; only a value that holds both quotes is restricted. -/
structure AttributeTest.Canonical (test : AttributeTest) : Prop where
  name : IsIdent test.name
  folded : ∀ c ∈ test.name.toList, c.isUpper = false
  value :
    ∀ operator value, test.comparison = some (operator, value) →
      '"' ∈ value.toList → '\'' ∈ value.toList → IsBareValue value

/-- A pseudo-class with a trimmed argument if it takes one. -/
def Pseudo.Canonical (pseudo : Pseudo) : Prop :=
  match pseudo.kind with
  | .firstChild => pseudo.argument = none
  | .lastChild => pseudo.argument = none
  | .nthChild =>
      ∃ argument,
        pseudo.argument = some argument ∧ ')' ∉ argument.toList ∧ Trimmed argument.toList

/-- A segment that tests something and whose tests are canonical; any combinator is. -/
structure Segment.Canonical (segment : Segment) : Prop where
  nonempty : segment.isEmpty = false
  tag : ∀ tag, segment.tag = some tag → tag.Canonical
  id : ∀ id, segment.id = some id → IsIdent id
  classes : ∀ className ∈ segment.classes, IsIdent className
  attributes : ∀ test ∈ segment.attributes, test.Canonical
  pseudo : ∀ pseudo, segment.pseudo = some pseudo → pseudo.Canonical

/-- A branch of canonical segments, one at least. -/
structure Branch.Canonical (branch : Branch) : Prop where
  nonempty : branch ≠ []
  segments : ∀ segment ∈ branch, segment.Canonical

section Meanings

theorem isIdent_string (ident : WrittenIdent) :
    IsIdent ident.string where
  nonempty := ident.string_ne_empty
  inside := by
    rw [ident.toList_string]
    exact ident.inside

/-- Folding an identifier leaves an identifier. -/
theorem isIdentChar_toLower
    {c : Char}
    (ident : isIdentChar c = true) :
    isIdentChar c.toLower = true := by
  simp only [isIdentChar, Bool.or_eq_true, beq_iff_eq] at ident ⊢
  rcases ident with (alphanum | rfl) | rfl
  · refine Or.inl (Or.inl (isAlphanum_iff.mpr (Or.inr ?_)))
    exact isLower_or_isDigit_toLower alphanum
  · exact Or.inl (Or.inr (by decide))
  · exact Or.inr (by decide)

/-- The letters of a folded name are the folded letters of the name. -/
theorem mem_toList_lowercase
    {name : String}
    {c : Char} :
    c ∈ (lowercase name).toList ↔ ∃ written ∈ name.toList, written.toLower = c := by
  rw [toList_lowercase, List.mem_map]

/-- Folding does not make a name empty. -/
theorem lowercase_ne_empty
    {name : String}
    (nonempty : name ≠ "") :
    lowercase name ≠ "" := by
  intro nothing
  have letters : name.toList.map Char.toLower = [] := by
    rw [← toList_lowercase, nothing]
    rfl
  exact nonempty (by simpa using letters)

theorem WrittenTag.canonical_meaning (tag : WrittenTag) :
    tag.meaning.Canonical := by
  cases tag with
  | universal =>
      trivial
  | named name =>
      constructor
      · exact lowercase_ne_empty name.string_ne_empty
      · intro c member
        obtain ⟨written, inName, rfl⟩ := mem_toList_lowercase.mp member
        rw [name.toList_string] at inName
        exact isLower_or_isDigit_toLower (name.inside written inName)

/-- A value that was written with both quotes in it was written bare. -/
theorem WrittenValue.isBareValue
    {value : WrittenValue}
    (doubleQuote : '"' ∈ value.content)
    (singleQuote : '\'' ∈ value.content) :
    IsBareValue (String.ofList value.content) := by
  cases value with
  | doubleQuoted content closed =>
      exact absurd doubleQuote closed
  | singleQuoted content closed =>
      exact absurd singleQuote closed
  | bare content noDoubleQuote noSingleQuote =>
      have inside : ∀ c ∈ content.letters, c ≠ ']' ∧ isBlank c = false := by
        intro c member
        simpa [isBareChar] using content.inside c member
      constructor <;> rw [WrittenValue.content, String.toList_ofList]
      · exact fun member => (inside _ member).1 rfl
      · exact fun c member => (inside c member).2
      · exact noDoubleQuote
      · exact noSingleQuote

theorem WrittenAttribute.canonical_meaning (test : WrittenAttribute) :
    test.meaning.Canonical where
  name := by
    have ident := isIdent_string test.name
    refine ⟨lowercase_ne_empty ident.nonempty, ?_⟩
    intro c member
    obtain ⟨written, inName, rfl⟩ := mem_toList_lowercase.mp member
    exact isIdentChar_toLower (ident.inside written inName)
  folded := by
    intro c member
    obtain ⟨written, _, rfl⟩ := mem_toList_lowercase.mp member
    exact not_isUpper_toLower written
  value := by
    intro operator value compares doubleQuote singleQuote
    obtain ⟨comparison, _, same⟩ := Option.map_eq_some_iff.mp compares
    obtain ⟨_, rfl⟩ := Prod.mk.inj same
    rw [String.toList_ofList] at doubleQuote singleQuote
    exact comparison.2.isBareValue doubleQuote singleQuote

theorem WrittenPseudo.canonical_meaning (pseudo : WrittenPseudo) :
    pseudo.meaning.Canonical := by
  cases pseudo with
  | firstChild =>
      rfl
  | lastChild =>
      rfl
  | nthChild argument closed =>
      refine ⟨_, rfl, ?_, ?_⟩ <;> rw [String.toList_ofList]
      · exact fun member => closed ((infix_trim _).subset member)
      · exact trimmed_trim argument

/-- A segment that is written has a canonical meaning. -/
theorem WrittenSegment.canonical_meaning (segment : WrittenSegment) :
    segment.meaning.Canonical where
  nonempty := segment.isEmpty_meaning _
  tag := by
    intro tag tests
    obtain ⟨written, _, rfl⟩ := Option.map_eq_some_iff.mp tests
    exact written.canonical_meaning
  id := by
    intro id tests
    obtain ⟨written, _, rfl⟩ := Option.map_eq_some_iff.mp tests
    exact isIdent_string written
  classes := by
    intro className member
    obtain ⟨written, _, rfl⟩ := List.mem_map.mp member
    exact isIdent_string written
  attributes := by
    intro test member
    obtain ⟨written, _, rfl⟩ := List.mem_map.mp member
    exact written.canonical_meaning
  pseudo := by
    intro pseudo last
    obtain ⟨written, _, rfl⟩ := List.mem_map.mp (List.mem_of_getLast? last)
    exact written.canonical_meaning

/-- What is written is canonical. -/
theorem WrittenBranch.canonical_meaning (branch : WrittenBranch) :
    Branch.Canonical branch.meaning where
  nonempty := List.cons_ne_nil _ _
  segments := by
    intro segment member
    rcases List.mem_cons.mp member with rfl | later
    · exact branch.first.canonical_meaning
    · obtain ⟨written, _, rfl⟩ := List.mem_map.mp later
      exact written.canonical_meaning

end Meanings

end MarkupQuery.Selector
