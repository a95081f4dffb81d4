import MarkupQuery.Proofs.Selector.Canonical
import MarkupQuery.Selector.Printer

namespace MarkupQuery.Selector

/-!
# Printing and parsing

Every part of a canonical segment is printed as a written form of itself: folding and trimming leave
it as it is, and the printer puts a value between quotes that it does not hold. The combinators are
printed as runs that stand for them. So a canonical branch reads back as it was.
-/

open MarkupQuery.Text

section Printing

/-- A printed option of canonical tests is a written option. -/
theorem exists_written_option
    {α β : Type}
    {value : β → α}
    {itemText : β → List Char}
    {printed : α → String}
    {option : Option α}
    (each :
      ∀ x, option = some x →
        ∃ item, itemText item = (printed x).toList ∧ value item = x) :
    ∃ item? : Option β,
      (item?.map itemText).getD [] = ((option.map printed).getD "").toList ∧
        item?.map value = option := by
  cases option with
  | none =>
      exact ⟨none, rfl, rfl⟩
  | some x =>
      obtain ⟨item, text, meaning⟩ := each x rfl
      exact ⟨some item, text, congrArg some meaning⟩

/-- A printed list of canonical tests is a written list. -/
theorem exists_written_list
    {α β : Type}
    {value : β → α}
    {itemText : β → List Char}
    {printed : α → String}
    {list : List α}
    (each :
      ∀ x ∈ list,
        ∃ item, itemText item = (printed x).toList ∧ value item = x) :
    ∃ items : List β,
      items.flatMap itemText = (String.join (list.map printed)).toList ∧
        items.map value = list := by
  induction list with
  | nil =>
      exact ⟨[], by simp, rfl⟩
  | cons x list inductionHypothesis =>
      obtain ⟨here, later⟩ := List.forall_mem_cons.mp each
      obtain ⟨item, text, rfl⟩ := here
      obtain ⟨items, itemsText, rfl⟩ := inductionHypothesis later
      refine ⟨item :: items, ?_, rfl⟩
      rw [String.toList_join] at itemsText ⊢
      rw [List.flatMap_cons, List.map_cons, List.flatMap_cons, text, itemsText]

theorem TagTest.Canonical.exists_written
    {tag : TagTest}
    (canonical : tag.Canonical) :
    ∃ written : WrittenTag, written.text = tag.text.toList ∧ written.meaning = tag := by
  cases tag with
  | universal =>
      exact ⟨.universal, rfl, rfl⟩
  | named name =>
      obtain ⟨nonempty, inside⟩ := canonical
      have alphanum : ∀ c ∈ name.toList, c.isAlphanum = true :=
        fun c member => isAlphanum_iff.mpr (Or.inr (inside c member))
      have folded : ∀ c ∈ name.toList, c.isUpper = false :=
        fun c member => (inside c member).elim not_isUpper_of_isLower not_isUpper_of_isDigit
      refine ⟨.named (Word.ofString name nonempty alphanum), rfl, ?_⟩
      rw [WrittenTag.meaning, Word.string_ofString]
      exact congrArg TagTest.named (lowercase_eq_self folded)

theorem IsIdent.exists_written
    {name : String}
    (ident : IsIdent name) :
    ∃ written : WrittenIdent, written.letters = name.toList ∧ written.string = name :=
  ⟨Word.ofString name ident.nonempty ident.inside, rfl, Word.string_ofString⟩

theorem IsIdent.exists_signed
    {name : String}
    (ident : IsIdent name)
    (c : Char)
    (sign : String)
    (single : sign.toList = [c]) :
    ∃ written : WrittenIdent,
      c :: written.letters = (sign ++ name).toList ∧ written.string = name := by
  obtain ⟨written, letters, meaning⟩ := ident.exists_written
  exact ⟨written, by simp [letters, single], meaning⟩

/-- The printer's choice of quotes suits every value, if a value with both can stand bare. -/
theorem exists_written_value
    {value : String}
    (bare : '"' ∈ value.toList → '\'' ∈ value.toList → IsBareValue value) :
    ∃ written : WrittenValue,
      written.text = (quoteMark value ++ value ++ quoteMark value).toList ∧
        written.content = value.toList := by
  by_cases doubleQuote : '"' ∈ value.toList
  · by_cases singleQuote : '\'' ∈ value.toList
    · obtain ⟨noBracket, noBlank, noDoubleQuote, noSingleQuote⟩ := bare doubleQuote singleQuote
      have inside : ∀ c ∈ value.toList, isBareChar c = true := by
        intro c member
        have different : c ≠ ']' := fun same => noBracket (same ▸ member)
        simp [isBareChar, different, noBlank c member]
      let content : Word isBareChar := ⟨value.toList, List.ne_nil_of_mem doubleQuote, inside⟩
      refine ⟨.bare content noDoubleQuote noSingleQuote, ?_, rfl⟩
      simp [quoteMark, doubleQuote, singleQuote, WrittenValue.text, content]
    · refine ⟨.singleQuoted value.toList singleQuote, ?_, rfl⟩
      simp [quoteMark, doubleQuote, singleQuote, WrittenValue.text]
  · refine ⟨.doubleQuoted value.toList doubleQuote, ?_, rfl⟩
    simp [quoteMark, doubleQuote, WrittenValue.text]

theorem AttributeTest.Canonical.exists_written
    {test : AttributeTest}
    (canonical : test.Canonical) :
    ∃ written : WrittenAttribute, written.text = test.text.toList ∧ written.meaning = test := by
  obtain ⟨name, comparison⟩ := test
  obtain ⟨ident, letters, identMeaning⟩ := canonical.name.exists_written
  have nameMeaning : ident.string.map Char.toLower = name := by
    rw [identMeaning]
    exact lowercase_eq_self canonical.folded
  cases comparison with
  | none =>
      refine ⟨{ name := ident, comparison := none }, ?_, ?_⟩
      · simp [WrittenAttribute.text, WrittenAttribute.comparisonText, AttributeTest.text, letters]
      · simp [WrittenAttribute.meaning, nameMeaning]
  | some comparison =>
      obtain ⟨operator, value⟩ := comparison
      obtain ⟨written, text, content⟩ :=
        exists_written_value (canonical.value operator value rfl)
      refine ⟨{ name := ident, comparison := some (operator, written) }, ?_, ?_⟩
      · simp [WrittenAttribute.text, WrittenAttribute.comparisonText, AttributeTest.text, letters,
          text]
      · simp [WrittenAttribute.meaning, nameMeaning, content]

theorem Pseudo.Canonical.exists_written
    {pseudo : Pseudo}
    (canonical : pseudo.Canonical) :
    ∃ written : WrittenPseudo, written.text = pseudo.text.toList ∧ written.meaning = pseudo := by
  obtain ⟨kind, argument⟩ := pseudo
  cases kind with
  | firstChild =>
      obtain rfl : argument = none := canonical
      exact ⟨.firstChild, rfl, rfl⟩
  | lastChild =>
      obtain rfl : argument = none := canonical
      exact ⟨.lastChild, rfl, rfl⟩
  | nthChild =>
      obtain ⟨content, rfl, closed, trimmed⟩ := canonical
      refine ⟨.nthChild content.toList closed, ?_, ?_⟩
      · simp [WrittenPseudo.text, Pseudo.text, PseudoKind.name]
      · simp [WrittenPseudo.meaning, trim_eq_self trimmed]

/-- The tests of a canonical segment are printed as a written form of them. -/
theorem Segment.Canonical.exists_written
    {segment : Segment}
    (canonical : segment.Canonical) :
    ∃ simple : WrittenSimple,
      simple.text = segment.text.toList ∧
        simple.text ≠ [] ∧
        simple.meaning segment.combinator = segment := by
  obtain ⟨tag, tagText, tagMeaning⟩ :=
    exists_written_option fun tag tests => (canonical.tag tag tests).exists_written
  obtain ⟨id, idText, idMeaning⟩ :=
    exists_written_option fun id tests =>
      (canonical.id id tests).exists_signed '#' "#" rfl
  obtain ⟨classes, classesText, classesMeaning⟩ :=
    exists_written_list fun className member =>
      (canonical.classes className member).exists_signed '.' "." rfl
  obtain ⟨attributes, attributesText, attributesMeaning⟩ :=
    exists_written_list fun test member => (canonical.attributes test member).exists_written
  obtain ⟨pseudo, pseudoText, pseudoMeaning⟩ :=
    exists_written_option fun pseudo tests => (canonical.pseudo pseudo tests).exists_written
  let simple : WrittenSimple := {
    tag := tag
    id := id
    classes := classes
    attributes := attributes
    pseudos := pseudo.toList
  }
  have pseudosText : pseudo.toList.flatMap WrittenPseudo.text =
      (pseudo.map WrittenPseudo.text).getD [] := by
    cases pseudo <;> simp
  have pseudosMeaning : (pseudo.toList.map WrittenPseudo.meaning).getLast? =
      pseudo.map WrittenPseudo.meaning := by
    cases pseudo <;> rfl
  have meaning : simple.meaning segment.combinator = segment := by
    simp only [simple, WrittenSimple.meaning, tagMeaning, idMeaning, classesMeaning,
      attributesMeaning, pseudosMeaning, pseudoMeaning]
  refine ⟨simple, ?_, ?_, meaning⟩
  · simp only [simple, WrittenSimple.text, WrittenSimple.tagText, WrittenSimple.idText,
      WrittenSimple.classesText, WrittenSimple.attributesText, WrittenSimple.pseudosText, tagText,
      idText, classesText, attributesText, pseudosText, pseudoText, Segment.text,
      String.toList_append, List.append_assoc]
  · intro nothing
    have empty : (simple.meaning segment.combinator).isEmpty = true :=
      WrittenSimple.isEmpty_meaning_iff.mpr nothing
    rw [meaning, canonical.nonempty] at empty
    exact Bool.noConfusion empty

/-- A canonical segment and the glyph before it are printed as a run and a written form. -/
theorem Segment.Canonical.exists_afterCombinator
    {segment : Segment}
    (canonical : segment.Canonical) :
    ∃ written : WrittenSegment,
      written.run ≠ [] ∧
        written.text = segment.textAfterCombinator.toList ∧
        written.meaning = segment := by
  obtain ⟨simple, text, nonempty, meaning⟩ := canonical.exists_written
  have runChars : ∀ c ∈ segment.combinator.glyph.toList, isRunChar c = true := by
    cases segment.combinator <;> exact List.all_eq_true.mp rfl
  have runMeaning : runCombinator segment.combinator.glyph.toList = segment.combinator := by
    cases segment.combinator <;> rfl
  have runNonempty : segment.combinator.glyph.toList ≠ [] := by
    cases segment.combinator <;> decide
  refine ⟨⟨segment.combinator.glyph.toList, runChars, simple, nonempty⟩, runNonempty, ?_, ?_⟩
  · rw [WrittenSegment.text, text, Segment.textAfterCombinator, String.toList_append]
  · rw [WrittenSegment.meaning, runMeaning, meaning]

/-- Canonical segments after the first are printed as a written tail. -/
theorem exists_tail_of_canonical
    {segments : Branch}
    (canonical : ∀ segment ∈ segments, segment.Canonical) :
    ∃ tail : WrittenTail,
      tail.text = (String.join (segments.map Segment.textAfterCombinator)).toList ∧
        tail.meaning = segments := by
  induction segments with
  | nil =>
      exact ⟨⟨[], by simp, [], by simp⟩, by simp [WrittenTail.text], rfl⟩
  | cons segment segments inductionHypothesis =>
      obtain ⟨here, later⟩ := List.forall_mem_cons.mp canonical
      obtain ⟨tail, tailText, rfl⟩ := inductionHypothesis later
      obtain ⟨written, nonempty, text, rfl⟩ := here.exists_afterCombinator
      refine ⟨tail.cons written nonempty, ?_, rfl⟩
      rw [WrittenTail.text_cons, ← List.append_assoc, ← WrittenSegment.text, text, tailText,
        List.map_cons, String.join_cons, String.toList_append]

/-- Trimming a leading combinator leaves a run that stands for it. -/
theorem exists_leading_run
    {combinator : Combinator}
    (visible : combinator ≠ .descendant)
    (text : List Char) :
    ∃ run,
      trimStart (combinator.glyph.toList ++ text) = run ++ text ∧
        (∀ c ∈ run, isRunChar c = true) ∧
        runCombinator run = combinator := by
  cases combinator with
  | descendant =>
      exact absurd rfl visible
  | child =>
      exact ⟨['>', ' '], rfl, List.all_eq_true.mp rfl, rfl⟩
  | adjacent =>
      exact ⟨['+', ' '], rfl, List.all_eq_true.mp rfl, rfl⟩
  | sibling =>
      exact ⟨['~', ' '], rfl, List.all_eq_true.mp rfl, rfl⟩

/-- A branch of canonical segments is printed as a written form of it. -/
theorem Branch.Canonical.exists_written
    {branch : Branch}
    (canonical : branch.Canonical) :
    ∃ written : WrittenBranch,
      written.text = (Branch.text branch).toList ∧ written.meaning = branch := by
  obtain ⟨first, rest, rfl⟩ := List.exists_cons_of_ne_nil canonical.nonempty
  obtain ⟨firstCanonical, restCanonical⟩ := List.forall_mem_cons.mp canonical.segments
  obtain ⟨simple, text, nonempty, meaning⟩ := firstCanonical.exists_written
  obtain ⟨tail, tailText, rfl⟩ := exists_tail_of_canonical restCanonical
  rw [Branch.text, String.toList_ofList, String.toList_append, ← tailText]
  by_cases leading : first.combinator = .descendant
  · let written : WrittenSegment := ⟨[], by simp, simple, nonempty⟩
    obtain ⟨c, tests, shape, _, visible⟩ := written.exists_head
    refine ⟨⟨written, tail⟩, ?_, ?_⟩
    · have start : Stops isBlank (simple.text ++ tail.text) := by
        rw [shape]
        exact stops_cons.mpr visible
      rw [if_pos leading, ← text, trimStart_eq_self start]
      rfl
    · rw [leading] at meaning
      exact congrArg (· :: tail.meaning) meaning
  · obtain ⟨run, trimmed, runChars, runMeaning⟩ :=
      exists_leading_run leading (simple.text ++ tail.text)
    refine ⟨⟨⟨run, runChars, simple, nonempty⟩, tail⟩, ?_, ?_⟩
    · rw [if_neg leading, Segment.textAfterCombinator, String.toList_append, ← text,
        List.append_assoc, trimmed, WrittenBranch.text, WrittenSegment.text, List.append_assoc]
    · rw [WrittenBranch.meaning, WrittenSegment.meaning, runMeaning, meaning]

end Printing

section Inverse

/--
Printing and parsing are inverse to each other on what parsing gives, and that is the canonical
branches: every branch that was parsed is canonical, and every canonical branch is what its own
text parses to.
-/
theorem parse_text_canonical :
    (∀ (text : String) (branch : Branch),
      Branch.parse text = .ok branch → branch.Canonical) ∧
      ∀ branch : Branch, branch.Canonical → Branch.parse (Branch.text branch) = .ok branch := by
  constructor
  · intro text branch parsed
    obtain ⟨written, _, rfl⟩ := exists_written_of_parse parsed
    exact written.canonical_meaning
  · intro branch canonical
    obtain ⟨written, shape, meaning⟩ := canonical.exists_written
    rw [parse_written shape, meaning]

theorem parse_text_canonical_bothQuotes :
    ∃ branch : Branch,
      Branch.parse "> LI[title=x\"y'] " = .ok branch ∧
        branch.Canonical ∧
        Branch.text branch = "> li[title=x\"y']" ∧
        Branch.parse (Branch.text branch) = .ok branch := by
  have parsed :
      Branch.parse "> LI[title=x\"y'] " =
        .ok [{
          combinator := .child
          tag := some (.named "li")
          attributes := [{ name := "title", comparison := some (.equals, "x\"y'") }]
        }] := by
    exact parse_eq_ok_iff.mpr (by decide +kernel)
  have canonical := parse_text_canonical.1 _ _ parsed
  exact ⟨_, parsed, canonical, by decide +kernel, parse_text_canonical.2 _ canonical⟩

end Inverse

end MarkupQuery.Selector
