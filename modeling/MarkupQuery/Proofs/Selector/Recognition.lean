import MarkupQuery.Proofs.Selector.Grammar

namespace MarkupQuery.Selector

/-!
# What is read is written

Whatever a reader of a branch reads is the text of a written form with the meaning that was read,
and the text that follows is left. The form is taken off the characters that the reader consumed;
for the repeated tests it is found once for the reader of a single one.
-/

open MarkupQuery.Text

section Tests

variable {text rest : List Char}

/-- Whatever is read as a tag test, or as none, was written as one. -/
theorem exists_written_of_tagTest (text : List Char) :
    ∃ tag : Option WrittenTag,
      text = (tag.map WrittenTag.text).getD [] ++ (tagTest text).2 ∧
        tag.map WrittenTag.meaning = (tagTest text).1 := by
  unfold tagTest
  split
  · exact ⟨some .universal, rfl, rfl⟩
  · cases read : run? Char.isAlphanum text with
    | none =>
        exact ⟨none, rfl, rfl⟩
    | some found =>
        obtain ⟨name, rest⟩ := found
        obtain ⟨word, rfl, shape⟩ := exists_word_of_run? read
        exact ⟨some (.named word), shape, rfl⟩

/-- What is read behind a sign was written as an identifier. -/
theorem exists_written_of_signedIdent?
    {sign : Char}
    {name : String}
    (read : signedIdent? sign text = some (name, rest)) :
    ∃ ident : WrittenIdent,
      text = (sign :: ident.letters) ++ rest ∧ ident.string = name := by
  unfold signedIdent? at read
  split at read
  · simp at read
  · next c afterSign =>
      split at read
      · next here =>
          obtain ⟨⟨letters, remaining⟩, found, same⟩ := Option.map_eq_some_iff.mp read
          obtain ⟨rfl, rfl⟩ := Prod.mk.inj same
          obtain ⟨ident, rfl, rfl⟩ := exists_word_of_run? found
          exact ⟨ident, by rw [here]; rfl, rfl⟩
      · simp at read

/-- Whatever is read as an id, or as none, was written as one. -/
theorem exists_written_of_idTest (text : List Char) :
    ∃ id : Option WrittenIdent,
      text = (id.map fun id => '#' :: id.letters).getD [] ++ (idTest text).2 ∧
        id.map Word.string = (idTest text).1 := by
  unfold idTest
  cases read : signedIdent? '#' text with
  | none =>
      exact ⟨none, rfl, rfl⟩
  | some found =>
      obtain ⟨id, rest⟩ := found
      obtain ⟨ident, shape, rfl⟩ := exists_written_of_signedIdent? read
      exact ⟨some ident, shape, rfl⟩

/-- What is read as an operator is its symbol. -/
theorem eq_symbol_of_operator?
    {operator : AttributeOperator}
    (read : operator? text = some (operator, rest)) :
    text = operator.symbol.toList ++ rest := by
  unfold operator? at read
  split at read
  all_goals
    simp only [Option.some.injEq, Prod.mk.injEq, reduceCtorEq] at read
  all_goals
    obtain ⟨rfl, rfl⟩ := read
    rfl

/-- A quoted value goes as far as its first closing quote. -/
theorem delimited_of_quotedValue?
    {quote : Char}
    {content : List Char}
    (read : quotedValue? quote text = some (content, rest)) :
    text = content ++ quote :: rest ∧ quote ∉ content := by
  unfold quotedValue? at read
  split at read
  · simp at read
  · next found afterQuote remains =>
      simp only [Option.some.injEq, Prod.mk.injEq] at read
      obtain ⟨rfl, rfl⟩ := read
      exact delimited_of_dropWhile remains

/-- What is read as a value was written as one, quoted or bare. -/
theorem exists_written_of_value?
    {content : List Char}
    (read : value? text = some (content, rest)) :
    ∃ value : WrittenValue, text = value.text ++ rest ∧ value.content = content := by
  unfold value? at read
  split at read
  · next afterQuote =>
      obtain ⟨shape, closed⟩ := delimited_of_quotedValue? read
      exact ⟨.doubleQuoted content closed, by simp [WrittenValue.text, shape], rfl⟩
  · next afterQuote =>
      obtain ⟨shape, closed⟩ := delimited_of_quotedValue? read
      exact ⟨.singleQuoted content closed, by simp [WrittenValue.text, shape], rfl⟩
  · next noDoubleQuote noSingleQuote =>
      obtain ⟨word, rfl, rfl⟩ := exists_word_of_run? read
      obtain ⟨c, letters, shape, _⟩ := word.exists_cons
      refine ⟨.bare word ?_ ?_, rfl, rfl⟩
      · intro head
        rw [shape, List.head?_cons, Option.some.injEq] at head
        exact noDoubleQuote (letters ++ rest) (by rw [shape, head]; rfl)
      · intro head
        rw [shape, List.head?_cons, Option.some.injEq] at head
        exact noSingleQuote (letters ++ rest) (by rw [shape, head]; rfl)

/-- What is read up to a closing bracket was written as a comparison, or is none. -/
theorem exists_written_of_comparison?
    {found : Option (AttributeOperator × String)}
    (read : comparison? text = some (found, rest)) :
    ∃ comparison : Option (AttributeOperator × WrittenValue),
      text = WrittenAttribute.comparisonText comparison ++ ']' :: rest ∧
        comparison.map
            (fun comparison => (comparison.1, String.ofList comparison.2.content)) =
          found := by
  unfold comparison? at read
  split at read
  · next afterName =>
      simp only [Option.some.injEq, Prod.mk.injEq] at read
      obtain ⟨rfl, rfl⟩ := read
      exact ⟨none, rfl, rfl⟩
  · split at read
    · simp at read
    · next operator afterOperator readOperator =>
        split at read
        · next content closing readValue =>
            simp only [Option.some.injEq, Prod.mk.injEq] at read
            obtain ⟨rfl, rfl⟩ := read
            obtain ⟨value, shape, rfl⟩ := exists_written_of_value? readValue
            refine ⟨some (operator, value), ?_, rfl⟩
            rw [eq_symbol_of_operator? readOperator, shape, WrittenAttribute.comparisonText,
              List.append_assoc]
        · simp at read

/-- What is read as an attribute test was written as one. -/
theorem exists_written_of_attributeTest?
    {test : AttributeTest}
    (read : attributeTest? text = some (test, rest)) :
    ∃ written : WrittenAttribute, text = written.text ++ rest ∧ written.meaning = test := by
  unfold attributeTest? at read
  split at read
  · next afterBracket =>
      split at read
      · simp at read
      · next name afterName readName =>
          obtain ⟨⟨found, remaining⟩, readComparison, same⟩ := Option.map_eq_some_iff.mp read
          obtain ⟨rfl, rfl⟩ := Prod.mk.inj same
          obtain ⟨word, rfl, rfl⟩ := exists_word_of_run? readName
          obtain ⟨comparison, rfl, rfl⟩ := exists_written_of_comparison? readComparison
          exact ⟨{ name := word, comparison := comparison },
            by simp [WrittenAttribute.text], rfl⟩
  · simp at read

/-- An argument goes as far as its first closing bracket. -/
theorem delimited_of_argument?
    {argument : String}
    (read : argument? text = some (argument, rest)) :
    ∃ content, text = content ++ ')' :: rest ∧ ')' ∉ content ∧
      String.ofList (trim content) = argument := by
  unfold argument? at read
  split at read
  · simp at read
  · next found afterClosing remains =>
      simp only [Option.some.injEq, Prod.mk.injEq] at read
      obtain ⟨meaning, rfl⟩ := read
      obtain ⟨shape, closed⟩ := delimited_of_dropWhile remains
      exact ⟨_, shape, closed, meaning⟩

/-- What is read as a pseudo-class was written as one. -/
theorem exists_written_of_pseudo?
    {pseudo : Pseudo}
    (read : pseudo? text = some (pseudo, rest)) :
    ∃ written : WrittenPseudo, text = written.text ++ rest ∧ written.meaning = pseudo := by
  unfold pseudo? at read
  split at read
  · next afterColon =>
      unfold pseudoName? at read
      split at read
      · next remaining named =>
          simp only [Option.some.injEq, Prod.mk.injEq] at read
          obtain ⟨rfl, rfl⟩ := read
          exact ⟨.firstChild, congrArg _ (afterLiteral?_eq_some_iff.mp named), rfl⟩
      · split at read
        · next remaining named =>
            simp only [Option.some.injEq, Prod.mk.injEq] at read
            obtain ⟨rfl, rfl⟩ := read
            exact ⟨.lastChild, congrArg _ (afterLiteral?_eq_some_iff.mp named), rfl⟩
        · split at read
          · simp at read
          · next afterOpening named =>
              obtain ⟨⟨argument, remaining⟩, readArgument, same⟩ :=
                Option.map_eq_some_iff.mp read
              obtain ⟨rfl, rfl⟩ := Prod.mk.inj same
              obtain ⟨content, rfl, closed, rfl⟩ := delimited_of_argument? readArgument
              refine ⟨.nthChild content closed, ?_, rfl⟩
              rw [afterLiteral?_eq_some_iff.mp named]
              simp [WrittenPseudo.text]
  · simp at read

end Tests

/-- What is read as a segment is a written segment, possibly one without tests. -/
theorem exists_written_of_readSegment
    (combinator : Combinator)
    (text : List Char) :
    ∃ simple : WrittenSimple,
      text = simple.text ++ (readSegment combinator text).2 ∧
        simple.meaning combinator = (readSegment combinator text).1.segment := by
  obtain ⟨tag, tagShape, tagMeaning⟩ := exists_written_of_tagTest text
  obtain ⟨id, idShape, idMeaning⟩ := exists_written_of_idTest (tagTest text).2
  obtain ⟨classes, classesShape, classesMeaning⟩ :=
    exists_items_of_many (fun _ _ _ => exists_written_of_signedIdent?)
      (idTest (tagTest text).2).2
  obtain ⟨attributes, attributesShape, attributesMeaning⟩ :=
    exists_items_of_many (fun _ _ _ => exists_written_of_attributeTest?)
      (many (signedIdent? '.') (idTest (tagTest text).2).2).2
  obtain ⟨pseudos, pseudosShape, pseudosMeaning⟩ :=
    exists_items_of_many (fun _ _ _ => exists_written_of_pseudo?)
      (many attributeTest? (many (signedIdent? '.') (idTest (tagTest text).2).2).2).2
  refine ⟨{
    tag := tag
    id := id
    classes := classes
    attributes := attributes
    pseudos := pseudos
  }, ?_, ?_⟩
  · calc
      text = (tag.map WrittenTag.text).getD [] ++ (tagTest text).2 := tagShape
      _ = _ := by
        rw [idShape, classesShape, attributesShape, pseudosShape]
        simp [WrittenSimple.text, WrittenSimple.tagText, WrittenSimple.idText,
          WrittenSimple.classesText, WrittenSimple.attributesText, WrittenSimple.pseudosText,
          readSegment]
  · simp only [WrittenSimple.meaning, readSegment, tagMeaning, idMeaning, classesMeaning,
      attributesMeaning, pseudosMeaning]

end MarkupQuery.Selector
