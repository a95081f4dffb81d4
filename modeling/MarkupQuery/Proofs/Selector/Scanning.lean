import Mathlib.Tactic.SplitIfs
import MarkupQuery.Proofs.Selector.Grammar
import MarkupQuery.Proofs.Text.Folding

namespace MarkupQuery.Selector

/-!
# What is written is read

Every reader of a branch reads a written form as a whole and with its meaning, in front of every
text that may follow it there. Which texts may follow is a matter of their first character: the
parts of a segment come in a fixed order, and each of them is announced by a character of its own.
-/

open MarkupQuery.Text

/--
Which part of a segment a character announces: an id, a class, an attribute test, a pseudo-class,
or the run after the segment. Characters of tags and identifiers announce nothing.
-/
def stage (c : Char) : Nat :=
  if c = '#' then 1
  else if c = '.' then 2
  else if c = '[' then 3
  else if c = ':' then 4
  else if isRunChar c then 5
  else 0

/-- A text that is empty or begins with what may stand from some stage of a segment on. -/
def FromStage (first : Nat) (text : List Char) : Prop :=
  ∀ c, text.head? = some c → first ≤ stage c

section Characters

variable {c : Char}

/-- There are five kinds of space. -/
theorem eq_of_isSpace (space : isSpace c = true) :
    c = ' ' ∨ c = '\t' ∨ c = '\n' ∨ c = '\x0C' ∨ c = '\r' := by
  simpa [isSpace, or_assoc] using space

/-- There are three glyphs. -/
theorem eq_of_ofGlyph? {combinator : Combinator} (glyph : Combinator.ofGlyph? c = some combinator) :
    c = '>' ∨ c = '+' ∨ c = '~' := by
  unfold Combinator.ofGlyph? at glyph
  split at glyph <;> simp at glyph ⊢

/-- The combinators of the glyphs are read as the grammar has them. -/
theorem ofGlyph?_eq (c : Char) :
    Combinator.ofGlyph? c = glyphMeaning? c := by
  unfold Combinator.ofGlyph?
  split
  · rfl
  · rfl
  · rfl
  · next notChild notAdjacent notSibling =>
      rw [glyphMeaning?, if_neg notChild, if_neg notAdjacent, if_neg notSibling]

/-- There are eight run characters. -/
theorem eq_of_isRunChar (runChar : isRunChar c = true) :
    (c = ' ' ∨ c = '\t' ∨ c = '\n' ∨ c = '\x0C' ∨ c = '\r') ∨ c = '>' ∨ c = '+' ∨ c = '~' := by
  simpa [isRunChar, or_assoc] using runChar

/-- A run character is a space or a glyph, as they are read. -/
theorem isRunChar_eq (c : Char) :
    isRunChar c = (isSpace c || (Combinator.ofGlyph? c).isSome) := by
  rw [Bool.eq_iff_iff, Bool.or_eq_true_iff]
  constructor
  · intro runChar
    rcases eq_of_isRunChar runChar with
      (rfl | rfl | rfl | rfl | rfl) | rfl | rfl | rfl <;> decide
  · rintro (space | glyph)
    · rcases eq_of_isSpace space with rfl | rfl | rfl | rfl | rfl <;> decide
    · obtain ⟨combinator, glyph⟩ := Option.isSome_iff_exists.mp glyph
      rcases eq_of_ofGlyph? glyph with rfl | rfl | rfl <;> decide

/-- A run character announces the run. -/
theorem stage_of_isRunChar (runChar : isRunChar c = true) :
    stage c = 5 := by
  rcases eq_of_isRunChar runChar with
    (rfl | rfl | rfl | rfl | rfl) | rfl | rfl | rfl <;> decide

/-- A character that announces anything belongs to no identifier. -/
theorem not_isIdentChar_of_stage (announces : 1 ≤ stage c) :
    isIdentChar c = false := by
  unfold stage at announces
  split_ifs at announces with isId isClass isAttribute isPseudo isRun
  · exact isId ▸ by decide
  · exact isClass ▸ by decide
  · exact isAttribute ▸ by decide
  · exact isPseudo ▸ by decide
  · rcases eq_of_isRunChar isRun with
      (rfl | rfl | rfl | rfl | rfl) | rfl | rfl | rfl <;> decide
  · simp at announces

/-- A character that announces anything belongs to no tag. -/
theorem not_isAlphanum_of_stage (announces : 1 ≤ stage c) :
    c.isAlphanum = false := by
  have outside := not_isIdentChar_of_stage announces
  simp only [isIdentChar, Bool.or_eq_false_iff] at outside
  exact outside.1.1

end Characters

section Stages

variable {first : Nat} {text : List Char}

/-- At the end of a text nothing more has to come. -/
theorem fromStage_nil : FromStage first [] := by
  simp [FromStage]

theorem fromStage_cons
    {c : Char} :
    FromStage first (c :: text) ↔ first ≤ stage c := by
  simp [FromStage]

/-- What may stand from a later stage on may stand from an earlier one on. -/
theorem FromStage.mono
    {later : Nat}
    (here : FromStage later text)
    (order : first ≤ later) :
    FromStage first text :=
  fun c head => Nat.le_trans order (here c head)

/-- Only the start of a text counts. -/
theorem FromStage.append
    (here : FromStage first text)
    (nonempty : text ≠ [])
    (rest : List Char) :
    FromStage first (text ++ rest) := by
  obtain ⟨c, text, rfl⟩ := List.exists_cons_of_ne_nil nonempty
  exact fromStage_cons.mpr (fromStage_cons.mp here)

/-- An identifier ends before whatever may follow in a segment. -/
theorem FromStage.stops_ident
    (here : FromStage 1 text) :
    Stops isIdentChar text :=
  fun c head => not_isIdentChar_of_stage (here c head)

/-- A tag ends before whatever may follow in a segment. -/
theorem FromStage.stops_alphanum
    (here : FromStage 1 text) :
    Stops Char.isAlphanum text :=
  fun c head => not_isAlphanum_of_stage (here c head)

/-- Written items that one character announces stand at its stage. -/
theorem fromStage_flatMap
    {β : Type}
    {items : List β}
    {itemText : β → List Char}
    (sign : Char)
    (announced : ∀ item, (itemText item).head? = some sign)
    (order : first ≤ stage sign)
    (after : FromStage first text) :
    FromStage first (items.flatMap itemText ++ text) := by
  cases items with
  | nil =>
      exact after
  | cons item items =>
      intro c head
      have same : sign = c := by
        simpa [List.flatMap_cons, announced item] using head
      exact same ▸ order

end Stages

section Tests

variable {rest : List Char}

/-- A tag is read in front of whatever does not go on with it. -/
theorem tagTest_append
    (tag : Option WrittenTag)
    (stops : Stops Char.isAlphanum rest)
    (notStar : rest.head? ≠ some '*') :
    tagTest ((tag.map WrittenTag.text).getD [] ++ rest) =
      (tag.map WrittenTag.meaning, rest) := by
  cases tag with
  | none =>
      simp only [Option.map_none, Option.getD_none, List.nil_append]
      unfold tagTest
      split
      · next tail =>
          exact absurd rfl notStar
      · rw [run?_eq_none stops]
  | some tag =>
      cases tag with
      | universal =>
          rfl
      | named name =>
          obtain ⟨c, letters, shape, alphanum⟩ := name.exists_cons
          have notStar : c ≠ '*' := by
            rintro rfl
            simp at alphanum
          have read := run?_word name stops
          simp only [Option.map_some, Option.getD_some, WrittenTag.text,
            WrittenTag.meaning, Word.string]
          unfold tagTest
          split
          · next tail star =>
              rw [shape, List.cons_append, List.cons.injEq] at star
              exact (notStar star.1).elim
          · rw [read]
            rfl

/-- An identifier is read as it was written, up to where it ends. -/
theorem ident?_written
    (ident : WrittenIdent)
    (stops : Stops isIdentChar rest) :
    ident? (ident.letters ++ rest) = some (ident.letters, rest) :=
  run?_word ident stops

/-- An identifier behind a sign is read in front of anything that announces something. -/
theorem signedIdent?_written
    (sign : Char)
    (ident : WrittenIdent)
    (after : FromStage 1 rest) :
    signedIdent? sign (sign :: ident.letters ++ rest) = some (ident.string, rest) := by
  simp [signedIdent?, ident?_written ident after.stops_ident, Word.string]

/-- Nothing is read where the sign does not stand. -/
theorem signedIdent?_eq_none
    {sign : Char}
    (different : rest.head? ≠ some sign) :
    signedIdent? sign rest = none := by
  cases rest with
  | nil =>
      rfl
  | cons c tail =>
      have other : c ≠ sign := by
        simpa using different
      simp [signedIdent?, other]

/-- A sign of an earlier stage does not stand where a later stage begins. -/
theorem FromStage.head?_ne
    {first : Nat}
    (here : FromStage first rest)
    (sign : Char)
    (order : stage sign < first) :
    rest.head? ≠ some sign := by
  intro head
  have bound := here sign head
  omega

/-- A tag test is read as it was written, also where there is none. -/
theorem tagTest_written
    (tag : Option WrittenTag)
    (after : FromStage 1 rest) :
    tagTest ((tag.map WrittenTag.text).getD [] ++ rest) =
      (tag.map WrittenTag.meaning, rest) :=
  tagTest_append tag after.stops_alphanum (after.head?_ne '*' (by decide))

/-- An id is read as it was written, also where there is none. -/
theorem idTest_written
    (id : Option WrittenIdent)
    (after : FromStage 2 rest) :
    idTest ((id.map fun id => '#' :: id.letters).getD [] ++ rest) =
      (id.map Word.string, rest) := by
  cases id with
  | none =>
      have absent : signedIdent? '#' rest = none :=
        signedIdent?_eq_none (after.head?_ne '#' (by decide))
      simp [idTest, absent]
  | some id =>
      have read := signedIdent?_written '#' id (after.mono (by decide))
      simp only [Option.map_some, Option.getD_some, idTest, read]

/-- All classes are read as they were written, in their order. -/
theorem classes_written
    (classes : List WrittenIdent)
    (after : FromStage 3 rest) :
    many (signedIdent? '.')
        (classes.flatMap (fun className => '.' :: className.letters) ++ rest) =
      (classes.map Word.string, rest) := by
  refine many_flatMap (FromStage 2) ?_ ?_ ?_ (after.mono (by decide)) ?_
  · simp
  · intro ident text follows
    exact signedIdent?_written '.' ident (follows.mono (by decide))
  · intro ident text _
    exact fromStage_cons.mpr (by decide)
  · exact signedIdent?_eq_none (after.head?_ne '.' (by decide))

/-- Every operator is read from its symbol, and never as the one that is only an equals sign. -/
theorem operator?_symbol
    (operator : AttributeOperator) :
    operator? (operator.symbol.toList ++ rest) = some (operator, rest) := by
  cases operator <;> rfl

/-- A quoted value goes up to the first quote of its kind. -/
theorem quotedValue?_append
    {quote : Char}
    {content : List Char}
    (closed : quote ∉ content) :
    quotedValue? quote (content ++ quote :: rest) = some (content, rest) := by
  rw [quotedValue?, dropWhile_delimited closed, takeWhile_delimited closed]

/-- A value is read as it was written, without its quotes. -/
theorem value?_written (value : WrittenValue) :
    value? (value.text ++ ']' :: rest) = some (value.content, ']' :: rest) := by
  cases value with
  | doubleQuoted content closed =>
      simp only [WrittenValue.text, WrittenValue.content, List.cons_append,
        List.append_assoc, List.nil_append]
      exact quotedValue?_append closed
  | singleQuoted content closed =>
      simp only [WrittenValue.text, WrittenValue.content, List.cons_append,
        List.append_assoc, List.nil_append]
      exact quotedValue?_append closed
  | bare content noDoubleQuote noSingleQuote =>
      have stops : Stops isBareChar (']' :: rest) :=
        stops_cons.mpr (by decide)
      have read := run?_word content stops
      obtain ⟨c, letters, shape, _⟩ := content.exists_cons
      simp only [WrittenValue.text, WrittenValue.content]
      rw [shape, List.head?_cons] at noDoubleQuote noSingleQuote
      unfold value?
      split
      · next tail quote =>
          rw [shape, List.cons_append, List.cons.injEq] at quote
          exact (noDoubleQuote (congrArg some quote.1)).elim
      · next tail quote =>
          rw [shape, List.cons_append, List.cons.injEq] at quote
          exact (noSingleQuote (congrArg some quote.1)).elim
      · exact read

/-- A comparison is read as it was written, up to the bracket behind it. -/
theorem comparison?_written
    (comparison : Option (AttributeOperator × WrittenValue)) :
    comparison? (WrittenAttribute.comparisonText comparison ++ ']' :: rest) =
      some (comparison.map fun comparison =>
        (comparison.1, String.ofList comparison.2.content), rest) := by
  cases comparison with
  | none =>
      rfl
  | some comparison =>
      obtain ⟨operator, value⟩ := comparison
      have readOperator :
          operator? (operator.symbol.toList ++ (value.text ++ ']' :: rest)) =
            some (operator, value.text ++ ']' :: rest) :=
        operator?_symbol operator
      simp only [WrittenAttribute.comparisonText, List.append_assoc, Option.map_some]
      unfold comparison?
      split
      · next tail closing =>
          cases operator <;> simp [AttributeOperator.symbol] at closing
      · simp only [readOperator, value?_written]

/-- An attribute test is read as it was written, in front of any text. -/
theorem attributeTest?_written (test : WrittenAttribute) :
    attributeTest? (test.text ++ rest) = some (test.meaning, rest) := by
  have stops :
      Stops isIdentChar
        (WrittenAttribute.comparisonText test.comparison ++ ']' :: rest) := by
    intro c head
    cases written : test.comparison with
    | none =>
        simp only [written, WrittenAttribute.comparisonText, List.nil_append,
          List.head?_cons, Option.some.injEq] at head
        exact head ▸ by decide
    | some comparison =>
        obtain ⟨operator, value⟩ := comparison
        cases operator <;>
          simp only [written, WrittenAttribute.comparisonText, AttributeOperator.symbol] at head
        all_goals
          simp at head
          exact head ▸ by decide
  simp only [WrittenAttribute.text, List.append_assoc, List.cons_append, List.nil_append]
  rw [attributeTest?, ident?_written test.name stops]
  simp only [comparison?_written, Option.map_some]
  rfl

/-- All attribute tests are read as they were written, in their order. -/
theorem attributes_written
    (attributes : List WrittenAttribute)
    (after : FromStage 4 rest) :
    many attributeTest? (attributes.flatMap WrittenAttribute.text ++ rest) =
      (attributes.map WrittenAttribute.meaning, rest) := by
  refine many_flatMap (fun _ => True) ?_ ?_ ?_ trivial ?_
  · simp [WrittenAttribute.text]
  · intro test text _
    exact attributeTest?_written test
  · exact fun _ _ _ => trivial
  · have notBracket := after.head?_ne '[' (by decide)
    unfold attributeTest?
    split
    · simp at notBracket
    · rfl

/-- An argument is read up to its bracket, and trimmed. -/
theorem argument?_append
    {argument : List Char}
    (closed : ')' ∉ argument) :
    argument? (argument ++ ')' :: rest) = some (String.ofList (trim argument), rest) := by
  rw [argument?, dropWhile_delimited closed, takeWhile_delimited closed]

/-- A pseudo-class is read as it was written, in front of any text. -/
theorem pseudo?_written (pseudo : WrittenPseudo) :
    pseudo? (pseudo.text ++ rest) = some (pseudo.meaning, rest) := by
  cases pseudo with
  | firstChild =>
      rfl
  | lastChild =>
      rfl
  | nthChild argument closed =>
      have read :
          argument? (argument ++ ')' :: rest) =
            some (String.ofList (trim argument), rest) :=
        argument?_append closed
      have notFirst :
          afterLiteral? "first-child".toList
            ("nth-child(".toList ++ (argument ++ ')' :: rest)) = none :=
        rfl
      have notLast :
          afterLiteral? "last-child".toList
            ("nth-child(".toList ++ (argument ++ ')' :: rest)) = none :=
        rfl
      have named :
          afterLiteral? "nth-child(".toList
              ("nth-child(".toList ++ (argument ++ ')' :: rest)) =
            some (argument ++ ')' :: rest) :=
        afterLiteral?_eq_some_iff.mpr rfl
      simp only [WrittenPseudo.text, WrittenPseudo.meaning, List.append_assoc,
        List.cons_append, List.nil_append, pseudo?, pseudoName?, notFirst, notLast, named,
        read, Option.map_some]

/-- All pseudo-classes are read as they were written, in their order. -/
theorem pseudos_written
    (pseudos : List WrittenPseudo)
    (after : FromStage 5 rest) :
    many pseudo? (pseudos.flatMap WrittenPseudo.text ++ rest) =
      (pseudos.map WrittenPseudo.meaning, rest) := by
  refine many_flatMap (fun _ => True) ?_ ?_ ?_ trivial ?_
  · intro pseudo
    cases pseudo <;> simp [WrittenPseudo.text]
  · intro pseudo text _
    exact pseudo?_written pseudo
  · exact fun _ _ _ => trivial
  · have notColon := after.head?_ne ':' (by decide)
    unfold pseudo?
    split
    · simp at notColon
    · rfl

end Tests

namespace WrittenSimple

variable {rest : List Char}

/-- The pseudo-classes may stand behind the attribute tests. -/
theorem fromStage_pseudosText
    (simple : WrittenSimple)
    (after : FromStage 5 rest) :
    FromStage 4 (simple.pseudosText ++ rest) := by
  refine fromStage_flatMap ':' ?_ (by decide) (after.mono (by decide))
  intro pseudo
  cases pseudo <;> rfl

/-- The attribute tests may stand behind the classes. -/
theorem fromStage_attributesText
    (simple : WrittenSimple)
    (after : FromStage 4 rest) :
    FromStage 3 (simple.attributesText ++ rest) :=
  fromStage_flatMap '[' (fun _ => rfl) (by decide) (after.mono (by decide))

/-- The classes may stand behind the id. -/
theorem fromStage_classesText
    (simple : WrittenSimple)
    (after : FromStage 3 rest) :
    FromStage 2 (simple.classesText ++ rest) :=
  fromStage_flatMap '.' (fun _ => rfl) (by decide) (after.mono (by decide))

/-- The id may stand behind the tag. -/
theorem fromStage_idText
    (simple : WrittenSimple)
    (after : FromStage 2 rest) :
    FromStage 1 (simple.idText ++ rest) := by
  unfold idText
  cases simple.id with
  | none =>
      exact after.mono (by decide)
  | some id =>
      exact fromStage_cons.mpr (by decide)

/-- A written segment is read as a whole in front of a run or at the end of a branch. -/
theorem readSegment_text
    (simple : WrittenSimple)
    (combinator : Combinator)
    (after : FromStage 5 rest) :
    readSegment combinator (simple.text ++ rest) =
      ({
        segment := simple.meaning combinator
        repeatedPseudo := decide (1 < simple.pseudos.length)
      }, rest) := by
  have fromPseudos := simple.fromStage_pseudosText after
  have fromAttributes := simple.fromStage_attributesText fromPseudos
  have fromClasses := simple.fromStage_classesText fromAttributes
  have fromId := simple.fromStage_idText fromClasses
  have tag := tagTest_written simple.tag fromId
  have id := idTest_written simple.id fromClasses
  have classes := classes_written simple.classes fromAttributes
  have attributes := attributes_written simple.attributes fromPseudos
  have pseudos := pseudos_written simple.pseudos after
  unfold idText classesText attributesText pseudosText at tag
  unfold classesText attributesText pseudosText at id
  unfold attributesText pseudosText at classes
  unfold pseudosText at attributes
  simp only [readSegment, text, tagText, idText, classesText, attributesText, pseudosText,
    List.append_assoc, tag, id, classes, attributes, pseudos, meaning, List.length_map]

/-- Only no items have no text. -/
theorem flatMap_eq_nil_iff_of_nonempty
    {β : Type}
    {items : List β}
    {itemText : β → List Char}
    (nonempty : ∀ item, itemText item ≠ []) :
    items.flatMap itemText = [] ↔ items = [] := by
  cases items with
  | nil =>
      simp
  | cons item items =>
      simp [nonempty item]

/-- A segment without text tests nothing, and conversely. -/
theorem isEmpty_meaning_iff
    {simple : WrittenSimple}
    {combinator : Combinator} :
    (simple.meaning combinator).isEmpty = true ↔ simple.text = [] := by
  have noTag : simple.tagText = [] ↔ simple.tag = none := by
    unfold tagText
    cases simple.tag with
    | none =>
        simp
    | some tag =>
        cases tag with
        | universal =>
            simp [WrittenTag.text]
        | named name =>
            simp [WrittenTag.text, name.nonempty]
  have noId : simple.idText = [] ↔ simple.id = none := by
    unfold idText
    cases simple.id <;> simp
  have noClass : simple.classesText = [] ↔ simple.classes = [] := by
    exact flatMap_eq_nil_iff_of_nonempty fun _ => List.cons_ne_nil _ _
  have noAttribute : simple.attributesText = [] ↔ simple.attributes = [] := by
    exact flatMap_eq_nil_iff_of_nonempty fun _ => List.cons_ne_nil _ _
  have noPseudo : simple.pseudosText = [] ↔ simple.pseudos = [] := by
    refine flatMap_eq_nil_iff_of_nonempty ?_
    intro pseudo
    cases pseudo <;> simp [WrittenPseudo.text]
  simp [Segment.isEmpty, meaning, text, noTag, noId, noClass, noAttribute, noPseudo, and_assoc]

/-- Items that one character announces begin with it. -/
theorem eq_of_head?_flatMap
    {β : Type}
    {items : List β}
    {itemText : β → List Char}
    {c : Char}
    (sign : Char)
    (announced : ∀ item, (itemText item).head? = some sign)
    (head : (items.flatMap itemText).head? = some c) :
    c = sign := by
  cases items with
  | nil =>
      simp at head
  | cons item items =>
      simpa [List.flatMap_cons, announced item, eq_comm] using head

/-- The first character of a segment is a sign or belongs to a tag. -/
theorem head?_text
    {simple : WrittenSimple}
    {c : Char}
    (head : simple.text.head? = some c) :
    c.isAlphanum = true ∨ c ∈ ['*', '#', '.', '[', ':'] := by
  simp only [text, List.head?_append, Option.or_eq_some_iff] at head
  rcases head with inTag | ⟨_, inId | ⟨_, inClasses | ⟨_, inAttributes | ⟨_, inPseudos⟩⟩⟩⟩
  · unfold tagText at inTag
    match written : simple.tag with
    | none =>
        simp [written] at inTag
    | some .universal =>
        have same : '*' = c := by
          simpa [written, WrittenTag.text] using inTag
        simp [← same]
    | some (.named name) =>
        obtain ⟨first, letters, shape, alphanum⟩ := name.exists_cons
        have same : first = c := by
          simpa [written, WrittenTag.text, shape] using inTag
        exact Or.inl (same ▸ alphanum)
  · unfold idText at inId
    cases written : simple.id with
    | none =>
        simp [written] at inId
    | some id =>
        have same : '#' = c := by
          simpa [written] using inId
        simp [← same]
  · have sign := eq_of_head?_flatMap '.' (fun _ => rfl) inClasses
    simp [sign]
  · have sign := eq_of_head?_flatMap '[' (fun _ => rfl) inAttributes
    simp [sign]
  · have sign := eq_of_head?_flatMap ':'
      (fun pseudo => by cases pseudo <;> rfl) inPseudos
    simp [sign]

end WrittenSimple

/-- Letters and digits are neither run characters nor blank. -/
theorem not_blank_of_isAlphanum
    {c : Char}
    (alphanum : c.isAlphanum = true) :
    isRunChar c = false ∧ isBlank c = false := by
  constructor
  · refine Bool.eq_false_iff.mpr fun runChar => ?_
    have announces : 1 ≤ stage c := by
      rw [stage_of_isRunChar runChar]
      decide
    simp [not_isAlphanum_of_stage announces] at alphanum
  · exact not_isBlank_of_isAlphanum alphanum

/-- A segment begins with a character that is neither part of a run nor blank. -/
theorem WrittenSimple.not_blank_of_head?_text
    {simple : WrittenSimple}
    {c : Char}
    (head : simple.text.head? = some c) :
    isRunChar c = false ∧ isBlank c = false := by
  have signs :
      ∀ sign ∈ ['*', '#', '.', '[', ':'], (!isRunChar sign && !isBlank sign) = true :=
    List.all_eq_true.mp rfl
  rcases head?_text head with alphanum | sign
  · exact not_blank_of_isAlphanum alphanum
  · simpa using signs c sign

end MarkupQuery.Selector
