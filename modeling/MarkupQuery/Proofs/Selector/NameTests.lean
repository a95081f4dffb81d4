import MarkupQuery.Proofs.Selector.Descents
import MarkupQuery.Proofs.Selector.Reprinting
import MarkupQuery.Proofs.Tree.Iterators
import MarkupQuery.Proofs.Tree.Namings

namespace MarkupQuery.Selector

/-!
# Selecting by names

A selector of a single test finds, of what is below a node, everything that passes the test. For
tests on names this can be told from the names that were given while the tree was built: tags and
names of attributes agree in any case, tokens and values only as they are spelled. A class and an id
are nothing but values of two attributes.
-/

open MarkupQuery.Text
open MarkupQuery.Tree (built namings createdAs? settingsOf)
open MarkupQuery.Attributes (lastSetting?)

/-- Whether a text is among the values of an attribute. -/
def holdsValue (name value : String) (attributes : Attributes) : Bool :=
  (attributes.get? name).any fun values => values.contains value

section Simple

variable {simple : WrittenSimple} {selector : String}

/-- The tests of one segment as a branch, with nothing written around them. -/
def WrittenSimple.alone
    (simple : WrittenSimple)
    (nonempty : simple.text ≠ []) :
    WrittenBranch where
  first := {
    run := []
    runChars := List.forall_mem_nil _
    simple := simple
    nonempty := nonempty
  }
  rest := {
    segments := []
    separated := List.forall_mem_nil _
    trailing := []
    trailingChars := List.forall_mem_nil _
  }

theorem WrittenSimple.text_alone (nonempty : simple.text ≠ []) :
    (simple.alone nonempty).text = simple.text := by
  simp [alone, WrittenBranch.text, WrittenSegment.text, WrittenTail.text]

/-- The tests of one segment without a comma are a selector of one branch. -/
theorem Plan.parse_simple
    (text : selector.toList = simple.text)
    (nonempty : simple.text ≠ [])
    (single : ',' ∉ simple.text) :
    Plan.parse selector = .ok [[simple.meaning .descendant]] := by
  have shape : (simple.alone nonempty).text = selector.toList := by
    rw [simple.text_alone nonempty, text]
  have trimmed : Trimmed selector.toList := by
    rw [text]
    exact ⟨fun c head => (WrittenSimple.not_blank_of_head?_text head).2, simple.stops_reverse_text⟩
  have branches : branchTexts selector = [selector] :=
    branchTexts_of_trimmed (by simpa [← text] using nonempty) (text ▸ single) trimmed
  refine Plan.parse_eq_ok_iff.mpr ⟨by simp [branches], ?_⟩
  rw [branches, List.mapM_cons, parse_written shape]
  rfl

end Simple

theorem isBareChar_of_isIdentChar
    {c : Char}
    (ident : isIdentChar c = true) :
    isBareChar c = true := by
  have inside : c ≠ ']' := by
    rintro rfl
    exact absurd ident (by decide)
  simp [isBareChar, inside, not_isBlank_of_isIdentChar ident]

/-- An identifier needs no quotes as a value. -/
def WrittenValue.ofIdent (ident : WrittenIdent) : WrittenValue :=
  .bare
    { letters := ident.letters
      nonempty := ident.nonempty
      inside := fun c member => isBareChar_of_isIdentChar (ident.inside c member) }
    (fun head => absurd (ident.inside _ (List.mem_of_head? head)) (by decide))
    (fun head => absurd (ident.inside _ (List.mem_of_head? head)) (by decide))

/-- A selector that is a single test on a name. -/
inductive NameTest where
  | tag (name : Word Char.isAlphanum)
  | present (name : WrittenIdent)
  | holds (name value : WrittenIdent)
  | className (token : WrittenIdent)
  | id (name : WrittenIdent)

namespace NameTest

variable {tree : Tree} {root node : NodeId} {selector : String} {log : List Tree.Naming}

def text : NameTest → List Char
  | .tag name => name.letters
  | .present name => '[' :: name.letters ++ [']']
  | .holds name value => '[' :: name.letters ++ '=' :: value.letters ++ [']']
  | .className token => '.' :: token.letters
  | .id name => '#' :: name.letters

def written : NameTest → WrittenSimple
  | .tag name => { tag := some (.named name) }
  | .present name => { attributes := [{ name := name, comparison := none }] }
  | .holds name value =>
      { attributes := [{ name := name, comparison := some (.equals, .ofIdent value) }] }
  | .className token => { classes := [token] }
  | .id name => { id := some name }

/-- Whether an element passes. A class and an id are values of the attributes of these names. -/
def passes (element : Element) : NameTest → Bool
  | .tag name => element.tag == name.string.map Char.toLower
  | .present name => element.attributes.contains (name.string.map Char.toLower)
  | .holds name value =>
      holdsValue (name.string.map Char.toLower) value.string element.attributes
  | .className token => holdsValue "class" token.string element.attributes
  | .id name => holdsValue "id" name.string element.attributes

/-- What a log says of a test on a node. -/
def told (log : List Tree.Naming) (node : NodeId) : NameTest → Bool
  | .tag name =>
      (createdAs? log node).any fun given =>
        given.map Char.toLower == name.string.map Char.toLower
  | .present name =>
      (settingsOf log node).any fun setting => setting.key == name.string.map Char.toLower
  | .holds name value =>
      (lastSetting? (settingsOf log node) (name.string.map Char.toLower)).any fun setting =>
        setting.kept.contains value.string
  | .className token =>
      (lastSetting? (settingsOf log node) "class").any fun setting =>
        setting.tokens.contains token.string
  | .id name =>
      (lastSetting? (settingsOf log node) "id").any fun setting =>
        setting.kept.contains name.string

theorem text_written (test : NameTest) :
    test.written.text = test.text := by
  cases test <;>
    simp [written, text, WrittenSimple.text, WrittenSimple.tagText, WrittenSimple.idText,
      WrittenSimple.classesText, WrittenSimple.attributesText, WrittenSimple.pseudosText,
      WrittenTag.text, WrittenAttribute.text, WrittenAttribute.comparisonText,
      AttributeOperator.symbol, WrittenValue.ofIdent, WrittenValue.text]

theorem text_ne_nil (test : NameTest) :
    test.text ≠ [] := by
  cases test with
  | tag name => exact name.nonempty
  | _ => simp [text]

theorem comma_not_mem_text (test : NameTest) :
    ',' ∉ test.text := by
  have tag (name : Word Char.isAlphanum) : ',' ∉ name.letters :=
    fun member => absurd (name.inside ',' member) (by decide)
  have ident (name : WrittenIdent) : ',' ∉ name.letters :=
    fun member => absurd (name.inside ',' member) (by decide)
  cases test <;> simp [text, tag, ident]

theorem acceptsElement_written (test : NameTest) :
    (test.written.meaning .descendant).acceptsElement = fun element => test.passes element := by
  funext element
  cases test with
  | tag name =>
      simp [Segment.acceptsElement, written, WrittenSimple.meaning, WrittenTag.meaning,
        TagTest.accepts, acceptsClasses, passes]
  | present name =>
      simp [Segment.acceptsElement, written, WrittenSimple.meaning, WrittenAttribute.meaning,
        AttributeTest.accepts, acceptsClasses, passes, Attributes.contains]
  | holds name value =>
      simp [Segment.acceptsElement, written, WrittenSimple.meaning, WrittenAttribute.meaning,
        AttributeTest.accepts, acceptsClasses, passes, holdsValue, AttributeOperator.test,
        WrittenValue.ofIdent, WrittenValue.content, Word.string, List.any_beq']
  | className token =>
      cases values : element.attributes.get? "class" <;>
        simp [Segment.acceptsElement, written, WrittenSimple.meaning, acceptsClasses, passes,
          holdsValue, Element.classes, values]
  | id name =>
      simp [Segment.acceptsElement, written, WrittenSimple.meaning, acceptsClasses, acceptsId,
        passes, holdsValue, Element.id?]

/-- A test on a name selects what passes it, in document order. -/
theorem select_eq
    (linked : tree.Linked)
    (test : NameTest)
    (text : selector.toList = test.text) :
    select tree root selector =
      .ok ((tree.descendants root).filter fun node =>
        (tree.element? node).any fun element => test.passes element) := by
  have accepts :
      (test.written.meaning .descendant).accepts tree =
        fun node => (tree.element? node).any fun element => test.passes element := by
    funext node
    rw [Segment.accepts, acceptsElement_written]
    cases test <;> simp [written, WrittenSimple.meaning]
  have parsed : Plan.parse selector = .ok [[test.written.meaning .descendant]] := by
    rw [← test.text_written] at text
    refine Plan.parse_simple text ?_ ?_
    · rw [test.text_written]
      exact test.text_ne_nil
    · rw [test.text_written]
      exact test.comma_not_mem_text
  rw [select_of_parse_segment linked parsed rfl root, accepts]

/-- What an element passes can be told from the log. -/
theorem any_passes_eq_told
    (recorded : tree.Recorded log)
    (test : NameTest) :
    ((tree.element? node).any fun element => test.passes element) = test.told log node := by
  cases given : createdAs? log node with
  | none =>
      have unset := recorded.unnamed node given
      cases test <;> simp [recorded.element?_eq_none given, told, given, unset, lastSetting?]
  | some name =>
      obtain ⟨element, here, tag, held⟩ := recorded.exists_element given
      rw [here, Option.any_some]
      cases test with
      | tag name =>
          simp [passes, told, tag, given, lowercase]
      | present name =>
          rw [passes, told, held, Attributes.contains, Attributes.get?_ofSettings,
            Option.isSome_map, Attributes.isSome_lastSetting?]
      | holds name value =>
          rw [passes, told, held, holdsValue, Attributes.get?_ofSettings, Option.any_map]
      | className token =>
          rw [passes, told, held, holdsValue, Attributes.get?_ofSettings, Option.any_map]
          cases last : lastSetting? (settingsOf log node) "class" with
          | none =>
              rfl
          | some setting =>
              exact Attributes.contains_kept_of_class
                (Attributes.key_of_lastSetting? last) token.string_ne_empty
      | id name =>
          rw [passes, told, held, holdsValue, Attributes.get?_ofSettings, Option.any_map]

/-- A test on a name selects, in document order, what passes it as the log says. -/
theorem select_eq_told
    (linked : tree.Linked)
    (recorded : tree.Recorded log)
    (test : NameTest)
    (text : selector.toList = test.text) :
    select tree root selector =
      .ok ((tree.descendants root).filter fun node => test.told log node) := by
  simp only [test.select_eq linked text, test.any_passes_eq_told recorded]

/-- A value of an attribute with a name in lower case selects the elements that hold it. -/
theorem select_holds
    (linked : tree.Linked)
    (root : NodeId)
    {key : String}
    (ident : IsIdent key)
    (folded : ∀ c ∈ key.toList, c.isUpper = false)
    (value : WrittenIdent) :
    select tree root ("[" ++ key ++ "=" ++ value.string ++ "]") =
      .ok ((tree.descendants root).filter fun node =>
        (tree.element? node).any fun element =>
          holdsValue key value.string element.attributes) := by
  obtain ⟨name, letters, rfl⟩ := ident.exists_written
  have text :
      ("[" ++ name.string ++ "=" ++ value.string ++ "]").toList = (holds name value).text := by
    simp [NameTest.text, letters, value.toList_string]
  rw [select_eq linked _ text]
  have key : name.string.map Char.toLower = name.string := lowercase_eq_self folded
  simp only [passes, key]

end NameTest

/--
In every tree that edits build, every element created under a name, and below every node: a name
selects, in document order, the elements that were created under it in any case; in brackets it
selects those with an attribute that was set under it in any case. A class selects the elements
whose last setting of `class` has it as a token, letter for letter, and an id those whose last
setting of `id` has it as a value. Tests of the attributes `class` and `id` select the same.
-/
theorem select_names
    (edits : List Tree.Edit)
    (named : ∀ edit ∈ edits, edit.addsElement = false)
    (root : NodeId) :
    let tree := built edits
    let log := namings edits
    tree.PreOrder (tree.children root) (tree.descendants root) ∧
      (∀ tag,
        tag ≠ "" →
          (∀ c ∈ tag.toList, c.isAlphanum = true) →
            select tree root tag =
              .ok ((tree.descendants root).filter fun id =>
                (createdAs? log id).any fun given =>
                  given.map Char.toLower == tag.map Char.toLower)) ∧
      (∀ name,
        IsIdent name →
          select tree root ("[" ++ name ++ "]") =
            .ok ((tree.descendants root).filter fun id =>
              (settingsOf log id).any fun setting =>
                setting.key == name.map Char.toLower)) ∧
      (∀ token,
        IsIdent token →
          select tree root ("." ++ token) =
              .ok ((tree.descendants root).filter fun id =>
                (lastSetting? (settingsOf log id) "class").any fun setting =>
                  setting.tokens.contains token) ∧
            select tree root ("." ++ token) = select tree root ("[class=" ++ token ++ "]")) ∧
      ∀ name,
        IsIdent name →
          select tree root ("#" ++ name) =
              .ok ((tree.descendants root).filter fun id =>
                (lastSetting? (settingsOf log id) "id").any fun setting =>
                  setting.kept.contains name) ∧
            select tree root ("#" ++ name) = select tree root ("[id=" ++ name ++ "]") := by
  intro tree log
  have linked : tree.Linked := Tree.linked_built edits
  have recorded : tree.Recorded log := Tree.recorded_built named
  refine ⟨linked.preOrder_descendants root, ?_, ?_, ?_, ?_⟩
  · intro tag nonempty alphanum
    obtain ⟨word, letters, rfl⟩ :
        ∃ word : Word Char.isAlphanum, word.letters = tag.toList ∧ word.string = tag :=
      ⟨Word.ofString tag nonempty alphanum, rfl, Word.string_ofString⟩
    exact (NameTest.tag word).select_eq_told linked recorded letters.symm
  · intro name ident
    obtain ⟨word, letters, rfl⟩ := ident.exists_written
    refine (NameTest.present word).select_eq_told linked recorded ?_
    simp [NameTest.text, letters]
  · intro token ident
    obtain ⟨word, letters, rfl⟩ := ident.exists_written
    have text : ("." ++ word.string).toList = (NameTest.className word).text := by
      simp [NameTest.text, letters]
    have classes : IsIdent "class" := { nonempty := by decide, inside := by simp [isIdentChar] }
    have longer := NameTest.select_holds linked root classes (by simp) word
    refine ⟨NameTest.select_eq_told linked recorded _ text, ?_⟩
    exact (NameTest.select_eq linked _ text).trans longer.symm
  · intro name ident
    obtain ⟨word, letters, rfl⟩ := ident.exists_written
    have text : ("#" ++ word.string).toList = (NameTest.id word).text := by
      simp [NameTest.text, letters]
    have ids : IsIdent "id" := { nonempty := by decide, inside := by simp [isIdentChar] }
    have longer := NameTest.select_holds linked root ids (by simp) word
    refine ⟨NameTest.select_eq_told linked recorded _ text, ?_⟩
    exact (NameTest.select_eq linked _ text).trans longer.symm

/--
Names in any case are found in any case, and settings under other spellings overwrite: the first
item lost the class it was created with, the second the one that was set first. The values of a list
are not split, and what is set in the document is set nowhere.
-/
theorem select_names_spellings :
    let edits : List Tree.Edit := [
      .addElement 0 "UL" none [("ID", "Top"), ("Class", "one Two")],
      .build 1 [
        .element "Li" none [("CLASS", "one")] [.attributeValues "class" ["Two", "three four"]],
        .enter "li",
        .attribute "class" "one",
        .attribute "cLaSS" "four\tTwo",
        .attribute "Data-x" "1"
      ],
      .build 0 [.attribute "data-X" "2"],
      .append 3 2
    ]
    let tree := built edits
    (∀ edit ∈ edits, edit.addsElement = false) ∧
      tree.descendants 0 = [1, 3, 2] ∧
      namings edits = [
        .created 1 "UL", .set 1 (.text "ID" "Top"), .set 1 (.text "Class" "one Two"),
        .created 2 "Li", .set 2 (.text "CLASS" "one"), .set 2 (.list "class" ["Two", "three four"]),
        .created 3 "li", .set 3 (.text "class" "one"), .set 3 (.text "cLaSS" "four\tTwo"),
        .set 3 (.text "Data-x" "1")
      ] ∧
      select tree 0 "lI" = .ok [3, 2] ∧
      select tree 0 "[DATA-x]" = .ok [3] ∧
      select tree 0 ".Two" = .ok [1, 3, 2] ∧
      select tree 0 ".one" = .ok [1] ∧
      select tree 0 "[class=four]" = .ok [3] ∧
      select tree 0 "#Top" = .ok [1] ∧
      select tree 0 "[id=top]" = .ok [] := by
  intro edits tree
  have named : ∀ edit ∈ edits, edit.addsElement = false := by
    decide
  obtain ⟨_, tags, names, tokens, ids⟩ := select_names edits named 0
  -- Strings are folded letter by letter, on lists of characters the kernel can walk along.
  have folds (name other : String) :
      (name.map Char.toLower == other) = (name.toList.map Char.toLower == other.toList) :=
    lowercase_beq name other
  simp only [lastSetting?, Attributes.Setting.key, folds, String.toList_map]
    at tags names tokens ids
  have present : "[DATA-x]" = "[" ++ "DATA-x" ++ "]" := by
    decide +kernel
  have className : "[class=four]" = "[class=" ++ "four" ++ "]" := by
    decide +kernel
  have idName : "[id=top]" = "[id=" ++ "top" ++ "]" := by
    decide +kernel
  refine ⟨named, by decide +kernel, by decide +kernel, ?_, ?_, ?_, ?_, ?_, ?_, ?_⟩
  · rw [tags "lI" (by decide) (by simp)]
    exact congrArg Except.ok (by decide +kernel)
  · rw [present, names "DATA-x" ⟨by decide, by simp [isIdentChar]⟩]
    exact congrArg Except.ok (by decide +kernel)
  · refine (tokens "Two" ⟨by decide, by simp [isIdentChar]⟩).1.trans ?_
    exact congrArg Except.ok (by decide +kernel)
  · refine (tokens "one" ⟨by decide, by simp [isIdentChar]⟩).1.trans ?_
    exact congrArg Except.ok (by decide +kernel)
  · obtain ⟨found, longer⟩ := tokens "four" ⟨by decide, by simp [isIdentChar]⟩
    rw [className, ← longer, found]
    exact congrArg Except.ok (by decide +kernel)
  · refine (ids "Top" ⟨by decide, by simp [isIdentChar]⟩).1.trans ?_
    exact congrArg Except.ok (by decide +kernel)
  · obtain ⟨found, longer⟩ := ids "top" ⟨by decide, by simp [isIdentChar]⟩
    rw [idName, ← longer, found]
    exact congrArg Except.ok (by decide +kernel)

end MarkupQuery.Selector
