import Mathlib.Logic.Function.Iterate
import MarkupQuery.Proofs.Html.Imported
import MarkupQuery.Proofs.Html.RoundTrip

namespace MarkupQuery

/-!
# Scripts and styles

The content of a script or a style is read as it stands, up to the end tag. It is written escaped,
as any other text is. So writing it and reading it again gives the escaped text, and the text itself
only if nothing in it is in the way between tags.
-/

open Html Text
open MarkupQuery.Tree (root)

/-- Elements that hold code: their content is one text, without references. -/
def codeTags : List String := ["script", "style"]

/-- Whether an element holds code and has tags that are read back. -/
def Element.isCode (element : Element) : Bool :=
  codeTags.contains element.tag && element.text.isNone &&
    decide (element.attributes.entries.map Prod.fst).Nodup &&
      element.attributes.entries.all fun entry => isPlainName entry.1 && holdsPlainValues entry

namespace Html

/-- A text that is read as it stands where code stands, and is not dropped. -/
structure IsCode (content : String) : Prop where
  visible : isBlankText content = false
  noEndTag : ¬ "</".toList <:+: content.toList
  noComment : ¬ "<!--".toList <:+: content.toList
  noNull : '\x00' ∉ content.toList
  noReturn : '\r' ∉ content.toList

section Elements

variable {element : Element}

/-- An element holds code by its tag, has no text of its own, and has attributes to read back. -/
theorem isCode_iff :
    element.isCode = true ↔
      element.tag ∈ codeTags ∧ element.text = none ∧
        (element.attributes.entries.map Prod.fst).Nodup ∧
          ∀ entry ∈ element.attributes.entries,
            isPlainName entry.1 = true ∧ holdsPlainValues entry = true := by
  simp [Element.isCode, and_assoc]

/-- No reference is decoded in the content of elements with code. -/
theorem contains_rawTextElements_of_mem_codeTags
    {name : String}
    (known : name ∈ codeTags) :
    rawTextElements.contains name = true := by
  have each : ∀ name ∈ codeTags, rawTextElements.contains name = true := by
    decide
  exact each name known

/-- The tags of elements with code are plain names. -/
theorem isPlainName_of_mem_codeTags
    {name : String}
    (known : name ∈ codeTags) :
    isPlainName name = true := by
  have each : ∀ name ∈ codeTags, isPlainName name = true := by
    decide
  exact each name known

end Elements

section Contents

variable {content rest : List Char}

/-- What begins in a text before a tag, and holds no second `<`, stands in the text. -/
theorem prefix_of_prefix_append
    {literal : List Char}
    (nonempty : content ≠ [])
    (once : '<' ∉ literal.tail)
    (begins : literal <+: content ++ '<' :: rest) :
    literal <+: content := by
  rcases List.prefix_or_prefix_of_prefix begins (List.prefix_append content _) with
    inside | ⟨behind, rfl⟩
  · exact inside
  · cases behind with
    | nil =>
        simp
    | cons c behind =>
        have less : c = '<' := by
          have follows := (List.prefix_append_right_inj content).mp begins
          exact (List.cons_prefix_cons.mp follows).1
        refine absurd ?_ once
        rw [List.tail_append_of_ne_nil nonempty, less]
        simp

/-- An end tag begins with an angle bracket and a slash. -/
theorem prefix_of_atEndTag
    {name text : List Char}
    (ends : atEndTag name text = true) :
    "</".toList <+: text := by
  unfold atEndTag at ends
  split at ends
  · next rest =>
      exact ⟨rest, rfl⟩
  · cases ends

/-- Code without end tags does not end before the end tag behind it. -/
theorem atEndTag_append_eq_false
    {name : List Char}
    (nonempty : content ≠ [])
    (noEndTag : ¬ "</".toList <:+: content) :
    atEndTag name (content ++ '<' :: rest) = false := by
  refine Bool.eq_false_iff.mpr fun ends => noEndTag ?_
  exact (prefix_of_prefix_append nonempty (by decide) (prefix_of_atEndTag ends)).isInfix

/-- Content without an end tag is read up to the end tag behind it. -/
theorem contentToEndTag_append
    {name : List Char}
    (noEndTag : ¬ "</".toList <:+: content)
    (ends : atEndTag name ('<' :: rest) = true) :
    contentToEndTag name (content ++ '<' :: rest) = (content, '<' :: rest) := by
  induction content with
  | nil =>
      rw [List.nil_append, contentToEndTag, if_pos ends]
  | cons c content inductionHypothesis =>
      have later : ¬ "</".toList <:+: content :=
        fun inside => noEndTag (inside.trans (List.suffix_cons c content).isInfix)
      have here : atEndTag name (c :: content ++ '<' :: rest) = false :=
        atEndTag_append_eq_false (List.cons_ne_nil c content) noEndTag
      rw [List.cons_append] at here ⊢
      rw [contentToEndTag, here, if_neg Bool.false_ne_true, inductionHypothesis later]

/-- A script in which no comment begins is read in the same way. -/
theorem scriptContent_append
    (noEndTag : ¬ "</".toList <:+: content)
    (noComment : ¬ "<!--".toList <:+: content)
    (ends : atEndTag "script".toList ('<' :: rest) = true) :
    scriptContent .plain (content ++ '<' :: rest) = (content, '<' :: rest) := by
  induction content with
  | nil =>
      rw [List.nil_append, scriptContent, if_pos ⟨by decide, ends⟩]
  | cons c content inductionHypothesis =>
      have suffix := (List.suffix_cons c content).isInfix
      have nonempty := List.cons_ne_nil c content
      have here : atEndTag "script".toList (c :: content ++ '<' :: rest) = false :=
        atEndTag_append_eq_false nonempty noEndTag
      have stays : ScriptPart.next .plain (c :: content ++ '<' :: rest) = .plain := by
        rw [ScriptPart.next, if_neg]
        intro begins
        have inside := prefix_of_prefix_append nonempty (by decide)
          (List.isPrefixOf_iff_prefix.mp begins)
        exact noComment inside.isInfix
      have read := inductionHypothesis (fun inside => noEndTag (inside.trans suffix))
        fun inside => noComment (inside.trans suffix)
      rw [List.cons_append] at here stays ⊢
      rw [scriptContent, stays, here, read]
      simp

/-- What is written of code with entities is code as well. -/
theorem isCode_escaped
    {content : String}
    (code : IsCode content) :
    IsCode (escape .betweenTags content) := by
  have noLess : '<' ∉ (escape .betweenTags content).toList := by
    rw [escape, String.toList_ofList]
    exact less_not_mem_escaped
  have without (c : Char) (outside : c ∉ content.toList)
      (notAdded : c ≠ '&' ∧ c ≠ ';' ∧ c.isAlphanum = false) :
      c ∉ (escape .betweenTags content).toList := by
    rw [escape, String.toList_ofList]
    intro member
    rcases mem_or_isAlphanum_of_mem_escaped member with same | same | letter | inside
    · exact notAdded.1 same
    · exact notAdded.2.1 same
    · exact Bool.false_ne_true (notAdded.2.2.symm.trans letter)
    · exact outside inside
  refine ⟨?_, ?_, ?_, without _ code.noNull (by decide), without _ code.noReturn (by decide)⟩
  · exact isBlankText_escape_eq_false code.visible
  · exact fun inside => noLess (inside.subset (by decide))
  · exact fun inside => noLess (inside.subset (by decide))

end Contents

section Tokens

namespace Nesting

variable {nesting : Nesting} {tag : StartTag}

/-- The start tag of code ends nothing and opens its element. -/
theorem IsPlain.take_startTag_code
    (plain : nesting.IsPlain)
    (known : tag.name ∈ codeTags) :
    nesting.take (.startTag tag) =
      nesting.opened tag (nesting.allowsFrames && !tag.isVisible) := by
  have alone :
      ∀ name ∈ codeTags,
        name ≠ "li" ∧ definitionItems.contains name = false ∧ name ≠ "button" ∧
          choiceParts.contains name = false ∧ rubyParts.contains name = false ∧
          headings.contains name = false ∧
          (paragraphEnders.contains name || name == "table") = false := by
    decide
  have contents :
      ∀ name ∈ codeTags,
        unformattedElements.contains name = true ∧ contentlessElements.contains name = false ∧
          enclosures.contains name = false ∧ name ≠ "select" ∧
          lineFeedElements.contains name = false := by
    decide
  obtain ⟨notItem, notDefinition, notButton, notChoice, notRuby, noHeading, noEnder⟩ :=
    alone tag.name known
  obtain ⟨unformatted, hasContent, noEnclosure, notSelect, noLineFeed⟩ := contents tag.name known
  have room : nesting.makeRoomFor tag.name = nesting := by
    obtain ⟨notListed, noTable⟩ := Bool.or_eq_false_iff.mp noEnder
    simp only [makeRoomFor, closeSibling, notItem, notDefinition, notButton, notChoice, notRuby,
      noHeading, endsParagraph, notListed, noTable, Bool.false_and, Bool.or_false,
      Bool.false_eq_true, if_false]
  rw [plain.take_startTag, openElement_eq_openPlain (by decide) known]
  simp only [openPlain, room, unformatted, hasContent, noEnclosure, elementHere, notSelect,
    noLineFeed, Bool.false_eq_true, if_false, if_true, plain.push_eq]
  simp [Nesting.opened, plain.skipsLineFeed]

/-- In an element of code, text comes next up to its end tag. -/
theorem textElement?_opened_code
    (nesting : Nesting)
    (known : tag.name ∈ codeTags)
    (read : List Markup)
    (before frames : Bool) :
    ((nesting.opened tag before).after read frames).textElement? = some tag.name := by
  have isRaw := List.contains_iff_mem.mp (contains_rawTextElements_of_mem_codeTags known)
  rw [after_opened, textElement?]
  simp [OpenElement.isAmong, OpenElement.isOrdinary, StartTag.element, isRaw]

/-- In an element that holds raw text every token is taken as that. -/
theorem takeInPlace_of_textElement?
    {name : String}
    (holdsText : nesting.textElement? = some name)
    (token : Token) :
    nesting.takeInPlace token = nesting.takeInText token := by
  rw [takeInPlace, holdsText]
  rfl

/-- Text is the content of an element of code just opened. -/
theorem IsPlain.take_text_code
    (plain : nesting.IsPlain)
    (known : tag.name ∈ codeTags)
    {content : String}
    (nonempty : content ≠ "")
    (before : Bool) :
    (nesting.opened tag before).take (.text content) =
      (nesting.opened tag before).after [.text content] before := by
  have counted : content.isEmpty = false := by
    simpa using nonempty
  have counts : (nesting.opened tag before).skipsLineFeed = false :=
    plain.skipsLineFeed
  have holdsText : (nesting.opened tag before).textElement? = some tag.name :=
    textElement?_opened_code nesting known [] before before
  have placed : (nesting.opened tag before).isMisplaced = false := by
    simp [isMisplaced, Nesting.opened, plain.misplacing]
  simp only [take, counts, Bool.false_eq_true, if_false, counted,
    withoutLineFeed_of_eq_false counts, takeInPlace_of_textElement? holdsText, takeInText,
    insertText, add, placed]
  rfl

/-- The end tag of code closes its element. -/
theorem IsPlain.take_endTag_code
    (plain : nesting.IsPlain)
    (known : tag.name ∈ codeTags)
    (read : List Markup)
    (name : String)
    (before frames : Bool) :
    ((nesting.opened tag before).after read frames).take (.endTag name) =
      nesting.after [.element tag.name tag.attributes read []] frames := by
  have noTemplate : ∀ name ∈ codeTags, name ≠ "template" := by
    decide
  have markup :
      OpenElement.markup { tag.element with content := read.reverse } =
        .element tag.name tag.attributes read [] := by
    simp [OpenElement.markup, OpenElement.isAmong, StartTag.element, noTemplate tag.name known]
  have holdsText := textElement?_opened_code nesting known read before frames
  have counts : ((nesting.opened tag before).after read frames).skipsLineFeed = false :=
    plain.skipsLineFeed
  have noTableText : ((nesting.opened tag before).after read frames).tableText = "" :=
    plain.tableText
  rw [← markup, ← plain.pop_eq rfl, ← after_opened tag read before frames]
  simp only [take, withoutLineFeed_of_eq_false counts, placeTableText_of_eq_empty noTableText,
    takeInPlace_of_textElement? holdsText, takeInText]

end Nesting

end Tokens

section Reading

variable {nesting : Nesting} {element : Element} {content : String}

/-- The end tag of an element with code is found where it was written. -/
theorem atEndTag_endTag
    (known : element.tag ∈ codeTags)
    (rest : List Char) :
    atEndTag element.tag.toList ((endTag element).toList ++ rest) = true := by
  have folded : ∀ name ∈ codeTags, name.toList.map Char.toLower = name.toList := by
    decide
  simp [toList_endTag, atEndTag, beginsWithWord, folded element.tag known, endsTagName]

/-- Code is read up to its end tag. -/
theorem rawContent_code
    (known : element.tag ∈ codeTags)
    (code : IsCode content)
    (rest : List Char) :
    rawContent element.tag (content.toList ++ ((endTag element).toList ++ rest)) =
      (content.toList, (endTag element).toList ++ rest) := by
  have ends := atEndTag_endTag known rest
  rw [toList_endTag, List.cons_append] at ends ⊢
  unfold rawContent
  split
  · next isScript =>
      rw [isScript] at ends ⊢
      exact scriptContent_append code.noEndTag code.noComment ends
  · exact contentToEndTag_append code.noEndTag ends

/-- Code stands for itself as the text of its element. -/
theorem elementText_code
    (known : element.tag ∈ codeTags)
    (code : IsCode content) :
    elementText element.tag content.toList = content := by
  rw [elementText, if_pos (contains_rawTextElements_of_mem_codeTags known),
    map_replaceNull_eq_self code.noNull, String.ofList_toList]

/-- An empty text changes nothing where every line feed counts. -/
theorem prepare_eq_self
    (counts : nesting.skipsLineFeed = false)
    (characters : List Char) :
    fragmentConsumer.prepare nesting characters = nesting := by
  have nothing : nesting.take (.text "") = nesting := by
    simp only [Nesting.take, counts, Bool.false_eq_true, if_false,
      Nesting.withoutLineFeed_of_eq_false counts]
    rfl
  rw [Consumer.prepare]
  split
  · exact nothing
  · rfl

/-- An element of code is read with its content as it stands. -/
theorem exists_run_code
    (plain : nesting.IsPlain)
    (known : element.tag ∈ codeTags)
    (readable : HasReadableTags element)
    (code : IsCode content)
    (rest : List Char) :
    ∃ frames,
      fragmentConsumer.run nesting
          ((startTag element).toList ++ (content.toList ++ ((endTag element).toList ++ rest))) =
        fragmentConsumer.run
          (nesting.after
            [.element element.tag (element.attributes.entries.map readEntry) [.text content] []]
            frames)
          rest := by
  have nonempty : content ≠ "" := by
    rintro rfl
    exact absurd code.visible (by decide)
  refine ⟨nesting.allowsFrames && !(startTagOf element).isVisible, ?_⟩
  rw [run_startTag plain readable, plain.take_startTag_code known]
  generalize (nesting.allowsFrames && !(startTagOf element).isVisible) = before
  have knownTag : (startTagOf element).name ∈ codeTags := known
  have holdsText :
      fragmentConsumer.textElement? (nesting.opened (startTagOf element) before) =
        some element.tag :=
    Nesting.textElement?_opened_code nesting knownTag [] before before
  have taken :
      fragmentConsumer.take (nesting.opened (startTagOf element) before) (.text content) =
        (nesting.opened (startTagOf element) before).after [.text content] before :=
    plain.take_text_code known nonempty before
  have counts : (nesting.opened (startTagOf element) before).skipsLineFeed = false :=
    plain.skipsLineFeed
  have countsInside :
      ((nesting.opened (startTagOf element) before).after [.text content] before).skipsLineFeed =
        false :=
    plain.skipsLineFeed
  refine Consumer.run_of_step ?_ ?_
  · simp only [Consumer.step, holdsText, rawContent_code known code, elementText_code known code,
      prepare_eq_self counts, taken, Consumer.takeNext, read_endTag readable,
      prepare_eq_self countsInside]
    exact congrArg (·, rest) (plain.take_endTag_code known _ _ _ _)
  · simp [toList_endTag]
    omega

end Reading

/-- Code between the tags of its element. -/
def withCode (element : Element) (content : String) : String :=
  startTag element ++ content ++ endTag element

/-- Markup tells the code in it. -/
theorem withCode_inj
    {element : Element}
    {first second : String} :
    withCode element first = withCode element second ↔ first = second := by
  rw [← String.toList_inj, ← String.toList_inj]
  simp [withCode]

/-- What is copied of an element of code. -/
def codeSketch (element : Element) (content : String) : Sketch :=
  .node (.element element) [.node (.text content) []]

section Fragments

variable {element : Element} {content : String}

/-- The tags of an element with code are read back. -/
theorem hasReadableTags_of_isCode (isCode : element.isCode = true) :
    HasReadableTags element := by
  obtain ⟨known, _, distinct, entries⟩ := isCode_iff.mp isCode
  exact hasReadableTags_of_plainValues (isPlainName_of_mem_codeTags known) distinct entries

/-- Between its tags code is read character by character, with no change of line ends. -/
theorem inputCharacters_withCode
    (isCode : element.isCode = true)
    (code : IsCode content) :
    inputCharacters (withCode element content) =
      (startTag element).toList ++ (content.toList ++ (endTag element).toList) := by
  have readable := hasReadableTags_of_isCode isCode
  have noReturn :
      '\r' ∉ (startTag element).toList ++ (content.toList ++ (endTag element).toList) := by
    intro member
    rcases List.mem_append.mp member with begins | member
    · exact absurd (isCleanChar_of_mem_startTag readable begins) (by decide)
    rcases List.mem_append.mp member with inside | ends
    · exact code.noReturn inside
    · exact absurd (isCleanChar_of_mem_endTag readable ends) (by decide)
  have noMark :
      dropByteOrderMark (withCode element content).toList =
        (startTag element).toList ++ (content.toList ++ (endTag element).toList) := by
    rw [withCode, String.toList_append, String.toList_append, List.append_assoc, toList_startTag]
    rfl
  rw [inputCharacters, noMark, unifyLineEnds_eq_self noReturn]

/-- An element of code is read as it stands, and copied as one element and one text. -/
theorem sketches_readFragment_withCode
    (isCode : element.isCode = true)
    (code : IsCode content) :
    (readFragment (withCode element content)).sketches = [codeSketch element content] := by
  obtain ⟨known, noText, distinct, entries⟩ := isCode_iff.mp isCode
  have plainName := isPlainName_of_mem_codeTags known
  obtain ⟨frames, reads⟩ :=
    exists_run_code Nesting.isPlain_empty known (hasReadableTags_of_isCode isCode) code []
  rw [List.append_nil, Consumer.run_nil] at reads
  rw [readFragment, inputCharacters_withCode isCode code, reads, finish_after_empty]
  have visible : isVisible content = true := by
    rw [isVisible_eq, code.visible, Bool.not_false]
  simp only [Markup.sketches, Markup.allSketches, visible, if_true,
    element_of_readEntry plainName noText distinct entries, List.append_nil]
  rfl

/-- The text of an element with code is written with entities. -/
theorem written_codeSketch
    (isCode : element.isCode = true)
    (content : String) :
    (codeSketch element content).written =
      (withCode element (escape .betweenTags content)).toList := by
  obtain ⟨known, noText, _, _⟩ := isCode_iff.mp isCode
  have notVoid : ∀ name ∈ codeTags, voidElements.contains name = false := by
    decide
  rw [codeSketch, written_element (notVoid element.tag known) noText, withCode,
    String.toList_append, String.toList_append]
  simp [Sketch.allWritten, Sketch.written]

/-- Code that was read is written escaped. -/
theorem render_importFragment_withCode
    (isCode : element.isCode = true)
    (code : IsCode content) :
    render .minified (importFragment (withCode element content)).tree root =
      withCode element (escape .betweenTags content) := by
  rw [render_minified, importFragment, Import.sketch_ofMarkup,
    sketches_readFragment_withCode isCode code, Sketch.written, Sketch.allWritten,
    written_codeSketch isCode, Sketch.allWritten, List.append_nil, String.ofList_toList]

/-- Each time code is read and written it is escaped once more. -/
theorem iterate_render_importFragment_withCode
    (isCode : element.isCode = true)
    (code : IsCode content)
    (times : Nat) :
    (fun markup => render .minified (importFragment markup).tree root)^[times]
        (withCode element content) =
      withCode element ((escape .betweenTags)^[times] content) := by
  induction times generalizing content with
  | zero =>
      rfl
  | succ times inductionHypothesis =>
      rw [Function.iterate_succ_apply, Function.iterate_succ_apply,
        render_importFragment_withCode isCode code, inductionHypothesis (isCode_escaped code)]

/-- The tree of an element of code holds the element and its text, and nothing else. -/
theorem importFragment_withCode
    (isCode : element.isCode = true)
    (code : IsCode content) :
    let tree := (importFragment (withCode element content)).tree
    tree.descendants root = [1, 2] ∧ tree.element? 1 = some element ∧
      tree.textContent 1 = content := by
  intro tree
  obtain ⟨_, noText, _, _⟩ := isCode_iff.mp isCode
  have linked : tree.Linked := Import.linked_ofMarkup _
  have laidOut : tree.LaidOut root (.node .document [codeSketch element content]) := by
    rw [← sketches_readFragment_withCode isCode code]
    exact Import.laidOut_ofMarkup _
  have laidOutElement : tree.LaidOut 1 (codeSketch element content) := laidOut.2.2.1
  have isElement : tree.kind? 1 = some (.element element) := laidOutElement.1
  have isText : tree.kind? 2 = some (.text content) := laidOutElement.2.2.1.1
  have order : root :: tree.descendants root = [0, 1, 2] :=
    linked.descendants_of_laidOut laidOut
  have below : 1 :: tree.descendants 1 = [1, 2] :=
    linked.descendants_of_laidOut laidOutElement
  refine ⟨(List.cons.inj order).2, by rw [Tree.element?, isElement], ?_⟩
  calc
    tree.textContent 1 = String.join ([1, 2].map tree.ownText) := by
      rw [Tree.textContent, below]
    _ = content := by
      simp [String.join, Tree.ownText, isElement, isText, noText]

/--
Code that is read, written and read again is the only element once more, but its text is the escaped
code. That is the code itself only if nothing in the code is in the way between tags, and then only
is what is written what was read.
-/
theorem textContent_importFragment_render
    (element : Element)
    (content : String)
    (isCode : element.isCode = true)
    (code : IsCode content) :
    let markup := withCode element content
    let first := (importFragment markup).tree
    let again := (importFragment (render .minified first root)).tree
    first.textContent 1 = content ∧
      again.descendants root = [1, 2] ∧
      again.element? 1 = some element ∧
      again.textContent 1 = escape .betweenTags content ∧
      (again.textContent 1 = content ↔ ∀ c ∈ content.toList, c ≠ '&' ∧ c ≠ '<' ∧ c ≠ '>') ∧
      (render .minified first root = markup ↔
        ∀ c ∈ content.toList, c ≠ '&' ∧ c ≠ '<' ∧ c ≠ '>') := by
  intro markup first again
  have rendered : render .minified first root = withCode element (escape .betweenTags content) :=
    render_importFragment_withCode isCode code
  obtain ⟨_, _, text⟩ := importFragment_withCode isCode code
  obtain ⟨order, isElement, escapedText⟩ :=
    importFragment_withCode isCode (isCode_escaped code)
  rw [← rendered] at order isElement escapedText
  refine ⟨text, order, isElement, escapedText, ?_, ?_⟩
  · rw [← escape_betweenTags_eq_self_iff]
    exact escapedText ▸ Iff.rfl
  · rw [rendered, ← escape_betweenTags_eq_self_iff]
    exact withCode_inj

/-- A style whose selector and whose text hold what is in the way between tags. -/
theorem textContent_importFragment_render_style :
    let element : Element := {
      tag := "style"
      attributes := { entries := [("media", ["screen"])] }
    }
    let markup := "<style media=\"screen\">a > b \x7b content: \"&lt;\" \x7d</style>"
    let first := (importFragment markup).tree
    let again := (importFragment (render .minified first root)).tree
    element.isCode = true ∧
      IsCode "a > b \x7b content: \"&lt;\" \x7d" ∧
      first.textContent 1 = "a > b \x7b content: \"&lt;\" \x7d" ∧
      again.descendants root = [1, 2] ∧
      again.element? 1 = some element ∧
      again.textContent 1 = "a &gt; b \x7b content: \"&amp;lt;\" \x7d" := by
  intro element markup first again
  have isCode : element.isCode = true := by
    decide +kernel
  have code : IsCode "a > b \x7b content: \"&lt;\" \x7d" :=
    ⟨by decide +kernel, by decide +kernel, by decide +kernel, by decide +kernel, by decide +kernel⟩
  obtain ⟨text, order, isElement, escapedText, _⟩ :=
    textContent_importFragment_render element _ isCode code
  exact ⟨isCode, code, text, order, isElement, escapedText.trans (by decide +kernel)⟩

/-- A script with a comparison is not given back. -/
theorem textContent_importFragment_render_script :
    let markup := "<script>a<b</script>"
    let first := (importFragment markup).tree
    let again := (importFragment (render .minified first root)).tree
    first.textContent 1 = "a<b" ∧
      again.element? 1 = first.element? 1 ∧
      again.textContent 1 ≠ "a<b" ∧
      render .minified first root ≠ markup := by
  decide +kernel

end Fragments

end Html

end MarkupQuery
