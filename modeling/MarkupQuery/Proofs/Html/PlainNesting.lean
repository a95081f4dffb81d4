import MarkupQuery.Html.Nesting

namespace MarkupQuery.Html

/-!
# Plain markup among open elements

Plain markup is made of a few elements, each with its end tag or none at all, and of text. Where it
is nested as it may be, no start tag ends anything that is open and every end tag ends the innermost
open element. So a token of plain markup does one thing: it adds to what was read in the innermost
open element, it opens an element in it, or it closes it.
-/

/-- The elements of plain markup. -/
def plainTags : List String :=
  ["div", "span", "section", "article", "nav", "ul", "li", "p", "br", "hr", "img", "input"]

/-- Those of them that hold something and have an end tag. -/
def plainContainers : List String :=
  ["div", "span", "section", "article", "nav", "ul", "li", "p"]

/-- Those of them that may stand in a paragraph. -/
def phraseTags : List String := ["span", "br", "img", "input"]

/-- Whether an element may stand in others, of which the names are given, the innermost first. -/
def fitsIn (outer : List String) (tag : String) : Bool :=
  (tag != "li" || outer.head? == some "ul") && (!outer.contains "p" || phraseTags.contains tag)

namespace OpenElement

/-- An open element of plain markup. -/
structure IsPlain (element : OpenElement) : Prop where
  known : element.name ∈ plainContainers
  isHtml : element.vocabulary = .html
  isOpen : element.ended = false
  placed : element.misplaced = false
  nothingLater : element.later = []

namespace IsPlain

variable {element : OpenElement}

/-- A plain element is told from others by its name alone. -/
theorem isAmong
    (plain : element.IsPlain)
    (names : List String) :
    element.isAmong names = names.contains element.name := by
  simp [OpenElement.isAmong, isOrdinary, plain.isHtml, plain.isOpen]

/-- An element of plain markup is none of those that have rules of their own. -/
theorem isAmong_eq_false
    (plain : element.IsPlain)
    {names : List String}
    (apart : ∀ name ∈ plainContainers, names.contains name = false) :
    element.isAmong names = false := by
  rw [plain.isAmong]
  exact apart element.name plain.known

/-- Plain elements are no drawings and no formulas. -/
theorem isForeign_eq_false (plain : element.IsPlain) :
    element.isForeign = false := by
  simp [OpenElement.isForeign, plain.isHtml]

/-- Text may stand in every plain element. -/
theorem holdsText (plain : element.IsPlain) :
    element.holdsText = true := by
  simp [OpenElement.holdsText, plain.isForeign_eq_false]

/-- Elements of every name may stand in a plain element. -/
theorem holdsElement
    (plain : element.IsPlain)
    (name : String) :
    element.holdsElement name = true := by
  simp [OpenElement.holdsElement, plain.isHtml, plain.holdsText]

/-- Plain markup makes no region of its own. -/
theorem region?_eq_none (plain : element.IsPlain) :
    element.region? = none := by
  have known := plain.known
  simp only [plainContainers, List.mem_cons, List.not_mem_nil, or_false] at known
  rcases known with name | name | name | name | name | name | name | name <;>
    simp [OpenElement.region?, isOrdinary, plain.isHtml, plain.isOpen, name, rowGroups, tableCells]

end IsPlain

end OpenElement

/-- Inside of plain elements the rules of the body apply. -/
theorem regionInside_of_plain
    {elements : List OpenElement}
    (plain : ∀ element ∈ elements, element.IsPlain) :
    regionInside elements = .body := by
  induction elements with
  | nil =>
      rfl
  | cons element elements inductionHypothesis =>
      obtain ⟨here, around⟩ := List.forall_mem_cons.mp plain
      rw [regionInside, here.region?_eq_none]
      exact inductionHypothesis around

/-- What is not open is not found, whatever hides it. -/
theorem depthOf?_eq_none
    {wanted hides : OpenElement → Bool}
    {elements : List OpenElement}
    (absent : ∀ element ∈ elements, wanted element = false) :
    depthOf? wanted hides elements = none := by
  induction elements with
  | nil =>
      rfl
  | cons element elements inductionHypothesis =>
      obtain ⟨here, around⟩ := List.forall_mem_cons.mp absent
      simp [depthOf?, here, inductionHypothesis around]

/-- An element in which nothing was read yet. -/
theorem StartTag.markup_element (tag : StartTag) :
    tag.element.markup = .element tag.name tag.attributes [] [] := by
  unfold OpenElement.markup
  split <;> rfl

namespace Nesting

/-- Only elements of plain markup are open, and the next token depends on nothing else. -/
structure IsPlain (nesting : Nesting) : Prop where
  elements : ∀ element ∈ nesting.openElements, element.IsPlain
  formatting : nesting.formatting = []
  tableText : nesting.tableText = ""
  misplacing : nesting.misplacing = false
  skipsLineFeed : nesting.skipsLineFeed = false

/-- The names of the open elements, the innermost first. -/
def openNames (nesting : Nesting) : List String :=
  nesting.openElements.map OpenElement.name

/-- A fragment is begun in a plain state. -/
theorem isPlain_empty : Nesting.empty.IsPlain where
  elements := by
    simp [empty]
  formatting := rfl
  tableText := rfl
  misplacing := rfl
  skipsLineFeed := rfl

section Rules

variable {nesting : Nesting}

/-- The innermost element of a plain state is of no kind that plain elements never are. -/
theorem IsPlain.innermostIs_eq_false
    (plain : nesting.IsPlain)
    {kind : OpenElement → Bool}
    (never : ∀ element : OpenElement, element.IsPlain → kind element = false) :
    nesting.innermostIs kind = false := by
  rw [innermostIs]
  cases shape : nesting.openElements with
  | nil =>
      rfl
  | cons innermost others =>
      exact never innermost (plain.elements innermost (by simp [shape]))

/-- A plain state is never inside of a drawing or a formula. -/
theorem IsPlain.inForeign_eq_false (plain : nesting.IsPlain) :
    nesting.inForeign = false :=
  plain.innermostIs_eq_false fun _ element => element.isForeign_eq_false

/-- No element of a plain state holds raw text. -/
theorem IsPlain.textElement?_eq_none (plain : nesting.IsPlain) :
    nesting.textElement? = none := by
  unfold textElement?
  split
  · rfl
  · next innermost others shape =>
      have element := plain.elements innermost (by simp [shape])
      rw [element.isAmong_eq_false (by decide), element.isAmong_eq_false (by decide)]
      rfl

/-- A plain state never takes the rest of the markup as text. -/
theorem IsPlain.restIsText_eq_false (plain : nesting.IsPlain) :
    nesting.restIsText = false := by
  rw [restIsText, hasOpen, List.any_eq_false]
  intro element member
  simpa using (plain.elements element member).isAmong_eq_false (by decide)

/-- In a plain state nothing has to be put beside a table. -/
theorem IsPlain.isMisplaced_eq_false (plain : nesting.IsPlain) :
    nesting.isMisplaced = false := by
  simp [isMisplaced, plain.misplacing]

/-- In a plain state no element ends by itself. -/
theorem IsPlain.closeEnded_eq_self (plain : nesting.IsPlain) :
    nesting.closeEnded = nesting := by
  have nothing : nesting.openElements.takeWhile OpenElement.ended = [] := by
    cases shape : nesting.openElements with
    | nil =>
        rfl
    | cons innermost others =>
        have isOpen := (plain.elements innermost (by simp [shape])).isOpen
        simp [isOpen]
  rw [closeEnded, nothing]
  rfl

/-- There is no graphic or formula to leave. -/
theorem IsPlain.leaveForeign_eq_self (plain : nesting.IsPlain) :
    nesting.leaveForeign = nesting := by
  have nothing :
      nesting.openElements.takeWhile
        (fun element => element.ended || (element.isForeign && !element.isForeignHost)) = [] := by
    cases shape : nesting.openElements with
    | nil =>
        rfl
    | cons innermost others =>
        have element := plain.elements innermost (by simp [shape])
        simp [element.isOpen, element.isForeign_eq_false]
  rw [leaveForeign, popWhile, nothing]
  exact plain.closeEnded_eq_self

/-- A plain state has no foreign elements to leave, whatever token comes. -/
theorem IsPlain.leaveForeignFor_eq_self
    (plain : nesting.IsPlain)
    (token : Token) :
    nesting.leaveForeignFor token = nesting := by
  cases token with
  | startTag tag =>
      rw [leaveForeignFor, plain.leaveForeign_eq_self, ite_self]
  | endTag name =>
      rw [leaveForeignFor, plain.leaveForeign_eq_self, ite_self]
  | text content =>
      rfl
  | comment =>
      rfl
  | doctype isOld =>
      rfl

/-- A plain state takes no token by the rules for foreign elements. -/
theorem IsPlain.isForeign_eq_false
    (plain : nesting.IsPlain)
    (token : Token) :
    nesting.isForeign token = false := by
  cases token with
  | text content =>
      exact plain.innermostIs_eq_false fun _ element => by rw [element.holdsText]; rfl
  | comment =>
      exact plain.inForeign_eq_false
  | doctype isOld =>
      rfl
  | startTag tag =>
      rw [isForeign, plain.innermostIs_eq_false fun _ element => ?_, Bool.and_false]
      rw [element.holdsElement]
      rfl
  | endTag name =>
      simp [isForeign, endsInForeign, plain.inForeign_eq_false]

/-- Among elements of plain markup the rules of a body hold. -/
theorem IsPlain.takeInPlace_eq
    (plain : nesting.IsPlain)
    (token : Token) :
    nesting.takeInPlace token = nesting.takeInBody token := by
  have region : nesting.region = .body :=
    regionInside_of_plain plain.elements
  simp [takeInPlace, plain.textElement?_eq_none, plain.isForeign_eq_false,
    plain.leaveForeignFor_eq_self, takeInRegion, takeOutsideChoice, region]

/-- Where no line feed is skipped there is nothing to switch off. -/
theorem withoutLineFeed_of_eq_false (counts : nesting.skipsLineFeed = false) :
    { nesting with skipsLineFeed := false } = nesting := by
  rw [← counts]

/-- Where no text of a table is pending there is none to place. -/
theorem placeTableText_of_eq_empty (nothing : nesting.tableText = "") :
    nesting.placeTableText = nesting := by
  have placed : { nesting with tableText := "" } = nesting := by
    rw [← nothing]
  simp [placeTableText, nothing, placed, insertText]

theorem IsPlain.withoutLineFeed_eq_self (plain : nesting.IsPlain) :
    { nesting with skipsLineFeed := false } = nesting :=
  withoutLineFeed_of_eq_false plain.skipsLineFeed

theorem IsPlain.placeTableText_eq_self (plain : nesting.IsPlain) :
    nesting.placeTableText = nesting :=
  placeTableText_of_eq_empty plain.tableText

/-- A plain state has no formatting to take up again. -/
theorem IsPlain.resumeFormatting_eq_self (plain : nesting.IsPlain) :
    nesting.resumeFormatting = nesting := by
  simp [resumeFormatting, plain.formatting, sinceEnclosure]

/-- A start tag opens its element, with nothing done before. -/
theorem IsPlain.take_startTag
    (plain : nesting.IsPlain)
    (tag : StartTag) :
    nesting.take (.startTag tag) = nesting.openElement tag := by
  change (placeTableText { nesting with skipsLineFeed := false }).takeInPlace _ = _
  rw [plain.withoutLineFeed_eq_self, plain.placeTableText_eq_self, plain.takeInPlace_eq]
  rfl

/-- An end tag closes its element, with nothing done before. -/
theorem IsPlain.take_endTag
    (plain : nesting.IsPlain)
    (name : String) :
    nesting.take (.endTag name) = nesting.closeElement name := by
  change (placeTableText { nesting with skipsLineFeed := false }).takeInPlace _ = _
  rw [plain.withoutLineFeed_eq_self, plain.placeTableText_eq_self, plain.takeInPlace_eq]
  rfl

end Rules

/-- What was read in the innermost open element, the last first. -/
def content (nesting : Nesting) : List Markup :=
  match nesting.openElements with
  | [] => nesting.outside
  | innermost :: _ => innermost.content

/-- More markup read in the innermost open element. -/
def after (nesting : Nesting) (read : List Markup) (frames : Bool) : Nesting :=
  { nesting.addInside (fun content => read.reverse ++ content) with allowsFrames := frames }

/-- One more element open. -/
def opened (nesting : Nesting) (tag : StartTag) (frames : Bool) : Nesting :=
  { nesting with
    openElements := tag.element :: nesting.openElements
    allowsFrames := frames }

section Reading

variable {nesting : Nesting}

/-- Only what a change makes of the content that is there counts. -/
theorem addInside_congr
    {first second : List Markup → List Markup}
    (same : first nesting.content = second nesting.content) :
    nesting.addInside first = nesting.addInside second := by
  unfold addInside content at *
  split
  · next shape =>
      simp only [shape] at same
      rw [same]
  · next innermost others shape =>
      simp only [shape] at same
      rw [same]

/-- Behind nothing that was read the state is as before. -/
theorem after_nil : nesting.after [] nesting.allowsFrames = nesting := by
  unfold after addInside
  split
  · rfl
  · next innermost others shape =>
      simp [← shape]

/-- What is read in two parts stands behind one another. -/
theorem after_after
    (first second : List Markup)
    (before frames : Bool) :
    (nesting.after first before).after second frames = nesting.after (first ++ second) frames := by
  unfold after addInside
  cases nesting.openElements with
  | nil =>
      simp
  | cons innermost others =>
      simp

/-- What was read stands in front of the content, which is kept in reverse. -/
theorem content_after
    (read : List Markup)
    (frames : Bool) :
    (nesting.after read frames).content = read.reverse ++ nesting.content := by
  unfold after addInside content
  cases nesting.openElements <;> rfl

/-- What was read in an element just opened is its content. -/
theorem after_opened
    (tag : StartTag)
    (read : List Markup)
    (before frames : Bool) :
    (nesting.opened tag before).after read frames =
      { nesting with
        openElements := { tag.element with content := read.reverse } :: nesting.openElements
        allowsFrames := frames } := by
  simp [after, addInside, opened, StartTag.element]

/-- Reading content opens and closes nothing. -/
theorem openNames_after
    (read : List Markup)
    (frames : Bool) :
    (nesting.after read frames).openNames = nesting.openNames := by
  unfold after addInside openNames
  cases nesting.openElements <;> rfl

/-- A plain state stays plain behind whatever was read. -/
theorem IsPlain.after
    (plain : nesting.IsPlain)
    (read : List Markup)
    (frames : Bool) :
    (nesting.after read frames).IsPlain := by
  have elements : ∀ element ∈ (nesting.after read frames).openElements, element.IsPlain := by
    unfold Nesting.after addInside
    cases shape : nesting.openElements with
    | nil =>
        simp
    | cons innermost others =>
        obtain ⟨here, around⟩ := List.forall_mem_cons.mp (shape ▸ plain.elements)
        refine List.forall_mem_cons.mpr ⟨?_, around⟩
        exact {
          known := here.known
          isHtml := here.isHtml
          isOpen := here.isOpen
          placed := here.placed
          nothingLater := here.nothingLater
        }
  unfold Nesting.after addInside at *
  split at *
  · exact ⟨elements, plain.formatting, plain.tableText, plain.misplacing, plain.skipsLineFeed⟩
  · exact ⟨elements, plain.formatting, plain.tableText, plain.misplacing, plain.skipsLineFeed⟩

/-- A plain state stays plain when a container is opened. -/
theorem IsPlain.opened
    (plain : nesting.IsPlain)
    (tag : StartTag)
    (known : tag.name ∈ plainContainers)
    (frames : Bool) :
    (nesting.opened tag frames).IsPlain where
  elements := by
    refine List.forall_mem_cons.mpr ⟨?_, plain.elements⟩
    exact {
      known := known
      isHtml := rfl
      isOpen := rfl
      placed := rfl
      nothingLater := rfl
    }
  formatting := plain.formatting
  tableText := plain.tableText
  misplacing := plain.misplacing
  skipsLineFeed := plain.skipsLineFeed

end Reading

section Closing

variable {nesting : Nesting} {element : OpenElement}

/-- Where nothing is kept to follow, an element that ends is put behind what was read. -/
theorem IsPlain.settle_eq
    (plain : nesting.IsPlain)
    (markup : Markup) :
    nesting.settle markup = nesting.addInside fun content => markup :: content := by
  unfold settle addInside
  cases shape : nesting.openElements with
  | nil =>
      rfl
  | cons innermost others =>
      have nothingLater := (plain.elements innermost (by simp [shape])).nothingLater
      simp [← nothingLater]

/-- An element that ends among elements of plain markup is put behind what was read there. -/
theorem IsPlain.pop_eq
    (around : nesting.IsPlain)
    (placed : element.misplaced = false)
    (frames : Bool) :
    Nesting.pop
        { nesting with
          openElements := element :: nesting.openElements
          allowsFrames := frames } =
      nesting.after [element.markup] frames := by
  have closed :
      closeInnermost
          { nesting with
            openElements := element :: nesting.openElements
            allowsFrames := frames } =
        { nesting.settle element.markup with allowsFrames := frames } := by
    simp only [closeInnermost, placed, Bool.false_eq_true, if_false, settle]
    cases nesting.openElements <;> rfl
  rw [pop, popMany, closeMany, closeMany, closed, around.settle_eq]
  exact (around.after [element.markup] frames).closeEnded_eq_self

/-- The innermost element is closed alone if it is one that is wanted. -/
theorem closeNearest?_innermost
    {others : List OpenElement}
    {wanted hides : OpenElement → Bool}
    (shape : nesting.openElements = element :: others)
    (here : wanted element = true) :
    nesting.closeNearest? wanted hides = some nesting.pop := by
  simp [closeNearest?, shape, depthOf?, here, pop]

/-- The innermost element is closed alone if it has one of the names. -/
theorem closeNearest_innermost
    {others : List OpenElement}
    {names : List String}
    {hides : OpenElement → Bool}
    (shape : nesting.openElements = element :: others)
    (here : element.isAmong names = true) :
    nesting.closeNearest names hides = nesting.pop := by
  rw [closeNearest, closeNearest?_innermost shape here]
  rfl

/-- The end tag of the innermost open element closes it. -/
theorem closeElement_innermost
    {others : List OpenElement}
    (shape : nesting.openElements = element :: others)
    (plain : element.IsPlain) :
    nesting.closeElement element.name = nesting.pop := by
  have named (names : List String) (member : names.contains element.name = true) :
      element.isAmong names = true := by
    rw [plain.isAmong, member]
  by_cases paragraph : element.name = "p"
  · have closes : nesting.endParagraph = nesting.pop := by
      rw [endParagraph,
        closeNearest?_innermost shape (named ["p"] (by rw [paragraph]; decide))]
    rw [paragraph]
    exact closes
  · have known := plain.known
    simp only [plainContainers, List.mem_cons, List.not_mem_nil, or_false, paragraph] at known
    rcases known with name | name | name | name | name | name | name
    all_goals
      rw [name] at named ⊢
      exact closeNearest_innermost shape (named [_] (by decide))

end Closing

section Opening

variable {nesting : Nesting}

/-- Where no open element has one of the names nothing is closed. -/
theorem closeNearest_eq_self
    {names : List String}
    {hides : OpenElement → Bool}
    (absent : depthOf? (fun element => element.isAmong names) hides nesting.openElements = none) :
    nesting.closeNearest names hides = nesting := by
  rw [closeNearest, closeNearest?, absent]
  rfl

/-- An item that stands directly in a list ends no other item. -/
theorem IsPlain.closeSibling_eq_self
    (plain : nesting.IsPlain)
    {name : String}
    (known : name ∈ plainTags)
    (fits : fitsIn nesting.openNames name = true) :
    nesting.closeSibling name = nesting := by
  by_cases item : name = "li"
  · subst item
    have inList : nesting.openNames.head? = some "ul" := by
      simpa [fitsIn] using (Bool.and_eq_true_iff.mp fits).1
    rw [closeSibling, if_pos rfl]
    refine closeNearest_eq_self ?_
    cases shape : nesting.openElements with
    | nil =>
        rfl
    | cons innermost others =>
        have element := plain.elements innermost (by simp [shape])
        have list : innermost.name = "ul" := by
          simpa [openNames, shape] using inList
        have notItem : innermost.isAmong ["li"] = false := by
          rw [element.isAmong, list]
          decide
        have hides : innermost.boundsItems = true := by
          rw [OpenElement.boundsItems, OpenElement.isStructural, element.isAmong,
            element.isAmong, list]
          decide
        simp [depthOf?, notItem, hides]
  · have apart :
        ∀ name ∈ plainTags, definitionItems.contains name = false ∧ name ≠ "button" ∧
          choiceParts.contains name = false ∧ rubyParts.contains name = false := by
      decide
    obtain ⟨notDefinition, notButton, notChoice, notRuby⟩ := apart name known
    simp only [closeSibling, item, notDefinition, notButton, notChoice, notRuby, Bool.false_and,
      Bool.false_eq_true, if_false]

/-- No paragraph is open where an element stands that would end it. -/
theorem IsPlain.closeParagraph_eq_self
    (plain : nesting.IsPlain)
    {name : String}
    (known : name ∈ plainTags)
    (fits : fitsIn nesting.openNames name = true)
    (ends : nesting.endsParagraph name = true) :
    nesting.closeParagraph = nesting := by
  have notPhrase :
      ∀ name ∈ plainTags, (paragraphEnders.contains name || name == "table") = true →
        phraseTags.contains name = false := by
    decide
  have noPhrase : phraseTags.contains name = false := by
    refine notPhrase name known ?_
    rcases Bool.or_eq_true_iff.mp ends with listed | table
    · rw [listed, Bool.true_or]
    · rw [(Bool.and_eq_true_iff.mp table).1, Bool.or_true]
  have noParagraph : nesting.openNames.contains "p" = false := by
    simpa only [noPhrase, Bool.or_false, Bool.not_eq_true'] using (Bool.and_eq_true_iff.mp fits).2
  refine closeNearest_eq_self (depthOf?_eq_none fun element member => ?_)
  rw [(plain.elements element member).isAmong]
  refine Bool.eq_false_iff.mpr fun paragraph => ?_
  have named : element.name = "p" := by
    simpa using paragraph
  have isOpen : "p" ∈ nesting.openNames :=
    named ▸ List.mem_map_of_mem member
  simp [isOpen] at noParagraph

/-- Where it may stand, the start tag of an element of plain markup ends nothing. -/
theorem IsPlain.makeRoomFor_eq_self
    (plain : nesting.IsPlain)
    {name : String}
    (known : name ∈ plainTags)
    (fits : fitsIn nesting.openNames name = true) :
    nesting.makeRoomFor name = nesting := by
  have noHeading : ∀ name ∈ plainTags, headings.contains name = false := by
    decide
  simp only [makeRoomFor, plain.closeSibling_eq_self known fits, noHeading name known,
    Bool.false_eq_true, if_false]
  split
  · next ends =>
      exact plain.closeParagraph_eq_self known fits ends
  · rfl

/-- An element without rules of its own is opened by its start tag. -/
theorem openElement_eq_openPlain
    {tag : StartTag}
    {names : List String}
    (apart :
      ∀ name ∈ names,
        (documentTags.contains name || tableParts.contains name || name == "frame") = false ∧
          name ≠ "svg" ∧ name ≠ "math" ∧ name ≠ "image" ∧ name ≠ "form" ∧
          formattingElements.contains name = false)
    (known : tag.name ∈ names) :
    nesting.openElement tag = nesting.openPlain tag := by
  obtain ⟨noPart, notGraphic, notFormula, notImage, notForm, noFormat⟩ := apart tag.name known
  simp only [openElement, noPart, notGraphic, notFormula, notImage, notForm, noFormat,
    Bool.false_eq_true, if_false]

/-- In a plain state an element is opened by putting it on the stack. -/
theorem IsPlain.push_eq
    (plain : nesting.IsPlain)
    (tag : StartTag) :
    nesting.push tag.element = nesting.opened tag nesting.allowsFrames := by
  rw [push, plain.isMisplaced_eq_false]
  rfl

/-- An element that is closed at once is put behind what was read. -/
theorem IsPlain.insertElement_eq
    (plain : nesting.IsPlain)
    (tag : StartTag) :
    nesting.insertElement tag.element =
      nesting.after [tag.element.markup] nesting.allowsFrames := by
  rw [insertElement, plain.push_eq]
  exact plain.pop_eq rfl nesting.allowsFrames

/-- The start tag of an element of plain markup opens it, or adds it if it holds nothing. -/
theorem IsPlain.openPlain_eq
    (plain : nesting.IsPlain)
    {tag : StartTag}
    (known : tag.name ∈ plainTags)
    (fits : fitsIn nesting.openNames tag.name = true) :
    nesting.openPlain tag =
      if voidElements.contains tag.name then
        nesting.after [.element tag.name tag.attributes [] []]
          (nesting.allowsFrames && !tag.isVisible)
      else
        nesting.opened tag (nesting.allowsFrames && !tag.isVisible) := by
  have apart :
      ∀ name ∈ plainTags,
        enclosures.contains name = false ∧ lineFeedElements.contains name = false ∧
          name ≠ "select" ∧ contentlessElements.contains name = voidElements.contains name := by
    decide
  obtain ⟨noEnclosure, noLineFeed, notChoice, contentless⟩ := apart tag.name known
  simp only [openPlain, plain.makeRoomFor_eq_self known fits, plain.resumeFormatting_eq_self,
    ite_self, noEnclosure, noLineFeed, elementHere, notChoice, contentless, Bool.false_eq_true,
    if_false]
  split
  · rw [plain.insertElement_eq, tag.markup_element]
    unfold Nesting.after addInside
    cases nesting.openElements <;> simp [plain.skipsLineFeed]
  · rw [plain.push_eq]
    simp [Nesting.opened, plain.skipsLineFeed]

end Opening

section Tokens

variable {nesting : Nesting}

/-- The start tag of an element that holds nothing adds the element. -/
theorem IsPlain.exists_take_void
    (plain : nesting.IsPlain)
    (tag : StartTag)
    (known : tag.name ∈ plainTags)
    (fits : fitsIn nesting.openNames tag.name = true)
    (void : voidElements.contains tag.name = true) :
    ∃ frames,
      nesting.take (.startTag tag) =
        nesting.after [.element tag.name tag.attributes [] []] frames := by
  refine ⟨nesting.allowsFrames && !tag.isVisible, ?_⟩
  rw [plain.take_startTag, openElement_eq_openPlain (by decide) known, plain.openPlain_eq known fits,
    if_pos void]

/-- The start tag of any other element opens it. -/
theorem IsPlain.exists_take_startTag
    (plain : nesting.IsPlain)
    (tag : StartTag)
    (known : tag.name ∈ plainTags)
    (fits : fitsIn nesting.openNames tag.name = true)
    (notVoid : voidElements.contains tag.name = false) :
    ∃ frames, nesting.take (.startTag tag) = nesting.opened tag frames := by
  refine ⟨nesting.allowsFrames && !tag.isVisible, ?_⟩
  rw [plain.take_startTag, openElement_eq_openPlain (by decide) known, plain.openPlain_eq known fits, notVoid,
    if_neg Bool.false_ne_true]

/-- The end tag of an element adds the element with what was read in it. -/
theorem IsPlain.take_endTag_opened
    (plain : nesting.IsPlain)
    (tag : StartTag)
    (known : tag.name ∈ plainContainers)
    (read : List Markup)
    (before frames : Bool) :
    ((nesting.opened tag before).after read frames).take (.endTag tag.name) =
      nesting.after [.element tag.name tag.attributes read []] frames := by
  have inside := (plain.opened tag known before).after read frames
  rw [inside.take_endTag]
  rw [after_opened] at inside ⊢
  have element := inside.elements _ List.mem_cons_self
  have markup :
      OpenElement.markup { tag.element with content := read.reverse } =
        .element tag.name tag.attributes read [] := by
    rw [OpenElement.markup, element.isAmong_eq_false (by decide)]
    simp [StartTag.element]
  rw [← markup, ← plain.pop_eq rfl]
  exact closeElement_innermost rfl element

/-- Text is added behind what is not text. -/
theorem IsPlain.exists_take_text
    (plain : nesting.IsPlain)
    {content : String}
    (nonempty : content ≠ "")
    (noNull : '\x00' ∉ content.toList)
    (apart : ∀ before, nesting.content.head? ≠ some (.text before)) :
    ∃ frames, nesting.take (.text content) = nesting.after [.text content] frames := by
  have visible : content.toList.filter (fun c => c != '\x00') = content.toList := by
    refine List.filter_eq_self.mpr fun c member => ?_
    have notNull : c ≠ '\x00' := fun null => noNull (null ▸ member)
    simpa using notNull
  have counted : content.isEmpty = false := by
    simpa using nonempty
  have placed :
      nesting.insertText content = nesting.addInside fun before => .text content :: before := by
    rw [insertText, counted, if_neg Bool.false_ne_true, add, plain.isMisplaced_eq_false,
      if_neg Bool.false_ne_true]
    refine addInside_congr ?_
    unfold appendText
    split
    · next before others shape =>
        exact absurd (by rw [shape]; rfl) (apart before)
    · rfl
  simp only [take, plain.skipsLineFeed, Bool.false_eq_true, if_false, counted,
    plain.withoutLineFeed_eq_self, plain.takeInPlace_eq, takeInBody, takeText, visible,
    String.ofList_toList, plain.resumeFormatting_eq_self, placed]
  exact ⟨_, rfl⟩

end Tokens

end Nesting

end MarkupQuery.Html
