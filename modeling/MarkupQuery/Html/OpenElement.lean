import MarkupQuery.Html.Elements
import MarkupQuery.Html.Markup
import MarkupQuery.Text.Ascii

namespace MarkupQuery.Html

/-!
# Open elements

While markup is read, some elements are open: their start tag was read and their end is still to
come. They stand in each other, and what a token does depends on them: on the vocabulary that the
innermost is taken from, on the region that they make of what is inside of them, and on which of
them can be reached from where the token stands.
-/

/-- The vocabulary that the name of an element is taken from. -/
inductive Vocabulary where
  | html
  | svg
  | math
  deriving Repr, DecidableEq

/-- A place in a page by what may stand there. -/
inductive Region where
  | body
  | table
  | caption
  /-- In a group of columns of a table. -/
  | columns
  /-- In a group of rows of a table. -/
  | rows
  | row
  | cell
  /-- Among the choices of a `select`. -/
  | choice
  /-- Among the choices of a `select` that stands in a table. -/
  | choiceInTable
  /-- In a template of which it is not known yet what its content is a part of. -/
  | template
  deriving Repr, DecidableEq

/-- An element whose end was not read yet. -/
structure OpenElement where
  name : String
  attributes : List (String × String)
  vocabulary : Vocabulary := .html
  /-- The number that tells the element from others, for formatting and for forms. -/
  mark : Option Nat := none
  /-- Whether the element was misplaced in a table, so that it goes in front of it. -/
  misplaced : Bool := false
  /-- Whether the element has ended, but not what is open inside of it. -/
  ended : Bool := false
  /-- For a template or a `select`, the region that its content is a part of. -/
  contents : Region := .template
  /-- What was read inside of the element, the last first. -/
  content : List Markup := []
  /-- What comes after the element that is open inside of this one, the last first. -/
  later : List Markup := []

namespace OpenElement

/-- Whether it is an ordinary element that has not ended. -/
def isOrdinary (element : OpenElement) : Bool :=
  element.vocabulary == .html && !element.ended

/-- Whether it is `svg` or `math` or an element in it. -/
def isForeign (element : OpenElement) : Bool :=
  element.vocabulary != .html

/-- Whether it is an ordinary element with one of some names. -/
def isAmong (element : OpenElement) (names : List String) : Bool :=
  element.isOrdinary && names.contains element.name

/-- Whether it is a part of a graphic or of a formula that holds ordinary markup. -/
def isForeignHost (element : OpenElement) : Bool :=
  match element.vocabulary with
  | .html => false
  | .svg => graphicHosts.contains element.name
  | .math => formulaTexts.contains element.name

/-- Whether it is a remark on a formula that is written in ordinary markup. -/
def isMarkupAnnotation (element : OpenElement) : Bool :=
  element.vocabulary == .math && element.name == "annotation-xml" &&
    element.attributes.any fun pair =>
      pair.1 == "encoding" && markupEncodings.contains (Text.lowercase pair.2)

/-- Whether text in it is ordinary text. -/
def holdsText (element : OpenElement) : Bool :=
  !element.isForeign || element.isForeignHost || element.isMarkupAnnotation

/-- Whether a start tag in it opens an ordinary element, or begins a graphic or a formula. -/
def holdsElement (element : OpenElement) (name : String) : Bool :=
  if element.vocabulary = .math then
    if element.isForeignHost then
      !formulaMarks.contains name
    else
      element.isMarkupAnnotation || (element.name == "annotation-xml" && name == "svg")
  else
    element.holdsText

/-- Whether it hides those around it from the end tags of blocks. -/
def boundsScope (element : OpenElement) : Bool :=
  element.isAmong scopeBoundaries || element.isForeignHost

/-- Whether it hides those around it from what ends a paragraph. -/
def boundsParagraph (element : OpenElement) : Bool :=
  element.boundsScope || element.isAmong ["button"]

/-- Whether it hides those around it from the end tag of a list item. -/
def boundsListItem (element : OpenElement) : Bool :=
  element.boundsScope || element.isAmong ["ol", "ul"]

/-- Whether it hides those around it from the end tag of a phrase. -/
def isStructural (element : OpenElement) : Bool :=
  element.isAmong structuralElements

/-- Whether it hides those around it from an item that begins. -/
def boundsItems (element : OpenElement) : Bool :=
  element.isStructural && !element.isAmong ["address", "div", "p"]

/-- Whether it hides those around it from the tags of a table. -/
def boundsTable (element : OpenElement) : Bool :=
  element.isAmong ["table", "template"]

/-- The region that it makes of what is inside of it, if it makes one. -/
def region? (element : OpenElement) : Option Region :=
  if !element.isOrdinary then none
  else if element.name = "table" then some .table
  else if element.name = "caption" then some .caption
  else if element.name = "colgroup" then some .columns
  else if rowGroups.contains element.name then some .rows
  else if element.name = "tr" then some .row
  else if tableCells.contains element.name then some .cell
  else if element.name = "select" || element.name = "template" then some element.contents
  else none

/-- The markup of an element that ends. The content of a template is kept apart. -/
def markup (element : OpenElement) : Markup :=
  if element.isAmong ["template"] then
    .element element.name element.attributes [] element.content.reverse
  else
    .element element.name element.attributes element.content.reverse []

end OpenElement

/-- Whether a region is a part of a table. -/
def Region.isInTable : Region → Bool
  | .table | .caption | .rows | .row | .cell => true
  | _ => false

/-- The region inside of the innermost of some open elements. -/
def regionInside : List OpenElement → Region
  | [] => .body
  | element :: others =>
      match element.region? with
      | some region => region
      | none => regionInside others

/-- The region of choices, in a table or not. -/
def choiceRegion (inTable : Bool) : Region :=
  if inTable then .choiceInTable else .choice

/-- Whether some open elements stand in a table, with no template between. -/
def standInTable : List OpenElement → Bool
  | [] => false
  | element :: others =>
      if element.boundsTable then element.name == "table" else standInTable others

/-- Open elements of which the innermost region, if it is a `select`, is told anew. -/
def withChoiceRegion : List OpenElement → List OpenElement
  | [] => []
  | element :: others =>
      match element.region? with
      | none => element :: withChoiceRegion others
      | some region =>
          if region = .choice ∨ region = .choiceInTable then
            { element with contents := choiceRegion (standInTable others) } :: others
          else
            element :: others

end MarkupQuery.Html
