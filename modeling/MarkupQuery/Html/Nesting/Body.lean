import MarkupQuery.Html.Nesting.Foreign
import MarkupQuery.Html.Nesting.Formatting

namespace MarkupQuery.Html

/-!
# Tokens in a body

What a token of markup does in the body of a page, and in whatever follows its rules. A start tag
may end open elements that it cannot stand in, an end tag ends the nearest open element of its name
with all that is open inside of it. An end tag without an open element in reach is ignored.
-/

/-- Whether a start tag is that of an input that is not shown. -/
def StartTag.isHiddenInput (tag : StartTag) : Bool :=
  tag.name == "input" && (tag.attributes.lookup "type").map Text.lowercase == some "hidden"

/-- Whether a start tag shows something that no frames can take the place of. -/
def StartTag.isVisible (tag : StartTag) : Bool :=
  visibleElements.contains tag.name && !tag.isHiddenInput

namespace Nesting

/-- Take in text of a page. Null characters in it do not count. -/
def takeText (nesting : Nesting) (content : String) : Nesting :=
  let visible := String.ofList (content.toList.filter fun c => c != '\x00')
  if visible.isEmpty then
    nesting
  else
    (nesting.resumeFormatting.insertText visible).noteText visible

/-- Close the nearest open paragraph. -/
def closeParagraph (nesting : Nesting) : Nesting :=
  nesting.closeNearest ["p"] OpenElement.boundsParagraph

/-- Close what may be left without an end tag. -/
def closeImplied (nesting : Nesting) (names : List String) : Nesting :=
  nesting.popWhile fun element => element.isAmong names

/-- Close what a start tag ends that stands in the same list, or goes with it in another way. -/
def closeSibling (nesting : Nesting) (name : String) : Nesting :=
  if name = "li" then
    nesting.closeNearest ["li"] OpenElement.boundsItems
  else if definitionItems.contains name then
    nesting.closeNearest definitionItems OpenElement.boundsItems
  else if name = "button" then
    nesting.closeNearest ["button"] OpenElement.boundsScope
  else if choiceParts.contains name then
    nesting.popIfIn ["option"]
  else if rubyParts.contains name && nesting.hasInScope ["ruby"] then
    if name = "rb" ∨ name = "rtc" then
      nesting.closeImplied impliedEnds
    else
      nesting.closeImplied (impliedEnds.erase "rtc")
  else
    nesting

/-- Whether the start tag of an element ends a paragraph. -/
def endsParagraph (nesting : Nesting) (name : String) : Bool :=
  paragraphEnders.contains name || (name == "table" && nesting.tablesEndParagraphs)

/-- Close the open elements that a start tag ends: a sibling, then a paragraph, then a heading. -/
def makeRoomFor (nesting : Nesting) (name : String) : Nesting :=
  let afterSibling := nesting.closeSibling name
  let afterParagraph :=
    if afterSibling.endsParagraph name then afterSibling.closeParagraph else afterSibling
  if headings.contains name then afterParagraph.popIfIn headings else afterParagraph

/-- Close the `a` in force, which the start tag of another one ends. -/
def endAnchor (nesting : Nesting) : Nesting :=
  match nesting.latestFormat? "a" with
  | none => nesting
  | some format => ((nesting.endFormatting "a").dropFormat format.number).endMarked format.number

/-- Open formatting by its start tag. Neither `a` nor `nobr` stands in another one. -/
def openFormatting (nesting : Nesting) (tag : StartTag) : Nesting :=
  let before := (if tag.name = "a" then nesting.endAnchor else nesting).resumeFormatting
  let alone :=
    if tag.name = "nobr" && before.hasInScope ["nobr"] then
      (before.endFormatting "nobr").resumeFormatting
    else
      before
  alone.startFormatting tag.name tag.attributes

/-- The element of a start tag; a `select` may stand in a part of a table. -/
def elementHere (nesting : Nesting) (tag : StartTag) : OpenElement :=
  if tag.name = "select" then
    { tag.element with contents := choiceRegion nesting.region.isInTable }
  else
    tag.element

/-- Open an element that gives no formatting. One that takes no content is closed again. -/
def openPlain (nesting : Nesting) (tag : StartTag) : Nesting :=
  let room := nesting.makeRoomFor tag.name
  let formatted :=
    if unformattedElements.contains tag.name then room else room.resumeFormatting
  let opened :=
    if contentlessElements.contains tag.name then
      formatted.insertElement tag.element
    else if enclosures.contains tag.name then
      (formatted.push tag.element).enterEnclosure
    else
      formatted.push (formatted.elementHere tag)
  { opened with
    skipsLineFeed := lineFeedElements.contains tag.name
    allowsFrames := opened.allowsFrames && !tag.isVisible }

/-- The element of a form that has begun, with the number that it is known by. -/
def formElement (nesting : Nesting) (tag : StartTag) : OpenElement :=
  { tag.element with mark := some nesting.nextMark }

/-- Let a form begin. -/
def beginForm (nesting : Nesting) : Nesting :=
  { nesting with
    form := some nesting.nextMark
    nextMark := nesting.nextMark + 1 }

/-- Open a form, unless one has begun. A template may hold further forms. -/
def openForm (nesting : Nesting) (tag : StartTag) : Nesting :=
  if nesting.hasOpen ["template"] then
    nesting.openPlain tag
  else if nesting.form.isSome then
    nesting
  else
    let room := nesting.makeRoomFor tag.name
    (room.push (room.formElement tag)).beginForm

/-- Open an element by its start tag. Those of parts of a page or of a table mean nothing here. -/
def openElement (nesting : Nesting) (tag : StartTag) : Nesting :=
  if documentTags.contains tag.name || tableParts.contains tag.name || tag.name == "frame" then
    nesting
  else if tag.name = "svg" then
    nesting.openForeign .svg tag
  else if tag.name = "math" then
    nesting.openForeign .math tag
  else if tag.name = "image" then
    nesting.openPlain { tag with name := "img" }
  else if tag.name = "form" then
    nesting.openForm tag
  else if formattingElements.contains tag.name then
    nesting.openFormatting tag
  else
    nesting.openPlain tag

/-- Close the nearest open template, whatever stands between. -/
def closeTemplate (nesting : Nesting) : Nesting :=
  match nesting.closeNearest? (fun element => element.isAmong ["template"]) fun _ => false with
  | none => nesting
  | some closed =>
      { closed.leaveEnclosure with openElements := withChoiceRegion closed.openElements }

/-- Close the nearest open enclosure of a name. -/
def closeEnclosure (nesting : Nesting) (name : String) : Nesting :=
  if name = "template" then
    nesting.closeTemplate
  else
    match nesting.closeNearest? (fun element => element.isAmong [name]) OpenElement.boundsScope with
    | none => nesting
    | some closed => closed.leaveEnclosure

/-- Take in the end tag of a paragraph. Without an open one it stands for an empty one. -/
def endParagraph (nesting : Nesting) : Nesting :=
  match nesting.closeNearest? (fun element => element.isAmong ["p"])
      OpenElement.boundsParagraph with
  | none => nesting.insertElement { name := "p", attributes := [] }
  | some closed => closed

/-- Take in the end tag of a form. It ends the form that has begun, but not what is open in it. -/
def endForm (nesting : Nesting) : Nesting :=
  if nesting.hasOpen ["template"] then
    nesting.closeNearest ["form"] OpenElement.boundsScope
  else
    match nesting.form with
    | none => nesting
    | some mark =>
        let after := { nesting with form := none }
        match depthOf? (fun element => element.mark == some mark) OpenElement.boundsScope
            nesting.openElements with
        | none => after
        | some _ => (after.closeImplied impliedEnds).endMarked mark

/-- Close an element by its end tag. The end tag of `br` is read as its start tag. -/
def closeElement (nesting : Nesting) (name : String) : Nesting :=
  if documentTags.contains name then
    nesting
  else if name = "br" then
    nesting.openElement { name := "br", attributes := [], selfClosing := false }
  else if name = "p" then
    nesting.endParagraph
  else if name = "form" then
    nesting.endForm
  else if name = "li" then
    nesting.closeNearest ["li"] OpenElement.boundsListItem
  else if headings.contains name then
    nesting.closeNearest headings OpenElement.boundsScope
  else if enclosures.contains name then
    nesting.closeEnclosure name
  else if formattingElements.contains name then
    nesting.endFormatting name
  else if blockElements.contains name || definitionItems.contains name || name = "button" then
    nesting.closeNearest [name] OpenElement.boundsScope
  else
    nesting.closePhrase name

/-- Take in one token that follows the rules of a body. -/
def takeInBody (nesting : Nesting) : Token → Nesting
  | .text content => nesting.takeText content
  | .comment => nesting.insert .comment
  | .doctype _ => nesting
  | .startTag tag => nesting.openElement tag
  | .endTag name => nesting.closeElement name

end Nesting

end MarkupQuery.Html
