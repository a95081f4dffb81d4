import MarkupQuery.Html.Nesting.Basic
import MarkupQuery.Html.Token

namespace MarkupQuery.Html

/-!
# Graphics and formulas

Inside of `svg` and `math` the rules for tags are simpler: no start tag makes room for its element,
and `/>` ends an element at once. Some of their parts hold ordinary markup, and the start tag of an
ordinary element that cannot stand in them ends them.
-/

/-- The local names of the attributes that are written with a namespace. -/
def namespacedAttributes : List (String × String) :=
  [("xlink:actuate", "actuate"), ("xlink:arcrole", "arcrole"), ("xlink:href", "href"),
    ("xlink:role", "role"), ("xlink:show", "show"), ("xlink:title", "title"),
    ("xlink:type", "type"), ("xml:lang", "lang"), ("xml:space", "space"),
    ("xmlns:xlink", "xlink")]

/-- An attribute of `svg` or `math` or of an element in it, under its local name. -/
def localAttribute (pair : String × String) : String × String :=
  ((namespacedAttributes.lookup pair.1).getD pair.1, pair.2)

namespace StartTag

/-- Whether a start tag ends what it cannot stand in. That of `font` does if it has a look. -/
def endsForeign (tag : StartTag) : Bool :=
  foreignEnders.contains tag.name ||
    (tag.name == "font" && tag.attributes.any fun pair => fontAttributes.contains pair.1)

/-- The element of a start tag. -/
def element (tag : StartTag) : OpenElement :=
  { name := tag.name
    attributes := tag.attributes }

/-- The element of a start tag in a vocabulary other than that of pages. -/
def foreignElement (tag : StartTag) (vocabulary : Vocabulary) : OpenElement :=
  { name := tag.name
    attributes := tag.attributes.map localAttribute
    vocabulary := vocabulary }

end StartTag

namespace Nesting

/-- Whether the innermost open element is not one of a page. -/
def inForeign (nesting : Nesting) : Bool :=
  nesting.innermostIs OpenElement.isForeign

/-- Note that text was shown, which no frames can take the place of unless it is whitespace. -/
def noteText (nesting : Nesting) (text : String) : Nesting :=
  { nesting with allowsFrames := nesting.allowsFrames && text.toList.all Text.isSpace }

/-- Close what is open of a graphic or a formula, up to a part of it that holds ordinary markup. -/
def leaveForeign (nesting : Nesting) : Nesting :=
  nesting.popWhile fun element => element.isForeign && !element.isForeignHost

/-- Open `svg` or `math` or an element in it; `/>` closes it again. -/
def openForeign (nesting : Nesting) (vocabulary : Vocabulary) (tag : StartTag) : Nesting :=
  let element := tag.foreignElement vocabulary
  if tag.selfClosing then nesting.insertElement element else nesting.push element

/-- Close the nearest element of a name in a graphic or a formula, if there is one. -/
def closeForeign? (nesting : Nesting) (name : String) : Option Nesting :=
  nesting.closeNearest?
    (fun element => element.isForeign && element.name == name)
    OpenElement.isOrdinary

/--
Whether an end tag follows the rules of a graphic or a formula: it ends an element of it, or it
reaches nothing, with no page around.
-/
def endsInForeign (nesting : Nesting) (name : String) : Bool :=
  nesting.inForeign && !foreignEndersAtEnd.contains name &&
    ((nesting.closeForeign? name).isSome ||
      (!nesting.inPage && nesting.openElements.all fun element => !element.isOrdinary))

/-- Whether a token follows the rules of a graphic or a formula. -/
def isForeign (nesting : Nesting) : Token → Bool
  | .text _ => nesting.innermostIs fun element => !element.holdsText
  | .comment => nesting.inForeign
  | .doctype _ => false
  | .startTag tag =>
      !tag.endsForeign && nesting.innermostIs fun element => !element.holdsElement tag.name
  | .endTag name => nesting.endsInForeign name

/-- Take in text of a graphic or a formula. Null characters in it are replaced. -/
def takeForeignText (nesting : Nesting) (content : String) : Nesting :=
  let characters := content.toList
  (nesting.insertText (String.ofList (characters.map replaceNull))).noteText
    (String.ofList (characters.filter fun c => c != '\x00'))

/-- Open an element in the innermost one, with its vocabulary. -/
def openLikeInnermost (nesting : Nesting) (tag : StartTag) : Nesting :=
  match nesting.openElements with
  | [] => nesting
  | innermost :: _ => nesting.openForeign innermost.vocabulary tag

/-- Take in a token that follows the rules of a graphic or a formula. -/
def takeInForeign (nesting : Nesting) : Token → Nesting
  | .text content => nesting.takeForeignText content
  | .comment => nesting.insert .comment
  | .doctype _ => nesting
  | .startTag tag => nesting.openLikeInnermost tag
  | .endTag name => (nesting.closeForeign? name).getD nesting

/-- Leave a graphic or a formula for a token that cannot stand in it. -/
def leaveForeignFor (nesting : Nesting) : Token → Nesting
  | .startTag tag =>
      if nesting.innermostIs fun element => element.holdsElement tag.name then
        nesting
      else
        nesting.leaveForeign
  | .endTag name =>
      if foreignEndersAtEnd.contains name then nesting.leaveForeign else nesting
  | _ => nesting

end Nesting

end MarkupQuery.Html
