import MarkupQuery.Html.Nesting

namespace MarkupQuery.Html

/-!
# Pages

A whole page has a head and a body, whether or not their tags are written. Metadata goes to the
head as long as the body has not begun; the body begins with its tag, or with the first token that
cannot stand in front of it. Whitespace in front of the body is dropped. The tags `html` and
`body`, wherever they stand but in a template, a graphic or a formula, give the attributes that are
still missing. A set of frames may take the place of a body that shows nothing.
-/

/-- How far the reading of a page has come. -/
inductive PagePart where
  /-- Nothing was read but comments and whitespace. -/
  | start
  /-- Something else was read, but the head has not begun. -/
  | prolog
  /-- The head has begun. -/
  | head
  /-- The head has ended, but the body has not begun. -/
  | afterHead
  | body
  /-- The end tag of the body was read, and nothing after it but comments and whitespace. -/
  | epilog
  /-- A set of frames was read in place of the body. -/
  | frames
  /-- The set of frames has ended. -/
  | afterFrames
  deriving Repr, DecidableEq

/-- A part of a page of which nothing was read yet. Pages are of the old style by default. -/
def Nesting.ofPage : Nesting :=
  { inPage := true
    tablesEndParagraphs := false }

/-- What was read of a page; the markup around `html` is kept with the last first. -/
structure Page where
  part : PagePart := .start
  before : List Markup := []
  htmlAttributes : List (String × String) := []
  headAttributes : List (String × String) := []
  head : Nesting := .ofPage
  bodyAttributes : List (String × String) := []
  body : Nesting := .ofPage
  frames : Nesting := .ofPage
  after : List Markup := []

namespace Page

/-- A page of which nothing was read yet. -/
def empty : Page := {}

/-- Attributes with those of a further tag that are not among them. -/
def withMissing
    (attributes further : List (String × String)) :
    List (String × String) :=
  attributes ++ further.filter fun pair => !attributes.any fun known => known.1 == pair.1

/-- Add the attributes of an `html` tag. -/
def mergeHtml (page : Page) (tag : StartTag) : Page :=
  { page with htmlAttributes := withMissing page.htmlAttributes tag.attributes }

/-- Add the attributes of a `body` tag, which keeps frames out. -/
def mergeBody (page : Page) (tag : StartTag) : Page :=
  { page with
    bodyAttributes := withMissing page.bodyAttributes tag.attributes
    body := { page.body with allowsFrames := false } }

/-- Take in a token with what is open in the body. -/
def addToBody (page : Page) (token : Token) : Page :=
  { page with body := page.body.take token }

/-- Go on in some part of the page. -/
def goOn (page : Page) (part : PagePart) : Page :=
  { page with part := part }

/-- Let the body begin, with what the head has left in force. -/
def beginBody (page : Page) : Page :=
  { page with
    part := .body
    body := { page.head with outside := [] } }

/-- Let a set of frames begin, in place of the body. -/
def beginFrames (page : Page) (tag : StartTag) : Page :=
  { page with
    part := .frames
    frames := page.frames.push tag.element }

/-- Take in the start tag of a part of a page in the body. -/
def takePageStart (page : Page) (tag : StartTag) : Page :=
  let read := page.addToBody (.startTag tag)
  if page.body.hasOpen ["template"] then
    read.goOn .body
  else if tag.name = "html" then
    read.mergeHtml tag
  else if tag.name = "body" && !page.body.hasOpen ["select"] then
    (read.mergeBody tag).goOn .body
  else if tag.name = "frameset" && page.body.allowsFrames then
    page.beginFrames tag
  else
    read.goOn .body

/-- Take in the end tag of the page or of its body. It closes nothing. -/
def takePageEnd (page : Page) (name : String) : Page :=
  let read := page.addToBody (.endTag name)
  if page.body.region = .body && !page.body.openElements.any OpenElement.boundsScope then
    read.goOn .epilog
  else
    read.goOn .body

/-- Take in a token after the body has begun. -/
def takeInBody (page : Page) (token : Token) : Page :=
  match token with
  | .startTag tag =>
      if documentTags.contains tag.name then
        page.takePageStart tag
      else
        (page.addToBody token).goOn .body
  | .endTag name =>
      if name = "html" ∨ name = "body" then
        page.takePageEnd name
      else
        (page.addToBody token).goOn .body
  | _ => (page.addToBody token).goOn .body

/-- Take in a token after the end tag of the body. Whitespace still belongs to the body. -/
def takeAfterBody (page : Page) (token : Token) : Page :=
  match token with
  | .comment => { page with after := .comment :: page.after }
  | .text content =>
      if content.toList.all Text.isSpace then
        page.addToBody token
      else
        page.takeInBody token
  | .endTag "html" => page
  | .doctype _ => page
  | _ => page.takeInBody token

/--
Take in a token with the body, which has begun. What belongs to an element whose content is text, to
a graphic or to a formula goes there.
-/
def takeFromBody (page : Page) (token : Token) : Page :=
  if page.body.textElement?.isSome || page.body.isForeign token then
    page.addToBody token
  else if page.part = .epilog then
    page.takeAfterBody token
  else
    page.takeInBody token

/-- Put a comment where it stands in front of the body. -/
def insertComment (page : Page) : Page :=
  match page.part with
  | .start | .prolog => { page with before := .comment :: page.before }
  | _ => { page with head := page.head.insert .comment }

/-- Take in metadata in front of the body. -/
def takeMetadata (page : Page) (tag : StartTag) : Page :=
  { page with
    part := if page.part = .afterHead then .afterHead else .head
    head := page.head.take (.startTag tag) }

/-- Whether a start tag in front of the body is that of metadata. -/
def isMetadata (page : Page) (name : String) : Bool :=
  metadataElements.contains name && !(page.part = .afterHead && name == "noscript")

/-- Take in a start tag in front of the body. -/
def startTagBeforeBody (page : Page) (tag : StartTag) : Page :=
  if tag.name = "html" then
    (page.mergeHtml tag).goOn (if page.part = .start then .prolog else page.part)
  else if tag.name = "head" then
    if page.part = .head ∨ page.part = .afterHead then
      page
    else
      { page with part := .head, headAttributes := tag.attributes }
  else if tag.name = "body" then
    page.beginBody.mergeBody tag
  else if tag.name = "frameset" then
    page.beginFrames tag
  else if page.isMetadata tag.name then
    page.takeMetadata tag
  else
    page.beginBody.takeInBody (.startTag tag)

/--
Take in an end tag in front of the body. Only those of the page's parts mean anything, and that of
`br`, which is read as its start tag; but no doctype may follow any.
-/
def endTagBeforeBody (page : Page) (name : String) : Page :=
  if name = "head" then
    page.goOn .afterHead
  else if name = "html" ∨ name = "body" ∨ name = "br" then
    page.beginBody.takeInBody (.endTag name)
  else if page.part = .start then
    page.goOn .prolog
  else
    page

/-- Take in a doctype, which counts only in front of all else. -/
def takeDoctype (page : Page) (isOld : Bool) : Page :=
  if page.part = .start then
    { page with
      part := .prolog
      before := .doctype :: page.before
      head := { page.head with tablesEndParagraphs := !isOld } }
  else
    page

/-- Take in a token in front of the body. -/
def takeBeforeBody (page : Page) (token : Token) : Page :=
  match token with
  | .comment => page.insertComment
  | .doctype isOld => page.takeDoctype isOld
  | .text content =>
      let visible := content.toList.dropWhile Text.isSpace
      if visible.isEmpty then
        page
      else
        page.beginBody.takeInBody (.text (String.ofList visible))
  | .startTag tag => page.startTagBeforeBody tag
  | .endTag name => page.endTagBeforeBody name

/-- Take in metadata or a comment that stands among frames. -/
def addToFrames (page : Page) (token : Token) : Page :=
  { page with frames := page.frames.take token }

/-- Take in a token in a set of frames or after it. Most tokens mean nothing there. -/
def takeAmongFrames (page : Page) (token : Token) : Page :=
  let inSet := page.part = .frames
  match token with
  | .comment => page.addToFrames token
  | .startTag tag =>
      if tag.name = "html" then
        page.mergeHtml tag
      else if tag.name = "noframes" then
        page.addToFrames token
      else if tag.name = "frameset" ∧ inSet then
        page.beginFrames tag
      else if tag.name = "frame" ∧ inSet then
        { page with frames := page.frames.insertElement tag.element }
      else
        page
  | .endTag name =>
      if name = "frameset" ∧ inSet then
        let closed := page.frames.pop
        { page with
          part := if closed.openElements.isEmpty then .afterFrames else .frames
          frames := closed }
      else
        page
  | _ => page

/-- The part of the page in which elements are open. -/
def current (page : Page) : Nesting :=
  match page.part with
  | .body | .epilog => page.body
  | .frames | .afterFrames => page.frames
  | _ => page.head

/-- Take in one token. What is open in the head has to be closed before the page goes on. -/
def take (page : Page) (token : Token) : Page :=
  match page.part with
  | .body | .epilog => page.takeFromBody token
  | .frames | .afterFrames =>
      if page.frames.textElement?.isSome then
        page.addToFrames token
      else
        page.takeAmongFrames token
  | _ =>
      if page.head.openElements.isEmpty then
        page.takeBeforeBody token
      else
        { page with head := page.head.take token }

/-- The name of the innermost open element if its content is text up to its end tag. -/
def textElement? (page : Page) : Option String :=
  page.current.textElement?

/-- Whether what comes next stands in a graphic or a formula. -/
def inForeign (page : Page) : Bool :=
  page.current.inForeign

/-- Whether the rest of the input is text, whatever it looks like. -/
def restIsText (page : Page) : Bool :=
  page.current.restIsText

/-- The body of the page, or the frames in its place. -/
def finishBody (page : Page) : List Markup :=
  match page.part with
  | .frames | .afterFrames => page.frames.finish
  | _ => [.element "body" page.bodyAttributes page.body.finish []]

/-- The page with everything that was read. -/
def finish (page : Page) : List Markup :=
  let head := Markup.element "head" page.headAttributes page.head.finish []
  page.before.reverse ++
    .element "html" page.htmlAttributes (head :: page.finishBody) [] :: page.after.reverse

end Page

end MarkupQuery.Html
