import MarkupQuery.Html.OpenElement

namespace MarkupQuery.Html

/-!
# What is open and what was read

What is read goes into the innermost open element. An end tag, or the start tag of an element that
cannot stand where it was written, closes the nearest open element of some kind with all that is
open inside of it, unless another element stands between that hides it. Text and elements that are
written in a table, but not in one of its cells, go in front of the table.
-/

/-- Formatting that an element gives until its own end tag, even when the element ends before. -/
structure Format where
  number : Nat
  name : String
  attributes : List (String × String)

/-- What is open, what stands outside of it, and what else the next token depends on. -/
structure Nesting where
  /-- The open elements, the innermost first. -/
  openElements : List OpenElement := []
  /-- What was read outside of them, the last first. -/
  outside : List Markup := []
  /-- The formatting in force, the latest first; `none` stands where an enclosure was opened. -/
  formatting : List (Option Format) := []
  /-- The number that the next element gets that is told from others. -/
  nextMark : Nat := 0
  /-- The number of the form that has begun. -/
  form : Option Nat := none
  /-- Text between the parts of a table, which is placed once all of it was read. -/
  tableText : String := ""
  /-- Whether what goes into a table is misplaced there. -/
  misplacing : Bool := false
  /-- Whether a line feed that comes next does not count. -/
  skipsLineFeed : Bool := false
  /-- Whether all that was read so far may be replaced by frames. -/
  allowsFrames : Bool := true
  /-- Whether the start tag of a table ends a paragraph. It does not in pages of the old style. -/
  tablesEndParagraphs : Bool := true
  /-- Whether it is a part of a page, which stands around it. -/
  inPage : Bool := false

/-- Put text after what was read, as one with the text that stands there. -/
def appendText (content : List Markup) (text : String) : List Markup :=
  match content with
  | .text before :: others => .text (before ++ text) :: others
  | _ => .text text :: content

/--
The open elements with something added where misplaced markup goes: in front of the innermost
table, or at the end of a template that is further in. There is no such place among them if the
table is the outermost element.
-/
def addedBesideTable?
    (add : List Markup → List Markup) :
    List OpenElement → Option (List OpenElement)
  | [] => none
  | element :: others =>
      if element.isAmong ["template"] then
        some ({ element with later := add element.later } :: others)
      else if element.isAmong ["table"] then
        match others with
        | [] => none
        | holder :: outer =>
            some (element :: { holder with content := add holder.content } :: outer)
      else
        (addedBesideTable? add others).map fun added => element :: added

/-- How many open elements have to be closed to close the nearest one wanted, if none hides it. -/
def depthOf?
    (wanted hides : OpenElement → Bool) :
    List OpenElement → Option Nat
  | [] => none
  | element :: others =>
      if wanted element then
        some 1
      else if hides element then
        none
      else
        (depthOf? wanted hides others).map (· + 1)

namespace Nesting

/-- Nothing read yet. -/
def empty : Nesting := {}

/-- The region that the next token stands in. -/
def region (nesting : Nesting) : Region :=
  regionInside nesting.openElements

/-- Whether there is an innermost open element and it is of some kind. -/
def innermostIs (nesting : Nesting) (kind : OpenElement → Bool) : Bool :=
  nesting.openElements.head?.any kind

/-- Whether the innermost open element is an ordinary one of one of some names. -/
def isDirectlyIn (nesting : Nesting) (names : List String) : Bool :=
  nesting.innermostIs fun element => element.isAmong names

/-- Whether an ordinary element of one of some names is open. -/
def hasOpen (nesting : Nesting) (names : List String) : Bool :=
  nesting.openElements.any fun element => element.isAmong names

/-- Whether an element of one of some names is open and not hidden from end tags. -/
def hasInScope (nesting : Nesting) (names : List String) : Bool :=
  (depthOf? (fun element => element.isAmong names) OpenElement.boundsScope
    nesting.openElements).isSome

/-- Whether what comes next is misplaced. -/
def isMisplaced (nesting : Nesting) : Bool :=
  nesting.misplacing && nesting.isDirectlyIn tableFrame

/-- Add something at the end of what was read in the innermost open element. -/
def addInside (nesting : Nesting) (add : List Markup → List Markup) : Nesting :=
  match nesting.openElements with
  | [] => { nesting with outside := add nesting.outside }
  | innermost :: others =>
      { nesting with
        openElements := { innermost with content := add innermost.content } :: others }

/-- Add something where misplaced markup goes. -/
def addBesideTable (nesting : Nesting) (add : List Markup → List Markup) : Nesting :=
  match addedBesideTable? add nesting.openElements with
  | some openElements => { nesting with openElements := openElements }
  | none => { nesting with outside := add nesting.outside }

/-- Add something where it belongs that comes next. -/
def add (nesting : Nesting) (added : List Markup → List Markup) : Nesting :=
  if nesting.isMisplaced then nesting.addBesideTable added else nesting.addInside added

/-- Put markup after what was read. -/
def insert (nesting : Nesting) (markup : Markup) : Nesting :=
  nesting.add fun content => markup :: content

/-- Put text after what was read. -/
def insertText (nesting : Nesting) (text : String) : Nesting :=
  if text.isEmpty then nesting else nesting.add fun content => appendText content text

/-- Open an element. -/
def push (nesting : Nesting) (element : OpenElement) : Nesting :=
  { nesting with
    openElements := { element with misplaced := nesting.isMisplaced } :: nesting.openElements }

/-- Put an element that ends into the one around it, in front of what was kept to follow it. -/
def settle (nesting : Nesting) (markup : Markup) : Nesting :=
  match nesting.openElements with
  | [] => { nesting with outside := markup :: nesting.outside }
  | innermost :: others =>
      { nesting with
        openElements :=
          { innermost with
            content := innermost.later ++ markup :: innermost.content
            later := [] } :: others }

/-- Close the innermost open element and no other. -/
def closeInnermost (nesting : Nesting) : Nesting :=
  match nesting.openElements with
  | [] => nesting
  | innermost :: others =>
      let around := { nesting with openElements := others }
      if innermost.misplaced then
        around.addBesideTable fun content => innermost.markup :: content
      else
        around.settle innermost.markup

/-- Close the innermost open elements, as many as given. -/
def closeMany (nesting : Nesting) : (count : Nat) → Nesting
  | 0 => nesting
  | count + 1 => nesting.closeInnermost.closeMany count

/-- Close what has ended and has nothing open inside of it any more. -/
def closeEnded (nesting : Nesting) : Nesting :=
  nesting.closeMany (nesting.openElements.takeWhile OpenElement.ended).length

/-- Close the innermost open elements, as many as given, and what has ended around them. -/
def popMany (nesting : Nesting) (count : Nat) : Nesting :=
  (nesting.closeMany count).closeEnded

/-- Close the innermost open element. -/
def pop (nesting : Nesting) : Nesting :=
  nesting.popMany 1

/-- Close open elements from the innermost outwards as long as they are of some kind. -/
def popWhile (nesting : Nesting) (kind : OpenElement → Bool) : Nesting :=
  nesting.popMany
    (nesting.openElements.takeWhile fun element => element.ended || kind element).length

/-- Close what is open up to an element of one of some names. -/
def popTo (nesting : Nesting) (names : List String) : Nesting :=
  nesting.popWhile fun element => !element.isAmong names

/-- Close the innermost open element if it is one of some names. -/
def popIfIn (nesting : Nesting) (names : List String) : Nesting :=
  if nesting.isDirectlyIn names then nesting.pop else nesting

/-- Open an element and close it again. -/
def insertElement (nesting : Nesting) (element : OpenElement) : Nesting :=
  (nesting.push element).pop

/-- End the element of a number, but not what is open inside of it. -/
def endMarked (nesting : Nesting) (mark : Nat) : Nesting :=
  closeEnded
    { nesting with
      openElements := nesting.openElements.map fun element =>
        if element.mark == some mark then { element with ended := true } else element }

/-- Close the nearest open element wanted with all that is open in it, if none hides it. -/
def closeNearest?
    (nesting : Nesting)
    (wanted hides : OpenElement → Bool) :
    Option Nesting :=
  (depthOf? wanted hides nesting.openElements).map nesting.popMany

/-- Close the nearest open element of one of some names, or nothing if another hides it. -/
def closeNearest
    (nesting : Nesting)
    (names : List String)
    (hides : OpenElement → Bool) :
    Nesting :=
  (nesting.closeNearest? (fun element => element.isAmong names) hides).getD nesting

/-- Close a phrase by its end tag. -/
def closePhrase (nesting : Nesting) (name : String) : Nesting :=
  nesting.closeNearest [name] OpenElement.isStructural

/-- The name of the innermost open element if its content is text up to its end tag. -/
def textElement? (nesting : Nesting) : Option String :=
  match nesting.openElements with
  | [] => none
  | innermost :: _ =>
      if innermost.isAmong rawTextElements || innermost.isAmong referenceTextElements then
        some innermost.name
      else
        none

/-- Everything that was placed, all elements closed. -/
def closed (nesting : Nesting) : List Markup :=
  (nesting.closeMany nesting.openElements.length).outside.reverse

end Nesting

end MarkupQuery.Html
