import MarkupQuery.Html.Nesting.Basic

namespace MarkupQuery.Html

/-!
# Formatting in force

Formatting such as `b` stays in force until its own end tag. Where its element ends before that,
with a block around it, it is resumed in front of the next text or phrase. Where its end tag comes
while a block is open inside of it, the element ends in front of the block, and what stands in the
block so far gets an element of its own.
-/

namespace Format

/-- An open element that gives some formatting. -/
def element (format : Format) : OpenElement :=
  { name := format.name
    attributes := format.attributes
    mark := some format.number }

/-- Whether formatting has a name and some attributes, in whichever order. -/
def agrees
    (format : Format)
    (name : String)
    (attributes : List (String × String)) :
    Bool :=
  format.name == name && format.attributes.length == attributes.length &&
    format.attributes.all attributes.contains

end Format

/-- Whether an entry of the formatting in force has a number. -/
def hasNumber (number : Nat) (entry : Option Format) : Bool :=
  entry.any fun format => format.number == number

/-- The formatting since the last enclosure was opened, the latest first. -/
def sinceEnclosure (formatting : List (Option Format)) : List Format :=
  (formatting.takeWhile Option.isSome).filterMap id

/-- Formatting without the third of those since the last enclosure that agree with a tag. -/
def withoutThird
    (name : String)
    (attributes : List (String × String))
    (passed : Nat) :
    List (Option Format) → List (Option Format)
  | [] => []
  | none :: others => none :: others
  | some format :: others =>
      if format.agrees name attributes then
        if passed = 2 then
          others
        else
          some format :: withoutThird name attributes (passed + 1) others
      else
        some format :: withoutThird name attributes passed others

/-- Formatting with new formatting in the place of that of a number. -/
def renewedInPlace
    (format : Format)
    (old : Nat)
    (formatting : List (Option Format)) :
    List (Option Format) :=
  formatting.map fun entry => if hasNumber old entry then some format else entry

/-- Formatting without that of a number, and with new formatting just after that of another. -/
def renewedAfter
    (format : Format)
    (old other : Nat)
    (formatting : List (Option Format)) :
    List (Option Format) :=
  (formatting.filter fun entry => !hasNumber old entry).flatMap fun entry =>
    if hasNumber other entry then [some format, entry] else [entry]

namespace Nesting

/-- Whether the element of some formatting is open. -/
def isOpen (nesting : Nesting) (number : Nat) : Bool :=
  nesting.openElements.any fun element => element.mark == some number

/-- Whether some formatting is in force. -/
def isInForce (nesting : Nesting) (number : Nat) : Bool :=
  nesting.formatting.any (hasNumber number)

/-- Open elements for the formatting in force that has none, the earliest first. -/
def resumeFormatting (nesting : Nesting) : Nesting :=
  let pending :=
    (sinceEnclosure nesting.formatting).takeWhile fun format => !nesting.isOpen format.number
  pending.reverse.foldl (fun resumed format => resumed.push format.element) nesting

/-- Open an element that gives formatting. Of equal formatting, three are in force at most. -/
def startFormatting
    (nesting : Nesting)
    (name : String)
    (attributes : List (String × String)) :
    Nesting :=
  let format : Format :=
    { number := nesting.nextMark, name := name, attributes := attributes }
  { nesting.push format.element with
    formatting := some format :: withoutThird name attributes 0 nesting.formatting
    nextMark := nesting.nextMark + 1 }

/-- Take formatting out of force. -/
def dropFormat (nesting : Nesting) (number : Nat) : Nesting :=
  { nesting with formatting := nesting.formatting.filter fun entry => !hasNumber number entry }

/-- Keep the formatting in force out of an enclosure that was opened. -/
def enterEnclosure (nesting : Nesting) : Nesting :=
  { nesting with formatting := none :: nesting.formatting }

/-- Take the formatting out of force that was started since the last enclosure was opened. -/
def leaveEnclosure (nesting : Nesting) : Nesting :=
  { nesting with formatting := (nesting.formatting.dropWhile Option.isSome).tail }

/-- The latest formatting of a name since the last enclosure was opened. -/
def latestFormat? (nesting : Nesting) (name : String) : Option Format :=
  (sinceEnclosure nesting.formatting).find? fun format => format.name == name

/--
Move a block out of the element of some formatting. The element closes with all that stands
between it and the block; the formatting between, the nearest three at most, goes around the block,
and the block's content goes into a new element of the formatting.
-/
def moveBlockOut
    (nesting : Nesting)
    (format : Format)
    (inner : List OpenElement)
    (block : OpenElement)
    (between : List OpenElement)
    (element : OpenElement)
    (outer : List OpenElement) :
    Nesting :=
  let standing := between.filter fun other => !other.ended
  let kept := (standing.take 3).filter fun other => other.mark.any nesting.isInForce
  let lost := (standing.drop 3).filterMap OpenElement.mark
  let closed :=
    { nesting with openElements := between ++ element :: outer }.popMany (between.length + 1)
  let renewed := { format with number := nesting.nextMark }
  let reopened :=
    ({ block with content := [] } :: kept.map fun other => { other with content := [] }).foldr
      (fun other opened => opened.push other) closed
  let renewedElement := { renewed.element with content := block.content }
  let formatting := closed.formatting.filter fun entry => !lost.any (hasNumber · entry)
  { reopened with
    openElements := inner ++ renewedElement :: reopened.openElements
    formatting :=
      match kept.head?.bind OpenElement.mark with
      | none => renewedInPlace renewed format.number formatting
      | some number => renewedAfter renewed format.number number formatting
    nextMark := nesting.nextMark + 1 }

/--
End the formatting of a name. As long as a block is open in its element the block is moved out,
eight times at most; then the element is closed.
-/
def endFormattingFrom (nesting : Nesting) (name : String) : (rounds : Nat) → Nesting
  | 0 => nesting
  | rounds + 1 =>
      match nesting.latestFormat? name with
      | none => nesting.closePhrase name
      | some format =>
          let gives := fun element : OpenElement => element.mark == some format.number
          let inside := nesting.openElements.takeWhile fun element => !gives element
          match nesting.openElements.dropWhile fun element => !gives element with
          | [] => nesting.dropFormat format.number
          | element :: outer =>
              if inside.any OpenElement.boundsScope then
                nesting
              else
                let outermost := inside.reverse
                let between := outermost.takeWhile fun other => !other.isStructural
                match outermost.dropWhile fun other => !other.isStructural with
                | [] => (nesting.popMany (inside.length + 1)).dropFormat format.number
                | block :: inner =>
                    (nesting.moveBlockOut format inner.reverse block between.reverse element
                      outer).endFormattingFrom name rounds

/-- Take in the end tag of formatting. -/
def endFormatting (nesting : Nesting) (name : String) : Nesting :=
  let isForgotten := fun element : OpenElement =>
    element.isAmong [name] && !element.mark.any nesting.isInForce
  if nesting.innermostIs isForgotten then nesting.pop else nesting.endFormattingFrom name 8

end Nesting

end MarkupQuery.Html
