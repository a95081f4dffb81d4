import MarkupQuery.Selector.Error
import MarkupQuery.Selector.Segment
import MarkupQuery.Text.Ascii
import MarkupQuery.Text.Blank
import MarkupQuery.Text.Scan
import MarkupQuery.Warning

namespace MarkupQuery.Selector

/-!
# Reading a branch

A branch is read from left to right and as far as it goes. Segments are separated by runs of ASCII
whitespace and combinator characters; of the combinator characters in one run the last one counts,
and a run of whitespace alone is the descendant combinator. Within a segment the tests come in a
fixed order: a tag or `*`, an id, classes, attribute tests, pseudo-classes. Every test is read
whole or not at all, so reading stops in front of the first character that starts nothing, and the
error says where that is.
-/

open MarkupQuery.Text

/-- The characters of ids, classes and attribute names. -/
def isIdentChar (c : Char) : Bool :=
  c.isAlphanum || c == '-' || c == '_'

/-- A non-empty run of `isIdentChar`. -/
def ident? (text : List Char) : Option (List Char × List Char) :=
  run? isIdentChar text

/--
What stands between two segments: ASCII whitespace, then at most one combinator character with
more whitespace. Whitespace alone is the descendant combinator.
-/
def combinator? (text : List Char) : Option (Combinator × List Char) :=
  let afterSpace := text.dropWhile isSpace
  match afterSpace.head?.bind Combinator.ofGlyph? with
  | some combinator => some (combinator, afterSpace.tail.dropWhile isSpace)
  | none =>
      if text.head?.any isSpace then
        some (.descendant, afterSpace)
      else
        none

/-- A tag name, folded to lower case, or `*`. -/
def tagTest (text : List Char) : Option TagTest × List Char :=
  match text with
  | '*' :: rest => (some .universal, rest)
  | _ =>
      match run? Char.isAlphanum text with
      | none => (none, text)
      | some (name, rest) => (some (.named (lowercase (String.ofList name))), rest)

/-- A name after a sign, such as `#main` or `.done`. -/
def signedIdent? (sign : Char) (text : List Char) : Option (String × List Char) :=
  match text with
  | [] => none
  | c :: rest =>
      if c = sign then
        (ident? rest).map fun read => (String.ofList read.1, read.2)
      else
        none

/-- An id, if one stands here. -/
def idTest (text : List Char) : Option String × List Char :=
  match signedIdent? '#' text with
  | none => (none, text)
  | some (id, rest) => (some id, rest)

/-- A comparison operator of an attribute test. -/
def operator? : List Char → Option (AttributeOperator × List Char)
  | '^' :: '=' :: rest => some (.startsWith, rest)
  | '$' :: '=' :: rest => some (.endsWith, rest)
  | '*' :: '=' :: rest => some (.contains, rest)
  | '=' :: rest => some (.equals, rest)
  | _ => none

/-- The rest of a quoted value, up to the quote that closes it. -/
def quotedValue? (quote : Char) (text : List Char) : Option (List Char × List Char) :=
  match text.dropWhile (fun c => c != quote) with
  | [] => none
  | _ :: rest => some (text.takeWhile (fun c => c != quote), rest)

/-- A value: between quotes, or a bare run up to a closing bracket or a blank. -/
def value? (text : List Char) : Option (List Char × List Char) :=
  match text with
  | '"' :: rest => quotedValue? '"' rest
  | '\'' :: rest => quotedValue? '\'' rest
  | _ => run? (fun c => c != ']' && !isBlank c) text

/-- What follows the name in an attribute test, up to and with the closing bracket. -/
def comparison? (text : List Char) :
    Option (Option (AttributeOperator × String) × List Char) :=
  match text with
  | ']' :: rest => some (none, rest)
  | _ =>
      match operator? text with
      | none => none
      | some (operator, afterOperator) =>
          match value? afterOperator with
          | some (value, ']' :: rest) => some (some (operator, String.ofList value), rest)
          | _ => none

/-- An attribute test in brackets; its name is folded to lower case. -/
def attributeTest? (text : List Char) : Option (AttributeTest × List Char) :=
  match text with
  | '[' :: afterBracket =>
      match ident? afterBracket with
      | none => none
      | some (name, afterName) =>
          (comparison? afterName).map fun read =>
            ({ name := lowercase (String.ofList name), comparison := read.1 }, read.2)
  | _ => none

/-- The argument of `:nth-child(`, blanks at its ends dropped, up to the closing parenthesis. -/
def argument? (text : List Char) : Option (String × List Char) :=
  match text.dropWhile (fun c => c != ')') with
  | [] => none
  | _ :: rest => some (String.ofList (trim (text.takeWhile (fun c => c != ')'))), rest)

/-- What may follow the colon of a pseudo-class. -/
def pseudoName? (text : List Char) : Option (Pseudo × List Char) :=
  match afterLiteral? "first-child".toList text with
  | some rest => some ({ kind := .firstChild }, rest)
  | none =>
      match afterLiteral? "last-child".toList text with
      | some rest => some ({ kind := .lastChild }, rest)
      | none =>
          match afterLiteral? "nth-child(".toList text with
          | none => none
          | some afterOpening =>
              (argument? afterOpening).map fun read =>
                ({ kind := .nthChild, argument := some read.1 }, read.2)

/-- A pseudo-class with its colon. -/
def pseudo? (text : List Char) : Option (Pseudo × List Char) :=
  match text with
  | ':' :: rest => pseudoName? rest
  | _ => none

/-- A segment that was read, possibly empty, and whether it had several pseudo-classes. -/
structure ReadSegment where
  segment : Segment
  repeatedPseudo : Bool

/--
The tests that stand here, possibly none, under a combinator read before. Of several pseudo-classes
the last one is kept.
-/
def readSegment
    (combinator : Combinator)
    (text : List Char) :
    ReadSegment × List Char :=
  let tag := tagTest text
  let id := idTest tag.2
  let classes := many (signedIdent? '.') id.2
  let attributes := many attributeTest? classes.2
  let pseudos := many pseudo? attributes.2
  let segment : Segment := {
    combinator := combinator
    tag := tag.1
    id := id.1
    classes := classes.1
    attributes := attributes.1
    pseudo := pseudos.1.getLast?
  }
  ({ segment := segment, repeatedPseudo := decide (1 < pseudos.1.length) }, pseudos.2)

/-- A combinator and the segment after it. The segment is empty between two combinators. -/
def joinedSegment? (text : List Char) : Option (ReadSegment × List Char) :=
  (combinator? text).map fun read => readSegment read.1 read.2

/-- The segment at the very start of a branch, which needs no combinator before it. -/
def leadingSegment (text : List Char) : List ReadSegment × List Char :=
  match combinator? text with
  | some _ => ([], text)
  | none =>
      let read := readSegment .descendant text
      ([read.1], read.2)

/-- All segments of a branch, empty ones too, and the text where reading stops. -/
def readSegments (text : List Char) : List ReadSegment × List Char :=
  let leading := leadingSegment text
  let joined := many joinedSegment? leading.2
  (leading.1 ++ joined.1, joined.2)

/-- The segments that test something. The combinator of an empty segment is dropped with it. -/
def segmentsOf (read : List ReadSegment) : Branch :=
  (read.map ReadSegment.segment).filter fun segment => !segment.isEmpty

/--
Read a whole branch. It has to be used up, and some segment has to test something; otherwise the
error names the branch as it was given.
-/
def Branch.parse (branch : String) : Except SelectorError Branch :=
  if isBlankText branch then
    .error (.empty branch)
  else
    let read := readSegments branch.toList
    if read.2.isEmpty then
      match segmentsOf read.1 with
      | [] => .error (.noSimpleSelector branch)
      | segments => .ok segments
    else
      let remainder := String.ofList read.2
      .error (.unparsed branch (branch.utf8ByteSize - remainder.utf8ByteSize) remainder)

/--
What reading a branch warns about: a segment with several pseudo-classes, of which all but the last
are ignored. It is raised also when reading stops further on.
-/
def Branch.parseWarnings (branch : String) : List Warning :=
  if isBlankText branch then
    []
  else if (readSegments branch.toList).1.any ReadSegment.repeatedPseudo then
    [{
      component := "Selector"
      message := "only the last positional pseudo-class is used in " ++ quoted branch
    }]
  else
    []

end MarkupQuery.Selector
