import MarkupQuery.Proofs.Text.Reading
import MarkupQuery.Selector.Branch

namespace MarkupQuery.Selector

/-!
# The grammar of a branch

```text
branch  := run? simple (run simple)* run?          one simple at least, none of them empty
run     := (space | '>' | '+' | '~')+
simple  := (tag | '*')? ('#' ident)? ('.' ident)* attr* pseudo*
attr    := '[' ident ']' | '[' ident op value ']'
value   := '"' [^"]* '"' | "'" [^']* "'" | bare
pseudo  := ':first-child' | ':last-child' | ':nth-child(' [^)]* ')'
```

Each production is a type of written forms. A written form carries the proofs that its characters
are those of the production, has a text and has a meaning. The text is the plain concatenation of
the parts, and the meaning does not depend on what stands around them.
-/

open MarkupQuery.Text

/-- What a glyph in a run stands for. -/
def glyphMeaning? (c : Char) : Option Combinator :=
  if c = '>' then some .child
  else if c = '+' then some .adjacent
  else if c = '~' then some .sibling
  else none

/-- The characters of which the runs between segments consist: spaces and glyphs. -/
def isRunChar (c : Char) : Bool :=
  [' ', '\t', '\n', '\x0C', '\r', '>', '+', '~'].contains c

/-- The characters of a bare attribute value. -/
def isBareChar (c : Char) : Bool :=
  c != ']' && !isBlank c

/-- The combinator that a run stands for: its last glyph, or the descendant combinator. -/
def runCombinator (run : List Char) : Combinator :=
  (run.filterMap glyphMeaning?).getLast?.getD .descendant

/-- An identifier as it is written: ASCII letters, digits, hyphens and underscores. -/
abbrev WrittenIdent := Word fun c => c.isAlphanum || c == '-' || c == '_'

/-- A tag test as it is written. -/
inductive WrittenTag where
  | universal
  | named (name : Word Char.isAlphanum)

/-- An attribute value as it is written. -/
inductive WrittenValue where
  | doubleQuoted (content : List Char) (closed : '"' ∉ content)
  | singleQuoted (content : List Char) (closed : '\'' ∉ content)
  | bare
      (content : Word isBareChar)
      (noDoubleQuote : content.letters.head? ≠ some '"')
      (noSingleQuote : content.letters.head? ≠ some '\'')

/-- An attribute test as it is written. -/
structure WrittenAttribute where
  name : WrittenIdent
  comparison : Option (AttributeOperator × WrittenValue)

/-- A pseudo-class as it is written. -/
inductive WrittenPseudo where
  | firstChild
  | lastChild
  | nthChild (argument : List Char) (closed : ')' ∉ argument)

/-- The tests of one segment as they are written, possibly none. -/
structure WrittenSimple where
  tag : Option WrittenTag := none
  id : Option WrittenIdent := none
  classes : List WrittenIdent := []
  attributes : List WrittenAttribute := []
  pseudos : List WrittenPseudo := []

namespace WrittenTag

def text : WrittenTag → List Char
  | .universal => ['*']
  | .named name => name.letters

/-- Tags are folded to lower case. -/
def meaning : WrittenTag → TagTest
  | .universal => .universal
  | .named name => .named (name.string.map Char.toLower)

end WrittenTag

namespace WrittenValue

def text : WrittenValue → List Char
  | .doubleQuoted content _ => '"' :: content ++ ['"']
  | .singleQuoted content _ => '\'' :: content ++ ['\'']
  | .bare content _ _ => content.letters

/-- The quotes do not belong to a value. -/
def content : WrittenValue → List Char
  | .doubleQuoted content _ => content
  | .singleQuoted content _ => content
  | .bare content _ _ => content.letters

end WrittenValue

namespace WrittenAttribute

/-- An operator with the value behind it. -/
def comparisonText : Option (AttributeOperator × WrittenValue) → List Char
  | none => []
  | some (operator, value) => operator.symbol.toList ++ value.text

def text (test : WrittenAttribute) : List Char :=
  '[' :: test.name.letters ++ comparisonText test.comparison ++ [']']

/-- Attribute names are folded to lower case, values are not. -/
def meaning (test : WrittenAttribute) : AttributeTest where
  name := test.name.string.map Char.toLower
  comparison :=
    test.comparison.map fun comparison =>
      (comparison.1, String.ofList comparison.2.content)

end WrittenAttribute

namespace WrittenPseudo

def text : WrittenPseudo → List Char
  | .firstChild => ':' :: "first-child".toList
  | .lastChild => ':' :: "last-child".toList
  | .nthChild argument _ => ':' :: "nth-child(".toList ++ argument ++ [')']

/-- Blanks around an argument do not belong to it. -/
def meaning : WrittenPseudo → Pseudo
  | .firstChild => { kind := .firstChild }
  | .lastChild => { kind := .lastChild }
  | .nthChild argument _ =>
      { kind := .nthChild, argument := some (String.ofList (trim argument)) }

end WrittenPseudo

namespace WrittenSimple

def tagText (simple : WrittenSimple) : List Char :=
  (simple.tag.map WrittenTag.text).getD []

def idText (simple : WrittenSimple) : List Char :=
  (simple.id.map fun id => '#' :: id.letters).getD []

def classesText (simple : WrittenSimple) : List Char :=
  simple.classes.flatMap fun className => '.' :: className.letters

def attributesText (simple : WrittenSimple) : List Char :=
  simple.attributes.flatMap WrittenAttribute.text

def pseudosText (simple : WrittenSimple) : List Char :=
  simple.pseudos.flatMap WrittenPseudo.text

def text (simple : WrittenSimple) : List Char :=
  simple.tagText ++ (simple.idText ++ (simple.classesText ++
    (simple.attributesText ++ simple.pseudosText)))

/-- The segment for the tests under a combinator; of several pseudo-classes the last counts. -/
def meaning
    (simple : WrittenSimple)
    (combinator : Combinator) :
    Segment where
  combinator := combinator
  tag := simple.tag.map WrittenTag.meaning
  id := simple.id.map Word.string
  classes := simple.classes.map Word.string
  attributes := simple.attributes.map WrittenAttribute.meaning
  pseudo := (simple.pseudos.map WrittenPseudo.meaning).getLast?

end WrittenSimple

/-- A segment with the run before it; the run may be empty. -/
structure WrittenSegment where
  run : List Char
  runChars : ∀ c ∈ run, isRunChar c = true
  simple : WrittenSimple
  nonempty : simple.text ≠ []

namespace WrittenSegment

def text (segment : WrittenSegment) : List Char :=
  segment.run ++ segment.simple.text

/-- The segment that is written; its combinator is that of the run before it. -/
def meaning (segment : WrittenSegment) : Segment :=
  segment.simple.meaning (runCombinator segment.run)

end WrittenSegment

/-- The segments of a branch after its first, each behind a run, and the run at the end, if any. -/
structure WrittenTail where
  segments : List WrittenSegment
  separated : ∀ segment ∈ segments, segment.run ≠ []
  trailing : List Char
  trailingChars : ∀ c ∈ trailing, isRunChar c = true

namespace WrittenTail

def text (tail : WrittenTail) : List Char :=
  tail.segments.flatMap WrittenSegment.text ++ tail.trailing

def meaning (tail : WrittenTail) : Branch :=
  tail.segments.map WrittenSegment.meaning

end WrittenTail

/-- A branch as it is written. Only the run before its first segment may be missing. -/
structure WrittenBranch where
  first : WrittenSegment
  rest : WrittenTail

namespace WrittenBranch

def text (branch : WrittenBranch) : List Char :=
  branch.first.text ++ branch.rest.text

/-- The segments that are written, one for each. -/
def meaning (branch : WrittenBranch) : Branch :=
  branch.first.meaning :: branch.rest.meaning

end WrittenBranch

end MarkupQuery.Selector
