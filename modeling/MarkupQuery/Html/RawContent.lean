import MarkupQuery.Html.Elements
import MarkupQuery.Html.Token

namespace MarkupQuery.Html

/-!
# Content that is text

The content of some elements is text up to their end tag, whatever it looks like. A script may be
wrapped in a comment, and in that comment scripts nest: the end tag of an inner one does not end
the outer one.
-/

/-- Whether the end tag of an element stands here. -/
def atEndTag (name : List Char) (text : List Char) : Bool :=
  match text with
  | '<' :: '/' :: rest =>
      beginsWithWord name rest && (rest.drop name.length).head?.any endsTagName
  | _ => false

/-- Whether the start tag of an element stands here. -/
def atStartTag (name : List Char) (text : List Char) : Bool :=
  match text with
  | '<' :: rest => beginsWithWord name rest && (rest.drop name.length).head?.any endsTagName
  | _ => false

/-- Which part of a script's content is read. -/
inductive ScriptPart where
  | plain
  /-- In the comment around a script. -/
  | commented
  /-- In a script in that comment. -/
  | nested
  deriving Repr, DecidableEq

/-- The part of a script's content that the first character of a text leads to. -/
def ScriptPart.next (part : ScriptPart) (text : List Char) : ScriptPart :=
  match part with
  | .plain => if "<!--".toList.isPrefixOf text then .commented else .plain
  | .commented =>
      if "-->".toList.isPrefixOf text then .plain
      else if atStartTag "script".toList text then .nested
      else .commented
  | .nested =>
      if "-->".toList.isPrefixOf text then .plain
      else if atEndTag "script".toList text then .commented
      else .nested

/-- The characters of a script up to its end tag, or to the end of the input, and the rest. -/
def scriptContent (part : ScriptPart) : List Char → List Char × List Char
  | [] => ([], [])
  | c :: text =>
      if part ≠ .nested ∧ atEndTag "script".toList (c :: text) = true then
        ([], c :: text)
      else
        let read := scriptContent (part.next (c :: text)) text
        (c :: read.1, read.2)

/-- The characters up to the end tag of an element, or to the end of the input, and the rest. -/
def contentToEndTag (name : List Char) : List Char → List Char × List Char
  | [] => ([], [])
  | c :: text =>
      if atEndTag name (c :: text) then
        ([], c :: text)
      else
        let read := contentToEndTag name text
        (c :: read.1, read.2)

/-- The content of an element whose content is text, and the rest of the input. -/
def rawContent (name : String) (input : List Char) : List Char × List Char :=
  if name = "script" then scriptContent .plain input else contentToEndTag name.toList input

/-- The text that the content of such an element stands for. -/
def elementText (name : String) (characters : List Char) : String :=
  let known := characters.map replaceNull
  if rawTextElements.contains name then
    String.ofList known
  else
    String.ofList (decodeReferences .text known)

end MarkupQuery.Html
