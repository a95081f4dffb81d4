import MarkupQuery.Html.Nesting.Choice

namespace MarkupQuery.Html

/-!
# Nesting

What a token of markup does to the elements that are open. The content of some elements is text; in
a graphic or a formula other rules hold than in a page; otherwise the region decides in which the
token stands. At the end of the input every element ends.
-/

/-- A text without the line feed at its start. -/
def dropLineFeed (text : String) : String :=
  match text.toList with
  | '\n' :: rest => String.ofList rest
  | _ => text

namespace Nesting

/-- Take in a token in an element whose content is text up to its end tag. -/
def takeInText (nesting : Nesting) : Token → Nesting
  | .text content => nesting.insertText content
  | _ => nesting.pop

/-- Take in a token by the rules that hold where it stands. -/
def takeInPlace (nesting : Nesting) (token : Token) : Nesting :=
  if nesting.textElement?.isSome then
    nesting.takeInText token
  else if nesting.isForeign token then
    nesting.takeInForeign token
  else
    (nesting.leaveForeignFor token).takeInRegion token

/--
Take in one token. Any token ends the place for a line feed that does not count, and any but text
and a doctype that is out of place ends a text between the parts of a table.
-/
def take (nesting : Nesting) (token : Token) : Nesting :=
  let ready := { nesting with skipsLineFeed := false }
  match token with
  | .text content =>
      let counted := if nesting.skipsLineFeed then dropLineFeed content else content
      if counted.isEmpty then ready else ready.takeInPlace (.text counted)
  | .doctype _ => ready
  | _ => ready.placeTableText.takeInPlace token

/-- Whether the rest of the input is text, whatever it looks like. -/
def restIsText (nesting : Nesting) : Bool :=
  nesting.hasOpen ["plaintext"]

/-- Everything that was read, all elements closed. -/
def finish (nesting : Nesting) : List Markup :=
  nesting.placeTableText.closed

end Nesting

end MarkupQuery.Html
