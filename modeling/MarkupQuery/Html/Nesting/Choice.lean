import MarkupQuery.Html.Nesting.Template

namespace MarkupQuery.Html

/-!
# Tokens among choices

A `select` holds choices, groups of them and text. Most other tags mean nothing in it; those of
inputs end it, and so do those of parts of the table that it stands in.
-/

/-- Elements whose start tag ends a `select`. -/
def choiceEnders : List String := ["input", "keygen", "textarea"]

/-- Elements whose tags end a `select` in a table. -/
def tableChoiceEnders : List String :=
  tableCells ++ rowGroups ++ ["caption", "table", "tr"]

namespace Nesting

/-- Take in a token in a region other than the choices of a `select`. -/
def takeOutsideChoice (nesting : Nesting) (token : Token) : Nesting :=
  match nesting.region with
  | .table => nesting.takeInTable token
  | .caption => nesting.takeInCaption token
  | .columns => nesting.takeInColumns token
  | .rows => nesting.takeInRows token
  | .row => nesting.takeInRow token
  | .cell => nesting.takeInCell token
  | .template => nesting.takeInTemplate token
  | _ => nesting.takeInBody token

/-- Close the `select` that is open. -/
def closeChoice (nesting : Nesting) : Nesting :=
  nesting.closeNearest ["select"] fun _ => false

/-- Close a choice that is the last one of an open group. -/
def closeLastChoice (nesting : Nesting) : Nesting :=
  match nesting.openElements with
  | choice :: group :: _ =>
      if choice.isAmong ["option"] && group.isAmong ["optgroup"] then nesting.pop else nesting
  | _ => nesting

/-- Take in a start tag among choices. -/
def takeChoiceStart (nesting : Nesting) (tag : StartTag) : Nesting :=
  if tag.name = "option" then
    (nesting.popIfIn ["option"]).push tag.element
  else if tag.name = "optgroup" then
    ((nesting.popIfIn ["option"]).popIfIn ["optgroup"]).push tag.element
  else if tag.name = "select" then
    nesting.closeChoice
  else if choiceEnders.contains tag.name then
    nesting.closeChoice.takeOutsideChoice (.startTag tag)
  else if tag.name = "script" || tag.name = "template" then
    nesting.openPlain tag
  else
    nesting

/-- Take in an end tag among choices. -/
def takeChoiceEnd (nesting : Nesting) (name : String) : Nesting :=
  if name = "option" then
    nesting.popIfIn ["option"]
  else if name = "optgroup" then
    nesting.closeLastChoice.popIfIn ["optgroup"]
  else if name = "select" then
    nesting.closeChoice
  else if name = "template" then
    nesting.closeTemplate
  else
    nesting

/-- Take in a token among choices. -/
def takeInChoice (nesting : Nesting) : Token → Nesting
  | .text content =>
      nesting.insertText (String.ofList (content.toList.filter fun c => c != '\x00'))
  | .comment => nesting.insert .comment
  | .doctype _ => nesting
  | .startTag tag => nesting.takeChoiceStart tag
  | .endTag name => nesting.takeChoiceEnd name

/-- Take in a token among choices in a table. -/
def takeInTableChoice (nesting : Nesting) (token : Token) : Nesting :=
  match token with
  | .startTag tag =>
      if tableChoiceEnders.contains tag.name then
        nesting.closeChoice.takeOutsideChoice token
      else
        nesting.takeInChoice token
  | .endTag name =>
      if !tableChoiceEnders.contains name then nesting.takeInChoice token
      else if nesting.hasPart [name] then nesting.closeChoice.takeOutsideChoice token
      else nesting
  | _ => nesting.takeInChoice token

/-- Take in a token by the rules of the region that it stands in. -/
def takeInRegion (nesting : Nesting) (token : Token) : Nesting :=
  match nesting.region with
  | .choice => nesting.takeInChoice token
  | .choiceInTable => nesting.takeInTableChoice token
  | _ => nesting.takeOutsideChoice token

end Nesting

end MarkupQuery.Html
