import MarkupQuery.Html.Nesting.Table

namespace MarkupQuery.Html

/-!
# Tokens in a template

A template holds a part of a page without what that part stands in. The first start tag in it that
is not metadata tells what it is a part of.
-/

/-- Metadata that may stand in a template of any kind. -/
def templateMetadata : List String := metadataElements.erase "noscript"

/-- The region that the content of a template is a part of, by a start tag in it. -/
def regionOfContent (name : String) : Region :=
  if name = "col" then .columns
  else if name = "tr" then .rows
  else if tableCells.contains name then .row
  else if tableParts.contains name then .table
  else .body

/-- Open elements with the region set that the innermost template's content is a part of. -/
def withContents (region : Region) : List OpenElement → List OpenElement
  | [] => []
  | element :: others =>
      if element.isAmong ["template"] then
        { element with contents := region } :: others
      else
        element :: withContents region others

namespace Nesting

/-- Take in a start tag that tells what a template holds a part of. -/
def takeTemplateStart (nesting : Nesting) (tag : StartTag) : Nesting :=
  let region := regionOfContent tag.name
  let known := { nesting with openElements := withContents region nesting.openElements }
  match region with
  | .columns => known.takeInColumns (.startTag tag)
  | .rows => known.takeInRows (.startTag tag)
  | .row => known.takeInRow (.startTag tag)
  | .table => known.takeInTable (.startTag tag)
  | _ => known.openElement tag

/-- Take in a token in a template of which it is not known yet what it holds a part of. -/
def takeInTemplate (nesting : Nesting) (token : Token) : Nesting :=
  match token with
  | .startTag tag =>
      if templateMetadata.contains tag.name then
        nesting.openPlain tag
      else
        nesting.takeTemplateStart tag
  | .endTag name => if name = "template" then nesting.closeTemplate else nesting
  | _ => nesting.takeInBody token

end Nesting

end MarkupQuery.Html
