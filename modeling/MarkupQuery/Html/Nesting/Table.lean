import MarkupQuery.Html.Nesting.Body

namespace MarkupQuery.Html

/-!
# Tokens in a table

A table has a fixed structure: captions, groups of columns and groups of rows, rows in the latter,
cells in the rows. A part that is left out is there all the same, and a part ends where another one
begins that cannot stand in it. Only captions and cells hold text and other elements. What else is
written between the parts goes in front of the table.
-/

/-- The elements that a group of rows stands in. -/
def tableContext : List String := ["table", "template"]

/-- The elements that a row stands in. -/
def rowContext : List String := rowGroups ++ ["template"]

/-- The elements that a cell stands in. -/
def cellContext : List String := ["template", "tr"]

namespace Nesting

/-- Whether a part of a table is open, with no other table between. -/
def hasPart (nesting : Nesting) (names : List String) : Bool :=
  (depthOf? (fun element => element.isAmong names) OpenElement.boundsTable
    nesting.openElements).isSome

/-- Close the nearest part of a table of one of some names, if it is a part of the same table. -/
def closePart? (nesting : Nesting) (names : List String) : Option Nesting :=
  nesting.closeNearest? (fun element => element.isAmong names) OpenElement.boundsTable

/-- Close a part of a table that holds formatting of its own. -/
def closeEnclosingPart? (nesting : Nesting) (names : List String) : Option Nesting :=
  (nesting.closePart? names).map leaveEnclosure

/-- Open a part of a table in the nearest of the elements that it may stand in. -/
def openPart (nesting : Nesting) (context : List String) (element : OpenElement) : Nesting :=
  (nesting.popTo context).push element

/-- Open a part of a table that is not written. -/
def openUnwritten (nesting : Nesting) (context : List String) (name : String) : Nesting :=
  nesting.openPart context { name := name, attributes := [] }

/-- Open a cell. -/
def openCell (nesting : Nesting) (tag : StartTag) : Nesting :=
  (nesting.openPart cellContext tag.element).enterEnclosure

/-- Take in a token by the rules of a body. What it puts into the frame of a table is misplaced. -/
def takeMisplaced (nesting : Nesting) (token : Token) : Nesting :=
  { { nesting with misplacing := true }.takeInBody token with misplacing := false }

/-- Place the text that was read between the parts of a table. Whitespace may stand there. -/
def placeTableText (nesting : Nesting) : Nesting :=
  let text := nesting.tableText
  let placed := { nesting with tableText := "" }
  if text.toList.all Text.isSpace then
    placed.insertText text
  else
    placed.takeMisplaced (.text text)

/-- Take in text between the parts of a table. -/
def takeTableText (nesting : Nesting) (content : String) : Nesting :=
  if nesting.isDirectlyIn tableFrame then
    { nesting with
      tableText :=
        nesting.tableText ++ String.ofList (content.toList.filter fun c => c != '\x00') }
  else
    nesting.takeMisplaced (.text content)

/-- Take in the start tag of a form in a table. The form begins and ends at once. -/
def takeTableForm (nesting : Nesting) (tag : StartTag) : Nesting :=
  if nesting.hasOpen ["template"] || nesting.form.isSome then
    nesting
  else
    (nesting.insertElement (nesting.formElement tag)).beginForm

/-- Take in the start tag of a table in a table, which ends the outer one. -/
def takeNextTable (nesting : Nesting) (tag : StartTag) : Nesting :=
  match nesting.closePart? ["table"] with
  | none => nesting
  | some closed => closed.openPlain tag

/-- Take in a start tag in a table. -/
def takeTableStart (nesting : Nesting) (tag : StartTag) : Nesting :=
  if tag.name = "caption" then
    (nesting.openPart tableContext tag.element).enterEnclosure
  else if tag.name = "colgroup" || rowGroups.contains tag.name then
    nesting.openPart tableContext tag.element
  else if tag.name = "col" then
    (nesting.openUnwritten tableContext "colgroup").insertElement tag.element
  else if tag.name = "tr" then
    (nesting.openUnwritten tableContext "tbody").openPart rowContext tag.element
  else if tableCells.contains tag.name then
    ((nesting.openUnwritten tableContext "tbody").openUnwritten rowContext "tr").openCell tag
  else if tag.name = "table" then
    nesting.takeNextTable tag
  else if ["script", "style", "template"].contains tag.name then
    nesting.openPlain tag
  else if tag.isHiddenInput then
    nesting.insertElement tag.element
  else if tag.name = "form" then
    nesting.takeTableForm tag
  else
    nesting.takeMisplaced (.startTag tag)

/-- Take in an end tag in a table. -/
def takeTableEnd (nesting : Nesting) (name : String) : Nesting :=
  if name = "table" then
    (nesting.closePart? ["table"]).getD nesting
  else if tableParts.contains name || name = "body" || name = "html" then
    nesting
  else if name = "template" then
    nesting.closeTemplate
  else
    nesting.takeMisplaced (.endTag name)

/-- Take in a token in a table, but outside of its parts. -/
def takeInTable (nesting : Nesting) : Token → Nesting
  | .text content => nesting.takeTableText content
  | .comment => nesting.insert .comment
  | .doctype _ => nesting
  | .startTag tag => nesting.takeTableStart tag
  | .endTag name => nesting.takeTableEnd name

/-- End a caption for a token that cannot stand in it. -/
def leaveCaption (nesting : Nesting) (token : Token) : Nesting :=
  match nesting.closeEnclosingPart? ["caption"] with
  | none => nesting
  | some closed => closed.takeInTable token

/-- Take in a token in a caption. -/
def takeInCaption (nesting : Nesting) (token : Token) : Nesting :=
  match token with
  | .startTag tag =>
      if tableParts.contains tag.name then
        nesting.leaveCaption token
      else
        nesting.takeInBody token
  | .endTag name =>
      if name = "caption" then
        (nesting.closeEnclosingPart? ["caption"]).getD nesting
      else if name = "table" then
        nesting.leaveCaption token
      else if tableParts.contains name then
        nesting
      else
        nesting.takeInBody token
  | _ => nesting.takeInBody token

/-- End a group of columns for a token that cannot stand in it. -/
def leaveColumns (nesting : Nesting) (token : Token) : Nesting :=
  if nesting.isDirectlyIn ["colgroup"] then nesting.pop.takeInTable token else nesting

/-- Take in text in a group of columns. Whitespace may stand there. -/
def takeColumnsText (nesting : Nesting) (content : String) : Nesting :=
  let characters := content.toList
  if nesting.isDirectlyIn ["colgroup"] then
    let begun := nesting.insertText (String.ofList (characters.takeWhile Text.isSpace))
    match characters.dropWhile Text.isSpace with
    | [] => begun
    | rest => begun.leaveColumns (.text (String.ofList rest))
  else
    nesting.insertText (String.ofList (characters.filter Text.isSpace))

/-- Take in a token in a group of columns. -/
def takeInColumns (nesting : Nesting) (token : Token) : Nesting :=
  match token with
  | .text content => nesting.takeColumnsText content
  | .comment => nesting.insert .comment
  | .doctype _ => nesting
  | .startTag tag =>
      if tag.name = "html" then nesting
      else if tag.name = "col" then nesting.insertElement tag.element
      else if tag.name = "template" then nesting.openPlain tag
      else nesting.leaveColumns token
  | .endTag name =>
      if name = "colgroup" then nesting.popIfIn ["colgroup"]
      else if name = "col" then nesting
      else if name = "template" then nesting.closeTemplate
      else nesting.leaveColumns token

/-- End a group of rows for a token that cannot stand in it. -/
def leaveRows (nesting : Nesting) (token : Token) : Nesting :=
  if nesting.hasPart ["table", "tbody", "tfoot"] then
    (nesting.popTo rowContext).pop.takeInTable token
  else
    nesting

/-- Take in a token in a group of rows. -/
def takeInRows (nesting : Nesting) (token : Token) : Nesting :=
  match token with
  | .startTag tag =>
      if tag.name = "tr" then
        nesting.openPart rowContext tag.element
      else if tableCells.contains tag.name then
        (nesting.openUnwritten rowContext "tr").openCell tag
      else if tableParts.contains tag.name then
        nesting.leaveRows token
      else
        nesting.takeInTable token
  | .endTag name =>
      if rowGroups.contains name then
        if nesting.hasPart [name] then (nesting.popTo rowContext).pop else nesting
      else if name = "table" then
        nesting.leaveRows token
      else
        nesting.takeInTable token
  | _ => nesting.takeInTable token

/-- Close the row that is open in a table. -/
def closeRow? (nesting : Nesting) : Option Nesting :=
  if nesting.hasPart ["tr"] then some (nesting.popTo cellContext).pop else none

/-- End a row for a token that cannot stand in it. -/
def leaveRow (nesting : Nesting) (token : Token) : Nesting :=
  match nesting.closeRow? with
  | none => nesting
  | some closed => closed.takeInRows token

/-- Take in a token in a row. -/
def takeInRow (nesting : Nesting) (token : Token) : Nesting :=
  match token with
  | .startTag tag =>
      if tableCells.contains tag.name then
        nesting.openCell tag
      else if tableParts.contains tag.name then
        nesting.leaveRow token
      else
        nesting.takeInTable token
  | .endTag name =>
      if name = "tr" then
        nesting.closeRow?.getD nesting
      else if name = "table" then
        nesting.leaveRow token
      else if rowGroups.contains name then
        if nesting.hasPart [name] then nesting.leaveRow token else nesting
      else
        nesting.takeInTable token
  | _ => nesting.takeInTable token

/-- End a cell for a token that cannot stand in it. -/
def leaveCell (nesting : Nesting) (token : Token) : Nesting :=
  match nesting.closeEnclosingPart? tableCells with
  | none => nesting
  | some closed => closed.takeInRow token

/-- Take in a token in a cell. -/
def takeInCell (nesting : Nesting) (token : Token) : Nesting :=
  match token with
  | .startTag tag =>
      if tableParts.contains tag.name then
        nesting.leaveCell token
      else
        nesting.takeInBody token
  | .endTag name =>
      if tableCells.contains name then
        (nesting.closeEnclosingPart? [name]).getD nesting
      else if tableFrame.contains name then
        if nesting.hasPart [name] then nesting.leaveCell token else nesting
      else if tableParts.contains name then
        nesting
      else
        nesting.takeInBody token
  | _ => nesting.takeInBody token

end Nesting

end MarkupQuery.Html
