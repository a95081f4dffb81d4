import MarkupQuery.Html.Reader
import MarkupQuery.Text.Blank
import MarkupQuery.Tree.Edit
import MarkupQuery.Warning

namespace MarkupQuery.Html

/-!
# Markup as a tree

Markup that was read is copied into a tree in document order, so that nodes are numbered as they
stand. Elements and text are copied, but no text that is blank; the contents of a template become
its children. Comments, declarations and instructions are dropped with a warning.
-/

/-- A tree that is being filled, and what that has warned about. -/
structure Import where
  tree : Tree := .empty
  warnings : List Warning := []

namespace Import

/-- Raise a warning. -/
def warn (state : Import) (message : String) : Import :=
  { state with
    warnings := state.warnings ++ [{ component := "Import", message := message }] }

mutual

/-- Copy one piece of markup to the end of a node's children. -/
def addMarkup (state : Import) (parent : NodeId) : Markup → Import
  | .document children => addAll state parent children
  | .element name attributes children contents =>
      let id := state.tree.size
      let added := { state with tree := state.tree.addElement parent name none attributes }
      addAll (addAll added id children) id contents
  | .text content =>
      if Text.isBlankText content then
        state
      else
        { state with tree := state.tree.addChild parent (.text content) }
  | .comment => state.warn "HTML comments are dropped"
  | .doctype => state.warn "doctype declarations are dropped"
  | .instruction => state.warn "processing instructions are dropped"

/-- Copy several pieces of markup in order. -/
def addAll (state : Import) (parent : NodeId) : List Markup → Import
  | [] => state
  | first :: rest => addAll (addMarkup state parent first) parent rest

end

/-- The tree of some markup. -/
def ofMarkup (markup : Markup) : Import :=
  addMarkup {} Tree.root markup

end Import

/-- A fragment of markup as a tree. -/
def importFragment (markup : String) : Import :=
  .ofMarkup (readFragment markup)

/-- A page as a tree. -/
def importPage (markup : String) : Import :=
  .ofMarkup (readPage markup)

end MarkupQuery.Html
