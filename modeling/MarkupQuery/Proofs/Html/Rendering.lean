import MarkupQuery.Html.Render
import MarkupQuery.Proofs.Tree.Sketches

namespace MarkupQuery

/-!
# What rendering writes

The pieces of a node are those of what stands at the node, whatever the nodes are called. Written
one after the other they make an element as its start tag, its own text, what is below it and its
end tag, or as a start tag alone.
-/

open Html

namespace Sketch

mutual

/-- A sketch as markup, one part after the other. -/
def written : Sketch → List Char
  | .node .document children => allWritten children
  | .node (.text content) _ => (escape .betweenTags content).toList
  | .node (.raw content) _ => content.toList
  | .node (.element element) children =>
      if isVoid element then
        (startTag element).toList
      else
        (opening element).toList ++ allWritten children ++ (endTag element).toList

def allWritten : List Sketch → List Char
  | [] => []
  | first :: rest => written first ++ allWritten rest

end

mutual

/-- The pieces of a sketch that stands at a depth. -/
def pieces (depth : Nat) : Sketch → List Piece
  | .node .document children => allPieces depth children
  | .node (.text content) _ => [{ depth := depth, content := escape .betweenTags content }]
  | .node (.raw content) _ => [{ depth := depth, content := content }]
  | .node (.element element) children =>
      if isVoid element then
        [{ depth := depth, content := startTag element }]
      else if children.isEmpty then
        [{ depth := depth, content := opening element ++ endTag element }]
      else
        { depth := depth, content := opening element } :: allPieces (depth + 1) children ++
          [{ depth := depth, content := endTag element }]

def allPieces (depth : Nat) : List Sketch → List Piece
  | [] => []
  | first :: rest => pieces depth first ++ allPieces depth rest

end

theorem allPieces_map
    {α : Type}
    (depth : Nat)
    (items : List α)
    (sketch : α → Sketch) :
    allPieces depth (items.map sketch) = items.flatMap fun item => (sketch item).pieces depth := by
  induction items with
  | nil =>
      rfl
  | cons item items inductionHypothesis =>
      rw [List.map_cons, allPieces, inductionHypothesis, List.flatMap_cons]

mutual

/-- The pieces of a sketch make what is written of it. -/
theorem flatMap_pieces
    (depth : Nat) :
    ∀ sketch : Sketch,
      ((sketch.pieces depth).flatMap fun piece => piece.content.toList) = sketch.written
  | .node .document children => flatMap_allPieces depth children
  | .node (.text content) _ => by
      simp [pieces, written]
  | .node (.raw content) _ => by
      simp [pieces, written]
  | .node (.element element) children => by
      rw [pieces, written]
      split
      · simp
      split
      · next leaf =>
          simp [List.isEmpty_iff.mp leaf, allWritten]
      · rw [List.cons_append, List.flatMap_cons, List.flatMap_append,
          flatMap_allPieces (depth + 1) children]
        simp

theorem flatMap_allPieces
    (depth : Nat) :
    ∀ sketches : List Sketch,
      ((allPieces depth sketches).flatMap fun piece => piece.content.toList) =
        allWritten sketches
  | [] => rfl
  | first :: rest => by
      rw [allPieces, allWritten, List.flatMap_append, flatMap_pieces depth first,
        flatMap_allPieces depth rest]

end

end Sketch

namespace Html

/-- The pieces of a node are those of its sketch. -/
theorem piecesAt_eq
    (tree : Tree)
    (levels depth : Nat)
    (id : NodeId) :
    piecesAt tree levels depth id = (tree.sketch levels id).pieces depth := by
  induction levels generalizing depth id with
  | zero =>
      rfl
  | succ levels inductionHypothesis =>
      have below (depth : Nat) :
          (tree.children id).flatMap (piecesAt tree levels depth) =
            Sketch.allPieces depth ((tree.children id).map (tree.sketch levels)) := by
        rw [Sketch.allPieces_map]
        exact List.flatMap_congr fun child _ => inductionHypothesis depth child
      rw [piecesAt, Tree.sketch]
      cases here : tree.kind? id with
      | none =>
          have missing : tree.get? id = none := Option.map_eq_none_iff.mp here
          simp [Tree.children, missing, Sketch.pieces, Sketch.allPieces]
      | some kind =>
          cases kind with
          | document =>
              exact below depth
          | text content =>
              rfl
          | raw content =>
              rfl
          | element element =>
              rw [Option.getD_some, Sketch.pieces, ← below, List.isEmpty_map]

/-- A node rendered in some layout. -/
theorem toList_render
    (layout : Layout)
    (tree : Tree)
    (id : NodeId) :
    (render layout tree id).toList =
      ((tree.sketch tree.size id).pieces 0).flatMap fun piece => (layout.write piece).toList := by
  rw [render, pieces, piecesAt_eq, String.toList_join, List.flatMap_map]

/-- A node rendered with its pieces one after the other. -/
theorem render_minified
    (tree : Tree)
    (id : NodeId) :
    render .minified tree id = String.ofList (tree.sketch tree.size id).written := by
  rw [← String.toList_inj, toList_render, String.toList_ofList]
  exact Sketch.flatMap_pieces 0 _

end Html

end MarkupQuery
