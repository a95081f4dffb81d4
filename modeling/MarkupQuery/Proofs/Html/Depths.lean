import MarkupQuery.Proofs.Html.Rendering
import MarkupQuery.Proofs.Tree.Iterators

namespace MarkupQuery

/-!
# Every layout writes the same pieces

A node is written as one list of pieces, whatever the layout. Each part of the list belongs to a
node and stands as deep as there are elements around this node in what is written. The layouts only
differ in what they put in front of a piece and behind it.
-/

open Html

namespace Tree

/-- The number of elements that a node stands in, counted up to a node that it stands below. -/
def depthBelow (tree : Tree) (top id : NodeId) : Nat :=
  (tree.ancestors id).countP fun upper =>
    tree.isElement upper && (top :: tree.descendants top).contains upper

/-- What stands in a node is written: it is a document, or an element with an end tag. -/
def writesChildren (tree : Tree) (id : NodeId) : Prop :=
  tree.kind? id = some .document ∨
    ∃ element, tree.kind? id = some (.element element) ∧ isVoid element = false

/-- The nodes that are written when a node is. -/
inductive WrittenWith (tree : Tree) (top : NodeId) : NodeId → Prop where
  | top :
      WrittenWith tree top top
  | child
      {parent child : NodeId} :
      WrittenWith tree top parent →
      tree.writesChildren parent →
      child ∈ tree.children parent →
      WrittenWith tree top child

/-- The pieces of a node that stands at a depth, made of the pieces of its children. -/
structure PiecedTogether
    (tree : Tree)
    (part : NodeId → List Piece)
    (depth : Nat)
    (id : NodeId) : Prop where
  unknown :
    tree.kind? id = none →
      part id = []
  document :
    tree.kind? id = some .document →
      part id = (tree.children id).flatMap part
  text :
    ∀ content, tree.kind? id = some (.text content) →
      part id = [{ depth := depth, content := escape .betweenTags content }]
  raw :
    ∀ content, tree.kind? id = some (.raw content) →
      part id = [{ depth := depth, content := content }]
  void :
    ∀ element, tree.kind? id = some (.element element) → isVoid element = true →
      part id = [{ depth := depth, content := startTag element }]
  childless :
    ∀ element, tree.kind? id = some (.element element) → isVoid element = false →
      tree.children id = [] →
        part id = [{ depth := depth, content := opening element ++ endTag element }]
  around :
    ∀ element, tree.kind? id = some (.element element) → isVoid element = false →
      tree.children id ≠ [] →
        part id =
          { depth := depth, content := opening element } :: (tree.children id).flatMap part ++
            [{ depth := depth, content := endTag element }]

section Depths

variable {tree : Tree} {top id child : NodeId}

/-- A node stands in no element below itself. -/
theorem Linked.depthBelow_self
    (linked : tree.Linked)
    (top : NodeId) :
    tree.depthBelow top top = 0 := by
  refine List.countP_eq_zero.mpr fun upper stands inside => ?_
  have above := linked.mem_ancestors_iff.mp stands
  simp only [Bool.and_eq_true, List.contains_iff_mem, List.mem_cons,
    linked.mem_descendants_iff_above] at inside
  rcases inside.2 with same | below
  · exact linked.acyclic top (same ▸ above)
  · exact linked.acyclic top (above.trans below)

/-- A child stands one element deeper than its parent if the parent is an element. -/
theorem Linked.depthBelow_child
    (linked : tree.Linked)
    (inside : id ∈ top :: tree.descendants top)
    (member : child ∈ tree.children id) :
    tree.depthBelow top child =
      tree.depthBelow top id + if tree.isElement id then 1 else 0 := by
  rw [depthBelow, linked.ancestors_of_parent (linked.mem_children_iff.mp member),
    List.countP_cons, List.contains_iff_mem.mpr inside, Bool.and_true]
  rfl

/-- What is written with a node is the node or stands below it. -/
theorem WrittenWith.mem
    (linked : tree.Linked)
    (written : tree.WrittenWith top id) :
    id ∈ top :: tree.descendants top := by
  induction written with
  | top =>
      exact List.mem_cons_self
  | child _ _ member inside =>
      have owned := linked.mem_children_iff.mp member
      rw [List.mem_cons, linked.mem_descendants_iff_above, ← within_iff] at inside ⊢
      exact .head owned inside

end Depths

/-- The pieces of a node in what is written of another that it stands below. -/
def partBelow (tree : Tree) (top id : NodeId) : List Piece :=
  (tree.sketch tree.size id).pieces (tree.depthBelow top id)

section Parts

variable {tree : Tree} {top id child : NodeId}

theorem Linked.pieces_eq_partBelow
    (linked : tree.Linked)
    (top : NodeId) :
    pieces tree top = tree.partBelow top top := by
  rw [pieces, piecesAt_eq, partBelow, linked.depthBelow_self]

/-- The pieces of the children of a node, all of one depth. -/
theorem Linked.flatMap_partBelow
    (linked : tree.Linked)
    (inside : id ∈ top :: tree.descendants top) :
    (tree.children id).flatMap (tree.partBelow top) =
      Sketch.allPieces (tree.depthBelow top id + if tree.isElement id then 1 else 0)
        ((tree.children id).map (tree.sketch tree.size)) := by
  rw [Sketch.allPieces_map]
  refine List.flatMap_congr fun child member => ?_
  rw [partBelow, linked.depthBelow_child inside member]

theorem Linked.piecedTogether
    (linked : tree.Linked)
    (inside : id ∈ top :: tree.descendants top) :
    tree.PiecedTogether (tree.partBelow top) (tree.depthBelow top id) id := by
  have below := linked.flatMap_partBelow inside
  constructor
  case unknown =>
    intro missing
    have childless : tree.children id = [] :=
      children_eq_nil (get?_eq_none_iff.mp (Option.map_eq_none_iff.mp missing))
    rw [partBelow, linked.sketch_eq, missing, childless]
    rfl
  case document =>
    intro isDocument
    rw [below, partBelow, linked.sketch_eq, isElement, element?, isDocument]
    rfl
  case text =>
    intro content isText
    rw [partBelow, linked.sketch_eq, isText]
    rfl
  case raw =>
    intro content isRaw
    rw [partBelow, linked.sketch_eq, isRaw]
    rfl
  case void =>
    intro element isElement isVoid
    rw [partBelow, linked.sketch_eq, isElement, Option.getD_some, Sketch.pieces, if_pos isVoid]
  case childless =>
    intro element isElement notVoid childless
    rw [partBelow, linked.sketch_eq, isElement, childless]
    simp [Sketch.pieces, notVoid]
  case around =>
    intro element isElement notVoid parent
    rw [below, partBelow, linked.sketch_eq, isElement, Tree.isElement, element?, isElement]
    simp [Sketch.pieces, notVoid, parent]

/-- The pieces of what stands in a node stand together among the pieces of the node. -/
theorem PiecedTogether.infix_of_mem
    {part : NodeId → List Piece}
    {depth : Nat}
    (pieced : tree.PiecedTogether part depth id)
    (writes : tree.writesChildren id)
    (member : child ∈ tree.children id) :
    part child <:+: part id := by
  have among : part child <:+: (tree.children id).flatMap part := by
    obtain ⟨earlier, later, shape⟩ := List.append_of_mem member
    exact ⟨earlier.flatMap part, later.flatMap part, by simp [shape]⟩
  rcases writes with isDocument | ⟨element, isElement, notVoid⟩
  · rw [pieced.document isDocument]
    exact among
  · rw [pieced.around element isElement notVoid (List.ne_nil_of_mem member)]
    exact among.trans ⟨[_], [_], rfl⟩

/-- The pieces of each node that is written stand together. -/
theorem Linked.partBelow_infix
    (linked : tree.Linked)
    (written : tree.WrittenWith top id) :
    tree.partBelow top id <:+: tree.partBelow top top := by
  induction written with
  | top =>
      exact List.infix_refl _
  | child parentWritten writes member inParts =>
      have pieced := linked.piecedTogether (parentWritten.mem linked)
      exact (pieced.infix_of_mem writes member).trans inParts

end Parts

/--
In every tree that edits build, each node is written as one list of pieces. Without line breaks the
pieces follow one another, whatever the indentation; otherwise each stands on a line of its own,
indented by its depth. The pieces of every node that is written stand together in the list, as deep
as there are elements around the node, up to the one that is rendered: those of a document are the
pieces of its children, those of an element with children stand between one piece that opens it and
one that closes it, and every other node has one piece.
-/
theorem render_ofOptions (edits : List Edit) (top : NodeId) :
    let tree := built edits
    ∃ part : NodeId → List Piece,
      (∀ indent,
        render (.ofOptions false indent) tree top =
          String.join ((part top).map Piece.content)) ∧
      (∀ indent,
        render (.ofOptions true indent) tree top =
          String.join ((part top).map fun piece =>
            String.ofList (List.replicate (indent * piece.depth) ' ') ++ piece.content ++
              "\n")) ∧
      (∀ id ∈ top :: tree.descendants top,
        tree.PiecedTogether part (tree.depthBelow top id) id) ∧
      ∀ id, tree.WrittenWith top id → part id <:+: part top := by
  intro tree
  have linked : tree.Linked := linked_built edits
  refine ⟨tree.partBelow top, fun indent => ?_, fun indent => ?_,
    fun id inside => linked.piecedTogether inside, fun id written => linked.partBelow_infix written⟩
  · rw [render, linked.pieces_eq_partBelow]
    rfl
  · rw [render, linked.pieces_eq_partBelow]
    refine congrArg String.join (List.map_congr_left fun piece _ => ?_)
    rw [Nat.mul_comm]
    rfl

end Tree

end MarkupQuery
