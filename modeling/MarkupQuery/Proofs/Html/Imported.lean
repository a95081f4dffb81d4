import MarkupQuery.Proofs.Html.Copying
import MarkupQuery.Proofs.Tree.Numbering

namespace MarkupQuery.Html

/-!
# Trees of markup

The tree of some markup is the document with what is copied of the markup below it, every node
attached and numbered in document order. Besides the document it holds elements without a text of
their own, and texts that are not blank and hold nothing.
-/

open MarkupQuery.Tree (root)

/-- What may be copied: an element without a text of its own, or a visible text with nothing in it. -/
def IsCopied {α : Type} (kind : NodeKind) (children : List α) : Prop :=
  match kind with
  | .element element => element.text = none
  | .text content => isVisible content = true ∧ children = []
  | .document | .raw _ => False

namespace Markup

mutual

/-- Nothing is copied but elements and visible texts. -/
theorem allEach_sketches :
    ∀ markup : Markup, Sketch.AllEach IsCopied markup.sketches
  | .document children => allEach_allSketches children
  | .element _ _ children contents =>
      ⟨⟨rfl, Sketch.allEach_append.mpr
        ⟨allEach_allSketches children, allEach_allSketches contents⟩⟩, trivial⟩
  | .text content => by
      rw [sketches]
      split
      · next visible =>
          exact ⟨⟨⟨visible, rfl⟩, trivial⟩, trivial⟩
      · trivial
  | .comment | .doctype | .instruction => trivial

theorem allEach_allSketches :
    ∀ markups : List Markup, Sketch.AllEach IsCopied (allSketches markups)
  | [] => trivial
  | first :: rest =>
      Sketch.allEach_append.mpr ⟨allEach_sketches first, allEach_allSketches rest⟩

end

end Markup

namespace Import

variable (markup : Markup)

/-- The links agree in the tree of any markup. -/
theorem linked_ofMarkup : (ofMarkup markup).tree.Linked :=
  (grafted_ofMarkup markup).linked

/-- What is copied of the markup is laid out below the document. -/
theorem laidOut_ofMarkup :
    (ofMarkup markup).tree.LaidOut root (.node .document markup.sketches) :=
  (grafted_ofMarkup markup).laidOut_document.1

/-- There is one node for the document and one for each thing copied. -/
theorem size_ofMarkup :
    (ofMarkup markup).tree.size = Sketch.sizeAll markup.sketches + 1 :=
  (grafted_ofMarkup markup).laidOut_document.2

/-- What is below the document has the numbers behind it, in document order. -/
theorem descendants_ofMarkup :
    (ofMarkup markup).tree.descendants root =
      List.range' 1 ((ofMarkup markup).tree.size - 1) := by
  have numbered := (linked_ofMarkup markup).descendants_of_laidOut (laidOut_ofMarkup markup)
  rw [Sketch.size, List.range'_succ] at numbered
  rw [size_ofMarkup, Nat.add_sub_cancel]
  exact (List.cons.inj numbered).2

/-- The tree holds what is copied of the markup, and nothing else. -/
theorem sketch_ofMarkup :
    (ofMarkup markup).tree.sketch (ofMarkup markup).tree.size root =
      .node .document markup.sketches := by
  have linked := linked_ofMarkup markup
  exact linked.sketch_of_laidOut (laidOut_ofMarkup markup) (linked.isShallow_size root)

variable {markup}

/-- Every node but the document is attached. -/
theorem exists_parent_of_kind?
    {id : Nat}
    {kind : NodeKind}
    (notRoot : id ≠ root)
    (found : (ofMarkup markup).tree.kind? id = some kind) :
    ∃ parent, (ofMarkup markup).tree.parent? id = some parent := by
  obtain ⟨node, here, _⟩ := Option.map_eq_some_iff.mp found
  have inside : id < (ofMarkup markup).tree.size := Tree.lt_size_of_get? here
  have below : id ∈ (ofMarkup markup).tree.descendants root := by
    rw [descendants_ofMarkup, List.mem_range'_1]
    have positive : 0 < id := Nat.pos_of_ne_zero notRoot
    omega
  obtain ⟨parent, owned, _⟩ :=
    Relation.TransGen.head'_iff.mp
      ((linked_ofMarkup markup).mem_descendants_iff_above.mp below)
  exact ⟨parent, owned⟩

/-- Every node but the document was copied. -/
theorem isCopied_of_kind?
    {id : Nat}
    {kind : NodeKind}
    (notRoot : id ≠ root)
    (found : (ofMarkup markup).tree.kind? id = some kind) :
    IsCopied kind ((ofMarkup markup).tree.children id) := by
  obtain ⟨node, here, _⟩ := Option.map_eq_some_iff.mp found
  have inside : id < Sketch.sizeAll markup.sketches + 1 :=
    size_ofMarkup markup ▸ Tree.lt_size_of_get? here
  have positive : 0 < id := Nat.pos_of_ne_zero notRoot
  have below : (ofMarkup markup).tree.AllLaidOut 1 markup.sketches :=
    (laidOut_ofMarkup markup).2.2
  obtain ⟨copiedKind, children, isKind, begins, copied⟩ :=
    Tree.exists_sort_of_allLaidOut below (Markup.allEach_sketches markup) positive (by omega)
  obtain rfl := Option.some.inj (isKind.symm.trans found)
  rw [begins]
  cases copiedKind with
  | text content =>
      obtain ⟨visible, rfl⟩ := copied
      exact ⟨visible, rfl⟩
  | element element =>
      exact copied
  | document =>
      exact copied.elim
  | raw content =>
      exact copied.elim

/--
Whatever markup is copied, every node of its tree is attached, and the nodes are numbered in document
order. Below the document the tree is what is copied of the markup: no comments, declarations,
instructions and blank texts, inner documents as what they hold, and the contents of a template
behind its children. The attributes that are recorded of an element are those which setting them in
order makes of none. No element has a text of its own, every text is visible, and there is neither
raw markup nor a second document.
-/
theorem ofMarkup_copies_in_order (markup : Markup) :
    let tree := (ofMarkup markup).tree
    tree.Linked ∧
      tree.descendants root = List.range' 1 (tree.size - 1) ∧
      tree.sketch tree.size root = .node .document markup.sketches ∧
      (∀ pairs : List (String × String),
        Attributes.recorded pairs =
          pairs.foldl (fun attributes pair => attributes.set pair.1 pair.2) .empty) ∧
      ∀ id kind, id ≠ root → tree.kind? id = some kind → IsCopied kind (tree.children id) := by
  refine ⟨linked_ofMarkup markup, descendants_ofMarkup markup, sketch_ofMarkup markup, ?_, ?_⟩
  · intro pairs
    exact (Attributes.setAll_empty_eq_recorded pairs).symm
  · intro id kind notRoot found
    exact isCopied_of_kind? notRoot found

end Import

end MarkupQuery.Html
