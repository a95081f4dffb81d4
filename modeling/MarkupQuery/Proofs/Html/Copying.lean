import MarkupQuery.Html.Import
import MarkupQuery.Proofs.Tree.Grafting
import MarkupQuery.Proofs.Tree.Removals

namespace MarkupQuery.Html

/-!
# What is copied of markup

Copying markup adds the sketches of what it holds to the tree: elements and text that is not blank,
the contents of a template behind its children, and nothing for anything else. Warnings are given on
the way and change nothing about the tree.
-/

/-- The code points of the blank characters, those with the `White_Space` property. -/
def blankCodes : List Nat := [
  0x09, 0x0A, 0x0B, 0x0C, 0x0D, 0x20, 0x85, 0xA0, 0x1680,
  0x2000, 0x2001, 0x2002, 0x2003, 0x2004, 0x2005, 0x2006, 0x2007, 0x2008, 0x2009, 0x200A,
  0x2028, 0x2029, 0x202F, 0x205F, 0x3000
]

/-- Whether a text has something to show: a character that is not blank. -/
def isVisible (content : String) : Bool :=
  content.toList.any fun c => !blankCodes.contains c.toNat

/-- The blank characters are those of these code points. -/
theorem isBlank_iff_mem_blankCodes (c : Char) :
    Text.isBlank c = true ↔ c.toNat ∈ blankCodes := by
  simp only [Text.isBlank, Text.covers, Text.blankRanges, blankCodes, List.any_cons, List.any_nil,
    List.mem_cons, List.not_mem_nil, Bool.or_eq_true, Bool.and_eq_true, decide_eq_true_eq,
    Bool.false_eq_true, or_false]
  omega

/-- A text is visible if it is not blank throughout. -/
theorem isVisible_eq (content : String) :
    isVisible content = !Text.isBlankText content := by
  have sameTest (c : Char) : (!blankCodes.contains c.toNat) = !Text.isBlank c := by
    rw [Bool.eq_iff_iff, Bool.not_eq_true', Bool.not_eq_true', ← Bool.not_eq_true,
      ← Bool.not_eq_true, isBlank_iff_mem_blankCodes, List.contains_iff_mem]
  rw [isVisible, funext sameTest, Text.isBlankText, List.not_all_eq_any_not]

namespace Markup

mutual

/-- What is copied of a piece of markup. -/
def sketches : Markup → List Sketch
  | .document children => allSketches children
  | .element name attributes children contents =>
      [.node
        (.element {
          tag := name.map Char.toLower
          attributes := Attributes.recorded attributes
        })
        (allSketches children ++ allSketches contents)]
  | .text content => if isVisible content then [.node (.text content) []] else []
  | .comment | .doctype | .instruction => []

def allSketches : List Markup → List Sketch
  | [] => []
  | first :: rest => sketches first ++ allSketches rest

end

/-- A text is copied unless it is blank. -/
theorem sketches_text (content : String) :
    (Markup.text content).sketches =
      if Text.isBlankText content then [] else [.node (.text content) []] := by
  rw [sketches, isVisible_eq]
  cases Text.isBlankText content with
  | true =>
      rfl
  | false =>
      rfl

end Markup

namespace Import

mutual

/-- Copying a piece of markup adds what is copied of it to the tree. -/
theorem tree_addMarkup
    (state : Import)
    (parent : NodeId) :
    ∀ markup : Markup,
      (addMarkup state parent markup).tree = state.tree.graftAll parent markup.sketches
  | .document children => by
      rw [addMarkup, Markup.sketches]
      exact tree_addAll state parent children
  | .element name attributes children contents => by
      rw [addMarkup, tree_addAll, tree_addAll, ← Tree.graftAll_append, Tree.addElement,
        Attributes.setAll_empty_eq_recorded]
      rfl
  | .text content => by
      rw [addMarkup, Markup.sketches_text]
      split
      · rfl
      · rfl
  | .comment => rfl
  | .doctype => rfl
  | .instruction => rfl

theorem tree_addAll
    (state : Import)
    (parent : NodeId) :
    ∀ markups : List Markup,
      (addAll state parent markups).tree =
        state.tree.graftAll parent (Markup.allSketches markups)
  | [] => rfl
  | first :: rest => by
      rw [addAll, tree_addAll, tree_addMarkup, Markup.allSketches, Tree.graftAll_append]

end

/-- The tree of some markup is the document alone with what is copied of the markup added to it. -/
theorem grafted_ofMarkup (markup : Markup) :
    Tree.empty.Grafted Tree.root markup.sketches (ofMarkup markup).tree := by
  rw [ofMarkup, tree_addMarkup]
  exact Tree.linked_empty.grafted_graftAll (.inl Nat.zero_lt_one)

end Import

end MarkupQuery.Html
