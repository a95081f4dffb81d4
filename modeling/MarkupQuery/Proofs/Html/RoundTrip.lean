import MarkupQuery.Proofs.Html.AttributeTexts
import MarkupQuery.Proofs.Html.Copying
import MarkupQuery.Proofs.Html.PlainReading

namespace MarkupQuery

/-!
# Rendering and importing again

A tree of plain markup is rendered without anything between its parts. What is written is read back
as it was nested, and copied into a new tree in document order: the new tree is the old one from its
document on, with its nodes renumbered.
-/

open Html Text

/-- Whether an element is one of plain markup, without a text of its own. -/
def Element.isPlain (element : Element) : Bool :=
  plainTags.contains element.tag && element.text.isNone &&
    decide (element.attributes.entries.map Prod.fst).Nodup &&
      element.attributes.entries.all fun entry => isPlainName entry.1 && holdsPlainValues entry

namespace Tree

/-- Whether a node is text or an element that may stand in a paragraph. -/
def isPhraseAt (tree : Tree) (id : NodeId) : Bool :=
  match tree.kind? id with
  | some (.text _) => true
  | some (.element element) => phraseTags.contains element.tag
  | _ => false

/--
Whether a node is one of plain markup: an element that may stand where it does, with phrases only
below a paragraph and nothing below an element without an end tag, or a text that is not blank, with
nothing below it and no other text next to it.
-/
def isPlainAt (tree : Tree) (id : NodeId) : Bool :=
  match tree.kind? id with
  | some (.element element) =>
      element.isPlain &&
        (element.tag != "li" || (tree.parent? id).bind tree.tag? == some "ul") &&
          (element.tag != "p" || (tree.descendants id).all tree.isPhraseAt) &&
            (!isVoid element || (tree.children id).isEmpty)
  | some (.text content) =>
      !isBlankText content && isClean content && (tree.children id).isEmpty &&
        (tree.nextSibling? id).all fun next => (tree.text? next).isNone
  | _ => false

/-- Whether everything below the document is plain markup. -/
def isPlain (tree : Tree) : Bool :=
  (tree.descendants root).all tree.isPlainAt

end Tree

namespace Html

section Elements

variable {element : Element}

/-- What plain markup asks of an element itself. -/
theorem isPlain_iff :
    element.isPlain = true ↔
      element.tag ∈ plainTags ∧ element.text = none ∧
        (element.attributes.entries.map Prod.fst).Nodup ∧
          ∀ entry ∈ element.attributes.entries,
            isPlainName entry.1 = true ∧ holdsPlainValues entry = true := by
  simp [Element.isPlain, and_assoc]

theorem isPlainName_of_mem_plainTags
    {name : String}
    (known : name ∈ plainTags) :
    isPlainName name = true := by
  have each : ∀ name ∈ plainTags, isPlainName name = true := by
    decide
  exact each name known

/-- The tags of an element can be read if its names are plain and its values are clean. -/
theorem hasReadableTags_of_clean
    (tag : isPlainName element.tag = true)
    (distinct : (element.attributes.entries.map Prod.fst).Nodup)
    (entries :
      ∀ entry ∈ element.attributes.entries,
        isPlainName entry.1 = true ∧ entry.2.all isClean = true) :
    HasReadableTags element where
  tag := tag
  entries := by
    intro entry member
    obtain ⟨name, values⟩ := entries entry member
    exact Bool.and_eq_true_iff.mpr ⟨name, isClean_intercalate values⟩
  distinct := distinct

theorem hasReadableTags_of_plainValues
    (tag : isPlainName element.tag = true)
    (distinct : (element.attributes.entries.map Prod.fst).Nodup)
    (entries :
      ∀ entry ∈ element.attributes.entries,
        isPlainName entry.1 = true ∧ holdsPlainValues entry = true) :
    HasReadableTags element :=
  hasReadableTags_of_clean tag distinct fun entry member =>
    ⟨(entries entry member).1, (Bool.and_eq_true_iff.mp (entries entry member).2).1⟩

theorem hasReadableTags_of_isPlain (plain : element.isPlain = true) :
    HasReadableTags element := by
  obtain ⟨known, _, distinct, entries⟩ := isPlain_iff.mp plain
  exact hasReadableTags_of_plainValues (isPlainName_of_mem_plainTags known) distinct entries

/-- An element is given back by its tag and its attributes as they are read. -/
theorem element_of_readEntry
    (tag : isPlainName element.tag = true)
    (noText : element.text = none)
    (distinct : (element.attributes.entries.map Prod.fst).Nodup)
    (entries :
      ∀ entry ∈ element.attributes.entries,
        isPlainName entry.1 = true ∧ holdsPlainValues entry = true) :
    ({ tag := element.tag.map Char.toLower
       attributes := Attributes.recorded (element.attributes.entries.map readEntry) } : Element) =
      element := by
  have folded : element.tag.map Char.toLower = element.tag :=
    lowercase_eq_self fun c member => not_isUpper_of_isNameChar (isNameChar_of_mem tag member)
  have restored := setAll_readEntry [] entries distinct
  rw [folded, ← Attributes.setAll_empty_eq_recorded, Attributes.empty, restored, ← noText]
  rfl

end Elements

/-- A sketch that is read back where it stands, and copied as it is. -/
structure Restored (outer : List String) (sketch : Sketch) : Prop where
  readable : sketch.Readable outer
  copied : sketch.markup.sketches = [sketch]

/-- Sketches of which each is copied as it is. -/
theorem allSketches_allMarkup
    {sketches : List Sketch}
    (copied : ∀ sketch ∈ sketches, sketch.markup.sketches = [sketch]) :
    Markup.allSketches (Sketch.allMarkup sketches) = sketches := by
  induction sketches with
  | nil =>
      rfl
  | cons sketch sketches inductionHypothesis =>
      obtain ⟨here, later⟩ := List.forall_mem_cons.mp copied
      rw [Sketch.allMarkup, Markup.allSketches, here, inductionHypothesis later]
      rfl

section Trees

variable {tree : Tree} {outer : List String} {levels : Nat} {id : NodeId}

theorem fitsIn_iff
    {tag : String} :
    fitsIn outer tag = true ↔
      (tag = "li" → outer.head? = some "ul") ∧
        (outer.contains "p" = true → phraseTags.contains tag = true) := by
  simp [fitsIn, or_iff_not_imp_left]

theorem exists_content_of_isText_sketch
    (isText : (tree.sketch levels id).isText = true) :
    ∃ content, tree.kind? id = some (.text content) := by
  cases levels with
  | zero =>
      cases isText
  | succ levels =>
      rw [Tree.sketch] at isText
      cases here : tree.kind? id with
      | none =>
          rw [here] at isText
          cases isText
      | some kind =>
          rw [here] at isText
          cases kind with
          | text content =>
              exact ⟨content, rfl⟩
          | document =>
              cases isText
          | element element =>
              cases isText
          | raw content =>
              cases isText

/-- The tag of the parent of a child. -/
theorem bind_tag?_of_mem_children
    (linked : tree.Linked)
    {child : NodeId}
    (member : child ∈ tree.children id) :
    (tree.parent? child).bind tree.tag? = tree.tag? id := by
  rw [linked.mem_children_iff.mp member, Option.bind_some]

/-- What plain markup asks of a text. -/
theorem isPlainAt_text
    {content : String}
    (isText : tree.kind? id = some (.text content))
    (plain : tree.isPlainAt id = true) :
    isBlankText content = false ∧ isClean content = true ∧ tree.children id = [] ∧
      ∀ next, tree.nextSibling? id = some next → tree.text? next = none := by
  simpa [Tree.isPlainAt, isText, and_assoc, Option.all_eq_true] using plain

/-- What plain markup asks of an element where it stands. -/
theorem isPlainAt_element
    {element : Element}
    (isElement : tree.kind? id = some (.element element))
    (plain : tree.isPlainAt id = true) :
    element.isPlain = true ∧
      (element.tag = "li" → (tree.parent? id).bind tree.tag? = some "ul") ∧
      (element.tag = "p" → ∀ node ∈ tree.descendants id, tree.isPhraseAt node = true) ∧
      (isVoid element = true → tree.children id = []) := by
  simpa [Tree.isPlainAt, isElement, and_assoc, ← imp_iff_not_or, or_iff_not_imp_left] using plain

/-- Children may follow each other if the texts among them are plain. -/
theorem allReadable_map
    {ids : List NodeId}
    {before : Option NodeId}
    (chain : tree.SiblingChain before ids none)
    (plain : ∀ id ∈ ids, (tree.text? id).isSome = true → tree.isPlainAt id = true)
    (readable : ∀ id ∈ ids, (tree.sketch levels id).Readable outer) :
    Sketch.AllReadable outer (ids.map (tree.sketch levels)) := by
  induction ids generalizing before with
  | nil =>
      trivial
  | cons id ids inductionHypothesis =>
      obtain ⟨_, next, rest⟩ := chain
      obtain ⟨plainHere, plainLater⟩ := List.forall_mem_cons.mp plain
      obtain ⟨here, later⟩ := List.forall_mem_cons.mp readable
      refine ⟨here, inductionHypothesis rest plainLater later, ?_⟩
      intro isText
      obtain ⟨content, isText⟩ := exists_content_of_isText_sketch isText
      obtain ⟨_, _, _, apart⟩ := isPlainAt_text isText (plainHere (by simp [Tree.text?, isText]))
      cases ids with
      | nil =>
          rfl
      | cons following ids =>
          refine Bool.eq_false_iff.mpr fun textFollows => ?_
          obtain ⟨other, textFollows⟩ := exists_content_of_isText_sketch textFollows
          have noText := apart following (by simpa using next)
          simp [Tree.text?, textFollows] at noText

/-- Children of plain markup are restored together if each of them is. -/
theorem restored_children
    (linked : tree.Linked)
    (plain : ∀ child ∈ tree.children id, tree.isPlainAt child = true)
    (restored : ∀ child ∈ tree.children id, Restored outer (tree.sketch levels child)) :
    Sketch.AllReadable outer ((tree.children id).map (tree.sketch levels)) ∧
      Markup.allSketches (Sketch.allMarkup ((tree.children id).map (tree.sketch levels))) =
        (tree.children id).map (tree.sketch levels) := by
  refine ⟨allReadable_map (linked.siblings id) (fun child member _ => plain child member) ?_,
    allSketches_allMarkup ?_⟩
  · exact fun child member => (restored child member).readable
  · exact List.forall_mem_map.mpr fun child member => (restored child member).copied

theorem restored_text
    {content : String}
    (isText : tree.kind? id = some (.text content))
    (plain : tree.isPlainAt id = true) :
    Restored outer (tree.sketch (levels + 1) id) := by
  obtain ⟨notBlank, clean, leaf, _⟩ := isPlainAt_text isText plain
  have nonempty : content ≠ "" := by
    rintro rfl
    exact absurd notBlank (by decide)
  rw [Tree.sketch, isText, leaf]
  refine ⟨⟨nonempty, clean, rfl⟩, ?_⟩
  exact (Markup.sketches_text content).trans (if_neg (Bool.eq_false_iff.mp notBlank))

theorem restored_element
    {element : Element}
    (linked : tree.Linked)
    (isElement : tree.kind? id = some (.element element))
    (plain : tree.isPlainAt id = true)
    (fits : fitsIn outer element.tag = true)
    (plainChildren : ∀ child ∈ tree.children id, tree.isPlainAt child = true)
    (restored :
      ∀ child ∈ tree.children id, Restored (element.tag :: outer) (tree.sketch levels child)) :
    Restored outer (tree.sketch (levels + 1) id) := by
  obtain ⟨isPlain, _, _, void⟩ := isPlainAt_element isElement plain
  obtain ⟨known, noText, distinct, entries⟩ := isPlain_iff.mp isPlain
  have given := element_of_readEntry (isPlainName_of_mem_plainTags known) noText distinct entries
  obtain ⟨readable, copied⟩ := restored_children linked plainChildren restored
  rw [Tree.sketch, isElement, Option.getD_some]
  refine ⟨⟨known, hasReadableTags_of_isPlain isPlain, noText, fits, ?_, readable⟩, ?_⟩
  · intro isVoid
    rw [void isVoid]
    rfl
  · rw [Sketch.markup, Markup.sketches, copied, given, Markup.allSketches, List.append_nil]

/--
A part of a tree that is plain markup where it stands: below elements of the names given, the
innermost first, of which a paragraph holds phrases only.
-/
structure PlainPart
    (tree : Tree)
    (outer : List String)
    (levels : Nat)
    (id : NodeId) : Prop where
  shallow : tree.IsShallow levels id
  plain : ∀ node ∈ id :: tree.below levels id, tree.isPlainAt node = true
  owner : (tree.parent? id).bind tree.tag? = outer.head?
  phrases :
    outer.contains "p" = true → ∀ node ∈ id :: tree.below levels id, tree.isPhraseAt node = true

namespace PlainPart

theorem plain_child
    (part : PlainPart tree outer (levels + 1) id)
    {child : NodeId}
    (member : child ∈ tree.children id) :
    ∀ node ∈ child :: tree.below levels child, tree.isPlainAt node = true := by
  intro node inChild
  exact part.plain node (List.mem_cons_of_mem id (Tree.mem_below_of_mem_children member inChild))

/-- Where a part stands, its element may stand. -/
theorem fits
    {element : Element}
    (part : PlainPart tree outer levels id)
    (isElement : tree.kind? id = some (.element element)) :
    fitsIn outer element.tag = true := by
  obtain ⟨_, item, _, _⟩ := isPlainAt_element isElement (part.plain id List.mem_cons_self)
  refine fitsIn_iff.mpr ⟨fun isItem => part.owner ▸ item isItem, fun isOpen => ?_⟩
  have isPhrase := part.phrases isOpen id List.mem_cons_self
  simpa [Tree.isPhraseAt, isElement] using isPhrase

/-- A child of an element is a part that stands in the element. -/
theorem child
    {element : Element}
    (part : PlainPart tree outer (levels + 1) id)
    (linked : tree.Linked)
    (isElement : tree.kind? id = some (.element element))
    {child : NodeId}
    (member : child ∈ tree.children id) :
    PlainPart tree (element.tag :: outer) levels child where
  shallow := part.shallow.child (linked.mem_children_iff.mp member)
  plain := part.plain_child member
  owner := by
    rw [bind_tag?_of_mem_children linked member, Tree.tag?, Tree.element?, isElement]
    rfl
  phrases := by
    intro isOpen node inChild
    have within := Tree.mem_below_of_mem_children member inChild
    by_cases isParagraph : element.tag = "p"
    · obtain ⟨_, _, phrases, _⟩ :=
        isPlainAt_element isElement (part.plain id List.mem_cons_self)
      refine phrases isParagraph node ?_
      rw [linked.mem_descendants_iff_above]
      exact linked.above_of_mem_below within
    · have outside : outer.contains "p" = true := by
        simpa [Ne.symm isParagraph] using isOpen
      exact part.phrases outside node (List.mem_cons_of_mem id within)

/-- A part of a tree that is plain markup is restored. -/
theorem restored
    (part : PlainPart tree outer levels id)
    (linked : tree.Linked) :
    Restored outer (tree.sketch levels id) := by
  induction levels generalizing id outer with
  | zero =>
      exact absurd part.shallow (Tree.not_isShallow_zero id)
  | succ levels inductionHypothesis =>
      have plain := part.plain id List.mem_cons_self
      cases stands : tree.kind? id with
      | none =>
          simp [Tree.isPlainAt, stands] at plain
      | some kind =>
          cases kind with
          | document =>
              simp [Tree.isPlainAt, stands] at plain
          | raw content =>
              simp [Tree.isPlainAt, stands] at plain
          | text content =>
              exact restored_text stands plain
          | element element =>
              refine restored_element linked stands plain (part.fits stands) ?_ ?_
              · exact fun child member => part.plain_child member child List.mem_cons_self
              · exact fun child member => inductionHypothesis (part.child linked stands member)

end PlainPart

end Trees

end Html

namespace Tree

/-- In a tree of plain markup what stands below the document is a part of plain markup each. -/
theorem plainPart_of_isPlain
    {tree : Tree}
    {levels : Nat}
    {child : NodeId}
    (linked : tree.Linked)
    (isDocument : tree.kind? root = some .document)
    (size : tree.size = levels + 1)
    (plain : tree.isPlain = true)
    (member : child ∈ tree.children root) :
    PlainPart tree [] levels child where
  shallow := by
    have shallow := linked.isShallow_size root
    rw [size] at shallow
    exact shallow.child (linked.mem_children_iff.mp member)
  plain := by
    rw [isPlain, List.all_eq_true, descendants, size] at plain
    exact fun node inChild => plain node (mem_below_of_mem_children member inChild)
  owner := by
    rw [bind_tag?_of_mem_children linked member, tag?, element?, isDocument]
    rfl
  phrases := by
    intro isOpen
    simp at isOpen

/-- In a tree of plain markup all that is below the document is restored. -/
theorem exists_restored_sketches
    (edits : List Edit)
    (plain : (built edits).isPlain = true) :
    ∃ sketches,
      (built edits).sketch (built edits).size root = .node .document sketches ∧
        Sketch.AllReadable [] sketches ∧
          Markup.allSketches (Sketch.allMarkup sketches) = sketches := by
  have linked := linked_built edits
  obtain ⟨levels, size⟩ := Nat.exists_eq_add_one_of_ne_zero (Nat.ne_of_gt linked.nonempty)
  have part (child : NodeId) (member : child ∈ (built edits).children root) :
      PlainPart (built edits) [] levels child :=
    plainPart_of_isPlain linked (kind?_root_built edits) size plain member
  refine ⟨((built edits).children root).map ((built edits).sketch levels), ?_, ?_⟩
  · rw [size, sketch, kind?_root_built]
    rfl
  · refine restored_children linked ?_ ?_
    · exact fun child member => (part child member).plain child List.mem_cons_self
    · exact fun child member => (part child member).restored linked

/--
A tree of plain markup that is rendered without anything between its parts and imported again is the
tree from its document on, with its nodes renumbered in document order: each node stands for what it
stood for before, and has the children that it had.
-/
theorem renumbers_importFragment_render
    (edits : List Edit)
    (plain : (built edits).isPlain = true) :
    (importFragment (render .minified (built edits) root)).tree.Linked ∧
      (importFragment (render .minified (built edits) root)).tree.Renumbers (built edits)
        (root :: (built edits).descendants root) := by
  have linked := linked_built edits
  obtain ⟨sketches, shape, readable, copied⟩ := exists_restored_sketches edits plain
  have read :
      readFragment (render .minified (built edits) root) =
        .document (Sketch.allMarkup sketches) := by
    rw [render_minified, shape]
    exact readFragment_written readable
  have grafted :=
    Import.grafted_ofMarkup (readFragment (render .minified (built edits) root))
  refine ⟨grafted.linked, ?_⟩
  rw [read, Markup.sketches, copied, ← read] at grafted
  obtain ⟨laidOut, size⟩ := grafted.laidOut_document
  rw [← shape] at laidOut size
  exact linked.renumbers linked.nonempty laidOut size

/-- A list with an item that is put around a text made before it. -/
theorem renumbers_importFragment_render_menu :
    let edits : List Edit := [
      .add (.text "Terms & <conditions>"),
      .addElement root "ul" none [("class", "menu \t wide")],
      .addElement 2 "LI" none [("title", "say \"<&>\""), ("hidden", "")],
      .append 3 1,
      .build 3 [
        .element "p" none [("rel", "")] [.text "&amp; é", .element "br" none [] [], .text "z"],
        .element "img" none [("src", "a?b=1&lt=2")] []
      ]
    ]
    let copy := (importFragment (render .minified (built edits) root)).tree
    (built edits).isPlain = true ∧
      root :: (built edits).descendants root = [0, 2, 3, 1, 4, 5, 6, 7, 8] ∧
      copy.Linked ∧
      copy.Renumbers (built edits) [0, 2, 3, 1, 4, 5, 6, 7, 8] := by
  intro edits copy
  have plain : (built edits).isPlain = true := by
    decide +kernel
  have order : root :: (built edits).descendants root = [0, 2, 3, 1, 4, 5, 6, 7, 8] := by
    decide +kernel
  exact ⟨plain, order, order ▸ renumbers_importFragment_render edits plain⟩

end Tree

end MarkupQuery
