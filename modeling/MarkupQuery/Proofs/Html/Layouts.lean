import MarkupQuery.Proofs.Html.RoundTrip
import MarkupQuery.Proofs.Html.Spacing
import MarkupQuery.Proofs.Selector.Subtrees

namespace MarkupQuery

/-!
# Layouts describe the same elements

A tree of loose markup is one in which blanks between the parts do not matter. Rendered in a pretty
layout or without one and imported again, it gives two trees with the same nodes in the same places,
which differ only in blanks at the ends of texts. So every selector finds the same in both.
-/

open Html Text

/-- The elements beside and in which blanks may stand. -/
def looseTags : List String :=
  ["div", "span", "section", "article", "nav", "ul", "li", "br", "hr", "img", "input"]

/-- Whether an element is one of loose markup, without a text of its own. -/
def Element.isLoose (element : Element) : Bool :=
  looseTags.contains element.tag && element.text.isNone &&
    decide (element.attributes.entries.map Prod.fst).Nodup &&
      element.attributes.entries.all fun entry => isPlainName entry.1 && entry.2.all isClean

namespace Tree

/--
Whether a node is one of loose markup: an element that may stand where it does, with nothing below
an element without an end tag, or a text as plain markup has them.
-/
def isLooseAt (tree : Tree) (id : NodeId) : Bool :=
  match tree.kind? id with
  | some (.element element) =>
      element.isLoose &&
        (element.tag != "li" || (tree.parent? id).bind tree.tag? == some "ul") &&
          (!isVoid element || (tree.children id).isEmpty)
  | some (.text _) => tree.isPlainAt id
  | _ => false

/-- Whether everything below the document is loose markup. -/
def isLoose (tree : Tree) : Bool :=
  (tree.descendants root).all tree.isLooseAt

end Tree

namespace Html

section Elements

variable {element : Element}

/-- What loose markup asks of an element itself. -/
theorem isLoose_iff :
    element.isLoose = true ↔
      element.tag ∈ looseTags ∧ element.text = none ∧
        (element.attributes.entries.map Prod.fst).Nodup ∧
          ∀ entry ∈ element.attributes.entries,
            isPlainName entry.1 = true ∧ entry.2.all isClean = true := by
  simp [Element.isLoose, and_assoc]

theorem mem_plainTags_of_mem_looseTags
    {name : String}
    (known : name ∈ looseTags) :
    name ∈ plainTags := by
  have each : ∀ name ∈ looseTags, name ∈ plainTags := by
    decide
  exact each name known

theorem hasReadableTags_of_isLoose (loose : element.isLoose = true) :
    HasReadableTags element := by
  obtain ⟨known, _, distinct, entries⟩ := isLoose_iff.mp loose
  have tag := isPlainName_of_mem_plainTags (mem_plainTags_of_mem_looseTags known)
  exact hasReadableTags_of_clean tag distinct entries

end Elements

section Trees

variable {tree : Tree} {outer : List String} {levels : Nat} {id : NodeId}

/-- What loose markup asks of an element where it stands. -/
theorem isLooseAt_element
    {element : Element}
    (isElement : tree.kind? id = some (.element element))
    (loose : tree.isLooseAt id = true) :
    element.isLoose = true ∧
      (element.tag = "li" → (tree.parent? id).bind tree.tag? = some "ul") ∧
      (isVoid element = true → tree.children id = []) := by
  simpa [Tree.isLooseAt, isElement, and_assoc, or_iff_not_imp_left] using loose

/-- The texts of loose markup are plain. -/
theorem isPlainAt_of_isLooseAt
    (loose : tree.isLooseAt id = true)
    (isText : (tree.text? id).isSome = true) :
    tree.isPlainAt id = true := by
  unfold Tree.isLooseAt at loose
  unfold Tree.text? at isText
  cases stands : tree.kind? id with
  | none =>
      simp [stands] at isText
  | some kind =>
      cases kind <;> simp_all

/-- A part of a tree that is loose markup where it stands, below elements of the names given. -/
structure LoosePart
    (tree : Tree)
    (outer : List String)
    (levels : Nat)
    (id : NodeId) : Prop where
  shallow : tree.IsShallow levels id
  loose : ∀ node ∈ id :: tree.below levels id, tree.isLooseAt node = true
  owner : (tree.parent? id).bind tree.tag? = outer.head?
  known : ∀ name ∈ outer, name ∈ looseTags

namespace LoosePart

/-- Where a part stands, its element may stand. -/
theorem fits
    {element : Element}
    (part : LoosePart tree outer levels id)
    (isElement : tree.kind? id = some (.element element)) :
    fitsIn outer element.tag = true := by
  obtain ⟨_, item, _⟩ := isLooseAt_element isElement (part.loose id List.mem_cons_self)
  refine fitsIn_iff.mpr ⟨fun isItem => part.owner ▸ item isItem, fun isOpen => ?_⟩
  have paragraph := part.known "p" (List.contains_iff_mem.mp isOpen)
  exact absurd paragraph (by decide)

/-- A child of an element is a part that stands in the element. -/
theorem child
    {element : Element}
    (part : LoosePart tree outer (levels + 1) id)
    (linked : tree.Linked)
    (isElement : tree.kind? id = some (.element element))
    {child : NodeId}
    (member : child ∈ tree.children id) :
    LoosePart tree (element.tag :: outer) levels child where
  shallow := part.shallow.child (linked.mem_children_iff.mp member)
  loose := fun node inChild =>
    part.loose node (List.mem_cons_of_mem id (Tree.mem_below_of_mem_children member inChild))
  owner := by
    rw [bind_tag?_of_mem_children linked member, Tree.tag?, Tree.element?, isElement]
    rfl
  known := by
    obtain ⟨isLoose, _⟩ := isLooseAt_element isElement (part.loose id List.mem_cons_self)
    exact List.forall_mem_cons.mpr ⟨(isLoose_iff.mp isLoose).1, part.known⟩

/-- Children that are loose markup can be read together if each of them can. -/
theorem allReadable
    (linked : tree.Linked)
    (loose : ∀ child ∈ tree.children id, tree.isLooseAt child = true)
    (readable : ∀ child ∈ tree.children id, (tree.sketch levels child).Readable outer) :
    Sketch.AllReadable outer ((tree.children id).map (tree.sketch levels)) :=
  allReadable_map (linked.siblings id)
    (fun child member => isPlainAt_of_isLooseAt (loose child member)) readable

/-- A part of a tree that is loose markup can be read. -/
theorem readable
    (part : LoosePart tree outer levels id)
    (linked : tree.Linked) :
    (tree.sketch levels id).Readable outer := by
  induction levels generalizing id outer with
  | zero =>
      exact absurd part.shallow (Tree.not_isShallow_zero id)
  | succ levels inductionHypothesis =>
      have loose := part.loose id List.mem_cons_self
      cases stands : tree.kind? id with
      | none =>
          simp [Tree.isLooseAt, stands] at loose
      | some kind =>
          cases kind with
          | document =>
              simp [Tree.isLooseAt, stands] at loose
          | raw content =>
              simp [Tree.isLooseAt, stands] at loose
          | text content =>
              have plain := isPlainAt_of_isLooseAt loose (by simp [Tree.text?, stands])
              exact (restored_text stands plain).readable
          | element element =>
              obtain ⟨isLoose, _, void⟩ := isLooseAt_element stands loose
              obtain ⟨known, noText, _, _⟩ := isLoose_iff.mp isLoose
              have below :
                  Sketch.AllReadable (element.tag :: outer)
                    ((tree.children id).map (tree.sketch levels)) :=
                allReadable linked
                  (fun child member =>
                    (part.child linked stands member).loose child List.mem_cons_self)
                  (fun child member => inductionHypothesis (part.child linked stands member))
              rw [Tree.sketch, stands, Option.getD_some]
              refine ⟨mem_plainTags_of_mem_looseTags known, hasReadableTags_of_isLoose isLoose,
                noText, part.fits stands, fun isVoid => ?_, below⟩
              rw [void isVoid]
              rfl

end LoosePart

end Trees

section Sketches

variable {sketches : List Sketch} (readable : Sketch.AllReadable [] sketches)

include readable

/-- Written sketches that can be read are imported as what is copied of them. -/
theorem laidOut_importFragment_written :
    (importFragment (String.ofList (Sketch.allWritten sketches))).tree.Linked ∧
      (importFragment (String.ofList (Sketch.allWritten sketches))).tree.LaidOut 0
        (.node .document (Markup.allSketches (Sketch.allMarkup sketches))) ∧
      (importFragment (String.ofList (Sketch.allWritten sketches))).tree.size =
        (Sketch.node .document (Markup.allSketches (Sketch.allMarkup sketches))).size := by
  have grafted :=
    Import.grafted_ofMarkup (readFragment (String.ofList (Sketch.allWritten sketches)))
  have linked := grafted.linked
  rw [readFragment_written readable, Markup.sketches, ← readFragment_written readable] at grafted
  exact ⟨linked, grafted.laidOut_document⟩

/-- A document of sketches that can be read, rendered in a pretty layout. -/
theorem render_pretty
    {tree : Tree}
    {id : NodeId}
    (shape : tree.sketch tree.size id = .node .document sketches)
    (indent : Nat) :
    render (.pretty indent) tree id =
      String.ofList (Sketch.allWritten (Sketch.allSpaced indent 0 "" "" sketches)) := by
  rw [← String.toList_inj, toList_render, shape, String.toList_ofList,
    Sketch.allWritten_allSpaced indent 0 "" "" readable]
  simp [escape, Sketch.pieces]

/-- Sketches and spaced sketches are imported as trees that differ in blanks. -/
theorem alikeAt_importFragment_allSpaced (indent : Nat) :
    let compact := (importFragment (String.ofList (Sketch.allWritten sketches))).tree
    let pretty :=
      (importFragment (String.ofList (Sketch.allWritten
        (Sketch.allSpaced indent 0 "" "" sketches)))).tree
    compact.Linked ∧ pretty.Linked ∧
      pretty.size = compact.size ∧ ∀ id : NodeId, compact.AlikeAt pretty id := by
  intro compact pretty
  have nothingClean : isClean "" = true := by
    decide
  have nothingBlank : ∀ c ∈ "".toList, isBlank c = true :=
    List.all_eq_true.mp rfl
  have spacedReadable :=
    Sketch.allReadable_allSpaced indent 0 nothingClean nothingClean readable
  obtain ⟨linked, laidOut, size⟩ := laidOut_importFragment_written readable
  obtain ⟨otherLinked, otherLaidOut, otherSize⟩ := laidOut_importFragment_written spacedReadable
  have same :
      Sketch.trimmed (.node .document (Markup.allSketches (Sketch.allMarkup sketches))) =
        Sketch.trimmed (.node .document (Markup.allSketches (Sketch.allMarkup
          (Sketch.allSpaced indent 0 "" "" sketches)))) := by
    rw [Sketch.trimmed, Sketch.trimmed,
      Sketch.allTrimmed_allSketches_allSpaced indent 0 "" nothingBlank readable fun _ => rfl]
    rfl
  exact ⟨linked, otherLinked,
    Tree.alikeAt_of_same_trimmed same laidOut size otherLaidOut otherSize⟩

end Sketches

end Html

namespace Tree

/-- In a tree of loose markup what stands below the document is a part of loose markup each. -/
theorem loosePart_of_isLoose
    {tree : Tree}
    {levels : Nat}
    {child : NodeId}
    (linked : tree.Linked)
    (isDocument : tree.kind? root = some .document)
    (size : tree.size = levels + 1)
    (loose : tree.isLoose = true)
    (member : child ∈ tree.children root) :
    LoosePart tree [] levels child where
  shallow := by
    have shallow := linked.isShallow_size root
    rw [size] at shallow
    exact shallow.child (linked.mem_children_iff.mp member)
  loose := by
    rw [isLoose, List.all_eq_true, descendants, size] at loose
    exact fun node inChild => loose node (mem_below_of_mem_children member inChild)
  owner := by
    rw [bind_tag?_of_mem_children linked member, tag?, element?, isDocument]
    rfl
  known :=
    List.forall_mem_nil _

/-- In a tree of loose markup all that is below the document can be read. -/
theorem exists_readable_sketches
    (edits : List Edit)
    (loose : (built edits).isLoose = true) :
    ∃ sketches,
      (built edits).sketch (built edits).size root = .node .document sketches ∧
        Sketch.AllReadable [] sketches := by
  have linked := linked_built edits
  obtain ⟨levels, size⟩ := Nat.exists_eq_add_one_of_ne_zero (Nat.ne_of_gt linked.nonempty)
  have part (child : NodeId) (member : child ∈ (built edits).children root) :
      LoosePart (built edits) [] levels child :=
    loosePart_of_isLoose linked (kind?_root_built edits) size loose member
  refine ⟨((built edits).children root).map ((built edits).sketch levels), ?_, ?_⟩
  · rw [size, sketch, kind?_root_built]
    rfl
  · refine LoosePart.allReadable linked ?_ ?_
    · exact fun child member => (part child member).loose child List.mem_cons_self
    · exact fun child member => (part child member).readable linked

/--
A tree of loose markup, rendered without a layout and in a pretty layout with any indentation and
imported again, gives two trees of the same number of nodes. Each node has the same parent and
children in both and stands for the same but for blanks at the ends of a text, and every selector
finds the same from their documents.
-/
theorem importFragment_render_pretty
    (edits : List Edit)
    (loose : (built edits).isLoose = true)
    (indent : Nat) :
    let compact := (importFragment (render .minified (built edits) root)).tree
    let pretty := (importFragment (render (.pretty indent) (built edits) root)).tree
    pretty.size = compact.size ∧
      (∀ id : NodeId,
        (pretty.kind? id).map NodeKind.trimmed = (compact.kind? id).map NodeKind.trimmed ∧
          pretty.parent? id = compact.parent? id ∧
          pretty.children id = compact.children id) ∧
      ∀ (selector : String) (plan : Selector.Plan),
        Selector.Plan.parse selector = .ok plan →
          ∃ found,
            Selector.select compact root selector = .ok found ∧
              Selector.select pretty root selector = .ok found := by
  intro compact pretty
  obtain ⟨sketches, shape, readable⟩ := exists_readable_sketches edits loose
  have compactWritten :
      render .minified (built edits) root = String.ofList (Sketch.allWritten sketches) := by
    rw [render_minified, shape]
    rfl
  obtain ⟨linked, prettyLinked, size, alike⟩ := alikeAt_importFragment_allSpaced readable indent
  rw [← compactWritten, ← render_pretty readable shape] at size alike
  rw [← compactWritten] at linked
  rw [← render_pretty readable shape] at prettyLinked
  refine ⟨size, fun id => ⟨(alike id).kind, ?_, (alike id).children⟩, ?_⟩
  · exact parent?_eq_of_alike alike linked prettyLinked id
  · intro selector plan parsed
    have found : plan.select pretty root = plan.select compact root :=
      Selector.Plan.select_congr fun branch _ =>
        Selector.Branch.reached_eq_of_sameIn linked prettyLinked (sameIn_of_alike alike) branch
          root
    exact ⟨plan.select compact root, Selector.select_of_parse parsed,
      found ▸ Selector.select_of_parse parsed⟩

/-- A list with texts beside elements, of which one begins with a blank and ends with a line. -/
theorem importFragment_render_pretty_menu :
    let edits : List Edit := [
      .add (.text " Terms & <conditions>\n"),
      .addElement root "ul" none [("class", "menu \t wide")],
      .addElement 2 "LI" none [("title", "say \"<&>\""), ("hidden", "")],
      .append 3 1,
      .build 3 [.element "img" none [("src", "a?b=1&lt=2")] [], .text "\u00A0é z"],
      .addElement 2 "li" none []
    ]
    let compact := (importFragment (render .minified (built edits) root)).tree
    let pretty := (importFragment (render (.pretty 2) (built edits) root)).tree
    (built edits).isLoose = true ∧
      render (.pretty 2) (built edits) root =
        "<ul class=\"menu wide\">\n" ++
          "  <li title=\"say &quot;&lt;&amp;&gt;&quot;\" hidden>\n" ++
          "     Terms &amp; &lt;conditions&gt;\n\n" ++
          "    <img src=\"a?b=1&amp;lt=2\">\n" ++
          "    \u00A0é z\n" ++
          "  </li>\n" ++
          "  <li></li>\n" ++
          "</ul>\n" ∧
      pretty.size = compact.size ∧
      (∀ id : NodeId,
        (pretty.kind? id).map NodeKind.trimmed = (compact.kind? id).map NodeKind.trimmed ∧
          pretty.parent? id = compact.parent? id ∧
          pretty.children id = compact.children id) ∧
      Selector.select compact root "li + li, li img" = .ok [6, 4] ∧
      Selector.select pretty root "li + li, li img" = .ok [6, 4] := by
  intro edits compact pretty
  have loose : (built edits).isLoose = true := by
    decide +kernel
  have selected : Selector.select compact root "li + li, li img" = .ok [6, 4] := by
    decide +kernel
  obtain ⟨plan, parsed, _⟩ := Selector.exists_plan_of_select selected
  obtain ⟨size, alike, selects⟩ := importFragment_render_pretty edits loose 2
  obtain ⟨found, answer, prettyAnswer⟩ := selects "li + li, li img" plan parsed
  rw [selected, Except.ok.injEq] at answer
  subst answer
  exact ⟨loose, by decide +kernel, size, alike, selected, prettyAnswer⟩

end Tree

end MarkupQuery
