import MarkupQuery.Proofs.Html.Rendering
import MarkupQuery.Proofs.Html.Tags
import MarkupQuery.Proofs.Tree.Iterators

namespace MarkupQuery

/-!
# Markup holds what the walks list

Markup can be cut into tags and the characters outside of them without knowing what elements are. If
no name and no raw markup is in the way, then what is written for a node has one start tag for each
element that a walk from the node lists, in the same order, every one closed by its own end tag
unless it has none, and outside of the tags the text of the node.
-/

open Html Text

/-- A part of markup: a character outside of tags, or a tag. -/
inductive MarkupPart where
  | character (c : Char)
  | tag (text : String)
  deriving Repr, DecidableEq

namespace MarkupPart

def character? : MarkupPart → Option Char
  | .character c => some c
  | .tag _ => none

def tag? : MarkupPart → Option String
  | .character _ => none
  | .tag text => some text

@[simp] theorem character?_character (c : Char) : (character c).character? = some c :=
  rfl

@[simp] theorem character?_tag (text : String) : (tag text).character? = none :=
  rfl

@[simp] theorem tag?_character (c : Char) : (character c).tag? = none :=
  rfl

@[simp] theorem tag?_tag (text : String) : (tag text).tag? = some text :=
  rfl

end MarkupPart

namespace Html

/--
The parts of markup. A tag is what stands from a `<` to the next `>`; of the tag that is being read
`opened` is what was read of it already.
-/
def cut : (opened : Option (List Char)) → (markup : List Char) → List MarkupPart
  | _, [] => []
  | none, c :: rest =>
      if c = '<' then cut (some [c]) rest else .character c :: cut none rest
  | some begun, c :: rest =>
      if c = '>' then
        .tag (String.ofList (begun ++ [c])) :: cut none rest
      else
        cut (some (begun ++ [c])) rest

/-- Markup with its tags deleted. -/
def withoutTags (markup : List Char) : List Char :=
  (cut none markup).filterMap MarkupPart.character?

/-- The tags of markup. -/
def tagsIn (markup : List Char) : List String :=
  (cut none markup).filterMap MarkupPart.tag?

/-- Whether a tag is a start tag, that is, no end tag. -/
def isStartTag (tag : String) : Bool :=
  !(['<', '/'].isPrefixOf tag.toList)

/-- Three references are read as the characters that they stand for. -/
def decodeEntities : List Char → List Char
  | '&' :: 'a' :: 'm' :: 'p' :: ';' :: rest => '&' :: decodeEntities rest
  | '&' :: 'l' :: 't' :: ';' :: rest => '<' :: decodeEntities rest
  | '&' :: 'g' :: 't' :: ';' :: rest => '>' :: decodeEntities rest
  | c :: rest => c :: decodeEntities rest
  | [] => []

/--
The tags of elements that are properly nested, the elements listed as they begin: between the start
tag and the end tag of one stand all tags of those inside it.
-/
inductive Nested : (tags : List String) → List Element → Prop where
  | nil :
      Nested [] []
  | void
      {element : Element}
      {tags : List String}
      {elements : List Element} :
      isVoid element = true →
      Nested tags elements →
      Nested (startTag element :: tags) (element :: elements)
  | closed
      {element : Element}
      {inside tags : List String}
      {inner elements : List Element} :
      isVoid element = false →
      Nested inside inner →
      Nested tags elements →
      Nested (startTag element :: (inside ++ endTag element :: tags))
        (element :: (inner ++ elements))

/-- Two nested listings may stand behind one another. -/
theorem Nested.append
    {first second : List String}
    {before after : List Element}
    (firstNested : Nested first before)
    (secondNested : Nested second after) :
    Nested (first ++ second) (before ++ after) := by
  induction firstNested with
  | nil =>
      exact secondNested
  | void isVoid _ inductionHypothesis =>
      exact .void isVoid inductionHypothesis
  | closed notVoid inside _ _ inductionHypothesis =>
      simpa using Nested.closed notVoid inside inductionHypothesis

end Html

/-- Whether no name of an element holds a character by which tags are told. -/
def Element.hasClearNames (element : Element) : Bool :=
  (element.tag :: element.attributes.entries.map Prod.fst).all fun name =>
    name.toList.all fun c => c != '<' && c != '>' && c != '/'

/--
Whether a node is written as what it is: no raw markup, no name with a character by which tags are
told, and nothing in a text or in an element without an end tag, where it would not be written.
-/
def Tree.isClearAt (tree : Tree) (id : NodeId) : Bool :=
  match tree.kind? id with
  | some (.element element) =>
      element.hasClearNames &&
        (!isVoid element || (element.text.isNone && (tree.children id).isEmpty))
  | some (.text _) => (tree.children id).isEmpty
  | some (.raw _) => false
  | _ => true

namespace Html

section Cutting

variable {inner text : List Char} {element : Element}

/-- A text without a `<` is outside of tags. -/
theorem cut_text
    (noTag : '<' ∉ text)
    (rest : List Char) :
    cut none (text ++ rest) = text.map .character ++ cut none rest := by
  induction text with
  | nil =>
      rfl
  | cons c text inductionHypothesis =>
      have notLess : c ≠ '<' := Ne.symm (List.ne_of_not_mem_cons noTag)
      rw [List.cons_append, cut, if_neg notLess,
        inductionHypothesis (List.not_mem_of_not_mem_cons noTag)]
      rfl

/-- A tag that has begun goes on to the first `>`. -/
theorem cut_begun
    (goesOn : '>' ∉ inner)
    (begun rest : List Char) :
    cut (some begun) (inner ++ '>' :: rest) =
      .tag (String.ofList (begun ++ (inner ++ ['>']))) :: cut none rest := by
  induction inner generalizing begun with
  | nil =>
      rw [List.nil_append, cut, if_pos rfl]
      rfl
  | cons c inner inductionHypothesis =>
      have notGreater : c ≠ '>' := Ne.symm (List.ne_of_not_mem_cons goesOn)
      rw [List.cons_append, cut, if_neg notGreater,
        inductionHypothesis (List.not_mem_of_not_mem_cons goesOn)]
      simp

/-- A tag that ends at its first angle bracket is cut off as one token. -/
theorem cut_tag
    {tag : String}
    (shape : tag.toList = '<' :: (inner ++ ['>']))
    (goesOn : '>' ∉ inner)
    (rest : List Char) :
    cut none (tag.toList ++ rest) = .tag tag :: cut none rest := by
  have whole : tag = String.ofList ('<' :: (inner ++ ['>'])) := by
    rw [← shape, String.ofList_toList]
  rw [shape, List.cons_append, List.append_assoc, cut, if_pos rfl, List.singleton_append,
    cut_begun goesOn, whole]
  rfl

/-- No character of a clear name ends a tag or begins one. -/
theorem mem_clear_name
    (clear : element.hasClearNames = true)
    {name : String}
    (member : name ∈ element.tag :: element.attributes.entries.map Prod.fst)
    {c : Char}
    (inName : c ∈ name.toList) :
    c ≠ '<' ∧ c ≠ '>' ∧ c ≠ '/' := by
  have each := List.all_eq_true.mp (List.all_eq_true.mp clear name member) c inName
  simpa [and_assoc] using each

/-- Nothing in an attribute looks like the end of a tag. -/
theorem greater_not_mem_attributeText
    (clear : element.hasClearNames = true)
    {entry : String × List String}
    (member : entry ∈ element.attributes.entries) :
    '>' ∉ (attributeText entry).toList := by
  have inName : '>' ∉ entry.1.toList := fun inside =>
    (mem_clear_name clear
      (List.mem_cons_of_mem _ (List.mem_map_of_mem member)) inside).2.1 rfl
  have inValue : '>' ∉ assignedText (readEntry entry).2 := by
    have inEscaped :
        '>' ∉ (readEntry entry).2.toList.flatMap (escapeChar .attributeValue) :=
      greater_not_mem_escaped
    unfold assignedText
    split
    · exact List.not_mem_nil
    · simp [-List.mem_flatMap, inEscaped]
  rw [toList_attributeText]
  simp [inName, inValue]

/-- A clear tag does not end within its name. -/
theorem greater_not_mem_tag (clear : element.hasClearNames = true) :
    '>' ∉ element.tag.toList :=
  fun inside => (mem_clear_name clear List.mem_cons_self inside).2.1 rfl

/-- A start tag is cut off as one token, whatever its attributes hold. -/
theorem cut_startTag
    (clear : element.hasClearNames = true)
    (rest : List Char) :
    cut none ((startTag element).toList ++ rest) = .tag (startTag element) :: cut none rest := by
  have shape := toList_startTag element
  rw [← List.append_assoc] at shape
  refine cut_tag shape (fun inside => ?_) rest
  rcases List.mem_append.mp inside with inTag | inAttributes
  · exact greater_not_mem_tag clear inTag
  · obtain ⟨entry, member, inEntry⟩ := List.mem_flatMap.mp inAttributes
    exact greater_not_mem_attributeText clear member inEntry

/-- An end tag is cut off as one token. -/
theorem cut_endTag
    (clear : element.hasClearNames = true)
    (rest : List Char) :
    cut none ((endTag element).toList ++ rest) = .tag (endTag element) :: cut none rest := by
  have shape := toList_endTag element
  rw [← List.cons_append] at shape
  exact cut_tag shape (by simp [greater_not_mem_tag clear]) rest

/-- Start tags are told by what stands behind the angle bracket. -/
theorem isStartTag_startTag (clear : element.hasClearNames = true) :
    isStartTag (startTag element) = true := by
  have noSlash : '/' ∉ element.tag.toList := fun inside =>
    (mem_clear_name clear List.mem_cons_self inside).2.2 rfl
  unfold isStartTag
  rw [toList_startTag]
  cases named : element.tag.toList with
  | cons c others =>
      have other : '/' ≠ c := List.ne_of_not_mem_cons (named ▸ noSlash)
      simp [List.isPrefixOf, other]
  | nil =>
      -- Behind an empty name comes a space or the end of the tag.
      cases element.attributes.entries with
      | nil =>
          simp [List.isPrefixOf]
      | cons entry entries =>
          simp [List.isPrefixOf, toList_attributeText]

/-- An end tag is never taken for a start tag. -/
theorem isStartTag_endTag (element : Element) :
    isStartTag (endTag element) = false := by
  simp [isStartTag, toList_endTag, List.isPrefixOf]

/-- Of properly nested tags the start tags are those of the elements. -/
theorem Nested.filter_isStartTag
    {tags : List String}
    {elements : List Element}
    (nested : Nested tags elements)
    (clear : ∀ element ∈ elements, element.hasClearNames = true) :
    tags.filter isStartTag = elements.map startTag := by
  induction nested with
  | nil =>
      rfl
  | void _ _ inductionHypothesis =>
      obtain ⟨here, later⟩ := List.forall_mem_cons.mp clear
      rw [List.filter_cons_of_pos (isStartTag_startTag here), inductionHypothesis later]
      rfl
  | closed _ _ _ innerHypothesis laterHypothesis =>
      obtain ⟨here, further⟩ := List.forall_mem_cons.mp clear
      obtain ⟨inside, later⟩ := List.forall_mem_append.mp further
      rw [List.filter_cons_of_pos (isStartTag_startTag here), List.filter_append,
        List.filter_cons_of_neg (by simp [isStartTag_endTag]), innerHypothesis inside,
        laterHypothesis later]
      simp

end Cutting

/-- A character other than an ampersand stands for itself. -/
theorem decodeEntities_cons
    {c : Char}
    (notAmpersand : c ≠ '&')
    (rest : List Char) :
    decodeEntities (c :: rest) = c :: decodeEntities rest := by
  conv_lhs => unfold decodeEntities
  split
  all_goals simp_all

/-- A text written between tags is read as the text, whatever follows it. -/
theorem decodeEntities_escaped
    (text rest : List Char) :
    decodeEntities (text.flatMap (escapeChar .betweenTags) ++ rest) =
      text ++ decodeEntities rest := by
  induction text with
  | nil =>
      rfl
  | cons c text inductionHypothesis =>
      rw [List.flatMap_cons, List.append_assoc, List.cons_append, ← inductionHypothesis]
      by_cases isAmpersand : c = '&'
      · subst isAmpersand
        rfl
      by_cases isLess : c = '<'
      · subst isLess
        rfl
      by_cases isGreater : c = '>'
      · subst isGreater
        rfl
      · rw [escapeChar_betweenTags_eq_self_iff.mpr ⟨isAmpersand, isLess, isGreater⟩]
        exact decodeEntities_cons isAmpersand _

/-- Markup that, in front of any other, holds a text outside of tags and elements as their tags. -/
structure Holds (markup content : List Char) (elements : List Element) : Prop where
  cut : ∀ rest, cut none (markup ++ rest) = cut none markup ++ cut none rest
  content :
    ∀ rest, decodeEntities (withoutTags markup ++ rest) = content ++ decodeEntities rest
  nested : Nested (tagsIn markup) elements

namespace Holds

variable {markup content : List Char} {element : Element} {elements : List Element}

/-- Nothing holds nothing. -/
theorem nil : Holds [] [] [] where
  cut _ := rfl
  content _ := rfl
  nested := .nil

/-- What two pieces hold they hold together, one behind the other. -/
theorem append
    {first second firstContent secondContent : List Char}
    {before after : List Element}
    (firstHolds : Holds first firstContent before)
    (secondHolds : Holds second secondContent after) :
    Holds (first ++ second) (firstContent ++ secondContent) (before ++ after) where
  cut rest := by
    rw [List.append_assoc, firstHolds.cut, secondHolds.cut, firstHolds.cut, List.append_assoc]
  content rest := by
    rw [withoutTags, firstHolds.cut, List.filterMap_append, List.append_assoc]
    exact (firstHolds.content _).trans
      ((congrArg _ (secondHolds.content rest)).trans (List.append_assoc _ _ _).symm)
  nested := by
    rw [tagsIn, firstHolds.cut, List.filterMap_append]
    exact firstHolds.nested.append secondHolds.nested

/-- What markup holds is told by its parts. -/
theorem of_cut
    (parts : List MarkupPart)
    (shape : ∀ rest, Html.cut none (markup ++ rest) = parts ++ Html.cut none rest)
    (read :
      ∀ rest,
        decodeEntities (parts.filterMap MarkupPart.character? ++ rest) =
          content ++ decodeEntities rest)
    (nested : Nested (parts.filterMap MarkupPart.tag?) elements) :
    Holds markup content elements := by
  have whole : Html.cut none markup = parts := by
    simpa [Html.cut] using shape []
  exact {
    cut := by rw [whole]; exact shape
    content := by rw [withoutTags, whole]; exact read
    nested := by rw [tagsIn, whole]; exact nested
  }

/-- A text between tags holds itself and no element. -/
theorem escaped (text : String) :
    Holds (escape .betweenTags text).toList text.toList [] := by
  rw [escape, String.toList_ofList]
  refine of_cut _ (cut_text less_not_mem_escaped) (fun rest => ?_) ?_
  · rw [List.filterMap_map]
    simpa [Function.comp_def] using decodeEntities_escaped text.toList rest
  · rw [List.filterMap_map]
    simpa [Function.comp_def] using Nested.nil

/-- The start tag of an element without an end tag holds the element. -/
theorem void
    (clear : element.hasClearNames = true)
    (isVoid : isVoid element = true) :
    Holds (startTag element).toList [] [element] :=
  of_cut [.tag (startTag element)] (cut_startTag clear) (fun _ => rfl) (.void isVoid .nil)

/-- Between its tags, an element holds what is written there. -/
theorem closed
    (clear : element.hasClearNames = true)
    (notVoid : isVoid element = false)
    (inside : Holds markup content elements) :
    Holds ((startTag element).toList ++ markup ++ (endTag element).toList) content
      (element :: elements) := by
  refine of_cut (.tag (startTag element) :: (Html.cut none markup ++ [.tag (endTag element)]))
    (fun rest => ?_) (fun rest => ?_) ?_
  · rw [List.append_assoc, List.append_assoc, cut_startTag clear, inside.cut, cut_endTag clear]
    simp
  · simpa [List.filterMap_cons, withoutTags] using inside.content rest
  · simpa [tagsIn] using Nested.closed notVoid inside.nested .nil

end Holds

end Html

namespace Tree

/-- The elements that a walk from a node lists, the node first. -/
def elementsFrom (tree : Tree) (id : NodeId) : List Element :=
  (id :: tree.descendants id).filterMap tree.element?

section Trees

variable {tree : Tree} {levels : Nat} {id : NodeId}

/-- Nodes written one after the other hold what each of them holds. -/
theorem holds_allWritten
    {ids : List NodeId}
    (each :
      ∀ id ∈ ids,
        Holds (tree.sketch tree.size id).written (tree.textContent id).toList
          (tree.elementsFrom id)) :
    Holds (Sketch.allWritten (ids.map (tree.sketch tree.size)))
      (String.join (ids.map tree.textContent)).toList
      ((ids.flatMap fun id => id :: tree.descendants id).filterMap tree.element?) := by
  induction ids with
  | nil =>
      exact .nil
  | cons id ids inductionHypothesis =>
      obtain ⟨here, later⟩ := List.forall_mem_cons.mp each
      rw [List.map_cons, List.map_cons, String.join_cons, String.toList_append,
        List.flatMap_cons, List.filterMap_append]
      exact here.append (inductionHypothesis later)

/-- What is asked of an element where it stands. -/
theorem isClearAt_element
    {element : Element}
    (isElement : tree.kind? id = some (.element element))
    (clear : tree.isClearAt id = true) :
    element.hasClearNames = true ∧
      (isVoid element = true → element.text = none ∧ tree.children id = []) := by
  simpa [isClearAt, isElement, or_iff_not_imp_left] using clear

/-- What is clear below a node is clear below each of its children. -/
theorem Linked.isClearAt_of_child
    (linked : tree.Linked)
    (clear : ∀ node ∈ id :: tree.descendants id, tree.isClearAt node = true)
    {child : NodeId}
    (member : child ∈ tree.children id) :
    ∀ node ∈ child :: tree.descendants child, tree.isClearAt node = true := by
  intro node inChild
  refine clear node (List.mem_cons_of_mem id ?_)
  rw [linked.descendants_eq]
  exact List.mem_flatMap.mpr ⟨child, member, inChild⟩

/-- What is written for a node holds what the walks from the node list. -/
theorem Linked.holds_written
    (linked : tree.Linked)
    (shallow : tree.IsShallow levels id)
    (clear : ∀ node ∈ id :: tree.descendants id, tree.isClearAt node = true) :
    Holds (tree.sketch tree.size id).written (tree.textContent id).toList
      (tree.elementsFrom id) := by
  induction levels generalizing id with
  | zero =>
      exact absurd shallow (not_isShallow_zero id)
  | succ levels inductionHypothesis =>
      have below := holds_allWritten fun child member =>
        inductionHypothesis (shallow.child (linked.mem_children_iff.mp member))
          (linked.isClearAt_of_child clear member)
      rw [← linked.descendants_eq] at below
      have here := clear id List.mem_cons_self
      rw [linked.sketch_eq, linked.textContent_eq, String.toList_append, elementsFrom]
      cases stands : tree.kind? id with
      | none =>
          rw [List.filterMap_cons_none (by rw [element?, stands]), ownText, stands]
          exact below
      | some kind =>
          cases kind with
          | document =>
              rw [List.filterMap_cons_none (by rw [element?, stands]), ownText, stands]
              exact below
          | raw content =>
              simp [isClearAt, stands] at here
          | text content =>
              have childless : tree.children id = [] := by
                simpa [isClearAt, stands] using here
              rw [List.filterMap_cons_none (by rw [element?, stands]), ownText, stands,
                linked.descendants_eq, childless]
              simpa [Sketch.written] using Holds.escaped content
          | element element =>
              obtain ⟨names, alone⟩ := isClearAt_element stands here
              have own : tree.ownText id = element.text.getD "" := by
                rw [ownText, stands]
              rw [List.filterMap_cons_some (element?_eq_some_iff.mpr stands), own, Option.getD_some,
                Sketch.written]
              split
              · next isVoid =>
                  obtain ⟨noText, childless⟩ := alone isVoid
                  rw [linked.descendants_eq, childless, noText]
                  exact Holds.void names isVoid
              · next notVoid =>
                  have inside := (Holds.escaped (element.text.getD "")).append below
                  have whole := Holds.closed names (Bool.not_eq_true _ ▸ notVoid) inside
                  simpa [opening] using whole

end Trees

/--
In every tree that edits build and at every node, if below the node there is no raw markup, nothing
in a text or in an element without an end tag, and no name with a character by which tags are told,
then what is written for the node without line breaks holds the same as the walks from the node
list: its characters outside of tags, with the references read, are the text of the node, and its
tags are properly nested tags of the elements, of which the start tags stand in document order.
-/
theorem contents_render_minified
    (edits : List Edit)
    (id : NodeId)
    (clear :
      ∀ node ∈ id :: (built edits).descendants id, (built edits).isClearAt node = true) :
    let tree := built edits
    let markup := (render .minified tree id).toList
    String.ofList (decodeEntities (withoutTags markup)) = tree.textContent id ∧
      (tagsIn markup).filter isStartTag = (tree.elementsFrom id).map startTag ∧
      Nested (tagsIn markup) (tree.elementsFrom id) := by
  intro tree markup
  have linked : tree.Linked := linked_built edits
  have holds : Holds markup (tree.textContent id).toList (tree.elementsFrom id) := by
    have written := linked.holds_written (linked.isShallow_size id) clear
    rwa [← String.toList_ofList (l := (tree.sketch tree.size id).written),
      ← render_minified] at written
  have clearElements : ∀ element ∈ tree.elementsFrom id, element.hasClearNames = true := by
    intro element member
    obtain ⟨node, inside, isElement⟩ := List.mem_filterMap.mp member
    exact (isClearAt_element (element?_eq_some_iff.mp isElement) (clear node inside)).1
  refine ⟨?_, holds.nested.filter_isStartTag clearElements, holds.nested⟩
  have content := holds.content []
  rw [List.append_nil] at content
  rw [content]
  simp [decodeEntities]

/-- A section whose texts and values are full of markup, with a document inside. -/
theorem contents_render_minified_section :
    let edits : List Edit := [
      .addElement root "section" (some "1 < 2 && 3 > 2")
        [("title", "a > b </section>"), ("class", "x y")],
      .build 1 [.element "b" (some "&lt;") [] [.element "i" none [] []], .text "</b> &amp;"],
      .addElement 1 "br" none [("data-end", ">")],
      .add .document,
      .addElement 6 "em" none [],
      .append 1 6
    ]
    let tree := built edits
    let markup := (render .minified tree 1).toList
    (∀ node ∈ 1 :: tree.descendants 1, tree.isClearAt node = true) ∧
      render .minified tree 1 =
        "<section title=\"a &gt; b &lt;/section&gt;\" class=\"x y\">1 &lt; 2 &amp;&amp; 3 &gt; 2" ++
          "<b>&amp;lt;<i></i></b>&lt;/b&gt; &amp;amp;<br data-end=\"&gt;\"><em></em></section>" ∧
      tree.textContent 1 = "1 < 2 && 3 > 2&lt;</b> &amp;" ∧
      String.ofList (decodeEntities (withoutTags markup)) = tree.textContent 1 ∧
      (tagsIn markup).filter isStartTag =
        ["<section title=\"a &gt; b &lt;/section&gt;\" class=\"x y\">", "<b>", "<i>",
          "<br data-end=\"&gt;\">", "<em>"] ∧
      (tree.elementsFrom 1).map Element.tag = ["section", "b", "i", "br", "em"] ∧
      Nested (tagsIn markup) (tree.elementsFrom 1) := by
  intro edits tree markup
  have clear : ∀ node ∈ 1 :: tree.descendants 1, tree.isClearAt node = true := by
    decide +kernel
  obtain ⟨content, startTags, nested⟩ := contents_render_minified edits 1 clear
  refine ⟨clear, by decide +kernel, by decide +kernel, content, ?_, by decide +kernel, nested⟩
  exact startTags.trans (by decide +kernel)

end Tree

end MarkupQuery
