import MarkupQuery.Proofs.Selector.Levels
import MarkupQuery.Proofs.Selector.Positions
import MarkupQuery.Proofs.Selector.Reprinting
import MarkupQuery.Proofs.Tree.Kinds
import MarkupQuery.Report.Match

namespace MarkupQuery.Report

/-!
# Paths lead back

The path of an element is the print of a branch with one segment for every element on the way down.
Each of these segments leads from an element to one of its children only, so the branch leads from
the document to the element that the path was made for and to nothing else.
-/

open MarkupQuery.Text
open MarkupQuery.Selector

/-- The segment for the child with a tag at a position. -/
def childAt (tag : String) (position : Nat) : Segment where
  combinator := .child
  tag := some (.named tag)
  pseudo := some { kind := .nthChild, argument := some (toString position) }

section Segments

variable {tag : String} {position : Nat}

/-- The segment of a node in a path is its tag and its position. -/
theorem text_childAt :
    (childAt tag position).text = tag ++ ":nth-child(" ++ toString position ++ ")" := by
  rw [← String.toList_inj]
  simp [childAt, Segment.text, TagTest.text, Pseudo.text, PseudoKind.name]

/-- The segment of a node in a path is canonical if its tag is. -/
theorem canonical_childAt (canonical : (TagTest.named tag).Canonical) :
    (childAt tag position).Canonical where
  nonempty := rfl
  tag := by
    rintro test ⟨⟩
    exact canonical
  id := by
    rintro id ⟨⟩
  classes := by
    rintro className ⟨⟩
  attributes := by
    rintro test ⟨⟩
  pseudo := by
    rintro pseudo ⟨⟩
    refine ⟨toString position, rfl, ?_, ?_, ?_⟩
    · intro member
      exact absurd (NthPosition.isDigit_of_mem_toString member) (by decide)
    · exact stops_of_forall fun c member => NthPosition.not_isBlank_of_mem_toString member
    · refine stops_of_forall fun c member => ?_
      exact NthPosition.not_isBlank_of_mem_toString (List.mem_reverse.mp member)

/-- There is no comma in a segment of a path, unless the tag has one. -/
theorem comma_not_mem_childAt (notInTag : ',' ∉ tag.toList) :
    ',' ∉ (childAt tag position).textAfterCombinator.toList := by
  have notInNumber : ',' ∉ (toString position).toList :=
    fun member => absurd (NthPosition.isDigit_of_mem_toString member) (by decide)
  rw [Segment.textAfterCombinator, text_childAt]
  simp only [String.toList_append, List.mem_append, not_or]
  refine ⟨?_, ⟨⟨notInTag, ?_⟩, notInNumber⟩, ?_⟩
  · change ',' ∉ Combinator.child.glyph.toList
    decide
  · decide
  · decide

/-- But for its position a segment of a path asks for the tag alone. -/
theorem acceptsElement_childAt_iff
    {element : Element} :
    (childAt tag position).acceptsElement element = true ↔ element.tag = tag := by
  simp [childAt, Segment.acceptsElement, TagTest.accepts, acceptsClasses]

/-- The segment accepts what has the tag and the position. -/
theorem accepts_childAt_iff
    {tree : Tree}
    {id : NodeId} :
    (childAt tag position).accepts tree id = true ↔
      tree.tag? id = some tag ∧
        ∃ place, tree.place? id = some place ∧ place.position = position := by
  rw [Segment.accepts, Bool.and_eq_true]
  refine and_congr ?_ ?_
  · simp only [Option.any_eq_true, acceptsElement_childAt_iff, Tree.tag?, Option.map_eq_some_iff]
  · change (tree.place? id).any
      (Pseudo.acceptsPlace { kind := .nthChild, argument := some (toString position) }) = true ↔ _
    simp only [Option.any_eq_true, Pseudo.acceptsPlace, Pseudo.argumentText, Option.getD_some,
      NthPosition.accepts_toString_iff]

end Segments

section Steps

variable {tree : Tree} {id parent : NodeId} {segment : Segment}

/-- The segment that a step of a path is the print of. -/
def pathSegment? (tree : Tree) (id : NodeId) : Option Segment :=
  match tree.tag? id, tree.place? id with
  | some tag, some place => some (childAt tag place.position)
  | _, _ => none

/-- A step of a path is the text of its segment. -/
theorem pathStep?_eq_text (id : NodeId) :
    pathStep? tree id = (pathSegment? tree id).map Segment.text := by
  unfold pathStep? pathSegment?
  cases tree.tag? id with
  | none =>
      rfl
  | some tag =>
      cases tree.place? id with
      | none =>
          rfl
      | some place =>
          exact congrArg some text_childAt.symm

/-- A node has a segment if it has a tag and a place among the elements of its parent. -/
theorem pathSegment?_eq_some_iff :
    pathSegment? tree id = some segment ↔
      ∃ tag place,
        tree.tag? id = some tag ∧
          tree.place? id = some place ∧ childAt tag place.position = segment := by
  unfold pathSegment?
  split
  · next tag place tagged placed =>
      simp [tagged, placed]
  · next missing =>
      constructor
      · intro impossible
        cases impossible
      · rintro ⟨tag, place, tagged, placed, _⟩
        exact (missing tag place tagged placed).elim

/-- Every element with a parent has a segment. -/
theorem exists_pathSegment?
    (linked : tree.Linked)
    (owned : tree.parent? id = some parent)
    (element : tree.isElement id = true) :
    ∃ segment, pathSegment? tree id = some segment := by
  obtain ⟨found, here⟩ := Option.isSome_iff_exists.mp element
  obtain ⟨place, placed⟩ := linked.exists_place? owned element
  have tagged : tree.tag? id = some found.tag := by
    rw [Tree.tag?, here, Option.map_some]
  exact ⟨_, pathSegment?_eq_some_iff.mpr ⟨found.tag, place, tagged, placed, rfl⟩⟩

/-- The last step of a path leads from the parent to the child and nowhere else. -/
theorem reached_pathSegment
    (linked : tree.Linked)
    (owned : tree.parent? id = some parent)
    (step : pathSegment? tree id = some segment) :
    Branch.reached tree [segment] parent = [id] := by
  obtain ⟨tag, place, tagged, placed, rfl⟩ := pathSegment?_eq_some_iff.mp step
  have listed : id ∈ tree.elementChildren parent :=
    List.mem_of_getElem? (Tree.getElem?_of_place? owned placed)
  have noDuplicates : (tree.elementChildren parent).Nodup :=
    (linked.nodup_children parent).filter _
  have only :
      ∀ child ∈ tree.elementChildren parent,
        (childAt tag place.position).accepts tree child = decide (child = id) := by
    intro child member
    have childOwned := linked.mem_children_iff.mp (List.mem_of_mem_filter member)
    rw [Bool.eq_iff_iff, accepts_childAt_iff, decide_eq_true_iff]
    constructor
    · rintro ⟨_, childPlace, childPlaced, same⟩
      exact Tree.eq_of_position_eq childOwned owned childPlaced placed same
    · rintro rfl
      exact ⟨tagged, place, placed, rfl⟩
  calc
    Branch.reached tree [childAt tag place.position] parent
    _ = (tree.elementChildren parent).filter ((childAt tag place.position).accepts tree) :=
      Branch.reached_singleton _ parent
    _ = (tree.elementChildren parent).filter (· = id) :=
      List.filter_congr only
    _ = [id] := by
      rw [List.filter_eq, List.count_eq_one_of_mem noDuplicates listed]
      rfl

end Steps

section Lines

variable {tree : Tree} {top : NodeId} {line : List NodeId}

/-- Nodes each of which has the next one as its parent, and the last one the node at the top. -/
def LinedUp (tree : Tree) (line : List NodeId) (top : NodeId) : Prop :=
  (line ++ [top]).IsChain fun lower upper => tree.parent? lower = some upper

/-- A longer line begins with a node whose parent is the next one. -/
theorem linedUp_cons_iff
    {id : NodeId} :
    LinedUp tree (id :: line) top ↔
      tree.parent? id = some (line.headD top) ∧ LinedUp tree line top := by
  cases line <;> simp [LinedUp]

/-- The ancestors of a node up to some node are lined up. -/
theorem linedUp_of_ancestors
    {id : NodeId}
    (ancestors : tree.ancestors id = line ++ [top]) :
    LinedUp tree (id :: line) top := by
  rw [LinedUp, List.cons_append, ← ancestors]
  exact Tree.isChain_chain tree.size id

/-- The segments for a line of elements, which is given from the lowest one upwards. -/
def pathBranch (tree : Tree) (line : List NodeId) : Branch :=
  (line.filterMap (pathSegment? tree)).reverse

/-- The segment of a node comes last in its path. -/
theorem pathBranch_cons
    {id : NodeId}
    {segment : Segment}
    (step : pathSegment? tree id = some segment) :
    pathBranch tree (id :: line) = pathBranch tree line ++ [segment] := by
  rw [pathBranch, List.filterMap_cons_some step, List.reverse_cons, pathBranch]

/-- The path of an element is not empty. -/
theorem pathBranch_ne_nil
    {id : NodeId}
    (linked : tree.Linked)
    (linedUp : LinedUp tree (id :: line) top)
    (element : tree.isElement id = true) :
    pathBranch tree (id :: line) ≠ [] := by
  obtain ⟨owned, _⟩ := linedUp_cons_iff.mp linedUp
  obtain ⟨segment, step⟩ := exists_pathSegment? linked owned element
  rw [pathBranch_cons step]
  exact List.append_ne_nil_of_right_ne_nil _ (List.cons_ne_nil _ _)

/-- A line of elements is what its segments lead to from the top, step by step. -/
theorem reached_pathBranch
    (linked : tree.Linked)
    (linedUp : LinedUp tree line top)
    (elements : ∀ id ∈ line, tree.isElement id = true) :
    Branch.reached tree (pathBranch tree line) top = [line.headD top] := by
  induction line with
  | nil =>
      rfl
  | cons id line inductionHypothesis =>
      -- The lowest element comes first in the line and is the last segment of the branch.
      obtain ⟨here, above⟩ := List.forall_mem_cons.mp elements
      obtain ⟨owned, rest⟩ := linedUp_cons_iff.mp linedUp
      obtain ⟨segment, step⟩ := exists_pathSegment? linked owned here
      rw [pathBranch_cons step, Branch.reached_append, inductionHypothesis rest above,
        List.flatMap_singleton, reached_pathSegment linked owned step]
      rfl

end Lines

section Text

/-- Segments under child combinators are printed with a glyph between any two of them. -/
theorem join_textAfterCombinator
    {first : Segment}
    {rest : Branch}
    (children : ∀ segment ∈ rest, segment.combinator = .child) :
    first.text ++ String.join (rest.map Segment.textAfterCombinator) =
      " > ".intercalate ((first :: rest).map Segment.text) := by
  induction rest generalizing first with
  | nil =>
      simp
  | cons second rest inductionHypothesis =>
      obtain ⟨here, later⟩ := List.forall_mem_cons.mp children
      have glyph : second.textAfterCombinator = " > " ++ second.text := by
        rw [Segment.textAfterCombinator, here]
        rfl
      calc
        first.text ++ String.join ((second :: rest).map Segment.textAfterCombinator)
        _ = first.text ++ " > " ++
            (second.text ++ String.join (rest.map Segment.textAfterCombinator)) := by
          rw [List.map_cons, String.join_cons, glyph]
          simp only [String.append_assoc]
        _ = first.text ++ " > " ++ " > ".intercalate ((second :: rest).map Segment.text) := by
          rw [inductionHypothesis later]
        _ = " > ".intercalate ((first :: second :: rest).map Segment.text) :=
          String.intercalate_cons_cons.symm

/-- Of the glyph before the first segment the blank is not printed. -/
theorem text_of_children
    {branch : Branch}
    (nonempty : branch ≠ [])
    (children : ∀ segment ∈ branch, segment.combinator = .child) :
    Branch.text branch = "> " ++ " > ".intercalate (branch.map Segment.text) := by
  obtain ⟨first, rest, rfl⟩ := List.exists_cons_of_ne_nil nonempty
  obtain ⟨here, later⟩ := List.forall_mem_cons.mp children
  have visible : first.combinator ≠ .descendant := by
    rw [here]
    decide
  rw [Branch.text, if_neg visible, Segment.textAfterCombinator, here, String.append_assoc,
    join_textAfterCombinator later, ← String.toList_inj, String.toList_ofList,
    String.toList_append, String.toList_append]
  rfl

variable {tree : Tree} {line : List NodeId}

/-- Every segment of a path is that of an element on the line. -/
theorem exists_of_mem_pathBranch
    {segment : Segment}
    (member : segment ∈ pathBranch tree line) :
    ∃ id ∈ line, ∃ tag position, tree.tag? id = some tag ∧ childAt tag position = segment := by
  rw [pathBranch, List.mem_reverse] at member
  obtain ⟨id, inLine, step⟩ := List.mem_filterMap.mp member
  obtain ⟨tag, place, tagged, _, rfl⟩ := pathSegment?_eq_some_iff.mp step
  exact ⟨id, inLine, tag, place.position, tagged, rfl⟩

/-- A path through canonical tags is canonical. -/
theorem canonical_pathBranch
    (nonempty : pathBranch tree line ≠ [])
    (tags :
      ∀ id ∈ line, ∀ tag, tree.tag? id = some tag → (TagTest.named tag).Canonical) :
    (pathBranch tree line).Canonical where
  nonempty := nonempty
  segments := by
    intro segment member
    obtain ⟨id, inLine, tag, position, tagged, rfl⟩ := exists_of_mem_pathBranch member
    exact canonical_childAt (tags id inLine tag tagged)

/-- There is no comma in a path through canonical tags. -/
theorem comma_not_mem_text_pathBranch
    (tags :
      ∀ id ∈ line, ∀ tag, tree.tag? id = some tag → (TagTest.named tag).Canonical) :
    ',' ∉ (Branch.text (pathBranch tree line)).toList := by
  intro comma
  obtain ⟨segment, member, inText⟩ := Branch.exists_segment_of_mem_text comma
  obtain ⟨id, inLine, tag, position, tagged, rfl⟩ := exists_of_mem_pathBranch member
  obtain ⟨_, inside⟩ := tags id inLine tag tagged
  exact comma_not_mem_childAt (fun inTag => absurd (inside _ inTag) (by decide)) inText

/-- A path is written from the top down, each step behind a child combinator. -/
theorem text_pathBranch_of_ne_nil
    (nonempty : pathBranch tree line ≠ []) :
    Branch.text (pathBranch tree line) =
      "> " ++ " > ".intercalate (line.filterMap (pathStep? tree)).reverse := by
  have children : ∀ segment ∈ pathBranch tree line, segment.combinator = .child := by
    intro segment member
    obtain ⟨_, _, _, _, _, rfl⟩ := exists_of_mem_pathBranch member
    rfl
  have steps :
      line.filterMap (pathStep? tree) = (line.filterMap (pathSegment? tree)).map Segment.text := by
    rw [List.map_filterMap]
    exact List.filterMap_congr fun id _ => pathStep?_eq_text id
  rw [text_of_children nonempty children, steps, pathBranch, List.map_reverse]

/-- The path of an element is the print of the segments of its line. -/
theorem text_pathBranch
    {element : NodeId}
    {uppers : List NodeId}
    (top : tree.parent? Tree.root = none)
    (ancestors : tree.ancestors element = uppers ++ [Tree.root])
    (nonempty : pathBranch tree (element :: uppers) ≠ []) :
    Branch.text (pathBranch tree (element :: uppers)) = "> " ++ elementPath tree element := by
  have rootStep : pathStep? tree Tree.root = none := by
    unfold pathStep? Tree.place?
    rw [top]
    cases tree.tag? Tree.root <;> rfl
  rw [text_pathBranch_of_ne_nil nonempty, elementPath, ancestors, ← List.cons_append,
    List.filterMap_append, List.filterMap_cons_none rootStep, List.filterMap_nil, List.append_nil]

end Text

/--
The path of an element, written as a way down from the document, selects that element and nothing
else. This holds for every element that has only elements with plain tags above it and the document
at the top.
-/
theorem select_elementPath
    (edits : List Tree.Edit)
    (folded : ∀ edit ∈ edits, edit.TagsIn IsFolded)
    (top : (Tree.built edits).parent? Tree.root = none)
    (element : NodeId)
    (uppers : List NodeId)
    (ancestors : (Tree.built edits).ancestors element = uppers ++ [Tree.root])
    (plain :
      ∀ id ∈ element :: uppers,
        ∃ tag,
          (Tree.built edits).tag? id = some tag ∧
            tag ≠ "" ∧ ∀ c ∈ tag.toList, c.isAlphanum = true) :
    select (Tree.built edits) Tree.root ("> " ++ elementPath (Tree.built edits) element) =
      .ok [element] := by
  have linked := Tree.linked_built edits
  have tagsFolded := Tree.tagsIn_built isFolded_lowercase edits folded
  -- From here on it does not matter how the tree came about.
  generalize Tree.built edits = tree at *
  have tags :
      ∀ id ∈ element :: uppers,
        ∀ tag, tree.tag? id = some tag → (TagTest.named tag).Canonical := by
    intro id member tag tagged
    obtain ⟨_, plainTagged, nonempty, alphanum⟩ := plain id member
    obtain rfl := Option.some.inj (tagged.symm.trans plainTagged)
    refine ⟨nonempty, fun c inTag => ?_⟩
    have notUpper := tagsFolded.of_tag? tagged c inTag
    simpa [notUpper] using isAlphanum_iff.mp (alphanum c inTag)
  have elements : ∀ id ∈ element :: uppers, tree.isElement id = true := by
    intro id member
    obtain ⟨tag, tagged, _⟩ := plain id member
    obtain ⟨found, here, _⟩ := Option.map_eq_some_iff.mp tagged
    rw [Tree.isElement, here, Option.isSome_some]
  have linedUp := linedUp_of_ancestors ancestors
  have reached := reached_pathBranch linked linedUp elements
  have nonempty := pathBranch_ne_nil linked linedUp (elements element List.mem_cons_self)
  have parsed :=
    Plan.parse_text (canonical_pathBranch nonempty tags) (comma_not_mem_text_pathBranch tags)
  rw [← text_pathBranch top ancestors nonempty, select_of_parse parsed, Plan.select_eq_eraseDups,
    List.flatMap_singleton, reached]
  simp [List.eraseDups_cons]

/-- A list with text and raw markup between its items, one of which holds an element of its own. -/
theorem select_elementPath_item :
    let edits : List Tree.Edit := [
      .addElement 0 "Ul" none [],
      .build 1 [.text "first", .element "li" none [] [], .raw "<!-- -->"],
      .addElement 1 "LI" (some "second") [],
      .add (.text "between"),
      .append 5 6,
      .add (.element (.named "B")),
      .append 5 7]
    (Tree.built edits).ancestors 7 = [5, 1, 0] ∧
      elementPath (Tree.built edits) 7 =
        "ul:nth-child(1) > li:nth-child(2) > b:nth-child(1)" ∧
      select (Tree.built edits) 0 ("> " ++ elementPath (Tree.built edits) 7) = .ok [7] := by
  intro edits
  have ancestors : (Tree.built edits).ancestors 7 = [5, 1] ++ [Tree.root] := by
    decide +kernel
  have top : (Tree.built edits).parent? Tree.root = none := by
    decide +kernel
  have path : elementPath (Tree.built edits) 7 =
      "ul:nth-child(1) > li:nth-child(2) > b:nth-child(1)" := by
    decide +kernel
  have folded : ∀ edit ∈ edits, edit.TagsIn IsFolded := by
    simp [edits, Tree.Edit.TagsIn, Tree.TagIn, Element.named, isFolded_lowercase]
  have plain :
      ∀ id ∈ [7, 5, 1],
        ∃ tag,
          (Tree.built edits).tag? id = some tag ∧
            tag ≠ "" ∧ ∀ c ∈ tag.toList, c.isAlphanum = true := by
    simp only [List.forall_mem_cons, List.not_mem_nil, false_implies, implies_true, and_true]
    refine ⟨⟨"b", ?_, by decide, ?_⟩, ⟨"li", ?_, by decide, ?_⟩, ⟨"ul", ?_, by decide, ?_⟩⟩
    · decide +kernel
    · exact List.all_eq_true.mp rfl
    · decide +kernel
    · exact List.all_eq_true.mp rfl
    · decide +kernel
    · exact List.all_eq_true.mp rfl
  exact ⟨ancestors, path, select_elementPath edits folded top 7 [5, 1] ancestors plain⟩

end MarkupQuery.Report
