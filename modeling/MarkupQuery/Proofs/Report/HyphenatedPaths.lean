import MarkupQuery.Proofs.Html.Imported
import MarkupQuery.Proofs.Html.Tags
import MarkupQuery.Proofs.Report.Paths
import MarkupQuery.Proofs.Selector.Refusals

namespace MarkupQuery

/-!
# Paths with a hyphen

The path of an element takes over the tags of all elements on the way down to it, while a selector
reads letters and digits as a tag. A tag with a hyphen, as those of custom elements are, is read up
to the hyphen and no further. So a path with such a tag in it leads nowhere: it is refused, and the
error says that reading stopped at a hyphen.
-/

open Html (isNameChar)
open Text
open MarkupQuery.Tree (root)

namespace Selector

section Reading

variable {front rest : List Char}

/-- Letters and digits are a tag as it is written, and no characters are none. -/
theorem exists_writtenTag
    {letters : List Char}
    (alphanum : ∀ c ∈ letters, c.isAlphanum = true) :
    ∃ tag : Option WrittenTag, (tag.map WrittenTag.text).getD [] = letters := by
  by_cases nothing : letters = []
  · exact ⟨none, nothing.symm⟩
  · exact ⟨some (.named ⟨letters, nothing, alphanum⟩), rfl⟩

/-- Of a tag with a hyphen the letters and digits before it are read. -/
theorem exists_readSegment_hyphen
    (combinator : Combinator)
    (alphanum : ∀ c ∈ front, c.isAlphanum = true)
    (rest : List Char) :
    ∃ read, readSegment combinator (front ++ '-' :: rest) = (read, '-' :: rest) := by
  obtain ⟨tag, rfl⟩ := exists_writtenTag alphanum
  have stops : Stops Char.isAlphanum ('-' :: rest) := stops_cons.mpr (by decide)
  have tagRead := tagTest_append tag stops (by simp)
  have noId : idTest ('-' :: rest) = (none, '-' :: rest) := by
    rw [idTest, signedIdent?_eq_none (by simp)]
  have noClasses : many (signedIdent? '.') ('-' :: rest) = ([], '-' :: rest) :=
    many_of_none (signedIdent?_eq_none (by simp))
  have noAttributes : many attributeTest? ('-' :: rest) = ([], '-' :: rest) :=
    many_of_none rfl
  have noPseudos : many pseudo? ('-' :: rest) = ([], '-' :: rest) :=
    many_of_none rfl
  rw [readSegment]
  simp only [tagRead, noId, noClasses, noAttributes, noPseudos]
  exact ⟨_, rfl⟩

theorem many_joinedSegment?_hyphen (rest : List Char) :
    many joinedSegment? ('-' :: rest) = ([], '-' :: rest) := by
  refine many_of_none ?_
  rw [joinedSegment?, combinator?_eq_none (stops_cons.mpr (by decide)), Option.map_none]

/-- Segments behind runs are read up to the hyphen in the tag behind the last run. -/
theorem many_joinedSegment?_tail_hyphen
    (tail : WrittenTail)
    (lastRun : tail.trailing ≠ [])
    (alphanum : ∀ c ∈ front, c.isAlphanum = true)
    (rest : List Char) :
    (many joinedSegment? (tail.text ++ (front ++ '-' :: rest))).2 = '-' :: rest := by
  have stops : Stops isRunChar (front ++ '-' :: rest) := by
    refine stops_append (stops_of_forall fun c member => ?_) (stops_cons.mpr (by decide))
    exact (not_blank_of_isAlphanum (alphanum c member)).1
  obtain ⟨read, segment⟩ :=
    exists_readSegment_hyphen (runCombinator tail.trailing) alphanum rest
  rw [many_joinedSegment?_tail_rest tail lastRun stops, segment, many_joinedSegment?_hyphen]

/-- A branch that begins with a run is refused for the first hyphen in a tag. -/
theorem Branch.parse_hyphen
    {branch : String}
    {tail : WrittenTail}
    (lastRun : tail.trailing ≠ [])
    (alphanum : ∀ c ∈ front, c.isAlphanum = true)
    (shape : branch.toList = tail.text ++ (front ++ '-' :: rest)) :
    Branch.parse branch =
      .error (.unparsed branch (String.ofList (tail.text ++ front)).utf8ByteSize
        (String.ofList ('-' :: rest))) := by
  have visible : isBlankText branch = false := by
    rw [isBlankText, List.all_eq_false]
    exact ⟨'-', by simp [shape], by decide⟩
  have stuck : (readSegments branch.toList).2 = '-' :: rest := by
    rw [shape, readSegments]
    simp only [leadingSegment_of_fromStage
      (tail.fromStage_text.append (List.append_ne_nil_of_right_ne_nil _ lastRun) _)]
    exact many_joinedSegment?_tail_hyphen tail lastRun alphanum rest
  have parts :
      branch = String.ofList (tail.text ++ front) ++ String.ofList ('-' :: rest) := by
    rw [← String.toList_inj, shape, String.toList_append, String.toList_ofList,
      String.toList_ofList, List.append_assoc]
  have offset :
      branch.utf8ByteSize - (String.ofList ('-' :: rest)).utf8ByteSize =
        (String.ofList (tail.text ++ front)).utf8ByteSize := by
    have size := congrArg String.utf8ByteSize parts
    rw [String.utf8ByteSize_append] at size
    omega
  exact parse_eq_unparsed_iff.mpr
    ⟨rfl, visible, by simp, by rw [stuck, String.toList_ofList], offset.symm⟩

end Reading

end Selector

namespace Report

open Selector

section Steps

variable {tag : String} {position : Nat} {segment : Segment}

/-- Whether a segment is a step of a path to an element whose tag has plain characters only. -/
def IsStep (segment : Segment) : Prop :=
  ∃ tag position, childAt tag position = segment ∧ ∀ c ∈ tag.toList, isNameChar c = true

/-- Whether a segment is a step to an element whose tag has a hyphen. -/
def IsHyphenated (segment : Segment) : Prop :=
  ∃ tag position, childAt tag position = segment ∧ '-' ∈ tag.toList

theorem tag_inj_of_childAt
    {other : String}
    {otherPosition : Nat}
    (same : childAt tag position = childAt other otherPosition) :
    tag = other := by
  simpa [childAt] using congrArg Segment.tag same

/-- Without a hyphen a step is written as it is to be read. -/
theorem exists_written_childAt
    (alphanum : ∀ c ∈ tag.toList, c.isAlphanum = true)
    (position : Nat) :
    ∃ simple : WrittenSimple,
      simple.text = (childAt tag position).text.toList ∧ simple.text ≠ [] := by
  obtain ⟨name, tagText⟩ := exists_writtenTag alphanum
  have closed : ')' ∉ (toString position).toList :=
    fun member => absurd (NthPosition.isDigit_of_mem_toString member) (by decide)
  let simple : WrittenSimple := {
    tag := name
    pseudos := [.nthChild (toString position).toList closed]
  }
  have text : simple.text = (childAt tag position).text.toList := by
    rw [text_childAt]
    simp [simple, WrittenSimple.text, WrittenSimple.tagText, WrittenSimple.idText,
      WrittenSimple.classesText, WrittenSimple.attributesText, WrittenSimple.pseudosText,
      WrittenPseudo.text, tagText]
  refine ⟨simple, text, ?_⟩
  rw [text, text_childAt]
  simp

theorem isAlphanum_of_isNameChar
    {c : Char}
    (plain : isNameChar c = true)
    (noHyphen : c ≠ '-') :
    c.isAlphanum = true := by
  rw [isAlphanum_iff]
  simpa [isNameChar, noHyphen] using Or.inr plain

/-- A tag with a hyphen is cut before the first one. -/
theorem exists_front_of_hyphen
    (plain : ∀ c ∈ tag.toList, isNameChar c = true)
    (hyphen : '-' ∈ tag.toList) :
    ∃ front rest,
      tag.toList = front ++ '-' :: rest ∧ ∀ c ∈ front, c.isAlphanum = true := by
  obtain ⟨front, rest, shape, first⟩ := List.eq_append_cons_of_mem hyphen
  refine ⟨front, rest, shape, fun c member => ?_⟩
  exact isAlphanum_of_isNameChar (plain c (by simp [shape, member])) fun same => first (same ▸ member)

/-- Texts with a mark between any two of them begin with the first one. -/
theorem exists_behind_intercalate
    (mark first : String)
    (later : List String) :
    ∃ behind, (mark.intercalate (first :: later)).toList = first.toList ++ behind := by
  cases later with
  | nil =>
      exact ⟨[], by simp⟩
  | cons second others =>
      exact ⟨_, by rw [String.intercalate_cons_cons, String.append_assoc, String.toList_append]⟩

/-- Where some of a path is written as it is to be read: runs, steps between them and a tag. -/
def StopsAtHyphen (text : List Char) : Prop :=
  ∃ (tail : WrittenTail) (front rest : List Char),
    tail.trailing ≠ [] ∧ (∀ c ∈ front, c.isAlphanum = true) ∧
      text = tail.text ++ (front ++ '-' :: rest)

variable {run : List Char} {later : Branch}

theorem stopsAtHyphen_of_first
    (runChars : ∀ c ∈ run, isRunChar c = true)
    (nonempty : run ≠ [])
    (plain : ∀ c ∈ tag.toList, isNameChar c = true)
    (hyphen : '-' ∈ tag.toList) :
    StopsAtHyphen
      (run ++ (" > ".intercalate ((childAt tag position :: later).map Segment.text)).toList) := by
  obtain ⟨front, rest, shape, alphanum⟩ := exists_front_of_hyphen plain hyphen
  obtain ⟨behind, begins⟩ :=
    exists_behind_intercalate " > " (childAt tag position).text (later.map Segment.text)
  refine ⟨.ofRun run runChars, front, rest ++ (":nth-child(" ++ toString position ++ ")").toList ++ behind,
    nonempty, alphanum, ?_⟩
  rw [List.map_cons, begins, text_childAt]
  simp [shape]

/-- Steps behind a run are written segments up to the first hyphen in a tag. -/
theorem stopsAtHyphen_of_isHyphenated
    {first : Segment}
    (runChars : ∀ c ∈ run, isRunChar c = true)
    (nonempty : run ≠ [])
    (steps : ∀ segment ∈ first :: later, IsStep segment)
    (hyphenated : ∃ segment ∈ first :: later, IsHyphenated segment) :
    StopsAtHyphen
      (run ++ (" > ".intercalate ((first :: later).map Segment.text)).toList) := by
  induction later generalizing first run with
  | nil =>
      obtain ⟨tag, position, rfl, plain⟩ := steps first List.mem_cons_self
      obtain ⟨segment, member, other, otherPosition, rfl, hyphen⟩ := hyphenated
      rw [tag_inj_of_childAt (List.mem_singleton.mp member)] at hyphen
      exact stopsAtHyphen_of_first runChars nonempty plain hyphen
  | cons second others inductionHypothesis =>
      obtain ⟨⟨tag, position, rfl, plain⟩, laterSteps⟩ := List.forall_mem_cons.mp steps
      by_cases hyphen : '-' ∈ tag.toList
      · exact stopsAtHyphen_of_first runChars nonempty plain hyphen
      · -- The first step is read as it is written, so that reading goes on behind it.
        have alphanum : ∀ c ∈ tag.toList, c.isAlphanum = true := fun c member =>
          isAlphanum_of_isNameChar (plain c member) fun same => hyphen (same ▸ member)
        obtain ⟨simple, text, notEmpty⟩ := exists_written_childAt alphanum position
        obtain ⟨segment, member, other, otherPosition, rfl, isHyphen⟩ := hyphenated
        have inLater : childAt other otherPosition ∈ second :: others := by
          rcases List.mem_cons.mp member with same | inLater
          · exact absurd (tag_inj_of_childAt same ▸ isHyphen) hyphen
          · exact inLater
        have stops :
            StopsAtHyphen
              (" > ".toList ++
                (" > ".intercalate ((second :: others).map Segment.text)).toList) :=
          inductionHypothesis (List.all_eq_true.mp rfl) (by decide) laterSteps
            ⟨_, inLater, other, otherPosition, rfl, isHyphen⟩
        obtain ⟨tail, front, rest, lastRun, frontAlphanum, shape⟩ := stops
        let step : WrittenSegment := ⟨run, runChars, simple, notEmpty⟩
        refine ⟨tail.cons step nonempty, front, rest, lastRun, frontAlphanum, ?_⟩
        rw [WrittenTail.text_cons, List.append_assoc, List.append_assoc, ← shape, text, List.map_cons,
          List.map_cons, String.intercalate_cons_cons, String.toList_append, String.toList_append,
          List.append_assoc]

end Steps

section Selectors

variable {tree : Tree} {line : List NodeId}

/-- A selector of one branch that stops at a hyphen is refused, and the error says where. -/
theorem exists_select_of_stopsAtHyphen
    {selector : String}
    (tree : Tree)
    (id : NodeId)
    (single : branchTexts selector = [selector])
    (stops : StopsAtHyphen selector.toList) :
    ∃ before rest,
      selector = before ++ "-" ++ rest ∧
        select tree id selector =
          .error (.inSelector selector
            (.unparsed selector before.utf8ByteSize ("-" ++ rest))) := by
  obtain ⟨tail, front, rest, lastRun, alphanum, shape⟩ := stops
  have refused := Branch.parse_hyphen lastRun alphanum shape
  have remains : String.ofList ('-' :: rest) = "-" ++ String.ofList rest := by
    rw [← String.toList_inj]
    simp
  refine ⟨String.ofList (tail.text ++ front), String.ofList rest, ?_, ?_⟩
  · rw [String.append_assoc, ← remains, ← String.toList_inj, shape]
    simp
  · refine select_of_refused ((Plan.parse_eq_error_iff (by simp [single])).mpr ⟨_, ?_, rfl⟩)
    rw [single, List.mapM_cons, refused, ← remains]
    rfl

theorem isStep_of_mem_pathBranch
    (plain :
      ∀ id ∈ line, ∀ tag, tree.tag? id = some tag → ∀ c ∈ tag.toList, isNameChar c = true)
    {segment : Segment}
    (member : segment ∈ pathBranch tree line) :
    IsStep segment := by
  obtain ⟨id, inLine, tag, position, tagged, rfl⟩ := exists_of_mem_pathBranch member
  exact ⟨tag, position, rfl, plain id inLine tag tagged⟩

theorem text_of_isStep
    {branch : Branch}
    (nonempty : branch ≠ [])
    (steps : ∀ segment ∈ branch, IsStep segment) :
    Branch.text branch = "> " ++ " > ".intercalate (branch.map Segment.text) := by
  refine text_of_children nonempty fun segment member => ?_
  obtain ⟨tag, position, rfl, _⟩ := steps segment member
  rfl

/-- The steps of a path, as they are printed, are a selector of one branch. -/
theorem branchTexts_of_isStep
    {branch : Branch}
    (nonempty : branch ≠ [])
    (steps : ∀ segment ∈ branch, IsStep segment) :
    branchTexts (Branch.text branch) = [Branch.text branch] := by
  have notEmpty : Branch.text branch ≠ "" := by
    rw [text_of_isStep nonempty steps]
    simp
  have noComma : ',' ∉ (Branch.text branch).toList := by
    intro comma
    obtain ⟨segment, member, inText⟩ := Branch.exists_segment_of_mem_text comma
    obtain ⟨tag, position, rfl, plain⟩ := steps segment member
    exact comma_not_mem_childAt (fun inTag => absurd (plain _ inTag) (by decide)) inText
  have visible :
      ∀ segment ∈ branch,
        segment.text.toList ≠ [] ∧ Stops isBlank segment.text.toList.reverse := by
    intro segment member
    obtain ⟨tag, position, rfl, plain⟩ := steps segment member
    rw [text_childAt, String.toList_append, List.reverse_append]
    exact ⟨by simp, stops_cons.mpr (by decide)⟩
  exact branchTexts_of_trimmed notEmpty noComma (Branch.trimmed_text visible)

theorem stopsAtHyphen_text
    {branch : Branch}
    (steps : ∀ segment ∈ branch, IsStep segment)
    (hyphenated : ∃ segment ∈ branch, IsHyphenated segment) :
    StopsAtHyphen (Branch.text branch).toList := by
  obtain ⟨segment, member, _⟩ := id hyphenated
  have nonempty : branch ≠ [] := List.ne_nil_of_mem member
  obtain ⟨first, later, rfl⟩ := List.exists_cons_of_ne_nil nonempty
  rw [text_of_isStep nonempty steps, String.toList_append]
  exact stopsAtHyphen_of_isHyphenated (List.all_eq_true.mp rfl) (by decide) steps hyphenated

end Selectors

section Imported

variable {markup : Html.Markup}

theorem exists_parent_of_tag?
    {id : Nat}
    {tag : String}
    (tagged : (Html.Import.ofMarkup markup).tree.tag? id = some tag) :
    ∃ parent, (Html.Import.ofMarkup markup).tree.parent? id = some parent := by
  have isDocument : (Html.Import.ofMarkup markup).tree.kind? root = some .document :=
    (Html.Import.laidOut_ofMarkup markup).1
  have notRoot : id ≠ root := by
    rintro rfl
    simp [Tree.tag?, Tree.element?, isDocument] at tagged
  cases found : (Html.Import.ofMarkup markup).tree.kind? id with
  | none =>
      simp [Tree.tag?, Tree.element?, found] at tagged
  | some kind =>
      exact Html.Import.exists_parent_of_kind? notRoot found

/--
The path of an element is refused as a selector if any tag on the way down to the element has a
hyphen and all of them are of lower-case letters, digits and hyphens. The error says that reading
stopped at a hyphen, and how far into the selector.
-/
theorem select_elementPath_hyphen
    (markup : Html.Markup)
    (element : NodeId) :
    let tree := (Html.Import.ofMarkup markup).tree
    (∀ id ∈ element :: tree.ancestors element, ∀ tag,
        tree.tag? id = some tag → ∀ c ∈ tag.toList, isNameChar c = true) →
      (∃ id ∈ element :: tree.ancestors element, ∃ tag,
        tree.tag? id = some tag ∧ '-' ∈ tag.toList) →
      ∃ before rest,
        "> " ++ elementPath tree element = before ++ "-" ++ rest ∧
          select tree root ("> " ++ elementPath tree element) =
            .error (.inSelector ("> " ++ elementPath tree element)
              (.unparsed ("> " ++ elementPath tree element) before.utf8ByteSize ("-" ++ rest))) := by
  intro tree plain hyphen
  have linked : tree.Linked := Html.Import.linked_ofMarkup markup
  obtain ⟨id, inLine, tag, tagged, inTag⟩ := hyphen
  obtain ⟨parent, owned⟩ := exists_parent_of_tag? tagged
  have isElement : tree.isElement id = true := by
    obtain ⟨found, here, _⟩ := Option.map_eq_some_iff.mp tagged
    rw [Tree.isElement, here, Option.isSome_some]
  obtain ⟨segment, step⟩ := exists_pathSegment? linked owned isElement
  have member : segment ∈ pathBranch tree (element :: tree.ancestors element) :=
    List.mem_reverse.mpr (List.mem_filterMap.mpr ⟨id, inLine, step⟩)
  have isHyphenated : IsHyphenated segment := by
    obtain ⟨stepTag, place, stepTagged, _, rfl⟩ := pathSegment?_eq_some_iff.mp step
    obtain rfl := Option.some.inj (stepTagged.symm.trans tagged)
    exact ⟨stepTag, place.position, rfl, inTag⟩
  have steps :
      ∀ segment ∈ pathBranch tree (element :: tree.ancestors element), IsStep segment :=
    fun segment member => isStep_of_mem_pathBranch plain member
  have nonempty := List.ne_nil_of_mem member
  have text := text_pathBranch_of_ne_nil nonempty
  rw [elementPath, ← text]
  exact exists_select_of_stopsAtHyphen tree root (branchTexts_of_isStep nonempty steps)
    (stopsAtHyphen_text steps ⟨segment, member, isHyphenated⟩)

/-- A list whose items hold custom elements, one of them behind another item. -/
theorem select_elementPath_hyphen_list :
    let tree := (Html.importFragment "<ul><li>a</li><li><my-item>b</my-item></li></ul>").tree
    tree.tag? 5 = some "my-item" ∧
      elementPath tree 5 = "ul:nth-child(1) > li:nth-child(2) > my-item:nth-child(1)" ∧
      ∃ before rest,
        "> " ++ elementPath tree 5 = before ++ "-" ++ rest ∧
          select tree root ("> " ++ elementPath tree 5) =
            .error (.inSelector ("> " ++ elementPath tree 5)
              (.unparsed ("> " ++ elementPath tree 5) before.utf8ByteSize ("-" ++ rest))) := by
  intro tree
  have tagged : tree.tag? 5 = some "my-item" := by
    decide +kernel
  have plain :
      ∀ id ∈ 5 :: tree.ancestors 5, ∀ tag,
        tree.tag? id = some tag → ∀ c ∈ tag.toList, isNameChar c = true := by
    have each :
        ∀ id ∈ 5 :: tree.ancestors 5,
          ((tree.tag? id).all fun tag => tag.toList.all isNameChar) = true := by
      decide +kernel
    intro id member tag isTag
    have allChars := each id member
    rw [isTag] at allChars
    exact List.all_eq_true.mp allChars
  exact ⟨tagged, by decide +kernel,
    select_elementPath_hyphen (Html.readFragment _) 5 plain
      ⟨5, List.mem_cons_self, "my-item", tagged, by decide⟩⟩

/-- The path of a custom element does not lead to it. -/
theorem select_elementPath_custom :
    let tree := (Html.importFragment "<my-item>x</my-item>").tree
    tree.tag? 1 = some "my-item" ∧
      "> " ++ elementPath tree 1 = "> my-item:nth-child(1)" ∧
      select tree root "> my-item:nth-child(1)" =
        .error (.inSelector "> my-item:nth-child(1)"
          (.unparsed "> my-item:nth-child(1)" 4 "-item:nth-child(1)")) := by
  decide +kernel

end Imported

end Report

end MarkupQuery
