import MarkupQuery.Proofs.Selector.Lists
import MarkupQuery.Proofs.Selector.Printing

namespace MarkupQuery.Selector

/-!
# Printed branches as selectors

A printed branch neither begins nor ends with a blank. So, unless a comma stands in it, a selector
that consists of it has no other branch, and the plan of this selector is what was printed.
-/

open MarkupQuery.Text

section Ends

/-- No character of an identifier is blank. -/
theorem not_isBlank_of_isIdentChar
    {c : Char}
    (ident : isIdentChar c = true) :
    isBlank c = false := by
  simp only [isIdentChar, Bool.or_eq_true, beq_iff_eq] at ident
  rcases ident with (alphanum | rfl) | rfl
  · exact not_isBlank_of_isAlphanum alphanum
  · decide
  · decide

theorem WrittenTag.stops_reverse_text (tag : WrittenTag) :
    Stops isBlank tag.text.reverse := by
  cases tag with
  | universal =>
      exact stops_cons.mpr (by decide)
  | named name =>
      refine stops_of_forall fun c member => ?_
      exact not_isBlank_of_isAlphanum (name.inside c (List.mem_reverse.mp member))

/-- An identifier behind a sign does not end with a blank. -/
theorem stops_reverse_signed
    {sign : Char}
    (visible : isBlank sign = false)
    (name : WrittenIdent) :
    Stops isBlank (sign :: name.letters).reverse := by
  refine stops_of_forall fun c member => ?_
  rcases List.mem_cons.mp (List.mem_reverse.mp member) with here | later
  · exact here ▸ visible
  · exact not_isBlank_of_isIdentChar (name.inside c later)

theorem WrittenAttribute.stops_reverse_text (test : WrittenAttribute) :
    Stops isBlank test.text.reverse := by
  rw [WrittenAttribute.text, List.reverse_append]
  exact stops_cons.mpr (by decide)

theorem WrittenPseudo.stops_reverse_text (pseudo : WrittenPseudo) :
    Stops isBlank pseudo.text.reverse := by
  cases pseudo with
  | firstChild =>
      exact stops_cons.mpr (by decide)
  | lastChild =>
      exact stops_cons.mpr (by decide)
  | nthChild argument closed =>
      rw [WrittenPseudo.text, List.reverse_append]
      exact stops_cons.mpr (by decide)

/-- Tests end with a visible character, whichever of them comes last. -/
theorem WrittenSimple.stops_reverse_text (simple : WrittenSimple) :
    Stops isBlank simple.text.reverse := by
  have tag : Stops isBlank simple.tagText.reverse := by
    unfold WrittenSimple.tagText
    cases simple.tag with
    | none =>
        exact stops_nil
    | some tag =>
        exact tag.stops_reverse_text
  have id : Stops isBlank simple.idText.reverse := by
    unfold WrittenSimple.idText
    cases simple.id with
    | none =>
        exact stops_nil
    | some id =>
        exact stops_reverse_signed (by decide) id
  have classes : Stops isBlank simple.classesText.reverse :=
    stops_reverse_flatMap fun className _ => stops_reverse_signed (by decide) className
  have attributes : Stops isBlank simple.attributesText.reverse :=
    stops_reverse_flatMap fun test _ => test.stops_reverse_text
  have pseudos : Stops isBlank simple.pseudosText.reverse :=
    stops_reverse_flatMap fun pseudo _ => pseudo.stops_reverse_text
  simp only [WrittenSimple.text, List.reverse_append]
  exact stops_append (stops_append (stops_append (stops_append pseudos attributes) classes) id) tag

/-- A canonical segment is printed with a visible character at its end. -/
theorem Segment.Canonical.stops_reverse_text
    {segment : Segment}
    (canonical : segment.Canonical) :
    Stops isBlank segment.text.toList.reverse := by
  obtain ⟨simple, text, _⟩ := canonical.exists_written
  rw [← text]
  exact simple.stops_reverse_text

/-- A canonical segment has a text. -/
theorem Segment.Canonical.text_ne_nil
    {segment : Segment}
    (canonical : segment.Canonical) :
    segment.text.toList ≠ [] := by
  obtain ⟨simple, text, nonempty, _⟩ := canonical.exists_written
  rw [← text]
  exact nonempty

/-- The combinator stands in front of the tests and not at the end. -/
theorem Segment.stops_reverse_textAfterCombinator
    {segment : Segment}
    (nonempty : segment.text.toList ≠ [])
    (ends : Stops isBlank segment.text.toList.reverse) :
    Stops isBlank segment.textAfterCombinator.toList.reverse := by
  have reversed : segment.text.toList.reverse ≠ [] :=
    fun nothing => nonempty (List.reverse_eq_nil_iff.mp nothing)
  rw [textAfterCombinator, String.toList_append, List.reverse_append,
    stops_append_of_ne_nil reversed]
  exact ends

end Ends

section Text

variable {branch : Branch}

/-- A branch is printed with visible characters at both ends if its segments end with them. -/
theorem Branch.trimmed_text
    (visible :
      ∀ segment ∈ branch,
        segment.text.toList ≠ [] ∧ Stops isBlank segment.text.toList.reverse) :
    Trimmed (Branch.text branch).toList := by
  cases branch with
  | nil =>
      exact ⟨stops_nil, stops_nil⟩
  | cons first rest =>
      obtain ⟨⟨nonempty, ends⟩, later⟩ := List.forall_mem_cons.mp visible
      rw [Branch.text, String.toList_ofList]
      refine ⟨stops_dropWhile _, stops_reverse_trimStart ?_⟩
      rw [String.toList_append, List.reverse_append, String.toList_join, List.flatMap_map]
      refine stops_append (stops_reverse_flatMap fun segment member => ?_) ?_
      · obtain ⟨segmentNonempty, segmentEnds⟩ := later segment member
        exact Segment.stops_reverse_textAfterCombinator segmentNonempty segmentEnds
      · split
        · exact ends
        · exact Segment.stops_reverse_textAfterCombinator nonempty ends

/-- A canonical branch is printed without blanks at its ends. -/
theorem Branch.Canonical.trimmed_text (canonical : branch.Canonical) :
    Trimmed (Branch.text branch).toList :=
  Branch.trimmed_text fun segment member =>
    ⟨(canonical.segments segment member).text_ne_nil,
      (canonical.segments segment member).stops_reverse_text⟩

/-- Every character of a printed branch belongs to the print of some segment. -/
theorem Branch.exists_segment_of_mem_text
    {c : Char}
    (member : c ∈ (Branch.text branch).toList) :
    ∃ segment ∈ branch, c ∈ segment.textAfterCombinator.toList := by
  cases branch with
  | nil =>
      simp [Branch.text] at member
  | cons first rest =>
      rw [Branch.text, String.toList_ofList] at member
      have inWhole := (List.dropWhile_sublist isBlank).subset member
      rw [String.toList_append, String.toList_join, List.flatMap_map, List.mem_append,
        List.mem_flatMap] at inWhole
      rcases inWhole with inFirst | ⟨segment, inRest, inText⟩
      · refine ⟨first, List.mem_cons_self, ?_⟩
        rw [Segment.textAfterCombinator, String.toList_append, List.mem_append]
        split at inFirst
        · exact Or.inr inFirst
        · simpa [Segment.textAfterCombinator] using inFirst
      · exact ⟨segment, List.mem_cons_of_mem _ inRest, inText⟩

/-- A canonical branch is read back from its text. -/
theorem Branch.Canonical.parse_text (canonical : branch.Canonical) :
    Branch.parse (Branch.text branch) = .ok branch := by
  obtain ⟨written, shape, meaning⟩ := canonical.exists_written
  rw [parse_written shape, meaning]

theorem Branch.Canonical.text_ne_empty (canonical : branch.Canonical) :
    Branch.text branch ≠ "" := by
  intro nothing
  have parsed := canonical.parse_text
  rw [nothing] at parsed
  cases parsed

/-- A trimmed text without a comma is the only branch of itself. -/
theorem branchTexts_of_trimmed
    {text : String}
    (nonempty : text ≠ "")
    (single : ',' ∉ text.toList)
    (trimmed : Trimmed text.toList) :
    branchTexts text = [text] := by
  rw [branchTexts, List.splitOn_eq_singleton single, List.map_singleton, trim_eq_self trimmed]
  simp [nonempty]

/-- A printed branch without a comma is a selector that asks for this branch. -/
theorem Plan.parse_text
    (canonical : branch.Canonical)
    (single : ',' ∉ (Branch.text branch).toList) :
    Plan.parse (Branch.text branch) = .ok [branch] := by
  have texts := branchTexts_of_trimmed canonical.text_ne_empty single canonical.trimmed_text
  refine parse_eq_ok_iff.mpr ⟨by simp [texts], ?_⟩
  rw [texts, List.mapM_cons, canonical.parse_text]
  rfl

end Text

end MarkupQuery.Selector
