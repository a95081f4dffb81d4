import MarkupQuery.Proofs.Selector.Reprinting

namespace MarkupQuery.Selector

/-!
# Printed plans as selectors

A selector is split at every comma, so what is printed of a plan must hold no comma but those
between its branches. Only attribute values and arguments are taken over from the selector as they
stand, and these come from one piece between two commas. So the printed branches of a plan, joined
again, have this plan.
-/

open MarkupQuery.Text

/-- The texts that a segment takes over as they are written: values and an argument. -/
def Segment.literals (segment : Segment) : List String :=
  segment.attributes.filterMap (fun test => test.comparison.map Prod.snd) ++
    (segment.pseudo.bind Pseudo.argument).toList

section Printed

theorem IsIdent.comma_not_mem
    {name : String}
    (ident : IsIdent name) :
    ',' ∉ name.toList :=
  fun member => absurd (ident.inside ',' member) (by decide)

theorem TagTest.Canonical.comma_not_mem
    {tag : TagTest}
    (canonical : tag.Canonical) :
    ',' ∉ tag.text.toList := by
  cases tag with
  | universal =>
      decide
  | named name =>
      exact fun member => absurd (canonical.2 ',' member) (by decide)

/-- A comma in a printed attribute test stands in its value. -/
theorem AttributeTest.Canonical.exists_value_of_comma
    {test : AttributeTest}
    (canonical : test.Canonical)
    (comma : ',' ∈ test.text.toList) :
    ∃ value, test.comparison.map Prod.snd = some value ∧ ',' ∈ value.toList := by
  have noName := canonical.name.comma_not_mem
  unfold AttributeTest.text at comma
  cases compares : test.comparison with
  | none =>
      simp [compares, noName] at comma
  | some comparison =>
      obtain ⟨operator, value⟩ := comparison
      have noSymbol : ',' ∉ operator.symbol.toList := by
        cases operator <;> decide
      have noQuote : ',' ∉ (quoteMark value).toList := by
        unfold quoteMark
        split_ifs <;> decide
      refine ⟨value, rfl, ?_⟩
      simpa [compares, noName, noSymbol, noQuote] using comma

/-- A comma in a printed pseudo-class stands in its argument. -/
theorem Pseudo.exists_argument_of_comma
    {pseudo : Pseudo}
    (comma : ',' ∈ pseudo.text.toList) :
    ∃ argument, pseudo.argument = some argument ∧ ',' ∈ argument.toList := by
  have noName : ',' ∉ pseudo.kind.name.toList := by
    cases pseudo.kind <;> decide
  unfold Pseudo.text at comma
  cases written : pseudo.argument with
  | none =>
      simp [written, noName] at comma
  | some argument =>
      exact ⟨argument, rfl, by simpa [written, noName] using comma⟩

/-- A comma in a printed segment stands in a text that it has taken over. -/
theorem Segment.Canonical.exists_literal_of_comma
    {segment : Segment}
    (canonical : segment.Canonical)
    (comma : ',' ∈ segment.textAfterCombinator.toList) :
    ∃ literal ∈ segment.literals, ',' ∈ literal.toList := by
  have noGlyph : ',' ∉ segment.combinator.glyph.toList := by
    cases segment.combinator <;> decide
  have noTag : ',' ∉ ((segment.tag.map TagTest.text).getD "").toList := by
    cases tests : segment.tag with
    | none =>
        simp
    | some tag =>
        exact (canonical.tag tag tests).comma_not_mem
  have noId : ',' ∉ ((segment.id.map fun id => "#" ++ id).getD "").toList := by
    cases tests : segment.id with
    | none =>
        simp
    | some id =>
        simpa using (canonical.id id tests).comma_not_mem
  have noClass :
      ',' ∉ (String.join (segment.classes.map fun className => "." ++ className)).toList := by
    simp only [String.toList_join, List.mem_flatMap, List.mem_map]
    rintro ⟨_, ⟨className, member, rfl⟩, comma⟩
    exact (canonical.classes className member).comma_not_mem (by simpa using comma)
  simp only [textAfterCombinator, Segment.text, String.toList_append, List.mem_append, noGlyph,
    noTag, noId, noClass, false_or] at comma
  rcases comma with inAttributes | inPseudo
  · simp only [String.toList_join, List.mem_flatMap, List.mem_map] at inAttributes
    obtain ⟨_, ⟨test, member, rfl⟩, inTest⟩ := inAttributes
    obtain ⟨value, compares, inValue⟩ :=
      (canonical.attributes test member).exists_value_of_comma inTest
    have listed :
        value ∈ segment.attributes.filterMap fun test => test.comparison.map Prod.snd :=
      List.mem_filterMap.mpr ⟨test, member, compares⟩
    exact ⟨value, List.mem_append_left _ listed, inValue⟩
  · cases tests : segment.pseudo with
    | none =>
        simp [tests] at inPseudo
    | some pseudo =>
        rw [tests] at inPseudo
        obtain ⟨argument, written, inArgument⟩ := pseudo.exists_argument_of_comma inPseudo
        exact ⟨argument, by simp [literals, tests, written], inArgument⟩

end Printed

section Written

variable {c : Char} {literal : String}

theorem WrittenAttribute.mem_text_of_value
    {test : WrittenAttribute}
    (compares : test.meaning.comparison.map Prod.snd = some literal)
    (member : c ∈ literal.toList) :
    c ∈ test.text := by
  cases written : test.comparison with
  | none =>
      simp [WrittenAttribute.meaning, written] at compares
  | some comparison =>
      obtain ⟨operator, value⟩ := comparison
      simp only [WrittenAttribute.meaning, written, Option.map_some, Option.some.injEq] at compares
      subst compares
      rw [String.toList_ofList] at member
      have inValue : c ∈ value.text := by
        cases value <;> simp_all [WrittenValue.content, WrittenValue.text]
      simp [WrittenAttribute.text, WrittenAttribute.comparisonText, written, inValue]

theorem WrittenPseudo.mem_text_of_argument
    {pseudo : WrittenPseudo}
    (argument : pseudo.meaning.argument = some literal)
    (member : c ∈ literal.toList) :
    c ∈ pseudo.text := by
  cases pseudo with
  | firstChild =>
      cases argument
  | lastChild =>
      cases argument
  | nthChild written closed =>
      cases argument
      rw [String.toList_ofList] at member
      simp [WrittenPseudo.text, (infix_trim _).subset member]

/-- What a segment takes over stands in its written form. -/
theorem WrittenSegment.mem_text_of_literal
    {segment : WrittenSegment}
    (takenOver : literal ∈ segment.meaning.literals)
    (member : c ∈ literal.toList) :
    c ∈ segment.text := by
  rw [WrittenSegment.text, List.mem_append]
  refine Or.inr ?_
  simp only [WrittenSimple.text, List.mem_append]
  rcases List.mem_append.mp takenOver with isValue | isArgument
  · obtain ⟨_, tests, compares⟩ := List.mem_filterMap.mp isValue
    obtain ⟨test, written, rfl⟩ := List.mem_map.mp tests
    have inTest := WrittenAttribute.mem_text_of_value compares member
    exact Or.inr (Or.inr (Or.inr (Or.inl (List.mem_flatMap.mpr ⟨test, written, inTest⟩))))
  · obtain ⟨_, last, argument⟩ := Option.bind_eq_some_iff.mp (Option.mem_toList.mp isArgument)
    obtain ⟨pseudo, written, rfl⟩ := List.mem_map.mp (List.mem_of_getLast? last)
    have inPseudo := WrittenPseudo.mem_text_of_argument argument member
    exact Or.inr (Or.inr (Or.inr (Or.inr (List.mem_flatMap.mpr ⟨pseudo, written, inPseudo⟩))))

theorem WrittenBranch.mem_text_of_literal
    {branch : WrittenBranch}
    {segment : Segment}
    (meant : segment ∈ branch.meaning)
    (takenOver : literal ∈ segment.literals)
    (member : c ∈ literal.toList) :
    c ∈ branch.text := by
  rw [WrittenBranch.text, WrittenTail.text]
  rcases List.mem_cons.mp meant with rfl | later
  · simp [WrittenSegment.mem_text_of_literal takenOver member]
  · obtain ⟨written, inRest, rfl⟩ := List.mem_map.mp later
    have inSegment := WrittenSegment.mem_text_of_literal takenOver member
    have inSegments := List.mem_flatMap.mpr ⟨written, inRest, inSegment⟩
    simp [inSegments]

end Written

/-- A branch that was read from a text without a comma is printed without one. -/
theorem comma_not_mem_text_of_parse
    {text : String}
    {branch : Branch}
    (parsed : Branch.parse text = .ok branch)
    (single : ',' ∉ text.toList) :
    ',' ∉ (Branch.text branch).toList := by
  obtain ⟨written, shape, rfl⟩ := exists_written_of_parse parsed
  intro comma
  obtain ⟨segment, meant, inSegment⟩ := Branch.exists_segment_of_mem_text comma
  have canonical := written.canonical_meaning.segments segment meant
  obtain ⟨literal, takenOver, inLiteral⟩ := canonical.exists_literal_of_comma inSegment
  exact single (shape ▸ WrittenBranch.mem_text_of_literal meant takenOver inLiteral)

section Splitting

/-- Blanks in front of a selector change none of its branches. -/
theorem branchTexts_of_leading_blanks
    {blanks : String}
    (blank : ∀ c ∈ blanks.toList, isBlank c = true)
    (selector : String) :
    branchTexts (blanks ++ selector) = branchTexts selector := by
  have pieces : ∀ text : List Char, (∀ c ∈ text, isBlank c = true) →
      ((text ++ selector.toList).splitOn ',').map trim =
        (selector.toList.splitOn ',').map trim := by
    intro text blank
    induction text with
    | nil =>
        rfl
    | cons c text inductionHypothesis =>
        obtain ⟨here, later⟩ := List.forall_mem_cons.mp blank
        have noComma : (c == ',') = false := by
          rw [beq_eq_false_iff_ne]
          rintro rfl
          exact absurd here (by decide)
        rw [← inductionHypothesis later, List.cons_append, List.splitOn_eq_splitOnP,
          List.splitOnP_cons_eq_if_modifyHead, List.splitOn_eq_splitOnP]
        obtain ⟨head, rest, shape⟩ := List.exists_cons_of_ne_nil
          (List.splitOnP_ne_nil (· == ',') (text ++ selector.toList))
        simp [noComma, shape, trim, trimStart, here]
  rw [branchTexts, branchTexts, String.toList_append, pieces blanks.toList blank]

/-- Texts that are branches each by itself, joined by commas, are the branches of the whole. -/
theorem branchTexts_intercalate
    {blanks : String}
    (blank : ∀ c ∈ blanks.toList, isBlank c = true)
    {texts : List String}
    (some : texts ≠ [])
    (each : ∀ text ∈ texts, branchTexts text = [text]) :
    branchTexts (("," ++ blanks).intercalate texts) = texts := by
  induction texts with
  | nil =>
      exact absurd rfl some
  | cons first rest inductionHypothesis =>
      obtain ⟨here, later⟩ := List.forall_mem_cons.mp each
      cases rest with
      | nil =>
          simpa using here
      | cons second rest =>
          have tail := inductionHypothesis (List.cons_ne_nil _ _) later
          have regrouped (others : String) :
              first ++ ("," ++ blanks) ++ others = first ++ "," ++ (blanks ++ others) := by
            simp only [String.append_assoc]
          rw [String.intercalate_cons_cons, regrouped, branchTexts_comma, here,
            branchTexts_of_leading_blanks blank, tail]
          rfl

end Splitting

namespace Plan

variable {selector : String} {plan : Plan}

/-- Each branch of a plan was read from a text without a comma. -/
theorem exists_text_of_mem
    (parsed : parse selector = .ok plan)
    {branch : Branch}
    (member : branch ∈ plan) :
    ∃ text : String, ',' ∉ text.toList ∧ Branch.parse text = .ok branch := by
  obtain ⟨text, isText, read⟩ := exists_branchText_of_mem parsed member
  exact ⟨text, comma_not_mem_of_mem_branchTexts isText, read⟩

/-- What is printed of a branch of a plan is a selector with this branch only. -/
theorem branchTexts_text_of_mem
    (parsed : parse selector = .ok plan)
    {branch : Branch}
    (member : branch ∈ plan) :
    Branch.parse (Branch.text branch) = .ok branch ∧
      branchTexts (Branch.text branch) = [Branch.text branch] := by
  obtain ⟨text, single, read⟩ := exists_text_of_mem parsed member
  have noComma := comma_not_mem_text_of_parse read single
  obtain ⟨written, _, rfl⟩ := exists_written_of_parse read
  have canonical := written.canonical_meaning
  exact ⟨canonical.parse_text,
    branchTexts_of_trimmed canonical.text_ne_empty noComma canonical.trimmed_text⟩

/-- The printed branches of a plan, joined by commas with or without blanks, have this plan. -/
theorem parse_intercalate_texts
    (parsed : parse selector = .ok plan)
    {blanks : String}
    (blank : ∀ c ∈ blanks.toList, isBlank c = true) :
    parse (("," ++ blanks).intercalate (plan.map Branch.text)) = .ok plan := by
  obtain ⟨branches, read⟩ := parse_eq_ok_iff.mp parsed
  have some : plan.map Branch.text ≠ [] := by
    have sameLength := (mapM_parse_eq_ok_iff.mp read).length_eq
    rw [ne_eq, List.map_eq_nil_iff]
    rintro rfl
    exact branches (List.length_eq_zero_iff.mp sameLength)
  have texts :
      branchTexts (("," ++ blanks).intercalate (plan.map Branch.text)) =
        plan.map Branch.text := by
    refine branchTexts_intercalate blank some fun text member => ?_
    obtain ⟨branch, inPlan, rfl⟩ := List.mem_map.mp member
    exact (branchTexts_text_of_mem parsed inPlan).2
  refine parse_eq_ok_iff.mpr ⟨by rwa [texts], ?_⟩
  rw [texts, mapM_parse_eq_ok_iff, List.forall₂_map_left_iff]
  exact List.forall₂_same.mpr fun branch member => (branchTexts_text_of_mem parsed member).1

end Plan

/--
A selector with a plan may be replaced by the printed branches of the plan, joined by a comma or by
a comma and a blank: they have the same plan, so in every tree and from every root they find the
same nodes and the same first node.
-/
theorem parse_printed_plan
    (selector : String)
    (plan : Plan)
    (parsed : Plan.parse selector = .ok plan) :
    ∀ separator ∈ [",", ", "],
      Plan.parse (separator.intercalate (plan.map Branch.text)) = .ok plan ∧
        ∀ (tree : Tree) (root : NodeId),
          select tree root (separator.intercalate (plan.map Branch.text)) =
              select tree root selector ∧
            selectFirst tree root (separator.intercalate (plan.map Branch.text)) =
              selectFirst tree root selector := by
  intro separator member
  obtain ⟨blanks, rfl, blank⟩ :
      ∃ blanks, separator = "," ++ blanks ∧ ∀ c ∈ blanks.toList, isBlank c = true := by
    rcases List.mem_pair.mp member with rfl | rfl
    · exact ⟨"", rfl, List.all_eq_true.mp rfl⟩
    · exact ⟨" ", rfl, List.all_eq_true.mp rfl⟩
  have reparsed := Plan.parse_intercalate_texts parsed blank
  refine ⟨reparsed, fun tree root => ⟨?_, ?_⟩⟩
  · rw [select, select, reparsed, parsed]
  · rw [selectFirst, selectFirst, reparsed, parsed]

/--
A selector with empty branches, an empty segment and blanks where they do not count, with a value
that holds both quotes, one with a blank at its end and an argument that accepts nothing.
-/
theorem parse_printed_plan_quotes :
    let selector := " UL[Title=x\"y'] >+ li:nth-child( 1 0 ) ,, ~ A[rel='next '] b , "
    let plan : Plan := [
      [
        { tag := some (.named "ul"), attributes := [⟨"title", some (.equals, "x\"y'")⟩] },
        { combinator := .adjacent, tag := some (.named "li"),
          pseudo := some ⟨.nthChild, some "1 0"⟩ }
      ],
      [
        { combinator := .sibling, tag := some (.named "a"),
          attributes := [⟨"rel", some (.equals, "next ")⟩] },
        { tag := some (.named "b") }
      ]
    ]
    Plan.parse selector = .ok plan ∧
      ", ".intercalate (plan.map Branch.text) =
        "ul[title=x\"y'] + li:nth-child(1 0), ~ a[rel=\"next \"] b" ∧
      Plan.parse (", ".intercalate (plan.map Branch.text)) = .ok plan := by
  intro selector plan
  have parsed : Plan.parse selector = .ok plan := by
    decide +kernel
  obtain ⟨reparsed, _⟩ := parse_printed_plan selector plan parsed ", " (by decide)
  exact ⟨parsed, by decide +kernel, reparsed⟩

end MarkupQuery.Selector
