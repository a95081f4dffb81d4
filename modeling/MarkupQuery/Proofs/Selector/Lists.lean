import Mathlib.Data.List.Forall2
import MarkupQuery.Proofs.Selector.Found
import MarkupQuery.Proofs.Text.Folding
import MarkupQuery.Selector.Engine
import MarkupQuery.Tree.Edit

namespace MarkupQuery.Selector

/-!
# Selectors joined by a comma

A comma separates branches wherever it stands, between quotes or brackets too. So the branches of
two selectors with a comma between them are those of the first and then those of the second. From
this follows what the joined selector finds, and which of the two is to blame when it is refused.
-/

open MarkupQuery.Text

/-- The same error, said of another selector. -/
def SelectorError.about (selector : String) : SelectorError → SelectorError
  | .empty _ => .empty selector
  | .inSelector _ cause => .inSelector selector cause
  | error => error

/-- A comma puts the branches of two selectors behind one another. -/
theorem branchTexts_comma (first second : String) :
    branchTexts (first ++ "," ++ second) = branchTexts first ++ branchTexts second := by
  have pieces :
      (first ++ "," ++ second).toList.splitOn ',' =
        first.toList.splitOn ',' ++ second.toList.splitOn ',' := by
    rw [String.toList_append, String.toList_append, List.append_assoc]
    exact List.splitOnP_append_cons first.toList second.toList (by decide)
  rw [branchTexts, pieces, List.map_append, List.filterMap_append]
  rfl

section Pieces

/-- What a list is split at is in none of the pieces. -/
theorem not_mem_of_mem_splitOn
    {α : Type}
    [BEq α]
    [LawfulBEq α]
    {separator : α}
    {items piece : List α}
    (member : piece ∈ items.splitOn separator) :
    separator ∉ piece := by
  rw [List.splitOn_eq_splitOnP] at member
  induction items generalizing piece with
  | nil =>
      rw [List.splitOnP_nil, List.mem_singleton] at member
      exact member ▸ List.not_mem_nil
  | cons item items inductionHypothesis =>
      rw [List.splitOnP_cons_eq_if_modifyHead] at member
      obtain ⟨head, pieces, shape⟩ :=
        List.exists_cons_of_ne_nil (List.splitOnP_ne_nil (· == separator) items)
      rw [shape] at inductionHypothesis member
      split at member
      · rcases List.mem_cons.mp member with rfl | later
        · exact List.not_mem_nil
        · exact inductionHypothesis later
      · next different =>
          rcases List.mem_cons.mp member with rfl | later
          · rw [List.mem_cons, not_or]
            refine ⟨?_, inductionHypothesis List.mem_cons_self⟩
            rintro rfl
            exact different (beq_self_eq_true separator)
          · exact inductionHypothesis (List.mem_cons_of_mem _ later)

/-- Each of the pieces of a list stands in the list. -/
theorem infix_of_mem_splitOn
    {α : Type}
    [BEq α]
    [LawfulBEq α]
    {separator : α}
    {items piece : List α}
    (member : piece ∈ items.splitOn separator) :
    piece <:+: items := by
  have joined (pieces : List (List α)) (inPieces : piece ∈ pieces) :
      piece <:+: [separator].intercalate pieces := by
    induction pieces with
    | nil =>
        cases inPieces
    | cons first rest inductionHypothesis =>
        cases rest with
        | nil =>
            simp_all
        | cons second rest =>
            rw [List.intercalate_cons_cons]
            rcases List.mem_cons.mp inPieces with rfl | later
            · exact List.infix_append_of_infix_left (List.prefix_append _ _).isInfix
            · exact (inductionHypothesis later).trans (List.suffix_append _ _).isInfix
  have rejoined : [separator].intercalate (items.splitOn separator) = items :=
    List.intercalate_splitOn separator
  exact rejoined ▸ joined _ member

variable {selector text : String}

/-- The branches of a selector are its pieces between commas, trimmed, but for the empty ones. -/
theorem branchTexts_eq :
    branchTexts selector =
      (((selector.toList.splitOn ',').map trim).filter fun piece => piece ≠ []).map
        String.ofList := by
  rw [branchTexts, ← List.filterMap_eq_map (f := String.ofList), List.filterMap_filter]
  refine List.filterMap_congr fun piece _ => ?_
  cases piece with
  | nil =>
      rfl
  | cons c rest =>
      rfl

/-- A text is a branch of a selector if it is what is left of a trimmed piece. -/
theorem mem_branchTexts_iff :
    text ∈ branchTexts selector ↔
      text ≠ "" ∧ ∃ piece ∈ selector.toList.splitOn ',', trim piece = text.toList := by
  simp only [branchTexts, List.mem_filterMap, List.mem_map]
  constructor
  · rintro ⟨_, ⟨piece, isPiece, rfl⟩, kept⟩
    split at kept
    · cases kept
    · next visible =>
        cases kept
        exact ⟨by simpa using visible, piece, isPiece, String.toList_ofList.symm⟩
  · rintro ⟨nonempty, piece, isPiece, same⟩
    refine ⟨_, ⟨piece, isPiece, rfl⟩, ?_⟩
    simp [same, nonempty]

/-- There is no branch if there are only blanks between the commas. -/
theorem branchTexts_eq_nil_iff :
    branchTexts selector = [] ↔ ∀ piece ∈ selector.toList.splitOn ',', trim piece = [] := by
  simp [branchTexts, List.filterMap_eq_nil_iff]

/-- No branch of a selector holds a comma. -/
theorem comma_not_mem_of_mem_branchTexts
    (member : text ∈ branchTexts selector) :
    ',' ∉ text.toList := by
  obtain ⟨_, piece, isPiece, same⟩ := mem_branchTexts_iff.mp member
  rw [← same]
  exact fun comma => not_mem_of_mem_splitOn isPiece ((infix_trim piece).subset comma)

/-- Each branch of a selector stands in it, without blanks at its ends. -/
theorem trimmed_of_mem_branchTexts
    (member : text ∈ branchTexts selector) :
    trim text.toList = text.toList := by
  obtain ⟨_, piece, _, same⟩ := mem_branchTexts_iff.mp member
  rw [← same]
  exact trim_eq_self (trimmed_trim piece)

/-- Each branch of a selector stands somewhere in it. -/
theorem infix_of_mem_branchTexts
    (member : text ∈ branchTexts selector) :
    text.toList <:+: selector.toList := by
  obtain ⟨_, piece, isPiece, same⟩ := mem_branchTexts_iff.mp member
  rw [← same]
  exact (infix_trim piece).trans (infix_of_mem_splitOn isPiece)

end Pieces

/-- Branches are read one by one, and all of them if none is refused. -/
theorem mapM_parse_eq_ok_iff
    {texts : List String}
    {plan : Plan} :
    texts.mapM Branch.parse = .ok plan ↔
      List.Forall₂ (fun text branch => Branch.parse text = .ok branch) texts plan := by
  induction texts generalizing plan with
  | nil =>
      simp [pure, Except.pure, eq_comm]
  | cons text texts inductionHypothesis =>
      rw [List.mapM_cons, List.forall₂_cons_left_iff]
      simp only [← inductionHypothesis]
      cases read : Branch.parse text with
      | error failure =>
          simp [bind, Except.bind]
      | ok branch =>
          cases others : texts.mapM Branch.parse with
          | error failure =>
              simp [bind, Except.bind]
          | ok branches =>
              simp [bind, Except.bind, pure, Except.pure, eq_comm (b := plan)]

namespace Plan

/-- A selector without a branch is refused as empty. -/
theorem parse_of_no_branch
    {selector : String}
    (blank : branchTexts selector = []) :
    parse selector = .error (.empty selector) := by
  rw [parse, blank]

/-- A selector with branches is read branch by branch. -/
theorem parse_of_branches
    {selector : String}
    (branches : branchTexts selector ≠ []) :
    parse selector =
      ((branchTexts selector).mapM Branch.parse).mapError (.inSelector selector) := by
  unfold parse
  split
  · next blank =>
      exact absurd blank branches
  · rfl

/-- A selector has a plan if it has branches and none of them is refused. -/
theorem parse_eq_ok_iff
    {selector : String}
    {plan : Plan} :
    parse selector = .ok plan ↔
      branchTexts selector ≠ [] ∧ (branchTexts selector).mapM Branch.parse = .ok plan := by
  by_cases blank : branchTexts selector = []
  · simp [parse_of_no_branch blank, blank]
  · rw [parse_of_branches blank]
    cases (branchTexts selector).mapM Branch.parse <;> simp [Except.mapError, blank]

/-- Each branch of a plan was read off a branch of the selector. -/
theorem exists_branchText_of_mem
    {selector : String}
    {plan : Plan}
    (parsed : parse selector = .ok plan)
    {branch : Branch}
    (member : branch ∈ plan) :
    ∃ text ∈ branchTexts selector, Branch.parse text = .ok branch := by
  obtain ⟨_, read⟩ := parse_eq_ok_iff.mp parsed
  have readInTurn := mapM_parse_eq_ok_iff.mp read
  obtain ⟨index, inside, rfl⟩ := List.getElem_of_mem member
  have bound : index < (branchTexts selector).length :=
    readInTurn.length_eq.symm ▸ inside
  exact ⟨_, List.getElem_mem bound, readInTurn.get bound inside⟩

/-- A selector with branches is refused for the first of them that is. -/
theorem parse_eq_error_iff
    {selector : String}
    {failure : SelectorError}
    (branches : branchTexts selector ≠ []) :
    parse selector = .error failure ↔
      ∃ cause,
        (branchTexts selector).mapM Branch.parse = .error cause ∧
          failure = .inSelector selector cause := by
  rw [parse_of_branches branches]
  cases (branchTexts selector).mapM Branch.parse <;> simp [Except.mapError, eq_comm]

section Comma

variable {first second : String} {failure : SelectorError}

/-- With a comma between two selectors the branches of the first are read first. -/
theorem mapM_parse_comma :
    (branchTexts (first ++ "," ++ second)).mapM Branch.parse = do
      let firstPlan ← (branchTexts first).mapM Branch.parse
      let secondPlan ← (branchTexts second).mapM Branch.parse
      return firstPlan ++ secondPlan := by
  rw [branchTexts_comma, List.mapM_append]

/-- With a comma between them two selectors have a branch if one of them has. -/
theorem branchTexts_comma_ne_nil
    (branches : branchTexts first ≠ [] ∨ branchTexts second ≠ []) :
    branchTexts (first ++ "," ++ second) ≠ [] := by
  rw [branchTexts_comma]
  simpa [or_iff_not_imp_left] using branches

/-- Two plans that are joined by a comma are one plan behind the other. -/
theorem parse_comma
    {firstPlan secondPlan : Plan}
    (firstParsed : parse first = .ok firstPlan)
    (secondParsed : parse second = .ok secondPlan) :
    parse (first ++ "," ++ second) = .ok (firstPlan ++ secondPlan) := by
  obtain ⟨branches, firstRead⟩ := parse_eq_ok_iff.mp firstParsed
  obtain ⟨_, secondRead⟩ := parse_eq_ok_iff.mp secondParsed
  refine parse_eq_ok_iff.mpr ⟨branchTexts_comma_ne_nil (Or.inl branches), ?_⟩
  rw [mapM_parse_comma, firstRead, secondRead]
  rfl

/-- A part without branches does not count; the error names the whole selector. -/
theorem parse_comma_of_no_first
    (blank : branchTexts first = []) :
    parse (first ++ "," ++ second) =
      (parse second).mapError (SelectorError.about (first ++ "," ++ second)) := by
  have texts : branchTexts (first ++ "," ++ second) = branchTexts second := by
    rw [branchTexts_comma, blank, List.nil_append]
  by_cases secondBlank : branchTexts second = []
  · rw [parse_of_no_branch secondBlank, parse_of_no_branch (texts.trans secondBlank)]
    rfl
  · rw [parse_of_branches secondBlank, parse_of_branches (texts ▸ secondBlank), texts]
    cases (branchTexts second).mapM Branch.parse <;> rfl

/-- A comma with nothing but blanks behind it changes nothing. -/
theorem parse_comma_of_no_second
    {plan : Plan}
    (parsed : parse first = .ok plan)
    (blank : branchTexts second = []) :
    parse (first ++ "," ++ second) = .ok plan := by
  rw [parse_eq_ok_iff, branchTexts_comma, blank, List.append_nil]
  exact parse_eq_ok_iff.mp parsed

/-- If the first selector is to blame for a refusal, it is so in front of a comma. -/
theorem parse_comma_of_first_refused
    (branches : branchTexts first ≠ [])
    (refused : parse first = .error failure) :
    parse (first ++ "," ++ second) = .error (failure.about (first ++ "," ++ second)) := by
  obtain ⟨cause, read, rfl⟩ := (parse_eq_error_iff branches).mp refused
  refine (parse_eq_error_iff (branchTexts_comma_ne_nil (Or.inl branches))).mpr ⟨cause, ?_, rfl⟩
  rw [mapM_parse_comma, read]
  rfl

/-- If the second selector is to blame for a refusal, it is so behind a comma. -/
theorem parse_comma_of_second_refused
    {plan : Plan}
    (parsed : parse first = .ok plan)
    (branches : branchTexts second ≠ [])
    (refused : parse second = .error failure) :
    parse (first ++ "," ++ second) = .error (failure.about (first ++ "," ++ second)) := by
  obtain ⟨_, firstRead⟩ := parse_eq_ok_iff.mp parsed
  obtain ⟨cause, secondRead, rfl⟩ := (parse_eq_error_iff branches).mp refused
  refine (parse_eq_error_iff (branchTexts_comma_ne_nil (Or.inr branches))).mpr ⟨cause, ?_, rfl⟩
  rw [mapM_parse_comma, firstRead, secondRead]
  rfl

end Comma

/-- The branches of a second plan add what those of a first have not found. -/
theorem select_append
    (tree : Tree)
    (root : NodeId)
    (first second : Plan) :
    Plan.select (first ++ second) tree root =
      first.select tree root ++
        (second.select tree root).filter (· ∉ first.select tree root) := by
  simp only [select_eq_eraseDups, List.flatMap_append, List.eraseDups_append, List.removeAll,
    eraseDups_filter, List.elem_eq_mem, List.mem_eraseDups, decide_not]

end Plan

section Select

variable {tree : Tree} {root : NodeId} {selector : String}

/-- What is selected is what the plan finds. -/
theorem select_of_parse
    {plan : Plan}
    (parsed : Plan.parse selector = .ok plan) :
    select tree root selector = .ok (plan.select tree root) := by
  rw [select, parsed]
  rfl

/-- A selector that cannot be read selects nothing but the error. -/
theorem select_of_refused
    {failure : SelectorError}
    (refused : Plan.parse selector = .error failure) :
    select tree root selector = .error failure := by
  rw [select, refused]
  rfl

/-- What is selected was found by a plan. -/
theorem exists_plan_of_select
    {found : List NodeId}
    (selected : select tree root selector = .ok found) :
    ∃ plan, Plan.parse selector = .ok plan ∧ plan.select tree root = found := by
  cases parsed : Plan.parse selector with
  | error failure =>
      rw [select_of_refused parsed] at selected
      cases selected
  | ok plan =>
      rw [select_of_parse parsed] at selected
      exact ⟨plan, rfl, Except.ok.inj selected⟩

/-- Selecting fails for no other reason than that the selector cannot be read. -/
theorem parse_of_select_refused
    {failure : SelectorError}
    (refused : select tree root selector = .error failure) :
    Plan.parse selector = .error failure := by
  cases parsed : Plan.parse selector with
  | error other =>
      rw [select_of_refused parsed] at refused
      exact congrArg Except.error (Except.error.inj refused)
  | ok plan =>
      rw [select_of_parse parsed] at refused
      cases refused

end Select

/-- A branch that is refused is the root cause, whatever the selector it stands in. -/
theorem rootCause_about
    {selector other : String}
    {failure : SelectorError}
    (branches : branchTexts selector ≠ [])
    (refused : Plan.parse selector = .error failure) :
    (failure.about other).rootCause = failure.rootCause := by
  obtain ⟨cause, _, rfl⟩ := (Plan.parse_eq_error_iff branches).mp refused
  rfl

/--
Two selectors joined by a comma find what the first finds and then what only the second finds. A
side without a branch does not count. If the first has a branch that is refused, or else the second
has one, the joined selector is refused for that branch and finds nothing.
-/
theorem select_comma
    (tree : Tree)
    (root : NodeId)
    (first second : String) :
    (∀ firstFound secondFound,
        select tree root first = .ok firstFound →
          select tree root second = .ok secondFound →
            select tree root (first ++ "," ++ second) =
              .ok (firstFound ++ secondFound.filter (· ∉ firstFound))) ∧
      (branchTexts first = [] →
        select tree root (first ++ "," ++ second) =
          (select tree root second).mapError (SelectorError.about (first ++ "," ++ second))) ∧
      (∀ firstFound,
        select tree root first = .ok firstFound →
          branchTexts second = [] →
            select tree root (first ++ "," ++ second) = .ok firstFound) ∧
      (∀ failure,
        branchTexts first ≠ [] →
          select tree root first = .error failure →
            select tree root (first ++ "," ++ second) =
                .error (failure.about (first ++ "," ++ second)) ∧
              (failure.about (first ++ "," ++ second)).rootCause = failure.rootCause) ∧
      (∀ firstFound failure,
        select tree root first = .ok firstFound →
          branchTexts second ≠ [] →
            select tree root second = .error failure →
              select tree root (first ++ "," ++ second) =
                  .error (failure.about (first ++ "," ++ second)) ∧
                (failure.about (first ++ "," ++ second)).rootCause = failure.rootCause) := by
  refine ⟨?_, ?_, ?_, ?_, ?_⟩
  · intro firstFound secondFound firstSelected secondSelected
    obtain ⟨firstPlan, firstParsed, rfl⟩ := exists_plan_of_select firstSelected
    obtain ⟨secondPlan, secondParsed, rfl⟩ := exists_plan_of_select secondSelected
    rw [select_of_parse (Plan.parse_comma firstParsed secondParsed), Plan.select_append]
  · intro blank
    rw [select, select, Plan.parse_comma_of_no_first blank]
    cases Plan.parse second <;> rfl
  · intro firstFound selected blank
    obtain ⟨plan, parsed, rfl⟩ := exists_plan_of_select selected
    exact select_of_parse (Plan.parse_comma_of_no_second parsed blank)
  · intro failure branches refused
    have unparsed := parse_of_select_refused refused
    exact ⟨select_of_refused (Plan.parse_comma_of_first_refused branches unparsed),
      rootCause_about branches unparsed⟩
  · intro firstFound failure selected branches refused
    obtain ⟨plan, parsed, _⟩ := exists_plan_of_select selected
    have unparsed := parse_of_select_refused refused
    exact ⟨select_of_refused (Plan.parse_comma_of_second_refused parsed branches unparsed),
      rootCause_about branches unparsed⟩

/-- A list with a paragraph between its items, asked for items, for everything, and wrongly. -/
theorem select_comma_list :
    let tree := (((Tree.empty.addElement 0 "ul" none []).addElement 1 "li" none []).addElement
      1 "p" none []).addElement 1 "li" none []
    select tree 0 ("li" ++ "," ++ "ul > *") = .ok [2, 4, 3] ∧
      select tree 0 (" ," ++ "," ++ "p") = .ok [3] ∧
      select tree 0 ("p" ++ "," ++ "") = .ok [3] ∧
      select tree 0 ("p, li[" ++ "," ++ "]") =
        .error (.inSelector "p, li[,]" (.unparsed "li[" 2 "[")) ∧
      select tree 0 ("p" ++ "," ++ "li, >") =
        .error (.inSelector "p,li, >" (.noSimpleSelector ">")) := by
  intro tree
  have items : select tree 0 "li" = .ok [2, 4] := by
    decide +kernel
  have children : select tree 0 "ul > *" = .ok [2, 3, 4] := by
    decide +kernel
  have paragraphs : select tree 0 "p" = .ok [3] := by
    decide +kernel
  have unclosed :
      select tree 0 "p, li[" = .error (.inSelector "p, li[" (.unparsed "li[" 2 "[")) := by
    decide +kernel
  have bare : select tree 0 "li, >" = .error (.inSelector "li, >" (.noSimpleSelector ">")) := by
    decide +kernel
  obtain ⟨joined, _⟩ := select_comma tree 0 "li" "ul > *"
  obtain ⟨_, noFirst, _⟩ := select_comma tree 0 " ," "p"
  obtain ⟨_, _, noSecond, _⟩ := select_comma tree 0 "p" ""
  obtain ⟨_, _, _, firstRefused, _⟩ := select_comma tree 0 "p, li[" "]"
  obtain ⟨_, _, _, _, secondRefused⟩ := select_comma tree 0 "p" "li, >"
  refine ⟨joined _ _ items children, ?_, noSecond _ paragraphs (by decide +kernel),
    (firstRefused _ (by decide +kernel) unclosed).1,
    (secondRefused _ _ paragraphs (by decide +kernel) bare).1⟩
  rw [noFirst (by decide +kernel), paragraphs]
  rfl

end MarkupQuery.Selector
