import MarkupQuery.Proofs.Selector.Recognition
import MarkupQuery.Proofs.Selector.Runs

namespace MarkupQuery.Selector

/-!
# A branch parses to what is written

Parsing accepts the texts of written branches and no others, and gives their meaning. One direction
reads a written branch segment by segment, each together with the run before it. The other collects
the pieces that were read and joins the pieces of one run, which the empty segments between them
mark.
-/

open MarkupQuery.Text

section Kept

theorem segmentsOf_append
    (first second : List ReadSegment) :
    segmentsOf (first ++ second) = segmentsOf first ++ segmentsOf second := by
  simp [segmentsOf]

theorem segmentsOf_cons_of_isEmpty
    {read : ReadSegment}
    (empty : read.segment.isEmpty = true)
    (rest : List ReadSegment) :
    segmentsOf (read :: rest) = segmentsOf rest := by
  simp [segmentsOf, empty]

theorem segmentsOf_cons_of_not_isEmpty
    {read : ReadSegment}
    (tests : read.segment.isEmpty = false)
    (rest : List ReadSegment) :
    segmentsOf (read :: rest) = read.segment :: segmentsOf rest := by
  simp [segmentsOf, tests]

end Kept

namespace WrittenSegment

/-- A segment begins with a character that is neither part of a run nor blank. -/
theorem exists_head (segment : WrittenSegment) :
    ∃ c tests,
      segment.simple.text = c :: tests ∧ isRunChar c = false ∧ isBlank c = false := by
  obtain ⟨c, tests, shape⟩ := List.exists_cons_of_ne_nil segment.nonempty
  have head : segment.simple.text.head? = some c := by
    rw [shape, List.head?_cons]
  exact ⟨c, tests, shape, WrittenSimple.not_blank_of_head?_text head⟩

/-- The run before a segment ends where its tests begin. -/
theorem stops_simple
    (segment : WrittenSegment)
    (rest : List Char) :
    Stops isRunChar (segment.simple.text ++ rest) := by
  obtain ⟨c, tests, shape, outside, _⟩ := segment.exists_head
  rw [shape, List.cons_append]
  exact stops_cons.mpr outside

theorem isEmpty_meaning
    (segment : WrittenSegment)
    (combinator : Combinator) :
    (segment.simple.meaning combinator).isEmpty = false :=
  Bool.eq_false_iff.mpr fun empty =>
    segment.nonempty (WrittenSimple.isEmpty_meaning_iff.mp empty)

/-- A segment with more of the run before it. -/
def behind
    (run : List Char)
    (runChars : ∀ c ∈ run, isRunChar c = true)
    (segment : WrittenSegment) :
    WrittenSegment :=
  { segment with
    run := run ++ segment.run
    runChars := fun c member =>
      (List.mem_append.mp member).elim (runChars c) (segment.runChars c) }

end WrittenSegment

namespace WrittenTail

/-- The tail that begins with a segment behind a run. -/
def cons
    (segment : WrittenSegment)
    (nonempty : segment.run ≠ [])
    (tail : WrittenTail) :
    WrittenTail :=
  { tail with
    segments := segment :: tail.segments
    separated := List.forall_mem_cons.mpr ⟨nonempty, tail.separated⟩ }

/-- The tail that is nothing but a run. -/
def ofRun
    (run : List Char)
    (runChars : ∀ c ∈ run, isRunChar c = true) :
    WrittenTail :=
  ⟨[], by simp, run, runChars⟩

@[simp]
theorem text_ofRun
    {run : List Char}
    (runChars : ∀ c ∈ run, isRunChar c = true) :
    (ofRun run runChars).text = run :=
  rfl

/-- A tail is a run, or a segment behind a run with a tail after it. -/
@[elab_as_elim]
theorem induction
    {motive : WrittenTail → Prop}
    (ofRun : ∀ run runChars, motive (ofRun run runChars))
    (cons : ∀ segment nonempty tail, motive tail → motive (cons segment nonempty tail))
    (tail : WrittenTail) :
    motive tail := by
  obtain ⟨segments, separated, trailing, trailingChars⟩ := tail
  induction segments with
  | nil =>
      exact ofRun trailing trailingChars
  | cons segment segments inductionHypothesis =>
      obtain ⟨nonempty, separatedRest⟩ := List.forall_mem_cons.mp separated
      exact cons segment nonempty _ (inductionHypothesis separatedRest)

/-- The tail with more of the run at its start. -/
def behind
    (run : List Char)
    (runChars : ∀ c ∈ run, isRunChar c = true) :
    WrittenTail → WrittenTail
  | ⟨[], _, trailing, trailingChars⟩ =>
      ⟨[], by simp, run ++ trailing, fun c member =>
        (List.mem_append.mp member).elim (runChars c) (trailingChars c)⟩
  | ⟨segment :: segments, separated, trailing, trailingChars⟩ =>
      ⟨segment.behind run runChars :: segments,
        List.forall_mem_cons.mpr ⟨
          fun nothing => separated segment (by simp) (List.append_eq_nil_iff.mp nothing).2,
          fun other member => separated other (List.mem_cons_of_mem segment member)⟩,
        trailing, trailingChars⟩

theorem text_cons
    (segment : WrittenSegment)
    (nonempty : segment.run ≠ [])
    (tail : WrittenTail) :
    (cons segment nonempty tail).text = segment.run ++ (segment.simple.text ++ tail.text) := by
  simp [cons, text, WrittenSegment.text]

theorem text_behind
    (run : List Char)
    (runChars : ∀ c ∈ run, isRunChar c = true)
    (tail : WrittenTail) :
    (tail.behind run runChars).text = run ++ tail.text := by
  obtain ⟨_ | ⟨segment, segments⟩, separated, trailing, trailingChars⟩ := tail
  · simp [behind, text]
  · simp [behind, text, WrittenSegment.text, WrittenSegment.behind]

/-- What is read before a glyph does not change what a tail means. -/
theorem meaning_behind
    (run : List Char)
    (runChars : ∀ c ∈ run, isRunChar c = true)
    {tail : WrittenTail}
    (stops : Stops isSpace tail.text) :
    (tail.behind run runChars).meaning = tail.meaning := by
  obtain ⟨_ | ⟨segment, segments⟩, separated, trailing, trailingChars⟩ := tail
  · rfl
  · have segmentStops : Stops isSpace segment.run := by
      intro c head
      refine stops c ?_
      simp [text, WrittenSegment.text, head]
    simp only [behind, meaning, List.map_cons, WrittenSegment.meaning, WrittenSegment.behind,
      runCombinator_append_of_stops segment.runChars (separated segment (by simp)) segmentStops]

/-- A tail begins with a run character if there is anything in it. -/
theorem fromStage_text (tail : WrittenTail) :
    FromStage 5 tail.text := by
  have runChar :
      ∀ c, tail.text.head? = some c → isRunChar c = true := by
    obtain ⟨_ | ⟨segment, segments⟩, separated, trailing, trailingChars⟩ := tail
    · intro c head
      exact trailingChars c (List.mem_of_mem_head? head)
    · obtain ⟨first, run, shape⟩ := List.exists_cons_of_ne_nil (separated segment (by simp))
      intro c head
      have same : first = c := by
        simpa [text, WrittenSegment.text, shape] using head
      exact segment.runChars c (by simp [shape, same])
  intro c head
  exact Nat.le_of_eq (stage_of_isRunChar (runChar c head)).symm

end WrittenTail

section Written

/-- Where a run begins, nothing is read before it. -/
theorem leadingSegment_of_fromStage
    {text : List Char}
    (after : FromStage 5 text) :
    (leadingSegment text).2 = text := by
  rw [leadingSegment]
  cases combinator? text with
  | some read =>
      rfl
  | none =>
      exact congrArg Prod.snd (WrittenSimple.readSegment_text {} .descendant after)

/-- A run at the end of a branch gives empty segments only. -/
theorem many_joinedSegment?_trailing
    {trailing : List Char}
    (trailingChars : ∀ c ∈ trailing, isRunChar c = true) :
    ∃ read,
      many joinedSegment? trailing = (read, []) ∧ segmentsOf read = [] := by
  have stuck : many joinedSegment? [] = ([], []) :=
    many_of_none rfl
  by_cases nothing : trailing = []
  · subst nothing
    exact ⟨[], stuck, rfl⟩
  · have last := WrittenSimple.readSegment_text {} (runCombinator trailing) fromStage_nil
    obtain ⟨skipped, skippedEmpty, read⟩ :=
      many_joinedSegment?_run trailingChars nothing stops_nil last (Nat.le_refl _)
    rw [List.append_nil, stuck] at read
    refine ⟨_, read, ?_⟩
    rw [segmentsOf_append, skippedEmpty, List.nil_append]
    rfl

/-- Segments behind runs are read one after the other, with their meaning. -/
theorem many_joinedSegment?_tail (tail : WrittenTail) :
    ∃ read,
      many joinedSegment? tail.text = (read, []) ∧ segmentsOf read = tail.meaning := by
  induction tail using WrittenTail.induction with
  | ofRun run runChars =>
      exact many_joinedSegment?_trailing runChars
  | cons segment nonempty tail inductionHypothesis =>
      obtain ⟨readTail, tailEquation, tailMeaning⟩ := inductionHypothesis
      have here :=
        segment.simple.readSegment_text (runCombinator segment.run) tail.fromStage_text
      obtain ⟨skipped, skippedEmpty, equation⟩ :=
        many_joinedSegment?_run segment.runChars nonempty (segment.stops_simple tail.text) here
          (by simp)
      rw [tailEquation, ← WrittenTail.text_cons segment nonempty] at equation
      refine ⟨_, equation, ?_⟩
      rw [segmentsOf_append, skippedEmpty, List.nil_append,
        segmentsOf_cons_of_not_isEmpty (segment.isEmpty_meaning _), tailMeaning]
      rfl

/-- A written branch is read to its end, with its meaning. -/
theorem readSegments_written (written : WrittenBranch) :
    ∃ read,
      readSegments written.text = (read, []) ∧ segmentsOf read = written.meaning := by
  obtain ⟨first, rest⟩ := written
  by_cases leading : first.run = []
  · have here := first.simple.readSegment_text .descendant rest.fromStage_text
    obtain ⟨readRest, restEquation, restMeaning⟩ := many_joinedSegment?_tail rest
    have equation :
        leadingSegment (first.simple.text ++ rest.text) =
          ([(readSegment .descendant (first.simple.text ++ rest.text)).1], rest.text) := by
      rw [leadingSegment, combinator?_eq_none (first.stops_simple rest.text)]
      simp only [here]
    refine ⟨(readSegment .descendant (first.simple.text ++ rest.text)).1 :: readRest, ?_, ?_⟩
    · rw [WrittenBranch.text, WrittenSegment.text, leading, List.nil_append, readSegments,
        equation]
      simp only [restEquation, List.singleton_append]
    · rw [here, segmentsOf_cons_of_not_isEmpty (first.isEmpty_meaning .descendant), restMeaning]
      simp [WrittenBranch.meaning, WrittenSegment.meaning, leading, runCombinator]
  · have shape :
        WrittenBranch.text ⟨first, rest⟩ = (rest.cons first leading).text := by
      rw [WrittenTail.text_cons, WrittenBranch.text, WrittenSegment.text, List.append_assoc]
    obtain ⟨read, equation, meaning⟩ := many_joinedSegment?_tail (rest.cons first leading)
    obtain ⟨c, run, runShape⟩ := List.exists_cons_of_ne_nil leading
    obtain ⟨combinator, behind, found⟩ :=
      exists_combinator?_of_isRunChar (first.runChars c (by simp [runShape]))
        (run ++ (first.simple.text ++ rest.text))
    rw [← List.cons_append, ← runShape, ← WrittenTail.text_cons first leading] at found
    refine ⟨read, ?_, meaning⟩
    rw [shape, readSegments, leadingSegment, found]
    simp only [equation, List.nil_append]

end Written

section Read

/-- What repetition reads are segments behind runs and a run after them. -/
theorem exists_tail_of_many (text : List Char) :
    ∃ tail : WrittenTail,
      text = tail.text ++ (many joinedSegment? text).2 ∧
        tail.meaning = segmentsOf (many joinedSegment? text).1 := by
  have nothing :
      ∀ text : List Char,
        ∃ tail : WrittenTail,
          text = tail.text ++ text ∧ tail.meaning = segmentsOf [] :=
    fun text => ⟨⟨[], by simp, [], by simp⟩, rfl, rfl⟩
  induction text using many.induct joinedSegment? with
  | case1 text stuck =>
      rw [many_of_none stuck]
      exact nothing text
  | case3 text read rest stepped notShorter =>
      rw [many, stepped]
      simp only [notShorter, if_false]
      exact nothing text
  | case2 text read rest stepped shorter inductionHypothesis =>
      obtain ⟨tail, shape, meaning⟩ := inductionHypothesis
      rw [many_of_some stepped shorter]
      obtain ⟨⟨combinator, behind⟩, readCombinator, readTests⟩ :=
        Option.map_eq_some_iff.mp stepped
      obtain ⟨run, rfl, nonempty, runChars, runMeaning, stops⟩ :=
        exists_run_of_combinator? readCombinator
      obtain ⟨simple, tests, simpleMeaning⟩ :=
        exists_written_of_readSegment combinator behind
      simp only [readTests] at tests simpleMeaning
      by_cases empty : simple.text = []
      · -- The run goes on: without tests reading went on in front of a glyph.
        have isEmpty : read.segment.isEmpty = true := by
          rw [← simpleMeaning]
          exact WrittenSimple.isEmpty_meaning_iff.mpr empty
        rw [empty, List.nil_append] at tests
        subst tests
        have tailStops : Stops isSpace tail.text := by
          intro c head
          refine stops c ?_
          rw [shape]
          simp [head]
        refine ⟨tail.behind run runChars, ?_, ?_⟩
        · rw [WrittenTail.text_behind, List.append_assoc, ← shape]
        · rw [WrittenTail.meaning_behind run runChars tailStops, meaning,
            segmentsOf_cons_of_isEmpty isEmpty]
      · let segment : WrittenSegment := ⟨run, runChars, simple, empty⟩
        have segmentMeaning : segment.meaning = read.segment := by
          rw [← simpleMeaning, ← runMeaning]
          rfl
        have isEmpty : read.segment.isEmpty = false := by
          rw [← segmentMeaning]
          exact segment.isEmpty_meaning _
        refine ⟨tail.cons segment nonempty, ?_, ?_⟩
        · rw [WrittenTail.text_cons, List.append_assoc, List.append_assoc, ← shape, tests]
        · rw [segmentsOf_cons_of_not_isEmpty isEmpty, ← segmentMeaning, ← meaning]
          rfl

/-- What is read of a branch is written, or it is part of a run and nothing was tested yet. -/
theorem exists_front_of_readSegments (text : List Char) :
    ∃ front,
      text = front ++ (readSegments text).2 ∧
        ((∀ c ∈ front, isRunChar c = true) ∧ segmentsOf (readSegments text).1 = [] ∨
          ∃ written : WrittenBranch,
            written.text = front ∧ written.meaning = segmentsOf (readSegments text).1) := by
  obtain ⟨tail, shape, meaning⟩ := exists_tail_of_many (leadingSegment text).2
  simp only [readSegments, segmentsOf_append, ← meaning]
  cases found : combinator? text with
  | some read =>
      simp only [leadingSegment, found, segmentsOf, List.map_nil, List.filter_nil,
        List.nil_append] at shape ⊢
      refine ⟨tail.text, shape, ?_⟩
      obtain ⟨_ | ⟨first, segments⟩, separated, trailing, trailingChars⟩ := tail
      · exact Or.inl ⟨trailingChars, rfl⟩
      · refine Or.inr ⟨⟨first, segments, ?_, trailing, trailingChars⟩, ?_, rfl⟩
        · exact fun other member => separated other (List.mem_cons_of_mem first member)
        · simp [WrittenBranch.text, WrittenTail.text]
  | none =>
      obtain ⟨simple, textShape, simpleMeaning⟩ :=
        exists_written_of_readSegment .descendant text
      simp only [leadingSegment, found] at shape meaning ⊢
      by_cases empty : simple.text = []
      · -- Nothing was read at all, so nothing tests anything.
        have stuck : joinedSegment? text = none := by
          rw [joinedSegment?, found, Option.map_none]
        have isEmpty : (readSegment .descendant text).1.segment.isEmpty = true := by
          rw [← simpleMeaning]
          exact WrittenSimple.isEmpty_meaning_iff.mpr empty
        rw [empty, List.nil_append] at textShape
        rw [← textShape, many_of_none stuck] at meaning ⊢
        refine ⟨[], rfl, Or.inl ⟨by simp, ?_⟩⟩
        rw [segmentsOf_cons_of_isEmpty isEmpty, meaning]
        rfl
      · let first : WrittenSegment := ⟨[], by simp, simple, empty⟩
        have firstMeaning : first.meaning = (readSegment .descendant text).1.segment :=
          simpleMeaning
        have isEmpty : (readSegment .descendant text).1.segment.isEmpty = false := by
          rw [← firstMeaning]
          exact first.isEmpty_meaning _
        refine ⟨simple.text ++ tail.text, ?_, Or.inr ⟨⟨first, tail⟩, rfl, ?_⟩⟩
        · rw [List.append_assoc, ← shape, ← textShape]
        · rw [segmentsOf_cons_of_not_isEmpty isEmpty, ← firstMeaning]
          rfl

end Read

section Parse

/-- What it means for a branch to parse. -/
theorem parse_eq_ok_iff
    {branch : String}
    {segments : Branch} :
    Branch.parse branch = .ok segments ↔
      isBlankText branch = false ∧
        (readSegments branch.toList).2 = [] ∧
        segmentsOf (readSegments branch.toList).1 = segments ∧
        segments ≠ [] := by
  unfold Branch.parse
  cases blank : isBlankText branch with
  | true =>
      simp
  | false =>
      simp only [Bool.false_eq_true, if_false, List.isEmpty_iff, true_and]
      split
      · next complete =>
          simp only [complete, true_and]
          split
          · next nothing =>
              simp [nothing, eq_comm]
          · next kept =>
              constructor
              · intro same
                rw [Except.ok.injEq] at same
                exact ⟨same, same ▸ kept⟩
              · rintro ⟨same, _⟩
                rw [same]
      · next remains =>
          simp [remains]

/-- A written branch is not blank. -/
theorem not_isBlankText_written
    {branch : String}
    {written : WrittenBranch}
    (shape : written.text = branch.toList) :
    isBlankText branch = false := by
  obtain ⟨c, tests, textShape, _, visible⟩ := written.first.exists_head
  rw [isBlankText, List.all_eq_false]
  refine ⟨c, ?_, by simp [visible]⟩
  rw [← shape]
  simp [WrittenBranch.text, WrittenSegment.text, textShape]

/-- A written branch parses to its meaning. -/
theorem parse_written
    {branch : String}
    {written : WrittenBranch}
    (shape : written.text = branch.toList) :
    Branch.parse branch = .ok written.meaning := by
  obtain ⟨read, equation, meaning⟩ := readSegments_written written
  rw [shape] at equation
  refine parse_eq_ok_iff.mpr ⟨not_isBlankText_written shape, ?_, ?_, ?_⟩
  · rw [equation]
  · rw [equation, meaning]
  · exact List.cons_ne_nil _ _

/-- A branch that parses is written. -/
theorem exists_written_of_parse
    {branch : String}
    {segments : Branch}
    (parsed : Branch.parse branch = .ok segments) :
    ∃ written : WrittenBranch,
      written.text = branch.toList ∧ written.meaning = segments := by
  obtain ⟨_, complete, rfl, tests⟩ := parse_eq_ok_iff.mp parsed
  obtain ⟨front, shape, ⟨_, nothing⟩ | ⟨written, text, meaning⟩⟩ :=
    exists_front_of_readSegments branch.toList
  · exact absurd nothing tests
  · rw [complete, List.append_nil] at shape
    exact ⟨written, text.trans shape.symm, meaning⟩

/-- The branches that parse are those of the grammar, and they parse to what is written. -/
theorem parse_eq_ok_iff_written
    (branch : String)
    (segments : Branch) :
    Branch.parse branch = .ok segments ↔
      ∃ written : WrittenBranch,
        written.text = branch.toList ∧ written.meaning = segments := by
  constructor
  · exact exists_written_of_parse
  · rintro ⟨written, shape, rfl⟩
    exact parse_written shape

end Parse

end MarkupQuery.Selector
