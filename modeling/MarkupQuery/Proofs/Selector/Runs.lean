import MarkupQuery.Proofs.Selector.Scanning

namespace MarkupQuery.Selector

/-!
# Runs between segments

One reading of a combinator takes spaces, at most one glyph and more spaces, so a run with several
glyphs is read in pieces with empty segments between them. Taken together the pieces are the whole
run, and the combinator that counts in the end is that of the last glyph.
-/

open MarkupQuery.Text

section Combinators

/-- The last glyph of a run counts, as glyphs are read. -/
theorem runCombinator_eq (run : List Char) :
    runCombinator run = (run.filterMap Combinator.ofGlyph?).getLast?.getD .descendant := by
  rw [runCombinator, funext ofGlyph?_eq]

/-- No space is a glyph. -/
theorem ofGlyph?_of_isSpace
    {c : Char}
    (space : isSpace c = true) :
    Combinator.ofGlyph? c = none := by
  rcases eq_of_isSpace space with rfl | rfl | rfl | rfl | rfl <;> rfl

theorem isRunChar_of_isSpace
    {c : Char}
    (space : isSpace c = true) :
    isRunChar c = true := by
  simp [isRunChar_eq, space]

theorem isRunChar_of_glyph
    {c : Char}
    {combinator : Combinator}
    (glyph : Combinator.ofGlyph? c = some combinator) :
    isRunChar c = true := by
  simp [isRunChar_eq, glyph]

/-- Spaces alone stand for the descendant combinator. -/
theorem runCombinator_of_spaces
    {run : List Char}
    (spaces : ∀ c ∈ run, isSpace c = true) :
    runCombinator run = .descendant := by
  have noGlyph : run.filterMap Combinator.ofGlyph? = [] :=
    List.filterMap_eq_nil_iff.mpr fun c member => ofGlyph?_of_isSpace (spaces c member)
  rw [runCombinator_eq, noGlyph]
  rfl

/-- What stands before a run that begins with a glyph does not count. -/
theorem runCombinator_append_of_glyph
    {c : Char}
    {combinator : Combinator}
    (glyph : Combinator.ofGlyph? c = some combinator)
    (earlier later : List Char) :
    runCombinator (earlier ++ c :: later) = runCombinator (c :: later) := by
  simp [runCombinator_eq, List.filterMap_cons_some glyph, List.getLast?_cons]

/-- Spaces around a single glyph do not count. -/
theorem runCombinator_of_glyph
    {c : Char}
    {combinator : Combinator}
    (glyph : Combinator.ofGlyph? c = some combinator)
    {before after : List Char}
    (spaces : ∀ c ∈ after, isSpace c = true) :
    runCombinator (before ++ c :: after) = combinator := by
  have noGlyph : after.filterMap Combinator.ofGlyph? = [] :=
    List.filterMap_eq_nil_iff.mpr fun c member => ofGlyph?_of_isSpace (spaces c member)
  rw [runCombinator_append_of_glyph glyph, runCombinator_eq,
    List.filterMap_cons_some glyph, noGlyph]
  rfl

/-- Where no run begins there is no combinator. -/
theorem combinator?_eq_none
    {text : List Char}
    (stops : Stops isRunChar text) :
    combinator? text = none := by
  cases text with
  | nil =>
      rfl
  | cons c text =>
      have outside := stops_cons.mp stops
      simp only [isRunChar_eq, Bool.or_eq_false_iff, Option.isSome_eq_false_iff,
        Option.isNone_iff_eq_none] at outside
      simp [combinator?, outside]

theorem isRunChar_of_mem_takeWhile
    {text : List Char}
    {c : Char}
    (member : c ∈ text.takeWhile isSpace) :
    isRunChar c = true :=
  isRunChar_of_isSpace (List.all_eq_true.mp List.all_takeWhile c member)

/-- The spaces that a text begins with are a run for the descendant combinator. -/
theorem exists_run_of_spaces
    {text : List Char}
    (begins : text.head?.any isSpace = true) :
    ∃ run,
      text = run ++ text.dropWhile isSpace ∧
        run ≠ [] ∧
        (∀ c ∈ run, isRunChar c = true) ∧
        runCombinator run = .descendant ∧
        Stops isSpace (text.dropWhile isSpace) := by
  refine ⟨text.takeWhile isSpace, List.takeWhile_append_dropWhile.symm, ?_,
    fun c => isRunChar_of_mem_takeWhile, ?_, stops_dropWhile text⟩
  · cases text with
    | nil =>
        simp at begins
    | cons c text =>
        have space : isSpace c = true := by
          simpa using begins
        simp [space]
  · apply runCombinator_of_spaces
    intro c member
    exact List.all_eq_true.mp List.all_takeWhile c member

/-- A combinator was read off a run that goes as far as its spaces do. -/
theorem exists_run_of_combinator?
    {text rest : List Char}
    {combinator : Combinator}
    (read : combinator? text = some (combinator, rest)) :
    ∃ run,
      text = run ++ rest ∧
        run ≠ [] ∧
        (∀ c ∈ run, isRunChar c = true) ∧
        runCombinator run = combinator ∧
        Stops isSpace rest := by
  unfold combinator? at read
  cases found : (text.dropWhile isSpace).head?.bind Combinator.ofGlyph? with
  | some combinator =>
      simp only [found, Option.some.injEq, Prod.mk.injEq] at read
      obtain ⟨rfl, rfl⟩ := read
      obtain ⟨c, head, glyph⟩ := Option.bind_eq_some_iff.mp found
      obtain ⟨later, shape⟩ := List.head?_eq_some_iff.mp head
      have split := List.takeWhile_append_dropWhile (p := isSpace) (l := text)
      rw [shape] at split
      rw [shape, List.tail_cons]
      refine ⟨text.takeWhile isSpace ++ c :: later.takeWhile isSpace, ?_, by simp, ?_, ?_,
        stops_dropWhile later⟩
      · rw [List.append_assoc, List.cons_append, List.takeWhile_append_dropWhile, split]
      · intro d member
        rcases List.mem_append.mp member with before | behind
        · exact isRunChar_of_mem_takeWhile before
        · rcases List.mem_cons.mp behind with here | after
          · exact here ▸ isRunChar_of_glyph glyph
          · exact isRunChar_of_mem_takeWhile after
      · apply runCombinator_of_glyph glyph
        intro d member
        exact List.all_eq_true.mp List.all_takeWhile d member
  | none =>
      simp only [found] at read
      split at read
      · next begins =>
          simp only [Option.some.injEq, Prod.mk.injEq] at read
          obtain ⟨rfl, rfl⟩ := read
          exact exists_run_of_spaces begins
      · simp at read

/-- Where a run begins there is a combinator. -/
theorem exists_combinator?_of_isRunChar
    {c : Char}
    (runChar : isRunChar c = true)
    (text : List Char) :
    ∃ combinator rest, combinator? (c :: text) = some (combinator, rest) := by
  cases space : isSpace c with
  | true =>
      unfold combinator?
      simp only [List.head?_cons, Option.any_some, space, if_true]
      cases ((c :: text).dropWhile isSpace).head?.bind Combinator.ofGlyph? with
      | none =>
          exact ⟨_, _, rfl⟩
      | some combinator =>
          exact ⟨_, _, rfl⟩
  | false =>
      obtain ⟨combinator, glyph⟩ :=
        Option.isSome_iff_exists.mp (by simpa [isRunChar_eq, space] using runChar)
      refine ⟨combinator, text.dropWhile isSpace, ?_⟩
      simp [combinator?, space, glyph]

/-- A run is read up to a glyph in it, which then begins the rest of the run, or as a whole. -/
theorem exists_remaining_of_run
    {run text : List Char}
    (runChars : ∀ c ∈ run, isRunChar c = true)
    (nonempty : run ≠ [])
    (stops : Stops isRunChar text) :
    ∃ piece remaining,
      run = piece ++ remaining ∧
        piece ≠ [] ∧
        combinator? (run ++ text) = some (runCombinator piece, remaining ++ text) ∧
        Stops isSpace remaining := by
  obtain ⟨c, tail, shape⟩ := List.exists_cons_of_ne_nil nonempty
  obtain ⟨combinator, rest, read⟩ :=
    exists_combinator?_of_isRunChar (runChars c (by simp [shape])) (tail ++ text)
  rw [← List.cons_append, ← shape] at read
  obtain ⟨piece, split, pieceNonempty, pieceChars, meaning, after⟩ :=
    exists_run_of_combinator? read
  rcases List.append_eq_append_iff.mp split with
    ⟨beyond, pieceShape, textShape⟩ | ⟨remaining, runShape, restShape⟩
  · have nothing : beyond = [] := by
      cases beyond with
      | nil =>
          rfl
      | cons d beyond =>
          rw [textShape, List.cons_append] at stops
          have inRun := pieceChars d (by simp [pieceShape])
          simp [stops_cons.mp stops] at inRun
    subst nothing
    rw [List.append_nil] at pieceShape
    rw [List.nil_append] at textShape
    refine ⟨piece, [], by simp [pieceShape], pieceNonempty, ?_, stops_nil⟩
    rw [read, meaning, textShape, List.nil_append]
  · refine ⟨piece, remaining, runShape, pieceNonempty, ?_, ?_⟩
    · rw [read, meaning, restShape]
    · intro d head
      exact after d (by simp [restShape, head])

/-- A run that does not begin with a space begins with a glyph. -/
theorem exists_glyph_of_stops
    {run : List Char}
    (runChars : ∀ c ∈ run, isRunChar c = true)
    (nonempty : run ≠ [])
    (stops : Stops isSpace run) :
    ∃ c later combinator, run = c :: later ∧ Combinator.ofGlyph? c = some combinator := by
  obtain ⟨c, later, rfl⟩ := List.exists_cons_of_ne_nil nonempty
  have runChar := runChars c (by simp)
  simp only [isRunChar_eq, stops_cons.mp stops, Bool.false_or] at runChar
  obtain ⟨combinator, glyph⟩ := Option.isSome_iff_exists.mp runChar
  exact ⟨c, later, combinator, rfl, glyph⟩

/-- What was read before does not count for a run that does not begin with a space. -/
theorem runCombinator_append_of_stops
    {earlier run : List Char}
    (runChars : ∀ c ∈ run, isRunChar c = true)
    (nonempty : run ≠ [])
    (stops : Stops isSpace run) :
    runCombinator (earlier ++ run) = runCombinator run := by
  obtain ⟨c, later, combinator, rfl, glyph⟩ := exists_glyph_of_stops runChars nonempty stops
  exact runCombinator_append_of_glyph glyph earlier later

end Combinators

section Reading

/-- In front of a run nothing is read. -/
theorem readSegment_of_isRunChar
    {c : Char}
    (runChar : isRunChar c = true)
    (combinator : Combinator)
    (text : List Char) :
    ∃ read,
      readSegment combinator (c :: text) = (read, c :: text) ∧
        read.segment.isEmpty = true := by
  have after : FromStage 5 (c :: text) :=
    fromStage_cons.mpr (Nat.le_of_eq (stage_of_isRunChar runChar).symm)
  have read := WrittenSimple.readSegment_text {} combinator after
  exact ⟨_, read, rfl⟩

/--
A whole run is read together with the segment after it. The pieces before the last one give empty
segments, and the segment has the combinator of the run.
-/
theorem many_joinedSegment?_run
    {run text rest : List Char}
    {read : ReadSegment}
    (runChars : ∀ c ∈ run, isRunChar c = true)
    (nonempty : run ≠ [])
    (stops : Stops isRunChar text)
    (segment : readSegment (runCombinator run) text = (read, rest))
    (notLonger : rest.length ≤ text.length) :
    ∃ skipped,
      segmentsOf skipped = [] ∧
        many joinedSegment? (run ++ text) =
          (skipped ++ read :: (many joinedSegment? rest).1, (many joinedSegment? rest).2) := by
  -- Every piece is shorter than the run, so the induction is on the length of what remains.
  induction size : run.length using Nat.strongRecOn generalizing run with
  | _ size inductionHypothesis =>
      obtain ⟨piece, remaining, rfl, pieceNonempty, combinator, after⟩ :=
        exists_remaining_of_run runChars nonempty stops
      have positive : 0 < piece.length := List.length_pos_iff.mpr pieceNonempty
      by_cases last : remaining = []
      · subst last
        rw [List.append_nil] at combinator segment ⊢
        rw [List.nil_append] at combinator
        have joined : joinedSegment? (piece ++ text) = some (read, rest) := by
          rw [joinedSegment?, combinator, Option.map_some, segment]
        refine ⟨[], rfl, ?_⟩
        rw [many_of_some joined]
        · rfl
        · rw [List.length_append]
          omega
      · have remainingChars : ∀ c ∈ remaining, isRunChar c = true :=
          fun c member => runChars c (List.mem_append_right piece member)
        rw [runCombinator_append_of_stops remainingChars last after] at segment
        obtain ⟨skipped, skippedEmpty, readRest⟩ :=
          inductionHypothesis remaining.length (by simp at size; omega)
            remainingChars last segment rfl
        obtain ⟨c, later, shape⟩ := List.exists_cons_of_ne_nil last
        obtain ⟨nothing, readNothing, isEmpty⟩ :=
          readSegment_of_isRunChar (remainingChars c (by simp [shape]))
            (runCombinator piece) (later ++ text)
        have joined :
            joinedSegment? (piece ++ remaining ++ text) =
              some (nothing, remaining ++ text) := by
          rw [joinedSegment?, combinator, Option.map_some, shape, List.cons_append, readNothing]
        refine ⟨nothing :: skipped, ?_, ?_⟩
        · simpa [segmentsOf, isEmpty] using skippedEmpty
        · rw [many_of_some joined, readRest]
          · rfl
          · simp only [List.length_append]
            omega

end Reading

end MarkupQuery.Selector
