import MarkupQuery.Proofs.Selector.CursorReading

namespace MarkupQuery.Selector

/-!
# The cursor only moves forward

On a boundary between two characters nothing goes wrong: every part of the reading of a branch
leaves the cursor on a boundary that is not further back, and the result tells whether it moved. So
each turn of the loop over a branch that does not leave the loop moves the cursor, the loop ends of
its own accord, and the turns stand side by side from the start of the branch to where reading
stops.
-/

open MarkupQuery.Text

/-- An offset of the input at which a character begins, or its end. -/
def OnBoundary
    (input : String)
    (position : Nat) :
    Prop :=
  String.Pos.Raw.IsValid input ⟨position⟩

/--
From every boundary something is read and a boundary reached, the same one or a later one, and from
what was read it can be told which.
-/
def Advances
    {α : Type}
    (reader : CursorReader α)
    (moved : α → Bool) :
    Prop :=
  ∀ input position, OnBoundary input position →
    ∃ value next,
      reader.runAt input position = .ok (value, next) ∧
        OnBoundary input next ∧
        position ≤ next ∧
        next ≤ input.utf8ByteSize ∧
        (position < next ↔ moved value = true)

/-- Turns that each go on where the one before stopped, from an offset to another. -/
def Contiguous : (start : Nat) → List CursorReader.Turn → (stop : Nat) → Prop
  | start, [], stop => start = stop
  | start, turn :: turns, stop =>
      turn.start = start ∧ turn.start < turn.stop ∧ Contiguous turn.stop turns stop

namespace CursorReader

variable {α β : Type} {input : String} {position : Nat} {text : List Char}

section Boundaries

/-- On a boundary the cursor stands in front of some rest of the input. -/
theorem onBoundary_iff_exists_stands :
    OnBoundary input position ↔ ∃ text, Stands input position text := by
  rw [OnBoundary, String.Pos.Raw.isValid_iff_exists_append]
  constructor
  · rintro ⟨before, behind, rfl, same⟩
    refine ⟨behind.toList, before.toList, String.toList_append, ?_⟩
    rw [byteLength_toList]
    exact congrArg String.Pos.Raw.byteIdx same
  · rintro ⟨text, before, shape, rfl⟩
    refine ⟨String.ofList before, String.ofList text, ?_, rfl⟩
    rw [← String.ofList_append, ← shape, String.ofList_toList]

/-- The input is cut at its boundaries and nowhere else. -/
theorem onBoundary_iff_runAt_rest :
    OnBoundary input position ↔
      ∃ text, CursorReader.rest.runAt input position = .ok (text, position) := by
  rw [onBoundary_iff_exists_stands]
  constructor
  · rintro ⟨text, before, shape, rfl⟩
    exact ⟨text, by rw [runAt_rest, shape, cutAt?_append]⟩
  · rintro ⟨text, run⟩
    rw [runAt_rest] at run
    split at run
    · next cut here =>
        obtain ⟨shape, length⟩ := eq_append_of_cutAt? here
        exact ⟨cut.2, cut.1, shape, length.symm⟩
    · cases run

/-- A reader that reads a part of each text advances over it. -/
theorem advances_of_reads
    {reader : CursorReader α}
    {moved : α → Bool}
    (reads :
      ∀ input text, ∃ value front rest,
        text = front ++ rest ∧
          Reads input reader text value rest ∧
          (moved value = true ↔ front ≠ [])) :
    Advances reader moved := by
  intro input position boundary
  obtain ⟨text, stands⟩ := onBoundary_iff_exists_stands.mp boundary
  obtain ⟨value, front, rest, rfl, read, told⟩ := reads input text
  obtain ⟨next, run, standsNext⟩ := read position stands
  have moves := stands.next_eq standsNext
  have inside := standsNext.position_add
  refine ⟨value, next, run, onBoundary_iff_exists_stands.mpr ⟨rest, standsNext⟩, by omega, by omega,
    ?_⟩
  rw [told, ← byteLength_pos_iff]
  omega

/-- A part that is read like one that takes characters goes on or stays. -/
theorem advances_of_readsTest
    {reader : CursorReader (Option α)}
    {read? : String → List Char → Option (α × List Char)}
    (reads : ∀ input, ReadsTest input reader (read? input))
    (consumes : ∀ input, Consumes (read? input)) :
    Advances reader Option.isSome := by
  refine advances_of_reads fun input text => ?_
  cases outcome : read? input text with
  | none =>
      exact ⟨none, [], text, rfl, (reads input).stays outcome, by simp⟩
  | some read =>
      obtain ⟨front, nonempty, shape⟩ := consumes input outcome
      exact ⟨some read.1, front, read.2, shape, (reads input).passes outcome, by simp [nonempty]⟩

end Boundaries

section Parts

theorem advances_eat (c : Char) : Advances (eat c) id := by
  refine advances_of_reads fun input text => ?_
  by_cases head : text.head? = some c
  · obtain ⟨rest, rfl⟩ := List.head?_eq_some_iff.mp head
    exact ⟨true, [c], rest, rfl, reads_eat c rest, by simp⟩
  · exact ⟨false, [], text, rfl, reads_eat_of_ne head, by simp⟩

/-- The empty literal stands everywhere. -/
theorem advances_eatLiteral (literal : String) :
    Advances (eatLiteral literal) fun eaten => eaten && !literal.isEmpty := by
  refine advances_of_reads fun input text => ?_
  cases begins : afterLiteral? literal.toList text with
  | none =>
      exact ⟨false, [], text, rfl, reads_eatLiteral_of_none begins, by simp⟩
  | some rest =>
      rw [afterLiteral?_eq_some_iff.mp begins]
      exact ⟨true, literal.toList, rest, rfl, reads_eatLiteral literal rest, by simp⟩

theorem advances_takeWhile (inClass : Char → Bool) :
    Advances (takeWhile inClass) fun letters => !letters.isEmpty :=
  advances_of_reads fun _ text =>
    ⟨text.takeWhile inClass, text.takeWhile inClass, text.dropWhile inClass,
      List.takeWhile_append_dropWhile.symm, reads_takeWhile inClass text, by simp⟩

/-- What a segment was read of is nothing exactly if the segment is empty. -/
theorem exists_front_of_readSegment
    (combinator : Combinator)
    (text : List Char) :
    ∃ front,
      text = front ++ (readSegment combinator text).2 ∧
        ((readSegment combinator text).1.segment.isEmpty = true ↔ front = []) := by
  obtain ⟨simple, shape, meaning⟩ := exists_written_of_readSegment combinator text
  exact ⟨simple.text, shape, meaning ▸ WrittenSimple.isEmpty_meaning_iff⟩

theorem advances_simpleSelector :
    Advances simpleSelector fun read => !read.segment.isEmpty := by
  refine advances_of_reads fun input text => ?_
  obtain ⟨front, shape, isEmpty⟩ := exists_front_of_readSegment .descendant text
  refine ⟨_, front, _, shape, reads_simpleSelector text, ?_⟩
  rw [Bool.not_eq_true', ← Bool.not_eq_true, isEmpty]

end Parts

section Turns

/-- One turn of the loop over a branch, told by what remains of the branch. -/
def turn?
    (whole text : List Char) :
    Option (ReadSegment × List Char) :=
  match combinator? text with
  | some read => some (readSegment read.1 read.2)
  | none =>
      let read := readSegment .descendant text
      if text.length < whole.length ∨ read.1.segment.isEmpty then none else some read

theorem consumes_turn? (whole : List Char) : Consumes (turn? whole) := by
  intro text value rest read
  unfold turn? at read
  split at read
  · next found combinatorRead =>
      obtain ⟨run, nonempty, shape⟩ := consumes_combinator? combinatorRead
      obtain ⟨front, behind, _⟩ := exists_front_of_readSegment found.1 found.2
      rw [Option.some.inj read] at behind
      exact ⟨run ++ front, List.append_ne_nil_of_left_ne_nil nonempty _,
        by rw [shape, behind, List.append_assoc]⟩
  · dsimp only at read
    split at read
    · cases read
    · next goesOn =>
        obtain ⟨front, behind, isEmpty⟩ := exists_front_of_readSegment .descendant text
        refine ⟨front, fun nothing => goesOn (Or.inr (isEmpty.mpr nothing)), ?_⟩
        rwa [Option.some.inj read] at behind

/-- A turn ends in one of three ways, once its combinator and its segment are read. -/
theorem runAt_turn
    {middle next : Nat}
    {glyph : Option Combinator}
    {read : ReadSegment}
    (combinatorRun : combinator.runAt input position = .ok (glyph, middle))
    (segmentRun : simpleSelector.runAt input middle = .ok (read, next)) :
    turn.runAt input position =
      if glyph.isNone ∧ 0 < position then
        .ok (none, middle)
      else if next = position then
        .ok (none, next)
      else
        .ok (some {
          read with
          segment := { read.segment with combinator := glyph.getD .descendant }
        }, next) := by
  refine (runAt_bind rfl).trans ((runAt_bind combinatorRun).trans ?_)
  split
  · rfl
  · refine (runAt_bind segmentRun).trans ((runAt_bind rfl).trans ?_)
    split <;> rfl

/-- Where no combinator stands, a turn reads a segment at the start of the input only. -/
theorem exists_runAt_turn
    (noCombinator : combinator? text = none)
    (stands : Stands input position text) :
    ∃ next,
      Stands input next (readSegment .descendant text).2 ∧
        turn.runAt input position =
          if text.length < input.toList.length ∨
              (readSegment .descendant text).1.segment.isEmpty then
            .ok (none, position)
          else
            .ok (some (readSegment .descendant text).1, next) := by
  obtain ⟨front, shape, isEmpty⟩ := exists_front_of_readSegment .descendant text
  obtain ⟨middle, combinatorRun, standsMiddle⟩ :=
    readsTest_combinator.stays noCombinator position stands
  obtain ⟨next, segmentRun, standsNext⟩ := reads_simpleSelector text middle standsMiddle
  obtain rfl := stands.position_eq standsMiddle
  have start := stands.position_pos_iff
  have moved : next ≠ middle ↔ ¬(readSegment .descendant text).1.segment.isEmpty = true := by
    rw [shape] at stands
    have behind := stands.next_eq standsNext
    rw [isEmpty]
    exact Iff.trans (by omega) byteLength_pos_iff
  refine ⟨next, standsNext, ?_⟩
  rw [runAt_turn combinatorRun segmentRun]
  by_cases later : text.length < input.toList.length
  · rw [if_pos ⟨rfl, start.mpr later⟩, if_pos (Or.inl later)]
  · have atStart : ¬(Option.isNone (none : Option Combinator) = true ∧ 0 < middle) :=
      fun both => later (start.mp both.2)
    by_cases stayed : next = middle
    · have empty := not_not.mp (mt moved.mpr (not_not.mpr stayed))
      rw [if_neg atStart, if_pos stayed, if_pos (Or.inr empty), stayed]
    · rw [if_neg atStart, if_neg stayed, if_neg (not_or.mpr ⟨later, moved.mp stayed⟩)]
      rfl

theorem readsTest_turn : ReadsTest input turn (turn? input.toList) where
  passes {text value rest} read position stands := by
    unfold turn? at read
    split at read
    · next found combinatorRead =>
        obtain ⟨run, nonempty, rfl⟩ := consumes_combinator? combinatorRead
        obtain ⟨front, behind, _⟩ := exists_front_of_readSegment found.1 found.2
        obtain ⟨rfl, rfl⟩ := Prod.mk.inj (Option.some.inj read)
        obtain ⟨middle, combinatorRun, standsMiddle⟩ :=
          readsTest_combinator.passes combinatorRead position stands
        obtain ⟨next, segmentRun, standsNext⟩ := reads_simpleSelector found.2 middle standsMiddle
        have moved := stands.next_eq standsMiddle
        -- The combinator is not empty, so the cursor moved, whatever segment follows.
        have forward := byteLength_pos_iff.mpr nonempty
        rw [behind] at standsMiddle
        have goesOn := standsMiddle.next_eq standsNext
        refine ⟨next, ?_, standsNext⟩
        rw [runAt_turn combinatorRun segmentRun, if_neg (by simp), if_neg (by omega)]
        rfl
    · next noCombinator =>
        obtain ⟨next, standsNext, run⟩ := exists_runAt_turn noCombinator stands
        dsimp only at read
        split at read
        · cases read
        · next goesOn =>
            rw [if_neg goesOn] at run
            obtain ⟨rfl, rfl⟩ := Prod.mk.inj (Option.some.inj read)
            exact ⟨next, run, standsNext⟩
  stays {text} left position stands := by
    unfold turn? at left
    split at left
    · cases left
    · next noCombinator =>
        obtain ⟨next, _, run⟩ := exists_runAt_turn noCombinator stands
        dsimp only at left
        split at left
        · next ends =>
            rw [if_pos ends] at run
            exact ⟨position, run, stands⟩
        · cases left

/-- A turn of the loop goes on, unless it is the last. -/
theorem advances_turn : Advances turn Option.isSome :=
  advances_of_readsTest (fun _ => readsTest_turn) fun input => consumes_turn? input.toList

end Turns

section Loop

variable {reader : CursorReader α} {next : α → CursorReader β}

/-- Both parts of a reading that succeeds have succeeded. -/
theorem runAt_bind_eq_ok_iff
    {result : β}
    {final : Nat} :
    (reader >>= next).runAt input position = .ok (result, final) ↔
      ∃ value middle,
        reader.runAt input position = .ok (value, middle) ∧
          (next value).runAt input middle = .ok (result, final) := by
  constructor
  · intro run
    cases first : reader.runAt input position with
    | error fault =>
        have failed : (reader >>= next).runAt input position = .error fault := by
          change Except.bind (reader.runAt input position) _ = _
          rw [first]
          rfl
        rw [failed] at run
        cases run
    | ok read =>
        exact ⟨read.1, read.2, rfl, (runAt_bind first).symm.trans run⟩
  · rintro ⟨value, middle, first, second⟩
    exact (runAt_bind first).trans second

/-- How many turns a loop may have does not matter if it needs fewer. -/
theorem runAt_collect_of_length_lt
    {reader : CursorReader (Option α)}
    {bound more final : Nat}
    {values : List α}
    (run : (collect reader bound).runAt input position = .ok (values, final))
    (enough : values.length < more) :
    (collect reader more).runAt input position = .ok (values, final) := by
  induction bound generalizing position values more with
  | zero =>
      cases run
  | succ bound inductionHypothesis =>
      obtain ⟨more, rfl⟩ := Nat.exists_eq_succ_of_ne_zero (Nat.ne_zero_of_lt enough)
      obtain ⟨outcome, middle, first, later⟩ := runAt_bind_eq_ok_iff.mp run
      refine runAt_bind_eq_ok_iff.mpr ⟨outcome, middle, first, ?_⟩
      cases outcome with
      | none =>
          exact later
      | some value =>
          obtain ⟨others, stop, laterRun, same⟩ := runAt_bind_eq_ok_iff.mp later
          cases same
          exact runAt_bind_eq_ok_iff.mpr
            ⟨others, final, inductionHypothesis laterRun (Nat.lt_of_succ_lt_succ enough), rfl⟩

/-- The turns of a loop over a branch, from wherever it begins, stand side by side. -/
theorem exists_runAt_collect_spannedTurn
    {bound final : Nat}
    {reads : List ReadSegment}
    (boundary : OnBoundary input position)
    (run : (collect turn bound).runAt input position = .ok (reads, final)) :
    ∃ turns,
      (collect spannedTurn bound).runAt input position = .ok (turns, final) ∧
        turns.map Turn.read = reads ∧
        Contiguous position turns final := by
  -- The induction is on the turns left; that the cursor stands on a boundary carries it.
  induction bound generalizing position reads with
  | zero =>
      cases run
  | succ bound inductionHypothesis =>
      obtain ⟨outcome, next, turnRun, nextBoundary, forward, _, moved⟩ :=
        advances_turn input position boundary
      have spannedRun :
          spannedTurn.runAt input position =
            .ok (outcome.map fun read => { read := read, start := position, stop := next }, next) :=
        (runAt_bind rfl).trans ((runAt_bind turnRun).trans (runAt_bind rfl))
      have behind := (runAt_bind turnRun).symm.trans run
      cases outcome with
      | none =>
          cases behind
          have stayed : position = final := by
            simp at moved
            omega
          exact ⟨[], (runAt_bind spannedRun).trans rfl, rfl, stayed⟩
      | some read =>
          obtain ⟨others, stop, laterRun, same⟩ := runAt_bind_eq_ok_iff.mp behind
          cases same
          obtain ⟨turns, turnsRun, turnsRead, contiguous⟩ :=
            inductionHypothesis nextBoundary laterRun
          refine ⟨{ read := read, start := position, stop := next } :: turns,
            (runAt_bind spannedRun).trans ((runAt_bind turnsRun).trans rfl),
            by rw [List.map_cons, turnsRead], rfl, moved.mpr rfl, contiguous⟩

end Loop

section Branches

variable {whole : List Char}

/-- Behind the start of a branch every segment has a combinator. -/
theorem turn?_eq_joinedSegment?
    (later : text.length < whole.length) :
    turn? whole text = joinedSegment? text := by
  unfold turn? joinedSegment?
  cases combinator? text with
  | none =>
      exact if_pos (Or.inl later)
  | some read =>
      rfl

theorem many_turn?_of_length_lt
    (later : text.length < whole.length) :
    many (turn? whole) text = many joinedSegment? text := by
  induction text using many.induct (turn? whole) with
  | case1 text stuck =>
      rw [many_of_none stuck, many_of_none (turn?_eq_joinedSegment? later ▸ stuck)]
  | case2 text read rest stepped shorter inductionHypothesis =>
      have joined := turn?_eq_joinedSegment? later ▸ stepped
      rw [many_of_some stepped shorter, many_of_some joined shorter,
        inductionHypothesis (by omega)]
  | case3 text read rest stepped notShorter =>
      exact absurd (Consumes.length_lt (consumes_turn? whole) stepped) notShorter

theorem many_turn?_eq
    {read : ReadSegment}
    {rest : List Char}
    (stepped : turn? whole whole = some (read, rest)) :
    many (turn? whole) whole =
      (read :: (many joinedSegment? rest).1, (many joinedSegment? rest).2) := by
  have shorter := Consumes.length_lt (consumes_turn? whole) stepped
  rw [many_of_some stepped shorter, many_turn?_of_length_lt shorter]

/-- The turns read the segments of a branch, up to an empty one in front. -/
theorem segmentsOf_many_turn? (whole : List Char) :
    segmentsOf (many (turn? whole) whole).1 = segmentsOf (readSegments whole).1 ∧
      (many (turn? whole) whole).2 = (readSegments whole).2 := by
  cases found : combinator? whole with
  | some read =>
      have stepped : turn? whole whole = some (readSegment read.1 read.2) := by
        rw [turn?, found]
      have joined : joinedSegment? whole = some (readSegment read.1 read.2) := by
        rw [joinedSegment?, found]
        rfl
      have shorter := Consumes.length_lt (consumes_turn? whole) stepped
      have segments : readSegments whole = many joinedSegment? whole := by
        rw [readSegments, leadingSegment, found]
        rfl
      rw [many_turn?_eq stepped, segments, many_of_some joined shorter]
      exact ⟨rfl, rfl⟩
  | none =>
      obtain ⟨front, shape, isEmpty⟩ := exists_front_of_readSegment .descendant whole
      rw [readSegments, leadingSegment, found]
      by_cases nothing : (readSegment .descendant whole).1.segment.isEmpty = true
      · -- The empty segment in front is read by no turn, and it is dropped anyway.
        have stuck : turn? whole whole = none := by
          rw [turn?, found]
          exact if_pos (Or.inr nothing)
        rw [isEmpty.mp nothing, List.nil_append] at shape
        have unjoined : joinedSegment? whole = none := by
          rw [joinedSegment?, found]
          rfl
        dsimp only
        rw [many_of_none stuck, ← shape, many_of_none unjoined, List.append_nil,
          segmentsOf_cons_of_isEmpty nothing]
        exact ⟨rfl, rfl⟩
      · have stepped : turn? whole whole = some (readSegment .descendant whole) := by
          rw [turn?, found]
          exact if_neg (not_or.mpr ⟨Nat.lt_irrefl _, nothing⟩)
        rw [many_turn?_eq stepped]
        exact ⟨rfl, rfl⟩

/-- The loop over a branch ends, and what it read is what is read of the branch. -/
theorem exists_runAt_turns (branch : String) :
    ∃ turns final,
      (collect spannedTurn (branch.utf8ByteSize + 1)).runAt branch 0 = .ok (turns, final) ∧
        Contiguous 0 turns final ∧
        segmentsOf (turns.map Turn.read) = segmentsOf (readSegments branch.toList).1 ∧
        Stands branch final (readSegments branch.toList).2 := by
  have stands : Stands branch 0 branch.toList := ⟨[], rfl, rfl⟩
  have enough : branch.toList.length < branch.utf8ByteSize + 1 := Nat.lt_succ_of_le stands.length_le
  obtain ⟨same, rest⟩ := segmentsOf_many_turn? branch.toList
  obtain ⟨final, run, standsFinal⟩ :=
    reads_collect readsTest_turn (consumes_turn? branch.toList) enough 0 stands
  obtain ⟨turns, turnsRun, reads, contiguous⟩ :=
    exists_runAt_collect_spannedTurn (onBoundary_iff_exists_stands.mpr ⟨_, stands⟩) run
  exact ⟨turns, final, turnsRun, contiguous, by rw [reads, same], rest ▸ standsFinal⟩

/-- Reading a branch by a cursor never fails and gives what reading its text gives. -/
theorem readByCursor_eq_parse (branch : String) :
    Branch.readByCursor branch = .ok (Branch.parse branch) := by
  have runs : ∃ final, CursorReader.branch.runAt branch 0 = .ok (Branch.parse branch, final) := by
    cases blank : isBlankText branch with
    | true =>
        refine ⟨0, (runAt_bind rfl).trans ?_⟩
        rw [if_pos blank, Branch.parse, if_pos blank]
        rfl
    | false =>
        obtain ⟨turns, final, turnsRun, _, segments, stands⟩ := exists_runAt_turns branch
        refine ⟨final, (runAt_bind rfl).trans ?_⟩
        rw [if_neg (by simp [blank]), Branch.parse, if_neg (by simp [blank])]
        refine (runAt_bind turnsRun).trans ((runAt_bind rfl).trans ?_)
        dsimp only
        rw [segments]
        have lengths := stands.position_add
        by_cases complete : (readSegments branch.toList).2 = []
        · rw [complete, byteLength_nil] at lengths
          rw [if_pos (by omega), complete]
          cases segmentsOf (readSegments branch.toList).1 <;> rfl
        · have remains := byteLength_pos_iff.mpr complete
          obtain ⟨stop, restRun, standsStop⟩ := reads_rest _ final stands
          rw [stands.position_eq standsStop] at restRun
          have offset :
              branch.utf8ByteSize - (String.ofList (readSegments branch.toList).2).utf8ByteSize =
                final := by
            rw [← lengths]
            exact Nat.add_sub_cancel final _
          rw [if_neg (by omega), if_neg (by simpa using complete), offset]
          exact (runAt_bind restRun).trans rfl
  obtain ⟨final, run⟩ := runs
  rw [Branch.readByCursor, run]
  rfl

end Branches

/-- Turns that stand side by side are no more than the bytes they stand on. -/
theorem add_length_le_of_contiguous
    {turns : List Turn}
    {start stop : Nat}
    (contiguous : Contiguous start turns stop) :
    start + turns.length ≤ stop := by
  induction turns generalizing start with
  | nil =>
      exact Nat.le_of_eq contiguous
  | cons turn turns inductionHypothesis =>
      obtain ⟨rfl, forward, later⟩ := contiguous
      have behind := inductionHypothesis later
      rw [List.length_cons]
      omega

/--
A branch can be cut at its boundaries and nowhere else, and from every boundary the parts of its
reading get to a boundary that is not further back, without a fault. They stay exactly where nothing
was read: no character, no letters, no name, no combinator, no test in brackets, no pseudo-class, an
empty segment. A turn of the loop over a branch moves the cursor unless it leaves the loop. So the
loop ends after at most one turn for each byte and one more, its turns standing side by side from
the start of the branch to the boundary where reading stops. All parts read what the readers of
texts read, and so reading a branch with a cursor never fails and gives what reading its text gives.
-/
theorem cursor_moves_forward :
    (∀ input position,
      OnBoundary input position ↔
        ∃ text, CursorReader.rest.runAt input position = .ok (text, position)) ∧
    (∀ c, Advances (eat c) id) ∧
    (∀ literal, Advances (eatLiteral literal) fun eaten => eaten && !literal.isEmpty) ∧
    (∀ inClass, Advances (takeWhile inClass) fun letters => !letters.isEmpty) ∧
    Advances ident Option.isSome ∧
    Advances combinator Option.isSome ∧
    Advances attributeTest Option.isSome ∧
    Advances pseudo Option.isSome ∧
    Advances simpleSelector (fun read => !read.segment.isEmpty) ∧
    Advances turn Option.isSome ∧
    (∀ input,
      ReadsTest input ident ident? ∧
        ReadsTest input combinator combinator? ∧
        ReadsTest input attributeTest attributeTest? ∧
        ReadsTest input pseudo pseudo? ∧
        ∀ text,
          Reads input simpleSelector text
            (readSegment .descendant text).1 (readSegment .descendant text).2) ∧
    ∀ branch,
      (∃ turns final,
        turns.length ≤ branch.utf8ByteSize ∧
          (∀ bound, turns.length < bound →
            (collect spannedTurn bound).runAt branch 0 = .ok (turns, final)) ∧
          Contiguous 0 turns final ∧
          OnBoundary branch final ∧
          final ≤ branch.utf8ByteSize) ∧
      Branch.readByCursor branch = .ok (Branch.parse branch) := by
  refine ⟨fun _ _ => onBoundary_iff_runAt_rest, advances_eat, advances_eatLiteral,
    advances_takeWhile, advances_of_readsTest (fun _ => readsTest_ident) fun _ => consumes_ident?,
    advances_of_readsTest (fun _ => readsTest_combinator) fun _ => consumes_combinator?,
    advances_of_readsTest (fun _ => readsTest_attributeTest) fun _ => consumes_attributeTest?,
    advances_of_readsTest (fun _ => readsTest_pseudo) fun _ => consumes_pseudo?,
    advances_simpleSelector, advances_turn,
    fun _ => ⟨readsTest_ident, readsTest_combinator, readsTest_attributeTest, readsTest_pseudo,
      reads_simpleSelector⟩,
    fun branch => ⟨?_, readByCursor_eq_parse branch⟩⟩
  obtain ⟨turns, final, run, contiguous, _, stands⟩ := exists_runAt_turns branch
  have bytes := stands.position_add
  have few := add_length_le_of_contiguous contiguous
  exact ⟨turns, final, by omega, fun _ enough => runAt_collect_of_length_lt run enough, contiguous,
    onBoundary_iff_exists_stands.mpr ⟨_, stands⟩, by omega⟩

/-- A test with letters of several bytes, in front of a combinator and a letter that no test has. -/
theorem cursor_moves_forward_accented :
    let branch := "p[title='é–'] > ü"
    let test : AttributeTest := { name := "title", comparison := some (.equals, "é–") }
    OnBoundary branch 1 ∧
      attributeTest.runAt branch 1 = .ok (some test, 16) ∧
      OnBoundary branch 16 ∧
      Branch.readByCursor branch = .ok (.error (.unparsed branch 19 "ü")) := by
  intro branch test
  obtain ⟨cuts, _, _, _, _, _, attributes, _, _, _, _, branches⟩ := cursor_moves_forward
  have boundary : OnBoundary branch 1 :=
    (cuts branch 1).mpr ⟨"[title='é–'] > ü".toList, by decide +kernel⟩
  have read : attributeTest.runAt branch 1 = .ok (some test, 16) := by
    decide +kernel
  obtain ⟨_, _, run, reached, _⟩ := attributes branch 1 boundary
  cases read.symm.trans run
  refine ⟨boundary, read, reached, ?_⟩
  rw [(branches branch).2]
  decide +kernel

end CursorReader

end MarkupQuery.Selector
