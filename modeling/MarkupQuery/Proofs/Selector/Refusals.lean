import MarkupQuery.Proofs.Selector.Advancing

namespace MarkupQuery.Selector

/-!
# Where reading a branch stops

A branch is refused when it is blank, when it is nothing but a run, and when reading stops before its
end. In the last case the error points behind the longest beginning of the branch that can be read,
whatever kind of test is left unfinished there.
-/

open MarkupQuery.Text

/-- A text is read to its end: it parses, or it is refused only for testing nothing. -/
def ReadsToEnd (text : String) : Prop :=
  (∃ segments, Branch.parse text = .ok segments) ∨
    Branch.parse text = .error (.noSimpleSelector text)

/--
What remains of a branch begins at an offset in bytes, between two characters. The text before it is
ASCII whitespace or is read to its end, and nothing longer that the branch begins with is.
-/
structure StopsAt
    (branch : String)
    (offset : Nat)
    (remainder : String) : Prop where
  inside : offset < branch.utf8ByteSize
  boundary : String.Pos.Raw.IsValid branch ⟨offset⟩
  front :
    ∃ front,
      branch = front ++ remainder ∧
        front.utf8ByteSize = offset ∧
        ((∀ c ∈ front.toList, isSpace c = true) ∨ ReadsToEnd front)
  longest :
    ∀ longer more : String,
      branch = longer ++ more → offset < longer.utf8ByteSize → ¬ ReadsToEnd longer

section Refused

variable {branch text remainder : String} {offset : Nat}

theorem parse_eq_empty_iff :
    Branch.parse branch = .error (.empty text) ↔ text = branch ∧ isBlankText branch = true := by
  unfold Branch.parse
  cases blank : isBlankText branch with
  | true =>
      simp [eq_comm]
  | false =>
      simp only [Bool.false_eq_true, if_false, and_false, iff_false]
      split
      · split <;> simp
      · simp

/-- A branch is refused for testing nothing if it is read to its end and nothing is kept. -/
theorem parse_eq_noSimpleSelector_iff :
    Branch.parse branch = .error (.noSimpleSelector text) ↔
      text = branch ∧
        isBlankText branch = false ∧
        (readSegments branch.toList).2 = [] ∧
        segmentsOf (readSegments branch.toList).1 = [] := by
  unfold Branch.parse
  cases blank : isBlankText branch with
  | true =>
      simp
  | false =>
      simp only [Bool.false_eq_true, if_false, List.isEmpty_iff, true_and]
      split
      · next complete =>
          split
          · next nothing =>
              simp [complete, nothing, eq_comm]
          · next kept =>
              simpa using fun _ _ => kept
      · next remains =>
          simp [remains]

/-- Otherwise a branch is refused for what remains of it. -/
theorem parse_eq_unparsed_iff :
    Branch.parse branch = .error (.unparsed text offset remainder) ↔
      text = branch ∧
        isBlankText branch = false ∧
        remainder ≠ "" ∧
        remainder.toList = (readSegments branch.toList).2 ∧
        offset = branch.utf8ByteSize - remainder.utf8ByteSize := by
  unfold Branch.parse
  cases blank : isBlankText branch with
  | true =>
      simp
  | false =>
      simp only [Bool.false_eq_true, if_false, List.isEmpty_iff, true_and]
      split
      · next complete =>
          rw [complete]
          split <;> simp +contextual
      · next remains =>
          constructor
          · intro same
            simp only [Except.error.injEq, SelectorError.unparsed.injEq] at same
            obtain ⟨rfl, rfl, rfl⟩ := same
            exact ⟨rfl, by simpa using remains, String.toList_ofList, rfl⟩
          · rintro ⟨rfl, _, rest, rfl⟩
            rw [← rest, String.ofList_toList]

/-- There are no other answers. -/
theorem parse_cases (branch : String) :
    Branch.parse branch = .error (.empty branch) ∨
      Branch.parse branch = .error (.noSimpleSelector branch) ∨
      (∃ offset remainder, Branch.parse branch = .error (.unparsed branch offset remainder)) ∨
      ∃ segments, Branch.parse branch = .ok segments := by
  unfold Branch.parse
  split
  · exact Or.inl rfl
  · dsimp only
    split
    · split
      · exact Or.inr (Or.inl rfl)
      · exact Or.inr (Or.inr (Or.inr ⟨_, rfl⟩))
    · exact Or.inr (Or.inr (Or.inl ⟨_, _, rfl⟩))

end Refused

section Runs

/-- A text that is read to its end tests nothing just if it is part of a run. -/
theorem segmentsOf_eq_nil_iff
    {text : List Char}
    (complete : (readSegments text).2 = []) :
    segmentsOf (readSegments text).1 = [] ↔ ∀ c ∈ text, isRunChar c = true := by
  obtain ⟨front, shape, parts⟩ := exists_front_of_readSegments text
  rw [complete, List.append_nil] at shape
  subst shape
  rcases parts with ⟨runChars, nothing⟩ | ⟨written, same, meaning⟩
  · exact iff_of_true nothing runChars
  · obtain ⟨c, tests, begins, outside, _⟩ := written.first.exists_head
    have member : c ∈ text := by
      rw [← same]
      simp [WrittenBranch.text, WrittenSegment.text, begins]
    refine iff_of_false ?_ fun runChars => ?_
    · rw [← meaning]
      exact List.cons_ne_nil _ _
    · simp [runChars c member] at outside

/-- The branches that test nothing are the runs that are not blank. -/
theorem parse_eq_noSimpleSelector_iff_run {branch : String} :
    Branch.parse branch = .error (.noSimpleSelector branch) ↔
      isBlankText branch = false ∧ ∀ c ∈ branch.toList, isRunChar c = true := by
  rw [parse_eq_noSimpleSelector_iff]
  constructor
  · rintro ⟨_, visible, complete, nothing⟩
    exact ⟨visible, (segmentsOf_eq_nil_iff complete).mp nothing⟩
  · rintro ⟨visible, runChars⟩
    have past := goesPast_readSegments_run runChars []
    rw [List.append_nil, List.suffix_nil] at past
    exact ⟨rfl, visible, past, (segmentsOf_eq_nil_iff past).mpr runChars⟩

/-- Of the characters of a run only the whitespace is blank. -/
theorem isSpace_of_isRunChar_of_isBlank
    {c : Char}
    (runChar : isRunChar c = true)
    (blank : isBlank c = true) :
    isSpace c = true := by
  rcases eq_of_isRunChar runChar with (rfl | rfl | rfl | rfl | rfl) | rfl | rfl | rfl <;>
    revert blank <;> decide

end Runs

section Stopping

variable {branch text remainder : String} {offset : Nat}

theorem ReadsToEnd.complete (reads : ReadsToEnd text) :
    (readSegments text.toList).2 = [] := by
  rcases reads with ⟨segments, parsed⟩ | refused
  · exact (parse_eq_ok_iff.mp parsed).2.1
  · exact (parse_eq_noSimpleSelector_iff.mp refused).2.2.1

/-- What is read of a branch is whitespace or could be read alone. -/
theorem exists_front_readsToEnd (text : List Char) :
    ∃ front : String,
      text = front.toList ++ (readSegments text).2 ∧
        ((∀ c ∈ front.toList, isSpace c = true) ∨ ReadsToEnd front) := by
  obtain ⟨front, shape, parts⟩ := exists_front_of_readSegments text
  refine ⟨String.ofList front, by rwa [String.toList_ofList], ?_⟩
  rcases parts with ⟨runChars, _⟩ | ⟨written, same, _⟩
  · rw [← String.toList_ofList (l := front)] at runChars
    cases blank : isBlankText (String.ofList front) with
    | true =>
        have allBlank := List.all_eq_true.mp blank
        exact Or.inl fun c member =>
          isSpace_of_isRunChar_of_isBlank (runChars c member) (allBlank c member)
    | false =>
        exact Or.inr (Or.inr (parse_eq_noSimpleSelector_iff_run.mpr ⟨blank, runChars⟩))
  · exact Or.inr (Or.inl ⟨_, parse_written (same.trans String.toList_ofList.symm)⟩)

/-- What remains of a branch remains of it behind every beginning that is read to its end. -/
theorem size_le_of_readsToEnd
    {longer more : String}
    (reads : ReadsToEnd longer)
    (remains : remainder.toList = (readSegments (longer ++ more).toList).2) :
    remainder.utf8ByteSize ≤ more.utf8ByteSize := by
  have past := goesPast_readSegments_of_complete reads.complete more.toList
  rw [← String.toList_append, ← remains] at past
  obtain ⟨between, shape⟩ := past
  have parts : more = String.ofList between ++ remainder := by
    rw [← String.toList_inj, String.toList_append, String.toList_ofList, shape]
  rw [parts, String.utf8ByteSize_append]
  exact Nat.le_add_left _ _

theorem stopsAt_of_unparsed
    (refused : Branch.parse branch = .error (.unparsed text offset remainder)) :
    StopsAt branch offset remainder := by
  obtain ⟨_, _, nonempty, remains, rfl⟩ := parse_eq_unparsed_iff.mp refused
  obtain ⟨front, shape, readable⟩ := exists_front_readsToEnd branch.toList
  have parts : branch = front ++ remainder := by
    rw [← String.toList_inj, String.toList_append, remains, ← shape]
  have size : branch.utf8ByteSize = front.utf8ByteSize + remainder.utf8ByteSize := by
    rw [← String.utf8ByteSize_append, ← parts]
  have positive : remainder.utf8ByteSize ≠ 0 := by
    simpa using nonempty
  have offset : branch.utf8ByteSize - remainder.utf8ByteSize = front.utf8ByteSize := by
    omega
  exact {
    inside := by omega
    boundary := String.Pos.Raw.isValid_iff_exists_append.mpr
      ⟨front, remainder, parts, by rw [offset]; rfl⟩
    front := ⟨front, parts, offset.symm, readable⟩
    longest := by
      intro longer more split beyond reads
      have bound := size_le_of_readsToEnd reads (split ▸ remains)
      have splitSize := congrArg String.utf8ByteSize split
      rw [String.utf8ByteSize_append] at splitSize
      omega
  }

end Stopping

/--
Every branch gets exactly one of four answers. It is empty if trimming leaves nothing of it. Else, if
it is a run, it tests nothing. Any other branch parses or is refused for what remains of it, and then
the error names the branch and points behind the longest beginning of it that is read to its end.
-/
theorem parse_outcome (branch : String) :
    (∀ text offset remainder,
        Branch.parse branch = .error (.unparsed text offset remainder) →
          text = branch ∧ StopsAt branch offset remainder) ∧
      (Branch.parse branch = .error (.empty branch) ↔ trim branch.toList = []) ∧
      (Branch.parse branch = .error (.noSimpleSelector branch) ↔
        trim branch.toList ≠ [] ∧ ∀ c ∈ branch.toList, isRunChar c = true) ∧
      (Branch.parse branch = .error (.empty branch) ∨
        Branch.parse branch = .error (.noSimpleSelector branch) ∨
        (∃ offset remainder, Branch.parse branch = .error (.unparsed branch offset remainder)) ∨
        ∃ segments, Branch.parse branch = .ok segments) := by
  refine ⟨?_, ?_, ?_, parse_cases branch⟩
  · intro text offset remainder refused
    exact ⟨(parse_eq_unparsed_iff.mp refused).1, stopsAt_of_unparsed refused⟩
  · rw [parse_eq_empty_iff, isBlankText_iff_trim]
    exact and_iff_right rfl
  · rw [parse_eq_noSimpleSelector_iff_run, ← Bool.not_eq_true, isBlankText_iff_trim]

/-- An attribute test that is not closed, behind one with a character of two bytes. -/
theorem parse_outcome_unclosed :
    let branch := "[title=\"é\"] > p[lang=\"x"
    Branch.parse branch = .error (.unparsed branch 16 "[lang=\"x") ∧
      StopsAt branch 16 "[lang=\"x" := by
  intro branch
  have refused : Branch.parse branch = .error (.unparsed branch 16 "[lang=\"x") := by
    decide +kernel
  obtain ⟨stops, _⟩ := parse_outcome branch
  exact ⟨refused, (stops branch 16 _ refused).2⟩

end MarkupQuery.Selector
