import MarkupQuery.Proofs.Selector.Parsing

namespace MarkupQuery.Selector

/-!
# Reading goes past what can be read

What follows a text may change how reading goes on behind it: a name may be longer, a run may have
another glyph. It never makes reading stop earlier. So a text that reading uses up is gone past in
front of every other text, and reading stops where no longer beginning of a branch can be read.
-/

open MarkupQuery.Text

/-- Reading a text in front of any other leaves nothing but an end of that other text. -/
def GoesPast
    {α : Type}
    (read : List Char → α × List Char)
    (front : List Char) : Prop :=
  ∀ more, (read (front ++ more)).2 <:+ more

section Readers

variable {α β : Type} {first : List Char → α × List Char} {second : List Char → β × List Char}
  {front later : List Char}

/-- A reader leaves an end of the text that it is given. -/
theorem goesPast_nil_iff :
    GoesPast first [] ↔ ∀ text, (first text).2 <:+ text :=
  Iff.rfl

/--
Of two readers in turn each goes past its part, provided that the first leaves the part of the
second as it is, if that is not empty.
-/
theorem GoesPast.comp
    (firstPast : GoesPast first front)
    (secondPast : GoesPast second later)
    (secondLeaves : GoesPast second [])
    (exact : later ≠ [] → ∀ more, (first (front ++ (later ++ more))).2 = later ++ more) :
    GoesPast (fun text => second (first text).2) (front ++ later) := by
  intro more
  change (second (first (front ++ later ++ more)).2).2 <:+ more
  by_cases nothing : later = []
  · subst nothing
    rw [List.append_nil]
    exact (goesPast_nil_iff.mp secondLeaves _).trans (firstPast more)
  · rw [List.append_assoc, exact nothing more]
    exact secondPast more

/-- Two readings in a row leave an end of the text if each of them does. -/
theorem GoesPast.comp_nil
    (firstLeaves : GoesPast first [])
    (secondLeaves : GoesPast second []) :
    GoesPast (fun text => second (first text).2) [] :=
  firstLeaves.comp secondLeaves secondLeaves fun nonempty => absurd rfl nonempty

end Readers

section Repetition

variable {α β : Type} {step? : List Char → Option (α × List Char)}

/-- Reading over and over leaves an end of the text if each reading does. -/
theorem goesPast_nil_many
    (leaves : ∀ text value rest, step? text = some (value, rest) → rest <:+ text) :
    GoesPast (many step?) [] := by
  intro text
  rw [List.nil_append]
  induction text using many.induct step? with
  | case1 text stuck =>
      simp [many_of_none stuck]
  | case2 text value rest stepped shorter inductionHypothesis =>
      rw [many_of_some stepped shorter]
      exact inductionHypothesis.trans (leaves text value rest stepped)
  | case3 text value rest stepped notShorter =>
      rw [many, stepped]
      simp only [notShorter, if_false]
      exact List.suffix_refl text

/-- Repetition goes past items that are read one after the other, the last one as far as it goes. -/
theorem goesPast_many
    {itemText : β → List Char}
    (leaves : ∀ text value rest, step? text = some (value, rest) → rest <:+ text)
    (nonempty : ∀ item, itemText item ≠ [])
    (past :
      ∀ item more, ∃ value rest,
        step? (itemText item ++ more) = some (value, rest) ∧ rest <:+ more)
    (exact :
      ∀ item next more, ∃ value,
        step? (itemText item ++ (itemText next ++ more)) = some (value, itemText next ++ more))
    (items : List β) :
    GoesPast (many step?) (items.flatMap itemText) := by
  have shorter :
      ∀ item {rest more : List Char}, rest <:+ more →
        rest.length < (itemText item ++ more).length := by
    intro item rest more leftOver
    have positive := List.length_pos_iff.mpr (nonempty item)
    have bounded := leftOver.length_le
    rw [List.length_append]
    omega
  induction items with
  | nil =>
      exact goesPast_nil_many leaves
  | cons item items inductionHypothesis =>
      intro more
      rw [List.flatMap_cons, List.append_assoc]
      cases items with
      | nil =>
          obtain ⟨value, rest, read, leftOver⟩ := past item more
          rw [List.flatMap_nil, List.nil_append, many_of_some read (shorter item leftOver)]
          exact (goesPast_nil_many leaves rest).trans leftOver
      | cons next others =>
          obtain ⟨value, read⟩ := exact item next (others.flatMap itemText ++ more)
          rw [← List.append_assoc (itemText next), ← List.flatMap_cons] at read
          rw [many_of_some read (shorter item (List.suffix_refl _))]
          exact inductionHypothesis more

end Repetition

section Tests

variable {text more : List Char}

/-- A word is read together with what goes on with it. -/
theorem exists_run?_append
    {inClass : Char → Bool}
    (word : Word inClass)
    (more : List Char) :
    ∃ letters, run? inClass (word.letters ++ more) = some (letters, more.dropWhile inClass) := by
  obtain ⟨c, rest, shape, inside⟩ := word.exists_cons
  refine ⟨c :: (rest ++ more).takeWhile inClass, ?_⟩
  rw [run?, List.dropWhile_append_of_pos word.inside, shape, List.cons_append,
    List.takeWhile_cons_of_pos inside]

/-- An identifier behind a sign is read to its end at least, whatever follows. -/
theorem exists_signedIdent?_append
    (sign : Char)
    (ident : WrittenIdent)
    (more : List Char) :
    ∃ name rest,
      signedIdent? sign (sign :: ident.letters ++ more) = some (name, rest) ∧ rest <:+ more := by
  obtain ⟨letters, read⟩ :
      ∃ letters, ident? (ident.letters ++ more) = some (letters, more.dropWhile isIdentChar) :=
    exists_run?_append ident more
  refine ⟨String.ofList letters, more.dropWhile isIdentChar, ?_, List.dropWhile_suffix _⟩
  simp [signedIdent?, read]

/-- A tag that is written is read to its end at least. -/
theorem goesPast_tagTest (tag : Option WrittenTag) :
    GoesPast tagTest ((tag.map WrittenTag.text).getD []) := by
  intro more
  match tag with
  | none =>
      obtain ⟨_, shape, _⟩ := exists_written_of_tagTest more
      exact ⟨_, shape.symm⟩
  | some .universal =>
      exact List.suffix_refl more
  | some (.named name) =>
      obtain ⟨c, letters, shape, alphanum⟩ := name.exists_cons
      have notStar : c ≠ '*' := by
        rintro rfl
        simp at alphanum
      obtain ⟨read, run⟩ := exists_run?_append name more
      have remaining : (tagTest (name.letters ++ more)).2 = more.dropWhile Char.isAlphanum := by
        unfold tagTest
        split
        · next tail star =>
            rw [shape, List.cons_append, List.cons.injEq] at star
            exact absurd star.1 notStar
        · rw [run]
      exact remaining ▸ List.dropWhile_suffix _

/-- An id that is written is read to its end at least. -/
theorem goesPast_idTest (id : Option WrittenIdent) :
    GoesPast idTest ((id.map fun id => '#' :: id.letters).getD []) := by
  intro more
  cases id with
  | none =>
      obtain ⟨_, shape, _⟩ := exists_written_of_idTest more
      exact ⟨_, shape.symm⟩
  | some id =>
      obtain ⟨name, rest, read, leftOver⟩ := exists_signedIdent?_append '#' id more
      simp only [Option.map_some, Option.getD_some, idTest, read]
      exact leftOver

/-- Classes that are written are read to their end at least. -/
theorem goesPast_classes (classes : List WrittenIdent) :
    GoesPast (many (signedIdent? '.'))
      (classes.flatMap fun className => '.' :: className.letters) := by
  refine goesPast_many ?_ (fun _ => List.cons_ne_nil _ _) (exists_signedIdent?_append '.') ?_ classes
  · intro text name rest read
    obtain ⟨ident, shape, _⟩ := exists_written_of_signedIdent? read
    exact ⟨_, shape.symm⟩
  · intro ident next more
    exact ⟨_, signedIdent?_written '.' ident (fromStage_cons.mpr (by decide))⟩

/-- Attribute tests that are written are read to their end at least. -/
theorem goesPast_attributes (attributes : List WrittenAttribute) :
    GoesPast (many attributeTest?)
      (attributes.flatMap WrittenAttribute.text) := by
  refine goesPast_many ?_ (fun _ => List.cons_ne_nil _ _) ?_ ?_ attributes
  · intro text test rest read
    obtain ⟨written, shape, _⟩ := exists_written_of_attributeTest? read
    exact ⟨_, shape.symm⟩
  · intro test more
    exact ⟨_, more, attributeTest?_written test, List.suffix_refl more⟩
  · intro test next more
    exact ⟨_, attributeTest?_written test⟩

/-- Pseudo-classes that are written are read to their end at least. -/
theorem goesPast_pseudos (pseudos : List WrittenPseudo) :
    GoesPast (many pseudo?) (pseudos.flatMap WrittenPseudo.text) := by
  refine goesPast_many ?_ ?_ ?_ ?_ pseudos
  · intro text pseudo rest read
    obtain ⟨written, shape, _⟩ := exists_written_of_pseudo? read
    exact ⟨_, shape.symm⟩
  · intro pseudo
    cases pseudo <;> exact List.cons_ne_nil _ _
  · intro pseudo more
    exact ⟨_, more, pseudo?_written pseudo, List.suffix_refl more⟩
  · intro pseudo next more
    exact ⟨_, pseudo?_written pseudo⟩

end Tests

section Segments

/-- A segment that is written is gone past, its last part as far as that goes. -/
theorem goesPast_readSegment
    (simple : WrittenSimple)
    (combinator : Combinator) :
    GoesPast (readSegment combinator) simple.text := by
  have nothing : FromStage 5 [] := fromStage_nil
  have fromPseudos := simple.fromStage_pseudosText nothing
  have fromAttributes := simple.fromStage_attributesText fromPseudos
  have fromClasses := simple.fromStage_classesText fromAttributes
  have fromId := simple.fromStage_idText fromClasses
  rw [List.append_nil] at fromPseudos fromAttributes fromClasses fromId
  -- Each part is read exactly in front of the next ones, unless these are empty.
  have attributes :=
    (goesPast_attributes simple.attributes).comp (goesPast_pseudos simple.pseudos)
      (goesPast_pseudos [])
      fun nonempty more =>
        congrArg Prod.snd (attributes_written simple.attributes (fromPseudos.append nonempty more))
  have leavesAttributes := (goesPast_attributes []).comp_nil (goesPast_pseudos [])
  have classes :=
    (goesPast_classes simple.classes).comp attributes leavesAttributes
      fun nonempty more =>
        congrArg Prod.snd (classes_written simple.classes (fromAttributes.append nonempty more))
  have leavesClasses := (goesPast_classes []).comp_nil leavesAttributes
  have id :=
    (goesPast_idTest simple.id).comp classes leavesClasses
      fun nonempty more =>
        congrArg Prod.snd (idTest_written simple.id (fromClasses.append nonempty more))
  have leavesId := (goesPast_idTest none).comp_nil leavesClasses
  exact (goesPast_tagTest simple.tag).comp id leavesId
    fun nonempty more =>
      congrArg Prod.snd (tagTest_written simple.tag (fromId.append nonempty more))

/-- Reading a segment leaves an end of the text. -/
theorem goesPast_nil_readSegment (combinator : Combinator) :
    GoesPast (readSegment combinator) [] :=
  goesPast_readSegment {} combinator

/-- Reading segments behind the first leaves an end of the text. -/
theorem goesPast_nil_many_joinedSegment? :
    GoesPast (many joinedSegment?) [] := by
  intro text
  obtain ⟨_, shape, _⟩ := exists_tail_of_many text
  exact ⟨_, shape.symm⟩

/-- Behind a whole run reading goes on with a segment. -/
theorem many_joinedSegment?_run_rest
    {run text : List Char}
    (runChars : ∀ c ∈ run, isRunChar c = true)
    (nonempty : run ≠ [])
    (stops : Stops isRunChar text) :
    (many joinedSegment? (run ++ text)).2 =
      (many joinedSegment? (readSegment (runCombinator run) text).2).2 := by
  have shorter := (goesPast_nil_readSegment (runCombinator run) text).length_le
  rw [List.nil_append] at shorter
  generalize segment : readSegment (runCombinator run) text = read at shorter ⊢
  obtain ⟨_, _, reads⟩ := many_joinedSegment?_run runChars nonempty stops segment shorter
  rw [reads]

/-- Behind a tail that ends with a run, reading goes on with a segment. -/
theorem many_joinedSegment?_tail_rest
    (tail : WrittenTail)
    (lastRun : tail.trailing ≠ [])
    {text : List Char}
    (stops : Stops isRunChar text) :
    (many joinedSegment? (tail.text ++ text)).2 =
      (many joinedSegment? (readSegment (runCombinator tail.trailing) text).2).2 := by
  induction tail using WrittenTail.induction with
  | ofRun run runChars =>
      exact many_joinedSegment?_run_rest runChars lastRun stops
  | cons segment nonempty tail inductionHypothesis =>
      have tailNonempty : tail.text ≠ [] :=
        List.append_ne_nil_of_right_ne_nil _ lastRun
      have here :=
        segment.simple.readSegment_text (runCombinator segment.run)
          (tail.fromStage_text.append tailNonempty text)
      rw [WrittenTail.text_cons, List.append_assoc, List.append_assoc,
        many_joinedSegment?_run_rest segment.runChars nonempty (segment.stops_simple _), here]
      exact inductionHypothesis lastRun

/-- The segments behind the first are read to their end at least, with the run behind them. -/
theorem goesPast_tail (tail : WrittenTail) :
    GoesPast (many joinedSegment?) tail.text := by
  induction tail using WrittenTail.induction with
  | ofRun run runChars =>
      intro more
      rw [WrittenTail.text_ofRun]
      by_cases nothing : run = []
      · subst nothing
        exact goesPast_nil_many_joinedSegment? more
      · -- The run goes on as far as there are run characters behind it.
        have allRunChars : ∀ c ∈ run ++ more.takeWhile isRunChar, isRunChar c = true := by
          intro c member
          rcases List.mem_append.mp member with inRun | behind
          · exact runChars c inRun
          · exact List.all_eq_true.mp List.all_takeWhile c behind
        have nonempty : run ++ more.takeWhile isRunChar ≠ [] :=
          List.append_ne_nil_of_left_ne_nil nothing _
        have rest := many_joinedSegment?_run_rest allRunChars nonempty (stops_dropWhile more)
        rw [List.append_assoc, List.takeWhile_append_dropWhile] at rest
        have segment :=
          goesPast_nil_readSegment (runCombinator (run ++ more.takeWhile isRunChar))
            (more.dropWhile isRunChar)
        rw [rest]
        exact ((goesPast_nil_many_joinedSegment? _).trans segment).trans
          (List.dropWhile_suffix _)
  | cons segment nonempty tail inductionHypothesis =>
      have behind :=
        (goesPast_readSegment segment.simple (runCombinator segment.run)).comp
          inductionHypothesis goesPast_nil_many_joinedSegment?
          fun tailNonempty more =>
            congrArg Prod.snd
              (segment.simple.readSegment_text _ (tail.fromStage_text.append tailNonempty more))
      intro more
      rw [WrittenTail.text_cons, List.append_assoc, List.append_assoc,
        many_joinedSegment?_run_rest segment.runChars nonempty
          (segment.stops_simple (tail.text ++ more)), ← List.append_assoc]
      exact behind more

end Segments

section Branches

/-- Reading a branch leaves an end of the text. -/
theorem goesPast_nil_readSegments : GoesPast readSegments [] := by
  intro text
  have leading : (leadingSegment text).2 <:+ text := by
    unfold leadingSegment
    split
    · exact List.suffix_refl text
    · exact goesPast_nil_readSegment .descendant text
  exact (goesPast_nil_many_joinedSegment? _).trans leading

/-- A tail with anything in it begins with a run, and so does a branch that begins with the tail. -/
theorem goesPast_readSegments_tail
    (tail : WrittenTail)
    (nonempty : tail.text ≠ []) :
    GoesPast readSegments tail.text := by
  intro more
  have leading := leadingSegment_of_fromStage (tail.fromStage_text.append nonempty more)
  rw [readSegments]
  simp only [leading]
  exact goesPast_tail tail more

/-- A run alone is read to its end at least, whatever follows. -/
theorem goesPast_readSegments_run
    {run : List Char}
    (runChars : ∀ c ∈ run, isRunChar c = true) :
    GoesPast readSegments run := by
  by_cases nothing : run = []
  · exact nothing ▸ goesPast_nil_readSegments
  · exact goesPast_readSegments_tail (.ofRun run runChars) nothing

/-- A branch that is written is read to its end at least, whatever follows. -/
theorem goesPast_readSegments_written (written : WrittenBranch) :
    GoesPast readSegments written.text := by
  obtain ⟨first, rest⟩ := written
  by_cases leading : first.run = []
  · have behind :=
      (goesPast_readSegment first.simple .descendant).comp (goesPast_tail rest)
        goesPast_nil_many_joinedSegment?
        fun restNonempty more =>
          congrArg Prod.snd
            (first.simple.readSegment_text _ (rest.fromStage_text.append restNonempty more))
    intro more
    have noRun : combinator? (first.simple.text ++ rest.text ++ more) = none := by
      rw [List.append_assoc]
      exact combinator?_eq_none (first.stops_simple (rest.text ++ more))
    rw [WrittenBranch.text, WrittenSegment.text, leading, List.nil_append, readSegments,
      leadingSegment, noRun]
    exact behind more
  · have shape : WrittenBranch.text ⟨first, rest⟩ = (rest.cons first leading).text := by
      rw [WrittenTail.text_cons, WrittenBranch.text, WrittenSegment.text, List.append_assoc]
    rw [shape]
    refine goesPast_readSegments_tail _ ?_
    rw [WrittenTail.text_cons]
    exact List.append_ne_nil_of_left_ne_nil leading _

/-- What reading uses up, it goes past in front of every text. -/
theorem goesPast_readSegments_of_complete
    {text : List Char}
    (complete : (readSegments text).2 = []) :
    GoesPast readSegments text := by
  obtain ⟨front, shape, parts⟩ := exists_front_of_readSegments text
  rw [complete, List.append_nil] at shape
  rw [shape]
  rcases parts with ⟨runChars, _⟩ | ⟨written, same, _⟩
  · exact goesPast_readSegments_run runChars
  · exact same ▸ goesPast_readSegments_written written

end Branches

end MarkupQuery.Selector
