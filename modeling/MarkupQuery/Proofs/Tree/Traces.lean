import MarkupQuery.Proofs.Tree.WellLinked

namespace MarkupQuery.Builder

/-!
# Traces of building programs

The trace of a building program lists the builders on the way, after every step and also after the
steps inside a new child. It ends with what running the program gives, it goes on from there when
the program goes on, and what every change of a tree keeps holds of all trees along the way.
-/

open MarkupQuery.Tree

/-- A step is the last thing that its own trace shows. -/
theorem getLast?_stepTrace
    (builder : Builder)
    (step : BuildStep) :
    (builder.stepTrace step).getLast? = some (builder.step step) := by
  cases step with
  | element name text attributes steps =>
      rw [stepTrace, List.getLast?_concat]
  | _ =>
      rfl

/-- The trace of a program ends with the run of it, unless there is nothing to run. -/
theorem getLast?_trace
    (builder : Builder)
    (steps : List BuildStep) :
    (builder.trace steps).getLast?.getD builder = builder.run steps := by
  induction steps generalizing builder with
  | nil =>
      rfl
  | cons first rest inductionHypothesis =>
      rw [trace, run, ← inductionHypothesis, List.getLast?_append, getLast?_stepTrace]
      cases (trace (builder.step first) rest).getLast? with
      | none =>
          rfl
      | some reached =>
          rfl

/-- A program that goes on has the trace of its first part and then that of the rest from there. -/
theorem trace_append
    (builder : Builder)
    (earlier later : List BuildStep) :
    builder.trace (earlier ++ later) =
      builder.trace earlier ++ (builder.run earlier).trace later := by
  induction earlier generalizing builder with
  | nil =>
      rfl
  | cons first rest inductionHypothesis =>
      rw [List.cons_append, trace, inductionHypothesis, trace, run, List.append_assoc]

section Kept

variable {property : Tree → Prop} {reached : Builder}

theorem holds_of_mem_singleton
    (kept : KeptByChanges property)
    {builder : Builder}
    (holds : property builder.tree)
    {step : BuildStep}
    (member : reached ∈ [builder.step step]) :
    property reached.tree :=
  List.mem_singleton.mp member ▸ kept.keptWithTags.buildStep builder holds step

mutual

/-- What every change keeps holds after a step and after all steps inside it. -/
theorem holds_of_mem_stepTrace
    (kept : KeptByChanges property)
    (builder : Builder)
    (holds : property builder.tree) :
    ∀ step : BuildStep, reached ∈ builder.stepTrace step → property reached.tree
  | .element name text attributes steps, member => by
      rw [stepTrace, List.mem_append] at member
      rcases member with inside | after
      · have added := kept.keptWithTags.addElement builder.position name text attributes holds
        exact holds_of_mem_trace kept
          { builder.addElement name text attributes with position := builder.tree.size }
          added steps inside
      · exact holds_of_mem_singleton kept holds after
  | .enter _, member => holds_of_mem_singleton kept holds member
  | .text _, member => holds_of_mem_singleton kept holds member
  | .raw _, member => holds_of_mem_singleton kept holds member
  | .attribute _ _, member => holds_of_mem_singleton kept holds member
  | .attributeValues _ _, member => holds_of_mem_singleton kept holds member
  | .ownText _, member => holds_of_mem_singleton kept holds member

/-- What every change keeps holds all along a program. -/
theorem holds_of_mem_trace
    (kept : KeptByChanges property)
    (builder : Builder)
    (holds : property builder.tree) :
    ∀ steps : List BuildStep, reached ∈ builder.trace steps → property reached.tree
  | [], member => nomatch member
  | first :: rest, member => by
      rw [trace, List.mem_append] at member
      rcases member with inFirst | inRest
      · exact holds_of_mem_stepTrace kept builder holds first inFirst
      · exact holds_of_mem_trace kept (builder.step first)
          (kept.keptWithTags.buildStep builder holds first) rest inRest

end

/-- The links agree with each other not only at the end of a program but all along. -/
theorem linked_of_mem_trace
    {builder : Builder}
    (linked : builder.tree.Linked)
    {steps : List BuildStep}
    (member : reached ∈ builder.trace steps) :
    reached.tree.Linked :=
  holds_of_mem_trace keptByChanges_linked builder linked steps member

end Kept

end MarkupQuery.Builder
