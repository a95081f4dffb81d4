import Mathlib.Data.List.Induction
import MarkupQuery.Proofs.Tree.WellLinked

namespace MarkupQuery.Tree

/-!
# What the traversals see

Descendants are enumerated downwards through child lists, ancestors upwards through parent links;
where the records agree the two walks are inverse. The siblings after a node are what its parent's
child list holds behind it.
-/

section Steps

variable {link? : NodeId → Option NodeId}

/-- The last of several steps may be split off instead of the first. -/
theorem stepsAlong_succ
    (steps : Nat)
    (id : NodeId) :
    stepsAlong link? (steps + 1) id = (stepsAlong link? steps id).bind link? := by
  induction steps generalizing id with
  | zero =>
      cases link : link? id <;> simp [stepsAlong, link]
  | succ steps inductionHypothesis =>
      cases link : link? id with
      | none =>
          simp [stepsAlong, link]
      | some next =>
          have rest := inductionHypothesis next
          rw [stepsAlong, link, Option.bind_some, rest]
          simp [stepsAlong, link]

/-- A walk that has ended does not go on. -/
theorem stepsAlong_add_of_ended
    {steps : Nat}
    {id : NodeId}
    (ended : stepsAlong link? steps id = none)
    (further : Nat) :
    stepsAlong link? (steps + further) id = none := by
  induction further with
  | zero =>
      exact ended
  | succ further inductionHypothesis =>
      rw [← Nat.add_assoc, stepsAlong_succ, inductionHypothesis, Option.bind_none]

/-- A walk sees what between one step and its bound many lead to. -/
theorem mem_chain_iff
    {bound : Nat}
    {id target : NodeId} :
    target ∈ chain link? bound id ↔
      ∃ steps, steps < bound ∧ stepsAlong link? (steps + 1) id = some target := by
  induction bound generalizing id with
  | zero =>
      simp [chain]
  | succ bound inductionHypothesis =>
      cases link : link? id with
      | none =>
          simp [chain, link, stepsAlong]
      | some next =>
          rw [chain_of_link link, List.mem_cons, inductionHypothesis]
          constructor
          · rintro (here | ⟨steps, bounded, walked⟩)
            · exact ⟨0, by omega, by simp [stepsAlong, link, here]⟩
            · exact ⟨steps + 1, by omega, by simpa [stepsAlong, link] using walked⟩
          · rintro ⟨steps, bounded, walked⟩
            rw [stepsAlong, link, Option.bind_some] at walked
            cases steps with
            | zero =>
                exact Or.inl (Option.some.inj walked).symm
            | succ steps =>
                exact Or.inr ⟨steps, by omega, walked⟩

end Steps

namespace Linked

variable {tree : Tree}

/-- A node is within some levels below another if as many parent links lead back. -/
theorem mem_below_iff
    (linked : tree.Linked)
    {depth : Nat}
    {upper lower : NodeId} :
    lower ∈ tree.below depth upper ↔
      ∃ steps, steps < depth ∧ stepsAlong tree.parent? (steps + 1) lower = some upper := by
  induction depth generalizing upper with
  | zero =>
      simp [below]
  | succ depth inductionHypothesis =>
      simp only [below, List.mem_flatMap, List.mem_cons, inductionHypothesis,
        linked.mem_children_iff]
      constructor
      · rintro ⟨child, owned, here | ⟨steps, bounded, walked⟩⟩
        · exact ⟨0, by omega, by simpa [stepsAlong, here] using owned⟩
        · refine ⟨steps + 1, by omega, ?_⟩
          rw [stepsAlong_succ, walked, Option.bind_some, owned]
      · rintro ⟨steps, bounded, walked⟩
        rw [stepsAlong_succ] at walked
        obtain ⟨child, before, owned⟩ := Option.bind_eq_some_iff.mp walked
        refine ⟨child, owned, ?_⟩
        cases steps with
        | zero =>
            exact Or.inl (Option.some.inj before)
        | succ steps =>
            exact Or.inr ⟨steps, by omega, before⟩

/-- The descendants of a node are the nodes of which it is an ancestor. -/
theorem mem_descendants_iff
    (linked : tree.Linked)
    {upper lower : NodeId} :
    lower ∈ tree.descendants upper ↔ upper ∈ tree.ancestors lower := by
  rw [descendants, ancestors, linked.mem_below_iff, mem_chain_iff]

/-- Parent links do not lead on for as many steps as there are nodes. -/
theorem stepsAlong_size
    (linked : tree.Linked)
    (id : NodeId) :
    stepsAlong tree.parent? tree.size id = none := by
  obtain ⟨steps, top, bounded, walked, stuck⟩ := linked.exists_steps_to_top id
  have ended : stepsAlong tree.parent? (steps + 1) id = none := by
    rw [stepsAlong_succ, walked, Option.bind_some, stuck]
  rw [← Nat.add_sub_cancel' bounded]
  exact stepsAlong_add_of_ended ended _

/-- A child list is no longer than the tree has nodes. -/
theorem length_children_le
    (linked : tree.Linked)
    (parent : NodeId) :
    (tree.children parent).length ≤ tree.size :=
  length_le_of_nodup_of_lt (linked.nodup_children parent)
    fun _ member => linked.child_lt member

end Linked

/-- Following the links of a chain forwards visits the chain in order. -/
theorem SiblingChain.chain_nextSibling
    {tree : Tree}
    {before : Option NodeId}
    {id : NodeId}
    {rest : List NodeId}
    (linked : tree.SiblingChain before (id :: rest) none)
    {bound : Nat}
    (enough : rest.length ≤ bound) :
    chain tree.nextSibling? bound id = rest := by
  induction rest generalizing before id bound with
  | nil =>
      have ending : tree.nextSibling? id = none := by
        simpa using linked.2.1
      cases bound <;> simp [chain, ending]
  | cons next rest inductionHypothesis =>
      have link : tree.nextSibling? id = some next := by
        simpa using linked.2.1
      cases bound with
      | zero =>
          simp at enough
      | succ bound =>
          rw [chain_of_link link,
            inductionHypothesis linked.2.2 (Nat.le_of_succ_le_succ enough)]

/-- Following the links of a chain backwards from what it is linked back to visits it in reverse. -/
theorem SiblingChain.chain_previousSibling
    {tree : Tree}
    {id : NodeId}
    {ids : List NodeId}
    (linked : tree.SiblingChain none ids (some id))
    (back : tree.previousSibling? id = ids.getLast?)
    {bound : Nat}
    (enough : ids.length ≤ bound) :
    chain tree.previousSibling? bound id = ids.reverse := by
  induction ids using List.reverseRecOn generalizing id bound with
  | nil =>
      have ending : tree.previousSibling? id = none := by
        simpa using back
      cases bound <;> simp [chain, ending]
  | append_singleton ids last inductionHypothesis =>
      have link : tree.previousSibling? id = some last := by
        simpa using back
      obtain ⟨front, previous, _⟩ := siblingChain_append.mp linked
      cases bound with
      | zero =>
          simp at enough
      | succ bound =>
          have fits : ids.length ≤ bound := by
            simpa using enough
          rw [chain_of_link link,
            inductionHypothesis (by simpa using front) (by simpa using previous) fits]
          simp

/-- The siblings after a child are what its parent lists behind it. -/
theorem Linked.followingSiblings_eq
    {tree : Tree}
    (linked : tree.Linked)
    {parent id : NodeId}
    {earlier later : List NodeId}
    (shape : tree.children parent = earlier ++ id :: later) :
    tree.followingSiblings id = later := by
  have chained := linked.siblings parent
  rw [shape, siblingChain_append] at chained
  refine chained.2.chain_nextSibling ?_
  have bounded := linked.length_children_le parent
  simp only [shape, List.length_append, List.length_cons] at bounded
  omega

/-- The siblings before a child are what its parent lists in front of it, the nearest first. -/
theorem Linked.precedingSiblings_eq
    {tree : Tree}
    (linked : tree.Linked)
    {parent id : NodeId}
    {earlier later : List NodeId}
    (shape : tree.children parent = earlier ++ id :: later) :
    tree.precedingSiblings id = earlier.reverse := by
  have chained := linked.siblings parent
  rw [shape, siblingChain_append] at chained
  refine chained.1.chain_previousSibling (linked.neighbours shape).1 ?_
  have bounded := linked.length_children_le parent
  simp only [shape, List.length_append, List.length_cons] at bounded
  omega

end MarkupQuery.Tree
