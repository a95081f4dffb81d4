import Mathlib.Data.List.Perm.Subperm
import MarkupQuery.Proofs.Tree.Links

namespace MarkupQuery.Tree

/-!
# Chains of links

Walks along a link are bounded by the number of nodes. Where links lead in no circle the bound is
never reached, so a walk sees every node that the links lead to.
-/

/-- The node reached by taking a link `steps` times. -/
def stepsAlong
    (link? : NodeId → Option NodeId) :
    (steps : Nat) → NodeId → Option NodeId
  | 0, id => some id
  | steps + 1, id => (link? id).bind (stepsAlong link? steps)

section Chains

variable {link? : NodeId → Option NodeId}

theorem chain_of_link
    {id next : NodeId}
    (link : link? id = some next)
    (steps : Nat) :
    chain link? (steps + 1) id = next :: chain link? steps next := by
  simp [chain, link]

/-- A walk goes along the link from each node to the next. -/
theorem isChain_chain
    (steps : Nat)
    (id : NodeId) :
    (id :: chain link? steps id).IsChain fun source next => link? source = some next := by
  induction steps generalizing id with
  | zero =>
      simp [chain]
  | succ steps inductionHypothesis =>
      cases link : link? id with
      | none =>
          simp [chain, link]
      | some next =>
          rw [chain_of_link link]
          exact List.isChain_cons_cons.mpr ⟨link, inductionHypothesis next⟩

/-- A walk sees only nodes that the links lead to. -/
theorem transGen_of_mem_chain
    {steps : Nat}
    {id target : NodeId}
    (member : target ∈ chain link? steps id) :
    Relation.TransGen (fun source next => link? source = some next) id target := by
  induction steps generalizing id with
  | zero =>
      simp [chain] at member
  | succ steps inductionHypothesis =>
      cases link : link? id with
      | none =>
          simp [chain, link] at member
      | some next =>
          rw [chain_of_link link] at member
          rcases List.mem_cons.mp member with here | later
          · exact here ▸ .single link
          · exact .head link (inductionHypothesis later)

/-- A walk that ended before its bound saw every node that the links lead to. -/
theorem mem_chain_of_transGen
    {steps : Nat}
    {id target : NodeId}
    (ended : (chain link? steps id).length < steps)
    (reached : Relation.TransGen (fun source next => link? source = some next) id target) :
    target ∈ chain link? steps id := by
  induction steps generalizing id with
  | zero =>
      simp at ended
  | succ steps inductionHypothesis =>
      obtain ⟨next, link, onwards⟩ := Relation.TransGen.head'_iff.mp reached
      rw [chain_of_link link] at ended ⊢
      rcases Relation.reflTransGen_iff_eq_or_transGen.mp onwards with same | further
      · simp [same]
      · have restEnded : (chain link? steps next).length < steps := by
          simpa using ended
        exact List.mem_cons_of_mem _ (inductionHypothesis restEnded further)

/-- A walk that ended before its bound is the same with a greater bound. -/
theorem chain_succ_of_ended
    {steps : Nat}
    {id : NodeId}
    (ended : (chain link? steps id).length < steps) :
    chain link? (steps + 1) id = chain link? steps id := by
  induction steps generalizing id with
  | zero =>
      simp at ended
  | succ steps inductionHypothesis =>
      cases link : link? id with
      | none =>
          simp [chain, link]
      | some next =>
          rw [chain_of_link link] at ended
          have restEnded : (chain link? steps next).length < steps := by
            simpa using ended
          rw [chain_of_link link, chain_of_link link, inductionHypothesis restEnded]

/-- A walk that ended before its bound ended at a node without the link. -/
theorem exists_steps_of_chain_ended
    {steps : Nat}
    {id : NodeId}
    (ended : (chain link? steps id).length < steps) :
    ∃ last,
      stepsAlong link? (chain link? steps id).length id = some last ∧
        link? last = none := by
  induction steps generalizing id with
  | zero =>
      simp at ended
  | succ steps inductionHypothesis =>
      cases link : link? id with
      | none =>
          refine ⟨id, ?_, link⟩
          simp [chain, link, stepsAlong]
      | some next =>
          rw [chain_of_link link] at ended ⊢
          have restEnded : (chain link? steps next).length < steps := by
            simpa using ended
          obtain ⟨last, walked, stuck⟩ := inductionHypothesis restEnded
          refine ⟨last, ?_, stuck⟩
          simp [stepsAlong, link, walked]

/-- Where links lead in no circle, a walk sees no node twice and not its start either. -/
theorem nodup_chain
    (acyclic :
      ∀ id, ¬ Relation.TransGen (fun source next => link? source = some next) id id)
    (steps : Nat)
    (id : NodeId) :
    (id :: chain link? steps id).Nodup := by
  induction steps generalizing id with
  | zero =>
      simp [chain]
  | succ steps inductionHypothesis =>
      refine List.nodup_cons.mpr
        ⟨fun member => acyclic id (transGen_of_mem_chain member), ?_⟩
      cases link : link? id with
      | none =>
          simp [chain, link]
      | some next =>
          rw [chain_of_link link]
          exact inductionHypothesis next

end Chains

/-- A list of different numbers below a bound is no longer than the bound. -/
theorem length_le_of_nodup_of_lt
    {ids : List NodeId}
    {bound : Nat}
    (noDuplicates : ids.Nodup)
    (inside : ∀ id ∈ ids, id < bound) :
    ids.length ≤ bound := by
  have subset : ids ⊆ List.range bound :=
    fun id member => List.mem_range.mpr (inside id member)
  simpa using (noDuplicates.subperm subset).length_le

namespace Linked

variable {tree : Tree}

/-- A node has fewer ancestors than there are nodes. -/
theorem length_ancestors_lt
    (linked : tree.Linked)
    (id : NodeId) :
    (tree.ancestors id).length < tree.size := by
  cases owned : tree.parent? id with
  | none =>
      obtain ⟨count, size⟩ := Nat.exists_eq_add_of_lt linked.nonempty
      simp [ancestors, chain, owned, size]
  | some parent =>
      have noDuplicates := nodup_chain linked.acyclic tree.size id
      have inside : ∀ query ∈ id :: chain tree.parent? tree.size id, query < tree.size := by
        intro query member
        rcases List.mem_cons.mp member with here | above
        · exact here ▸ lt_size_of_parent? owned
        · obtain ⟨lower, _, link⟩ :=
            Relation.TransGen.tail'_iff.mp (transGen_of_mem_chain above)
          exact linked.parent_lt link
      have bounded := length_le_of_nodup_of_lt noDuplicates inside
      simpa [ancestors, Nat.succ_le_iff] using bounded

/-- The ancestors of a child are its parent and the ancestors of that. -/
theorem ancestors_of_parent
    (linked : tree.Linked)
    {child parent : NodeId}
    (owned : tree.parent? child = some parent) :
    tree.ancestors child = parent :: tree.ancestors parent := by
  have ended := linked.length_ancestors_lt child
  obtain ⟨count, size⟩ := Nat.exists_eq_add_one_of_ne_zero (Nat.ne_of_gt linked.nonempty)
  rw [ancestors, size, chain_of_link owned, List.length_cons] at ended
  rw [ancestors, ancestors, size, chain_of_link owned,
    chain_succ_of_ended (Nat.lt_of_succ_lt_succ ended)]

/-- The ancestors of a node are all nodes above it. -/
theorem mem_ancestors_iff
    (linked : tree.Linked)
    {upper lower : NodeId} :
    upper ∈ tree.ancestors lower ↔ tree.Above upper lower := by
  constructor
  · exact transGen_of_mem_chain
  · exact mem_chain_of_transGen (linked.length_ancestors_lt lower)

/-- Parent links lead from every node to one without a parent, in fewer steps than nodes. -/
theorem exists_steps_to_top
    (linked : tree.Linked)
    (id : NodeId) :
    ∃ steps top,
      steps < tree.size ∧
        stepsAlong tree.parent? steps id = some top ∧
        tree.parent? top = none := by
  have ended := linked.length_ancestors_lt id
  obtain ⟨top, walked, stuck⟩ := exists_steps_of_chain_ended ended
  exact ⟨_, top, ended, walked, stuck⟩

end Linked

end MarkupQuery.Tree
