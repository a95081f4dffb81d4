import MarkupQuery.Proofs.Tree.Moves

namespace MarkupQuery.Tree

/-!
# Every tree built is linked consistently

The agreement of parents, child lists and sibling links holds of the document alone and is kept by
every change, hence it holds after every run of edits.
-/

/-- Agreement is a matter of the links alone. -/
theorem Linked.of_sameLinks
    {tree other : Tree}
    (linked : tree.Linked)
    (same : tree.SameLinks other)
    (nonempty : 0 < other.size) :
    other.Linked where
  nonempty := nonempty
  mem_children_iff := by
    intro parent child
    rw [same.children, same.parent]
    exact linked.mem_children_iff
  nodup_children := by
    rw [same.children]
    exact linked.nodup_children
  siblings := by
    intro parent
    rw [same.children]
    refine (linked.siblings parent).congr ?_ ?_
    · intro id _
      rw [same.previous]
    · intro id _
      rw [same.next]
  orphan := by
    rw [same.parent, same.previous, same.next]
    exact linked.orphan
  acyclic := by
    intro id
    have unmoved : other.Above id id ↔ tree.Above id id := by
      rw [Above, Above, same.parent]
    exact fun circle => linked.acyclic id (unmoved.mp circle)

/-- In the document alone nothing is linked. -/
theorem linked_empty : Tree.empty.Linked := by
  have noParent : ∀ id, Tree.empty.parent? id = none := by
    intro id
    cases found : Tree.empty.get? id with
    | none =>
        simp [parent?, found]
    | some node =>
        simp [parent?, found, get?_empty id found]
  have noChildren : ∀ id, Tree.empty.children id = [] := by
    intro id
    cases found : Tree.empty.get? id with
    | none =>
        simp [children, found]
    | some node =>
        simp [children, found, get?_empty id found]
  have noSiblings :
      ∀ id, Tree.empty.previousSibling? id = none ∧ Tree.empty.nextSibling? id = none := by
    intro id
    cases found : Tree.empty.get? id with
    | none =>
        simp [previousSibling?, nextSibling?, found]
    | some node =>
        simp [previousSibling?, nextSibling?, found, get?_empty id found]
  exact {
    nonempty := by simp
    mem_children_iff := by simp [noParent, noChildren]
    nodup_children := by simp [noChildren]
    siblings := by simp [noChildren, SiblingChain]
    orphan := fun _ => noSiblings _
    acyclic := by
      intro id circle
      obtain ⟨next, link, _⟩ := Relation.TransGen.head'_iff.mp circle
      simp [noParent] at link
  }

/-- Every change keeps the records in agreement. -/
theorem keptByChanges_linked : KeptByChanges Linked where
  add := by
    intro tree kind linked
    exact linked.of_sameLinks (sameLinks_add tree kind) (by simp)
  append := by
    intro tree parent child linked
    exact linked.append parent child
  updateElement := by
    intro tree id change linked
    exact linked.of_sameLinks (sameLinks_updateElement tree id change)
      (by simpa using linked.nonempty)

/-- The records agree in every tree that edits build. -/
theorem linked_built (edits : List Edit) :
    (built edits).Linked :=
  keptByChanges_linked.of_built linked_empty edits

/-- Neighbours in a child list are linked to each other. -/
theorem Linked.neighbours_at
    {tree : Tree}
    (linked : tree.Linked)
    {parent index left right : Nat}
    (leftHere : (tree.children parent)[index]? = some left)
    (rightHere : (tree.children parent)[index + 1]? = some right) :
    tree.nextSibling? left = some right ∧ tree.previousSibling? right = some left := by
  obtain ⟨leftBound, leftIs⟩ := List.getElem?_eq_some_iff.mp leftHere
  obtain ⟨rightBound, rightIs⟩ := List.getElem?_eq_some_iff.mp rightHere
  have shape :
      tree.children parent =
        (tree.children parent).take index ++
          left :: right :: (tree.children parent).drop (index + 2) := by
    rw [← leftIs, ← rightIs, ← List.drop_eq_getElem_cons rightBound,
      ← List.drop_eq_getElem_cons leftBound, List.take_append_drop]
  have pairShape :
      tree.children parent =
        ((tree.children parent).take index ++ [left]) ++
          right :: (tree.children parent).drop (index + 2) := by
    simpa using shape
  have atLeft := linked.neighbours shape
  have atRight := linked.neighbours pairShape
  exact ⟨by simpa using atLeft.2, by simpa using atRight.1⟩

/--
In every tree that edits build, links and child lists name nodes of the arena, a node is listed
exactly once under its parent and nowhere else, neighbours in a child list are linked to each other
and its ends to nothing, a node without a parent has no neighbours, and parent links lead from
every node to one without a parent in fewer steps than there are nodes.
-/
theorem built_links_agree (edits : List Edit) :
    (∀ id link : NodeId,
        (built edits).parent? id = some link ∨
            (built edits).previousSibling? id = some link ∨
            (built edits).nextSibling? id = some link ∨
            link ∈ (built edits).children id →
          link < (built edits).size) ∧
      (∀ parent child : NodeId,
        child ∈ (built edits).children parent ↔ (built edits).parent? child = some parent) ∧
      (∀ parent : NodeId, ((built edits).children parent).Nodup) ∧
      (∀ parent first : NodeId,
        ((built edits).children parent).head? = some first →
          (built edits).previousSibling? first = none) ∧
      (∀ parent last : NodeId,
        ((built edits).children parent).getLast? = some last →
          (built edits).nextSibling? last = none) ∧
      (∀ (parent : NodeId) (index : Nat) (left right : NodeId),
        ((built edits).children parent)[index]? = some left →
          ((built edits).children parent)[index + 1]? = some right →
            (built edits).nextSibling? left = some right ∧
              (built edits).previousSibling? right = some left) ∧
      (∀ id : NodeId,
        (built edits).parent? id = none →
          (built edits).previousSibling? id = none ∧ (built edits).nextSibling? id = none) ∧
      (∀ id : NodeId, ∃ steps top,
        steps < (built edits).size ∧
          stepsAlong (built edits).parent? steps id = some top ∧
          (built edits).parent? top = none) := by
  have linked := linked_built edits
  refine ⟨?_, fun _ _ => linked.mem_children_iff, linked.nodup_children, ?_, ?_,
    fun _ _ _ _ => linked.neighbours_at, fun _ => linked.orphan, linked.exists_steps_to_top⟩
  · rintro id link (owner | previous | next | listed)
    · exact linked.parent_lt owner
    · obtain ⟨_, _, member⟩ := linked.siblings_mem_children (Or.inl previous)
      exact linked.child_lt member
    · obtain ⟨_, _, member⟩ := linked.siblings_mem_children (Or.inr next)
      exact linked.child_lt member
    · exact linked.child_lt listed
  · intro parent first head
    obtain ⟨rest, shape⟩ := List.head?_eq_some_iff.mp head
    rw [← List.nil_append (first :: rest)] at shape
    have here := linked.neighbours shape
    simpa using here.1
  · intro parent last ending
    obtain ⟨earlier, shape⟩ := List.getLast?_eq_some_iff.mp ending
    have here := linked.neighbours shape
    simpa using here.2

end MarkupQuery.Tree
