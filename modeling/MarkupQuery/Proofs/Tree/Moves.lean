import MarkupQuery.Proofs.Tree.Chains
import Mathlib.Tactic.SplitIfs

namespace MarkupQuery.Tree

/-!
# Taking a node out of its place and putting it at another

Detaching and attaching are first described by the links that they leave, one equation for each
look-up, and then shown to keep all records of the structure in agreement. An append is one after
the other.
-/

section Detaching

variable {tree : Tree} {id : NodeId}

@[simp] theorem size_detach :
    (tree.detach id).size = tree.size := by
  unfold detach
  split <;> simp

/-- There is nothing to detach a node without a parent from. -/
theorem detach_of_orphan (orphan : tree.parent? id = none) :
    tree.detach id = tree := by
  simp only [detach, orphan]

/-- A node is in no child list but that of its parent. -/
theorem Linked.not_mem_children_of_elsewhere
    (linked : tree.Linked)
    {query : NodeId}
    (elsewhere : tree.parent? id ≠ some query) :
    id ∉ tree.children query :=
  fun member => elsewhere (linked.mem_children_iff.mp member)

/-- A node without a parent is in no child list. -/
theorem Linked.not_mem_children_of_orphan
    (linked : tree.Linked)
    (orphan : tree.parent? id = none)
    (query : NodeId) :
    id ∉ tree.children query :=
  linked.not_mem_children_of_elsewhere (by simp [orphan])

/-- A node is in one child list at most. -/
theorem Linked.eq_of_mem_children
    (linked : tree.Linked)
    {first second : NodeId}
    (inFirst : id ∈ tree.children first)
    (inSecond : id ∈ tree.children second) :
    first = second := by
  have firstOwns := linked.mem_children_iff.mp inFirst
  have secondOwns := linked.mem_children_iff.mp inSecond
  exact Option.some.inj (firstOwns.symm.trans secondOwns)

/-- What detaching a child makes of each node. -/
theorem get?_detach
    {parent : NodeId}
    (owned : tree.parent? id = some parent)
    (query : NodeId) :
    (tree.detach id).get? query =
      (tree.get? query).map fun node => {
        kind := node.kind
        parent := if id = query then none else node.parent
        children :=
          if parent = query then
            node.children.filter fun child => child != id
          else
            node.children
        previous :=
          if tree.nextSibling? id = some query then
            tree.previousSibling? id
          else if id = query then
            none
          else
            node.previous
        next :=
          if tree.previousSibling? id = some query then
            tree.nextSibling? id
          else if id = query then
            none
          else
            node.next
      } := by
  simp only [detach, owned, get?_update, get?_setNext, get?_setPrevious]
  cases tree.get? query with
  | none =>
      rfl
  | some node =>
      simp only [Option.map_some, Option.some.injEq]
      split_ifs <;> rfl

/-- A node that is detached has no parent, and no other node changes its own. -/
theorem parent?_detach (query : NodeId) :
    (tree.detach id).parent? query =
      if query = id then none else tree.parent? query := by
  cases owned : tree.parent? id with
  | none =>
      rw [detach_of_orphan owned]
      split
      · next same =>
          rw [same, owned]
      · rfl
  | some parent =>
      unfold parent?
      rw [get?_detach owned]
      cases tree.get? query with
      | none =>
          simp
      | some node =>
          by_cases same : id = query
          · simp [same]
          · simp [same, Ne.symm same]

/-- A node is listed under its parent only. -/
theorem Linked.filter_children_of_elsewhere
    (linked : tree.Linked)
    {query : NodeId}
    (elsewhere : tree.parent? id ≠ some query) :
    (tree.children query).filter (fun child => child != id) = tree.children query := by
  refine List.filter_eq_self.mpr ?_
  intro child member
  have different : child ≠ id := by
    rintro rfl
    exact linked.not_mem_children_of_elsewhere elsewhere member
  simpa using different

/-- A node that is detached is taken out of all child lists. -/
theorem children_detach
    (linked : tree.Linked)
    (query : NodeId) :
    (tree.detach id).children query =
      (tree.children query).filter fun child => child != id := by
  cases owned : tree.parent? id with
  | none =>
      rw [detach_of_orphan owned,
        linked.filter_children_of_elsewhere (by simp [owned])]
  | some parent =>
      by_cases same : parent = query
      · subst query
        unfold children
        rw [get?_detach owned]
        cases tree.get? parent <;> simp
      · rw [linked.filter_children_of_elsewhere (by simp [owned, same])]
        unfold children
        rw [get?_detach owned]
        cases tree.get? query <;> simp [same]

/-- The siblings on the two sides of a child are different from it and from each other. -/
theorem Linked.siblings_apart
    (linked : tree.Linked)
    {parent : NodeId}
    {earlier later : List NodeId}
    (shape : tree.children parent = earlier ++ id :: later) :
    id ∉ earlier ++ later ∧ (earlier ++ later).Nodup := by
  have noDuplicates := linked.nodup_children parent
  rw [shape, List.nodup_middle] at noDuplicates
  exact List.nodup_cons.mp noDuplicates

/-- The old parent keeps the other children in their order. -/
theorem Linked.children_detach_parent
    (linked : tree.Linked)
    {parent : NodeId}
    {earlier later : List NodeId}
    (shape : tree.children parent = earlier ++ id :: later) :
    (tree.detach id).children parent = earlier ++ later := by
  obtain ⟨fresh, _⟩ := linked.siblings_apart shape
  have kept :
      (earlier ++ later).filter (fun child => child != id) = earlier ++ later := by
    refine List.filter_eq_self.mpr ?_
    intro child member
    have different : child ≠ id := fun same => fresh (same ▸ member)
    simpa using different
  rw [children_detach linked, shape]
  simpa using kept

/-- A child is not linked to itself. -/
theorem Linked.not_own_sibling
    (linked : tree.Linked)
    (id : NodeId) :
    tree.previousSibling? id ≠ some id ∧ tree.nextSibling? id ≠ some id := by
  cases owned : tree.parent? id with
  | none =>
      simp [linked.orphan owned]
  | some parent =>
      obtain ⟨earlier, later, shape⟩ := linked.exists_children_eq owned
      obtain ⟨previous, next⟩ := linked.neighbours shape
      obtain ⟨fresh, _⟩ := linked.siblings_apart shape
      rw [previous, next]
      constructor
      · intro last
        exact fresh (List.mem_append_left _ (List.mem_of_getLast? last))
      · intro head
        exact fresh (List.mem_append_right _ (List.mem_of_mem_head? head))

/-- A sibling link leads to a node of the arena. -/
theorem Linked.exists_sibling
    (linked : tree.Linked)
    {sibling : NodeId}
    (link :
      tree.previousSibling? id = some sibling ∨ tree.nextSibling? id = some sibling) :
    ∃ node, tree.get? sibling = some node := by
  obtain ⟨parent, _, member⟩ := linked.siblings_mem_children link
  have inside := linked.child_lt member
  exact ⟨_, Array.getElem?_eq_getElem inside⟩

/-- The next sibling of a node that is detached gets its previous one. -/
theorem previousSibling?_detach
    (linked : tree.Linked)
    (query : NodeId) :
    (tree.detach id).previousSibling? query =
      if query = id then
        none
      else if tree.nextSibling? id = some query then
        tree.previousSibling? id
      else
        tree.previousSibling? query := by
  cases owned : tree.parent? id with
  | none =>
      rw [detach_of_orphan owned]
      obtain ⟨previous, next⟩ := linked.orphan owned
      split
      · next same =>
          rw [same, previous]
      · simp [next]
  | some parent =>
      have notSelf := linked.not_own_sibling id
      unfold previousSibling?
      rw [get?_detach owned]
      cases found : tree.get? query with
      | none =>
          have notNext : tree.nextSibling? id ≠ some query := by
            intro link
            obtain ⟨node, present⟩ := linked.exists_sibling (Or.inr link)
            simp [found] at present
          simp [notNext]
      | some node =>
          by_cases same : query = id
          · subst query
            simp [notSelf.2]
          · simp [same, Ne.symm same, previousSibling?]

/-- The previous sibling of a node that is detached gets its next one. -/
theorem nextSibling?_detach
    (linked : tree.Linked)
    (query : NodeId) :
    (tree.detach id).nextSibling? query =
      if query = id then
        none
      else if tree.previousSibling? id = some query then
        tree.nextSibling? id
      else
        tree.nextSibling? query := by
  cases owned : tree.parent? id with
  | none =>
      rw [detach_of_orphan owned]
      obtain ⟨previous, next⟩ := linked.orphan owned
      split
      · next same =>
          rw [same, next]
      · simp [previous]
  | some parent =>
      have notSelf := linked.not_own_sibling id
      unfold nextSibling?
      rw [get?_detach owned]
      cases found : tree.get? query with
      | none =>
          have notPrevious : tree.previousSibling? id ≠ some query := by
            intro link
            obtain ⟨node, present⟩ := linked.exists_sibling (Or.inl link)
            simp [found] at present
          simp [notPrevious]
      | some node =>
          by_cases same : query = id
          · subst query
            simp [notSelf.1]
          · simp [same, Ne.symm same, nextSibling?]

/-- Detaching takes a node out of its siblings and joins those on both sides of it. -/
theorem Linked.siblings_detach_parent
    (linked : tree.Linked)
    {parent : NodeId}
    {earlier later : List NodeId}
    (shape : tree.children parent = earlier ++ id :: later) :
    (tree.detach id).SiblingChain none (earlier ++ later) none := by
  obtain ⟨fresh, restNodup⟩ := linked.siblings_apart shape
  rw [List.mem_append, not_or] at fresh
  obtain ⟨notEarlier, notLater⟩ := fresh
  obtain ⟨earlierNodup, laterNodup, apart⟩ := List.nodup_append.mp restNodup
  obtain ⟨previous, next⟩ := linked.neighbours shape
  have chain := linked.siblings parent
  rw [shape, siblingChain_append] at chain
  obtain ⟨earlierChain, _, _, laterChain⟩ := chain
  rw [siblingChain_append]
  constructor
  · refine earlierChain.redirectAfter earlierNodup ?_ ?_
    · intro query member
      have notId : query ≠ id := fun same => notEarlier (same ▸ member)
      have notNext : later.head? ≠ some query :=
        fun head => apart query member query (List.mem_of_mem_head? head) rfl
      rw [previousSibling?_detach linked, if_neg notId, next, if_neg notNext]
    · intro query member
      have notId : query ≠ id := fun same => notEarlier (same ▸ member)
      rw [nextSibling?_detach linked, if_neg notId, previous, next, Option.or_none]
  · refine laterChain.redirectBefore laterNodup ?_ ?_
    · intro query member
      have notId : query ≠ id := fun same => notLater (same ▸ member)
      have notPrevious : earlier.getLast? ≠ some query :=
        fun last => apart query (List.mem_of_getLast? last) query member rfl
      rw [nextSibling?_detach linked, if_neg notId, previous, if_neg notPrevious]
    · intro query member
      have notId : query ≠ id := fun same => notLater (same ▸ member)
      rw [previousSibling?_detach linked, if_neg notId, previous, next, Option.or_none]

/-- The children of other parents keep their neighbours. -/
theorem Linked.siblings_detach_other
    (linked : tree.Linked)
    {query : NodeId}
    (elsewhere : tree.parent? id ≠ some query) :
    (tree.detach id).SiblingChain none (tree.children query) none := by
  have notId : ∀ child ∈ tree.children query, child ≠ id := by
    rintro child member rfl
    exact linked.not_mem_children_of_elsewhere elsewhere member
  have notLinked :
      ∀ child ∈ tree.children query,
        ¬ (tree.previousSibling? id = some child ∨ tree.nextSibling? id = some child) := by
    intro child member link
    obtain ⟨parent, owned, sibling⟩ := linked.siblings_mem_children link
    have sameParent : parent = query := linked.eq_of_mem_children sibling member
    exact elsewhere (sameParent ▸ owned)
  refine (linked.siblings query).congr ?_ ?_
  · intro child member
    have apart := not_or.mp (notLinked child member)
    rw [previousSibling?_detach linked, if_neg (notId child member), if_neg apart.2]
  · intro child member
    have apart := not_or.mp (notLinked child member)
    rw [nextSibling?_detach linked, if_neg (notId child member), if_neg apart.1]

/-- Above a node there is nothing new after a detachment. -/
theorem above_of_above_detach
    {upper lower : NodeId}
    (above : (tree.detach id).Above upper lower) :
    tree.Above upper lower := by
  refine Relation.TransGen.mono ?_ _ _ above
  intro child parent owned
  rw [parent?_detach] at owned
  split at owned
  · simp at owned
  · exact owned

/-- Detaching keeps the records in agreement. -/
theorem Linked.detach
    (linked : tree.Linked)
    (id : NodeId) :
    (tree.detach id).Linked where
  nonempty := by
    rw [size_detach]
    exact linked.nonempty
  mem_children_iff := by
    intro parent child
    rw [children_detach linked, parent?_detach, List.mem_filter, linked.mem_children_iff]
    by_cases same : child = id
    · simp [same]
    · simp [same]
  nodup_children := by
    intro parent
    rw [children_detach linked]
    exact (linked.nodup_children parent).filter _
  siblings := by
    intro parent
    by_cases owned : tree.parent? id = some parent
    · obtain ⟨earlier, later, shape⟩ := linked.exists_children_eq owned
      rw [linked.children_detach_parent shape]
      exact linked.siblings_detach_parent shape
    · rw [children_detach linked, linked.filter_children_of_elsewhere owned]
      exact linked.siblings_detach_other owned
  orphan := by
    intro query orphan
    rw [parent?_detach] at orphan
    rw [previousSibling?_detach linked, nextSibling?_detach linked]
    by_cases same : query = id
    · simp [same]
    · rw [if_neg same] at orphan
      have unlinked :
          ¬ (tree.previousSibling? id = some query ∨ tree.nextSibling? id = some query) := by
        intro link
        obtain ⟨parent, _, member⟩ := linked.siblings_mem_children link
        exact linked.not_mem_children_of_orphan orphan parent member
      obtain ⟨notPrevious, notNext⟩ := not_or.mp unlinked
      simp [same, notPrevious, notNext, linked.orphan orphan]
  acyclic := by
    intro query circle
    exact linked.acyclic query (above_of_above_detach circle)

end Detaching

section Attaching

variable {tree : Tree} {parent id : NodeId}

@[simp] theorem size_attach :
    (tree.attach parent id).size = tree.size := by
  simp only [attach]
  split <;> simp

/-- What attaching a node makes of each node. -/
theorem get?_attach (query : NodeId) :
    (tree.attach parent id).get? query =
      (tree.get? query).map fun node => {
        kind := node.kind
        parent := if id = query then some parent else node.parent
        children := if parent = query then node.children ++ [id] else node.children
        previous :=
          if id = query then
            (tree.children parent).getLast?.or node.previous
          else
            node.previous
        next :=
          if (tree.children parent).getLast? = some query then some id else node.next
      } := by
  cases last : (tree.children parent).getLast? with
  | none =>
      simp only [attach, last, get?_update]
      cases tree.get? query with
      | none =>
          rfl
      | some node =>
          simp only [Option.map_some, Option.some.injEq, Option.none_or, reduceCtorEq,
            if_false]
          split_ifs <;> rfl
  | some neighbour =>
      simp only [attach, last, get?_update, get?_setNext, get?_setPrevious]
      cases tree.get? query with
      | none =>
          rfl
      | some node =>
          simp only [Option.map_some, Option.some.injEq, Option.some_or]
          split_ifs <;> rfl

/-- A node that is attached gets its parent, and no other node changes its own. -/
theorem parent?_attach
    (inside : id < tree.size)
    (query : NodeId) :
    (tree.attach parent id).parent? query =
      if query = id then some parent else tree.parent? query := by
  unfold parent?
  rw [get?_attach]
  by_cases same : query = id
  · subst query
    have found : tree.get? id = some tree.nodes[id] := Array.getElem?_eq_getElem inside
    simp [found]
  · cases tree.get? query <;> simp [same, Ne.symm same]

/-- A node that is attached becomes the last child. -/
theorem children_attach
    (inside : parent < tree.size)
    (query : NodeId) :
    (tree.attach parent id).children query =
      if query = parent then tree.children parent ++ [id] else tree.children query := by
  unfold children
  rw [get?_attach]
  by_cases same : query = parent
  · subst query
    have found : tree.get? parent = some tree.nodes[parent] :=
      Array.getElem?_eq_getElem inside
    simp [found]
  · cases tree.get? query <;> simp [same, Ne.symm same]

/-- A node that is attached comes after the child that was last. -/
theorem previousSibling?_attach
    (inside : id < tree.size)
    (unlinked : tree.previousSibling? id = none)
    (query : NodeId) :
    (tree.attach parent id).previousSibling? query =
      if query = id then
        (tree.children parent).getLast?
      else
        tree.previousSibling? query := by
  unfold previousSibling?
  rw [get?_attach]
  by_cases same : query = id
  · subst query
    have found : tree.get? id = some tree.nodes[id] := Array.getElem?_eq_getElem inside
    have noPrevious : tree.nodes[id].previous = none := by
      simpa [previousSibling?, found] using unlinked
    simp [found, noPrevious]
  · cases tree.get? query <;> simp [same, Ne.symm same]

/-- The child that was last comes before the node that is attached. -/
theorem nextSibling?_attach
    (linked : tree.Linked)
    (query : NodeId) :
    (tree.attach parent id).nextSibling? query =
      if (tree.children parent).getLast? = some query then
        some id
      else
        tree.nextSibling? query := by
  unfold nextSibling?
  rw [get?_attach]
  cases found : tree.get? query with
  | none =>
      have notLast : (tree.children parent).getLast? ≠ some query := by
        intro last
        have inside := linked.child_lt (List.mem_of_getLast? last)
        exact absurd inside (Nat.not_lt.mpr (get?_eq_none_iff.mp found))
      simp [notLast]
  | some node =>
      simp

/-- What is above a node after an attachment was above it before, or goes over the new link. -/
theorem above_of_above_attach
    (inside : id < tree.size)
    {upper lower : NodeId}
    (above : (tree.attach parent id).Above upper lower) :
    tree.Above upper lower ∨
      (lower = id ∨ tree.Above id lower) ∧ (upper = parent ∨ tree.Above upper parent) := by
  induction above with
  | single link =>
      rw [parent?_attach inside] at link
      split at link
      · next same =>
          exact Or.inr ⟨Or.inl same, Or.inl (Option.some.inj link).symm⟩
      · exact Or.inl (.single link)
  | tail _ link inductionHypothesis =>
      rw [parent?_attach inside] at link
      split at link
      · next same =>
          subst id
          have atParent := (Option.some.inj link).symm
          rcases inductionHypothesis with before | ⟨below, _⟩
          · exact Or.inr ⟨Or.inr before, Or.inl atParent⟩
          · exact Or.inr ⟨below, Or.inl atParent⟩
      · rcases inductionHypothesis with before | ⟨below, above⟩
        · exact Or.inl (before.tail link)
        · refine Or.inr ⟨below, Or.inr ?_⟩
          rcases above with same | further
          · exact same ▸ .single link
          · exact further.tail link

/-- A node without a parent is attached as the sibling after all children that were there. -/
theorem Linked.siblings_attach_parent
    (linked : tree.Linked)
    (inside : id < tree.size)
    (orphan : tree.parent? id = none) :
    (tree.attach parent id).SiblingChain none (tree.children parent ++ [id]) none := by
  obtain ⟨noPrevious, noNext⟩ := linked.orphan orphan
  have unlisted := linked.not_mem_children_of_orphan orphan parent
  rw [siblingChain_append]
  constructor
  · refine (linked.siblings parent).redirectAfter (linked.nodup_children parent) ?_ ?_
    · intro child member
      have notId : child ≠ id := fun same => unlisted (same ▸ member)
      rw [previousSibling?_attach inside noPrevious, if_neg notId]
    · intro child member
      rw [nextSibling?_attach linked]
      rfl
  · have notLast : (tree.children parent).getLast? ≠ some id :=
      fun last => unlisted (List.mem_of_getLast? last)
    refine ⟨?_, ?_, trivial⟩
    · rw [previousSibling?_attach inside noPrevious, if_pos rfl, Option.or_none]
    · rw [nextSibling?_attach linked, if_neg notLast, noNext]
      rfl

/-- The children of other parents keep their neighbours when a node is attached. -/
theorem Linked.siblings_attach_other
    (linked : tree.Linked)
    (inside : id < tree.size)
    (orphan : tree.parent? id = none)
    {query : NodeId}
    (elsewhere : query ≠ parent) :
    (tree.attach parent id).SiblingChain none (tree.children query) none := by
  obtain ⟨noPrevious, _⟩ := linked.orphan orphan
  refine (linked.siblings query).congr ?_ ?_
  · intro child member
    have notId : child ≠ id := by
      rintro rfl
      exact linked.not_mem_children_of_orphan orphan query member
    rw [previousSibling?_attach inside noPrevious, if_neg notId]
  · intro child member
    have notLast : (tree.children parent).getLast? ≠ some child :=
      fun last => elsewhere (linked.eq_of_mem_children member (List.mem_of_getLast? last))
    rw [nextSibling?_attach linked, if_neg notLast]

/-- Attaching a node without a parent keeps the records in agreement, unless it closes a circle. -/
theorem Linked.attach
    (linked : tree.Linked)
    (parentInside : parent < tree.size)
    (inside : id < tree.size)
    (orphan : tree.parent? id = none)
    (different : id ≠ parent)
    (notAbove : ¬ tree.Above id parent) :
    (tree.attach parent id).Linked where
  nonempty := by
    rw [size_attach]
    exact linked.nonempty
  mem_children_iff := by
    intro query child
    rw [children_attach parentInside, parent?_attach inside]
    have unlisted := linked.not_mem_children_of_orphan orphan query
    by_cases same : child = id
    · subst child
      by_cases atParent : query = parent
      · simp [atParent]
      · simp [atParent, unlisted, Ne.symm atParent]
    · by_cases atParent : query = parent
      · simp [atParent, same, linked.mem_children_iff]
      · simp [atParent, same, linked.mem_children_iff]
  nodup_children := by
    intro query
    rw [children_attach parentInside]
    split
    · rw [← List.concat_eq_append]
      exact (linked.nodup_children parent).concat
        (linked.not_mem_children_of_orphan orphan parent)
    · exact linked.nodup_children query
  siblings := by
    intro query
    rw [children_attach parentInside]
    split
    · exact linked.siblings_attach_parent inside orphan
    · next elsewhere =>
        exact linked.siblings_attach_other inside orphan elsewhere
  orphan := by
    intro query without
    rw [parent?_attach inside] at without
    split at without
    · simp at without
    · next notId =>
        obtain ⟨noPrevious, noNext⟩ := linked.orphan without
        have notLast : (tree.children parent).getLast? ≠ some query :=
          fun last =>
            linked.not_mem_children_of_orphan without parent (List.mem_of_getLast? last)
        rw [previousSibling?_attach inside (linked.orphan orphan).1, if_neg notId,
          nextSibling?_attach linked, if_neg notLast]
        exact ⟨noPrevious, noNext⟩
  acyclic := by
    intro query circle
    rcases above_of_above_attach inside circle with before | ⟨below, above⟩
    · exact linked.acyclic query before
    · -- The circle goes over the new link, so the node was at or above its new parent.
      rcases below with atId | belowId <;> rcases above with atParent | overParent
      · exact different (atId.symm.trans atParent)
      · exact notAbove (atId ▸ overParent)
      · exact notAbove (atParent ▸ belowId)
      · exact notAbove (overParent.trans belowId)

end Attaching

/-- An append is carried out between two nodes of the arena unless it would close a circle. -/
theorem canAppend_iff
    {tree : Tree}
    {parent child : NodeId} :
    tree.canAppend parent child = true ↔
      parent < tree.size ∧ child < tree.size ∧ child ≠ parent ∧
        child ∉ tree.ancestors parent := by
  simp [canAppend, isDescendantOf, and_assoc]

@[simp] theorem size_append
    (tree : Tree)
    (parent child : NodeId) :
    (tree.append parent child).size = tree.size := by
  unfold append
  split <;> simp

/-- Appending keeps the records in agreement, carried out or refused. -/
theorem Linked.append
    {tree : Tree}
    (linked : tree.Linked)
    (parent child : NodeId) :
    (tree.append parent child).Linked := by
  unfold Tree.append
  split
  · next allowed =>
      obtain ⟨parentInside, inside, different, notAncestor⟩ := canAppend_iff.mp allowed
      refine (linked.detach child).attach (by simpa using parentInside)
        (by simpa using inside) ?_ different ?_
      · rw [parent?_detach, if_pos rfl]
      · intro above
        exact notAncestor (linked.mem_ancestors_iff.mpr (above_of_above_detach above))
  · exact linked

section Appending

variable {tree : Tree} {parent child : NodeId}

/-- A node that is appended gets its new parent, and no other node changes its own. -/
theorem parent?_append
    (allowed : tree.canAppend parent child = true)
    (query : NodeId) :
    (tree.append parent child).parent? query =
      if query = child then some parent else tree.parent? query := by
  obtain ⟨_, inside, _⟩ := canAppend_iff.mp allowed
  rw [Tree.append, if_pos allowed, parent?_attach (by simpa using inside), parent?_detach]
  by_cases same : query = child
  · rw [if_pos same, if_pos same]
  · rw [if_neg same, if_neg same, if_neg same]

/-- A node that is appended leaves the child list that it was in for the end of another one. -/
theorem Linked.children_append
    (linked : tree.Linked)
    (allowed : tree.canAppend parent child = true)
    (query : NodeId) :
    (tree.append parent child).children query =
      if query = parent then
        (tree.children parent).filter (fun other => other != child) ++ [child]
      else
        (tree.children query).filter fun other => other != child := by
  obtain ⟨inside, _⟩ := canAppend_iff.mp allowed
  rw [Tree.append, if_pos allowed, children_attach (by simpa using inside),
    children_detach linked, children_detach linked]

end Appending

end MarkupQuery.Tree
