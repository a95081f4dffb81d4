import Mathlib.Tactic.ByContra
import MarkupQuery.Tree.Edit

namespace MarkupQuery.Tree

/-!
# What a change to the arena does to look-ups

Every change is described by what `get?` answers afterwards, and from that by what the four link
look-ups answer. Later modules argue through these equations and do not open the definitions of
the changes again.
-/

section Reading

variable {tree : Tree} {id target : NodeId}

/-- There is no node beyond the arena, and one at each index in it. -/
theorem get?_eq_none_iff :
    tree.get? id = none ↔ tree.size ≤ id := by
  simp [get?, size]

/-- A node that is found has an index in the arena. -/
theorem lt_size_of_get?
    {node : Node}
    (found : tree.get? id = some node) :
    id < tree.size := by
  by_contra beyond
  have missing : tree.get? id = none :=
    get?_eq_none_iff.mpr (Nat.le_of_not_lt beyond)
  simp [missing] at found

/-- A node is an element if it stands for one. -/
theorem element?_eq_some_iff
    {element : Element} :
    tree.element? id = some element ↔ tree.kind? id = some (.element element) := by
  unfold element?
  split
  · next found stands =>
      rw [stands, Option.some.injEq, Option.some.injEq, NodeKind.element.injEq]
  · next other =>
      exact iff_of_false nofun (other element)

/-- Only a node of the arena has a parent. -/
theorem lt_size_of_parent?
    (owned : tree.parent? id = some target) :
    id < tree.size := by
  obtain ⟨node, found, _⟩ := Option.bind_eq_some_iff.mp owned
  exact lt_size_of_get? found

/-- Only a node of the arena has children. -/
theorem lt_size_of_mem_children
    (member : target ∈ tree.children id) :
    id < tree.size := by
  cases found : tree.get? id with
  | none =>
      simp [children, found] at member
  | some node =>
      exact lt_size_of_get? found

/-- Where there is no node, there is no parent of it and nothing below it. -/
theorem parent?_eq_none (beyond : tree.size ≤ id) :
    tree.parent? id = none := by
  rw [parent?, get?_eq_none_iff.mpr beyond, Option.bind_none]

/-- There are no children at an index beyond the arena. -/
theorem children_eq_nil (beyond : tree.size ≤ id) :
    tree.children id = [] := by
  rw [children, get?_eq_none_iff.mpr beyond]
  rfl

end Reading

section Changes

variable (tree : Tree) (id : NodeId)

@[simp] theorem size_empty : Tree.empty.size = 1 :=
  rfl

/-- In a tree of one node nothing is linked. -/
theorem get?_empty
    {node : Node}
    (found : Tree.empty.get? id = some node) :
    node = { kind := .document } := by
  have inside := lt_size_of_get? found
  rw [size_empty, Nat.lt_one_iff] at inside
  subst id
  simpa [get?, Tree.empty] using found.symm

@[simp] theorem size_update (change : Node → Node) :
    (tree.update id change).size = tree.size := by
  simp [size, update]

/-- An update changes the node of its name and no other. -/
theorem get?_update
    (change : Node → Node)
    (query : NodeId) :
    (tree.update id change).get? query =
      (tree.get? query).map fun node =>
        if id = query then change node else node := by
  by_cases same : id = query
  · simp [get?, update, Array.getElem?_modify, same]
  · simp [get?, update, Array.getElem?_modify, same]

@[simp] theorem size_setNext (target next : Option NodeId) :
    (tree.setNext target next).size = tree.size := by
  cases target <;> simp [setNext]

/-- Setting a next sibling changes the link of the target alone, if there is a target. -/
theorem get?_setNext
    (target next : Option NodeId)
    (query : NodeId) :
    (tree.setNext target next).get? query =
      (tree.get? query).map fun node =>
        if target = some query then { node with next := next } else node := by
  cases target <;> simp [setNext, get?_update]

@[simp] theorem size_setPrevious (target previous : Option NodeId) :
    (tree.setPrevious target previous).size = tree.size := by
  cases target <;> simp [setPrevious]

/-- Setting a previous sibling changes the link of the target alone, if there is a target. -/
theorem get?_setPrevious
    (target previous : Option NodeId)
    (query : NodeId) :
    (tree.setPrevious target previous).get? query =
      (tree.get? query).map fun node =>
        if target = some query then { node with previous := previous } else node := by
  cases target <;> simp [setPrevious, get?_update]

@[simp] theorem size_add (kind : NodeKind) :
    (tree.add kind).size = tree.size + 1 := by
  simp [size, add]

/-- Adding puts a node without links behind the others. -/
theorem get?_add
    (kind : NodeKind)
    (query : NodeId) :
    (tree.add kind).get? query =
      if query = tree.size then some { kind := kind } else tree.get? query := by
  by_cases added : query = tree.size
  · simp [get?, add, added, size]
  · have other : query ≠ tree.nodes.size := added
    simp [get?, add, added, Array.getElem?_push, other]

@[simp] theorem size_updateElement (change : Element → Element) :
    (tree.updateElement id change).size = tree.size := by
  simp [updateElement]

end Changes

/-- Two arenas whose nodes are linked alike; what the nodes stand for may differ. -/
structure SameLinks (tree other : Tree) : Prop where
  parent : other.parent? = tree.parent?
  children : other.children = tree.children
  previous : other.previousSibling? = tree.previousSibling?
  next : other.nextSibling? = tree.nextSibling?

/-- A node that is added has no links, just as a node that is not there. -/
theorem sameLinks_add (tree : Tree) (kind : NodeKind) :
    tree.SameLinks (tree.add kind) := by
  have beyond : tree.get? tree.size = none :=
    get?_eq_none_iff.mpr (Nat.le_refl _)
  constructor <;> funext id <;> by_cases added : id = tree.size
  all_goals
    simp [parent?, children, previousSibling?, nextSibling?, get?_add, added, beyond]

/-- Change what one node stands for and none of its links; an unknown name changes nothing. -/
def revise (tree : Tree) (id : NodeId) (change : NodeKind → NodeKind) : Tree :=
  tree.update id fun node => { node with kind := change node.kind }

@[simp] theorem size_revise
    (tree : Tree)
    (id : NodeId)
    (change : NodeKind → NodeKind) :
    (tree.revise id change).size = tree.size :=
  size_update tree id _

/-- Changing what a node stands for leaves every link as it is. -/
theorem sameLinks_revise
    (tree : Tree)
    (id : NodeId)
    (change : NodeKind → NodeKind) :
    tree.SameLinks (tree.revise id change) := by
  constructor <;> funext query <;> cases found : tree.get? query with
  | none =>
      simp [parent?, children, previousSibling?, nextSibling?, revise, get?_update, found]
  | some node =>
      simp only [parent?, children, previousSibling?, nextSibling?, revise, get?_update, found,
        Option.map_some, Option.bind_some]
      split <;> rfl

/-- A revision changes what one node stands for. -/
theorem kind?_revise
    (tree : Tree)
    (id : NodeId)
    (change : NodeKind → NodeKind)
    (query : NodeId) :
    (tree.revise id change).kind? query =
      (tree.kind? query).map fun kind => if id = query then change kind else kind := by
  rw [kind?, kind?, revise, get?_update, Option.map_map, Option.map_map]
  congr 1
  funext node
  by_cases same : id = query <;> simp [same]

/-- Change an element and leave what is none. -/
def onElement (change : Element → Element) : NodeKind → NodeKind
  | .element element => .element (change element)
  | kind => kind

/-- Attributes and texts of an element are changed by changing what its node stands for. -/
theorem updateElement_eq_revise
    (tree : Tree)
    (id : NodeId)
    (change : Element → Element) :
    tree.updateElement id change = tree.revise id (onElement change) := by
  rw [updateElement, revise]
  congr 1
  funext node
  rcases node with ⟨kind, _, _, _, _⟩
  cases kind <;> rfl

/-- Changing elements in place leaves every link as it is. -/
theorem sameLinks_updateElement
    (tree : Tree)
    (id : NodeId)
    (change : Element → Element) :
    tree.SameLinks (tree.updateElement id change) := by
  rw [updateElement_eq_revise]
  exact sameLinks_revise tree id _

end MarkupQuery.Tree
