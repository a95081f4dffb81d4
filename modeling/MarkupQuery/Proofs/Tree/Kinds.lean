import MarkupQuery.Proofs.Tree.Moves

namespace MarkupQuery.Tree

/-!
# What nodes stand for

A node keeps its kind when it is moved, and an element keeps its tag whatever else is changed about
it. So all tags of a tree are as they were given when its elements were added.
-/

/-- Every element of a tree has a tag of some class. -/
def TagsIn
    (tree : Tree)
    (tags : String → Prop) : Prop :=
  ∀ (id : NodeId) (kind : NodeKind), tree.kind? id = some kind → TagIn tags kind

section Kinds

variable {tree : Tree} {id : NodeId}

/-- A node that is detached stays what it is. -/
theorem kind?_detach (query : NodeId) :
    (tree.detach id).kind? query = tree.kind? query := by
  cases owned : tree.parent? id with
  | none =>
      rw [detach_of_orphan owned]
  | some parent =>
      rw [kind?, kind?, get?_detach owned, Option.map_map]
      rfl

/-- A node that is attached stays what it is. -/
theorem kind?_attach (parent query : NodeId) :
    (tree.attach parent id).kind? query = tree.kind? query := by
  rw [kind?, kind?, get?_attach, Option.map_map]
  rfl

/-- Appending moves nodes and changes none. -/
theorem kind?_append (parent child query : NodeId) :
    (tree.append parent child).kind? query = tree.kind? query := by
  unfold append
  split
  · rw [kind?_attach, kind?_detach]
  · rfl

theorem kind?_add (kind : NodeKind) (query : NodeId) :
    (tree.add kind).kind? query = if query = tree.size then some kind else tree.kind? query := by
  rw [kind?, get?_add]
  split <;> rfl

/-- A child that is added is what it is added as, and no other node changes. -/
theorem kind?_addChild
    {parent : NodeId}
    (kind : NodeKind)
    (query : NodeId) :
    (tree.addChild parent kind).kind? query =
      if query = tree.size then some kind else tree.kind? query := by
  rw [addChild, kind?_append, kind?_add]

/-- The kinds after a change of an element that leaves its tag alone. -/
theorem exists_kind?_of_updateElement
    {tags : String → Prop}
    {change : Element → Element}
    {query : NodeId}
    {kind : NodeKind}
    (keepsTag : ∀ element, (change element).tag = element.tag)
    (found : (tree.updateElement id change).kind? query = some kind) :
    ∃ before, tree.kind? query = some before ∧ (TagIn tags before → TagIn tags kind) := by
  rw [kind?, updateElement, get?_update, Option.map_map] at found
  obtain ⟨node, here, changed⟩ := Option.map_eq_some_iff.mp found
  refine ⟨node.kind, by rw [kind?, here, Option.map_some], ?_⟩
  simp only [Function.comp_apply] at changed
  split at changed
  · split at changed
    · next element isElement =>
        rw [← changed, isElement]
        intro before
        simpa only [TagIn, keepsTag] using before
    · exact changed ▸ fun before => before
  · exact changed ▸ fun before => before

end Kinds

/-- Tags stay in a class that holds all folded names, if no element is added with another one. -/
theorem keptWithTags_tagsIn
    {tags : String → Prop}
    (folded : ∀ name, tags (Text.lowercase name)) :
    KeptWithTags tags (fun tree => tree.TagsIn tags) where
  folded := folded
  add := by
    intro tree kind tagged holds query found here
    rw [kind?_add] at here
    split at here
    · exact Option.some.inj here ▸ tagged
    · exact holds query found here
  append := by
    intro tree parent child holds query found here
    rw [kind?_append] at here
    exact holds query found here
  updateElement := by
    intro tree id change keepsTag holds query found here
    obtain ⟨before, wasHere, kept⟩ := exists_kind?_of_updateElement keepsTag here
    exact kept (holds query before wasHere)

theorem tagsIn_built
    {tags : String → Prop}
    (folded : ∀ name, tags (Text.lowercase name))
    (edits : List Edit)
    (tagged : ∀ edit ∈ edits, edit.TagsIn tags) :
    (built edits).TagsIn tags := by
  refine (keptWithTags_tagsIn folded).of_built ?_ edits tagged
  intro id kind here
  obtain ⟨node, found, rfl⟩ := Option.map_eq_some_iff.mp here
  rw [get?_empty id found]
  trivial

theorem TagsIn.of_tag?
    {tree : Tree}
    {tags : String → Prop}
    (holds : tree.TagsIn tags)
    {id : NodeId}
    {tag : String}
    (tagged : tree.tag? id = some tag) :
    tags tag := by
  obtain ⟨element, isElement, rfl⟩ := Option.map_eq_some_iff.mp tagged
  exact holds id _ (element?_eq_some_iff.mp isElement)

/-- The document stays where it was made, and a document. -/
theorem keptByChanges_document :
    KeptByChanges fun tree => 0 < tree.size ∧ tree.kind? root = some .document where
  add := by
    intro tree kind holds
    have old : root ≠ tree.size := Nat.ne_of_lt holds.1
    rw [size_add, kind?_add, if_neg old]
    exact ⟨Nat.succ_pos _, holds.2⟩
  append := by
    intro tree parent child holds
    rw [kind?_append, size_append]
    exact holds
  updateElement := by
    intro tree id change holds
    obtain ⟨node, found, isDocument⟩ := Option.map_eq_some_iff.mp holds.2
    refine ⟨by rw [size_updateElement]; exact holds.1, ?_⟩
    simp [kind?, updateElement, get?_update, found, isDocument]

/-- Whatever is built, its root is the document. -/
theorem kind?_root_built (edits : List Edit) :
    (built edits).kind? root = some .document :=
  (keptByChanges_document.of_built ⟨Nat.zero_lt_one, rfl⟩ edits).2

end MarkupQuery.Tree
