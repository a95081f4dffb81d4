import MarkupQuery.Proofs.Tree.Lookups
import MarkupQuery.Tree.Builder

namespace MarkupQuery.Tree

/-!
# Runs of edits

A tree comes about by edits from the tree of nothing but a document: nodes are added and appended,
elements are created under a parent, and building programs are run at a node. Every edit is made
of three changes only, so a property that these three keep is kept by every run.
-/

/-- One edit of a tree. The nodes it names need not be there. -/
inductive Edit where
  /-- Add a node without a parent. -/
  | add (kind : NodeKind)
  /-- Make a node the last child of another. -/
  | append (parent child : NodeId)
  /-- Create an element under a parent. -/
  | addElement
      (parent : NodeId)
      (name : String)
      (text : Option String)
      (attributes : List (String × String))
  /-- Run a building program at a node. -/
  | build (position : NodeId) (steps : List BuildStep)

def apply (tree : Tree) : Edit → Tree
  | .add kind => tree.add kind
  | .append parent child => tree.append parent child
  | .addElement parent name text attributes => tree.addElement parent name text attributes
  | .build position steps => (Builder.run { tree := tree, position := position } steps).tree

def applyAll (tree : Tree) (edits : List Edit) : Tree :=
  edits.foldl apply tree

/-- The tree that edits make of the document alone. -/
def built (edits : List Edit) : Tree :=
  Tree.empty.applyAll edits

/-- A property of trees that the three changes behind every edit keep. -/
structure KeptByChanges (property : Tree → Prop) : Prop where
  add :
    ∀ {tree : Tree} (kind : NodeKind),
      property tree → property (tree.add kind)
  append :
    ∀ {tree : Tree} (parent child : NodeId),
      property tree → property (tree.append parent child)
  updateElement :
    ∀ {tree : Tree} (id : NodeId) (change : Element → Element),
      property tree → property (tree.updateElement id change)

/-- A node of this kind has a tag of some class, if it is an element. -/
def TagIn (tags : String → Prop) : NodeKind → Prop
  | .element element => tags element.tag
  | _ => True

/-- An edit adds no element with a tag outside some class. What is built has folded tags anyway. -/
def Edit.TagsIn (tags : String → Prop) : Edit → Prop
  | .add kind => TagIn tags kind
  | _ => True

/--
A property of trees that the three changes keep, if elements are only added with tags of some class
and no element changes its tag.
-/
structure KeptWithTags (tags : String → Prop) (property : Tree → Prop) : Prop where
  folded :
    ∀ name : String, tags (Text.lowercase name)
  add :
    ∀ {tree : Tree} (kind : NodeKind),
      TagIn tags kind → property tree → property (tree.add kind)
  append :
    ∀ {tree : Tree} (parent child : NodeId),
      property tree → property (tree.append parent child)
  updateElement :
    ∀ {tree : Tree} (id : NodeId) (change : Element → Element),
      (∀ element, (change element).tag = element.tag) →
        property tree → property (tree.updateElement id change)

namespace KeptWithTags

variable {tags : String → Prop} {property : Tree → Prop}

/-- Adding a child keeps the property. -/
theorem addChild
    (kept : KeptWithTags tags property)
    {tree : Tree}
    (parent : NodeId)
    (kind : NodeKind)
    (tagged : TagIn tags kind)
    (holds : property tree) :
    property (tree.addChild parent kind) :=
  kept.append parent tree.size (kept.add kind tagged holds)

/-- Creating an element keeps the property, as its tag is folded. -/
theorem addElement
    (kept : KeptWithTags tags property)
    {tree : Tree}
    (parent : NodeId)
    (name : String)
    (text : Option String)
    (attributes : List (String × String))
    (holds : property tree) :
    property (tree.addElement parent name text attributes) :=
  kept.addChild parent _ (kept.folded name) holds

mutual

/-- A building step keeps the property, the steps at a new child included. -/
theorem buildStep
    (kept : KeptWithTags tags property)
    (builder : Builder)
    (holds : property builder.tree) :
    ∀ step : BuildStep, property (builder.step step).tree
  | .element name text attributes steps => by
      rw [Builder.step]
      exact buildSteps kept
        { builder.addElement name text attributes with position := builder.tree.size }
        (kept.addElement builder.position name text attributes holds) steps
  | .enter name => by
      rw [Builder.step]
      exact kept.addElement builder.position name none [] holds
  | .text content => by
      rw [Builder.step]
      exact kept.addChild builder.position (.text content) trivial holds
  | .raw content => by
      rw [Builder.step]
      exact kept.addChild builder.position (.raw content) trivial holds
  | .attribute name value => by
      rw [Builder.step]
      exact kept.updateElement builder.position _ (fun _ => rfl) holds
  | .attributeValues name values => by
      rw [Builder.step]
      exact kept.updateElement builder.position _ (fun _ => rfl) holds
  | .ownText content => by
      rw [Builder.step]
      exact kept.updateElement builder.position _ (fun _ => rfl) holds

/-- A building program keeps the property. -/
theorem buildSteps
    (kept : KeptWithTags tags property)
    (builder : Builder)
    (holds : property builder.tree) :
    ∀ steps : List BuildStep, property (builder.run steps).tree
  | [] => by
      rw [Builder.run]
      exact holds
  | first :: rest => by
      rw [Builder.run]
      exact buildSteps kept (builder.step first)
        (buildStep kept builder holds first) rest

end

/-- An edit that adds no other tags keeps the property. -/
theorem apply
    (kept : KeptWithTags tags property)
    {tree : Tree}
    (holds : property tree)
    (edit : Edit)
    (tagged : edit.TagsIn tags) :
    property (tree.apply edit) := by
  cases edit with
  | add kind =>
      exact kept.add kind tagged holds
  | append parent child =>
      exact kept.append parent child holds
  | addElement parent name text attributes =>
      exact kept.addElement parent name text attributes holds
  | build position steps =>
      exact kept.buildSteps { tree := tree, position := position } holds steps

theorem applyAll
    (kept : KeptWithTags tags property)
    {tree : Tree}
    (holds : property tree)
    (edits : List Edit)
    (tagged : ∀ edit ∈ edits, edit.TagsIn tags) :
    property (tree.applyAll edits) := by
  induction edits generalizing tree with
  | nil =>
      exact holds
  | cons first rest inductionHypothesis =>
      obtain ⟨here, later⟩ := List.forall_mem_cons.mp tagged
      exact inductionHypothesis (kept.apply holds first here) later

/-- A property of the document alone that tagged changes keep holds of every tree so built. -/
theorem of_built
    (kept : KeptWithTags tags property)
    (start : property Tree.empty)
    (edits : List Edit)
    (tagged : ∀ edit ∈ edits, edit.TagsIn tags) :
    property (built edits) :=
  kept.applyAll start edits tagged

end KeptWithTags

theorem Edit.tagsIn_any (edit : Edit) :
    edit.TagsIn fun _ => True := by
  cases edit with
  | add kind =>
      cases kind <;> trivial
  | append parent child =>
      trivial
  | addElement parent name text attributes =>
      trivial
  | build position steps =>
      trivial

namespace KeptByChanges

variable {property : Tree → Prop}

/-- What all changes keep is kept whatever the tags. -/
theorem keptWithTags (kept : KeptByChanges property) :
    KeptWithTags (fun _ => True) property where
  folded := fun _ => trivial
  add := fun kind _ => kept.add kind
  append := kept.append
  updateElement := fun id change _ => kept.updateElement id change

theorem apply
    (kept : KeptByChanges property)
    {tree : Tree}
    (holds : property tree)
    (edit : Edit) :
    property (tree.apply edit) :=
  kept.keptWithTags.apply holds edit edit.tagsIn_any

/-- A property of the document alone that every change keeps holds of every tree built. -/
theorem of_built
    (kept : KeptByChanges property)
    (start : property Tree.empty)
    (edits : List Edit) :
    property (built edits) :=
  kept.keptWithTags.of_built start edits fun edit _ => edit.tagsIn_any

end KeptByChanges

end MarkupQuery.Tree
