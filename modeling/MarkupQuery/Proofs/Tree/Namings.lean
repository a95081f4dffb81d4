import MarkupQuery.Proofs.Tree.Kinds
import MarkupQuery.Proofs.Tree.Settings

namespace MarkupQuery.Tree

/-!
# What elements were named

Elements are created under a tag, and their attributes are set under names, in whatever case the
names are given. The log of a run of edits says who was given which names, and in which order. Tags
and attributes of the tree are what the log says, with every name folded.
-/

open Attributes (Setting)

/-- A name that is given to an element. -/
inductive Naming where
  /-- An element is created under a tag. -/
  | created (id : NodeId) (tag : String)
  /-- An attribute of an element is set. -/
  | set (id : NodeId) (setting : Setting)
  deriving DecidableEq

namespace Naming

def tagOf? (id : NodeId) : Naming → Option String
  | .created other tag => if other = id then some tag else none
  | .set _ _ => none

def settingOf? (id : NodeId) : Naming → Option Setting
  | .created _ _ => none
  | .set other setting => if other = id then some setting else none

end Naming

/-- The tag under which an element was created. -/
def createdAs? (log : List Naming) (id : NodeId) : Option String :=
  log.findSome? (Naming.tagOf? id)

/-- The settings of an element's attributes, in order. -/
def settingsOf (log : List Naming) (id : NodeId) : List Setting :=
  log.filterMap (Naming.settingOf? id)

/-- What is logged when an element is created with attributes. -/
def creation
    (id : NodeId)
    (tag : String)
    (attributes : List (String × String)) :
    List Naming :=
  .created id tag :: attributes.map fun pair => .set id (.text pair.1 pair.2)

/-- What is logged when an attribute is set at a node. Only elements have attributes. -/
def settingAt (tree : Tree) (id : NodeId) (setting : Setting) : List Naming :=
  if tree.isElement id then [.set id setting] else []

mutual

/-- What a building step logs, the steps at a new child included. -/
def stepLog (builder : Builder) : BuildStep → List Naming
  | .element name text attributes steps =>
      creation builder.tree.size name attributes ++
        runLog
          { builder.addElement name text attributes with position := builder.tree.size } steps
  | .enter name => creation builder.tree.size name []
  | .text _ => []
  | .raw _ => []
  | .attribute name value => settingAt builder.tree builder.position (.text name value)
  | .attributeValues name values => settingAt builder.tree builder.position (.list name values)
  | .ownText _ => []

def runLog (builder : Builder) : List BuildStep → List Naming
  | [] => []
  | first :: rest => stepLog builder first ++ runLog (builder.step first) rest

end

/-- What an edit logs. A node added as it is, or moved, is given no name. -/
def editLog (tree : Tree) : Edit → List Naming
  | .add _ => []
  | .append _ _ => []
  | .addElement _ name _ attributes => creation tree.size name attributes
  | .build position steps => runLog { tree := tree, position := position } steps

/-- What edits log in turn. -/
def editsLog (tree : Tree) : List Edit → List Naming
  | [] => []
  | first :: rest => editLog tree first ++ editsLog (tree.apply first) rest

/-- What is logged while edits build a tree. -/
def namings (edits : List Edit) : List Naming :=
  Tree.empty.editsLog edits

/-- Whether an edit adds an element as it is, without creating it under a name. -/
def Edit.addsElement : Edit → Bool
  | .add (.element _) => true
  | _ => false

/-- Tags and attributes of a tree are those that a log tells, with every name folded. -/
structure Recorded (tree : Tree) (log : List Naming) : Prop where
  tag :
    ∀ id, tree.tag? id = (createdAs? log id).map Text.lowercase
  attributes :
    ∀ id,
      tree.attributes? id = (createdAs? log id).map fun _ => .ofSettings (settingsOf log id)
  unnamed :
    ∀ id, createdAs? log id = none → settingsOf log id = []

section Logs

variable {log later : List Naming} {id query : NodeId} {name : String} {setting : Setting}

/-- The earlier of two logs tells how a node was created, if it does so at all. -/
theorem createdAs?_append :
    createdAs? (log ++ later) query = (createdAs? log query).or (createdAs? later query) :=
  List.findSome?_append

/-- The settings of two logs are put in a row. -/
theorem settingsOf_append :
    settingsOf (log ++ later) query = settingsOf log query ++ settingsOf later query :=
  List.filterMap_append

/-- A creation tells how its own node was created. -/
theorem createdAs?_creation (attributes : List (String × String)) :
    createdAs? (creation id name attributes) query = if id = query then some name else none := by
  have noTag (pairs : List (String × String)) :
      (pairs.map fun pair => Naming.set id (.text pair.1 pair.2)).findSome?
        (Naming.tagOf? query) = none := by
    simp [List.findSome?_map, Function.comp_def, Naming.tagOf?]
  by_cases same : id = query
  · simp [createdAs?, creation, Naming.tagOf?, same]
  · rw [createdAs?, creation, List.findSome?_cons, noTag]
    simp [Naming.tagOf?, same]

/-- A creation sets the attributes of its own node, as they were given. -/
theorem settingsOf_creation (attributes : List (String × String)) :
    settingsOf (creation id name attributes) query =
      if id = query then attributes.map fun pair => .text pair.1 pair.2 else [] := by
  rw [settingsOf, creation, List.filterMap_cons, Naming.settingOf?, List.filterMap_map]
  by_cases same : id = query <;> simp [Function.comp_def, Naming.settingOf?, same]

/-- A setting creates nothing. -/
theorem createdAs?_settingAt (tree : Tree) :
    createdAs? (tree.settingAt id setting) query = none := by
  unfold settingAt
  split <;> simp [createdAs?, Naming.tagOf?]

/-- A setting is logged for its own node, if that is an element. -/
theorem settingsOf_settingAt (tree : Tree) :
    settingsOf (tree.settingAt id setting) query =
      if tree.isElement id ∧ id = query then [setting] else [] := by
  unfold settingAt
  split <;> by_cases same : id = query <;> simp_all [settingsOf, Naming.settingOf?]

end Logs

section Elements

variable {tree : Tree} {id parent : NodeId}

/-- A new node does not change what others stand for. -/
theorem element?_addChild
    (kind : NodeKind)
    (query : NodeId) :
    (tree.addChild parent kind).element? query =
      if query = tree.size then
        match kind with
        | .element element => some element
        | _ => none
      else
        tree.element? query := by
  rw [element?, kind?_addChild]
  by_cases added : query = tree.size
  · rw [if_pos added, if_pos added]
    cases kind <;> rfl
  · rw [if_neg added, if_neg added]
    rfl

/-- An update changes the element of its name and no other. -/
theorem element?_updateElement
    (change : Element → Element)
    (query : NodeId) :
    (tree.updateElement id change).element? query =
      (tree.element? query).map fun element => if id = query then change element else element := by
  rw [updateElement_eq_revise, element?, kind?_revise, element?]
  cases tree.kind? query with
  | none =>
      rfl
  | some kind =>
      by_cases same : id = query <;> cases kind <;> simp [same, onElement]

/-- There is no element at an index beyond the arena. -/
theorem element?_eq_none (beyond : tree.size ≤ id) :
    tree.element? id = none := by
  rw [element?, kind?, get?_eq_none_iff.mpr beyond]
  rfl

end Elements

namespace Recorded

variable {tree other : Tree} {log : List Naming} {id parent : NodeId}

/-- A log is a matter of what nodes stand for alone. -/
theorem of_sameElements
    (recorded : tree.Recorded log)
    (same : ∀ query, other.element? query = tree.element? query) :
    other.Recorded log where
  tag := by
    intro query
    rw [tag?, same, ← tag?, recorded.tag]
  attributes := by
    intro query
    rw [attributes?, same, ← attributes?, recorded.attributes]
  unnamed := recorded.unnamed

/-- The elements are the nodes that were created under a name. -/
theorem isElement_eq (recorded : tree.Recorded log) :
    tree.isElement id = (createdAs? log id).isSome := by
  have sameTag := congrArg Option.isSome (recorded.tag id)
  rwa [tag?, Option.isSome_map, Option.isSome_map] at sameTag

/-- A node that was created under no name is no element. -/
theorem element?_eq_none
    (recorded : tree.Recorded log)
    (unnamed : createdAs? log id = none) :
    tree.element? id = none := by
  have noTag := recorded.tag id
  rwa [unnamed, Option.map_none, tag?, Option.map_eq_none_iff] at noTag

/-- A node that was created under a name is the element that the log tells. -/
theorem exists_element
    (recorded : tree.Recorded log)
    {name : String}
    (given : createdAs? log id = some name) :
    ∃ element,
      tree.element? id = some element ∧
        element.tag = Text.lowercase name ∧
        element.attributes = .ofSettings (settingsOf log id) := by
  have tag := recorded.tag id
  have attributes := recorded.attributes id
  rw [given, tag?, Option.map_some, Option.map_eq_some_iff] at tag
  obtain ⟨element, here, folded⟩ := tag
  rw [given, attributes?, here] at attributes
  exact ⟨element, here, folded, Option.some.inj attributes⟩

/-- A node that is not there yet has been given no name. -/
theorem createdAs?_eq_none
    (recorded : tree.Recorded log)
    (beyond : tree.size ≤ id) :
    createdAs? log id = none := by
  have noTag := recorded.tag id
  rw [tag?, Tree.element?_eq_none beyond, Option.map_none] at noTag
  exact Option.map_eq_none_iff.mp noTag.symm

/-- Moving a node leaves the log as it is. -/
theorem append
    (recorded : tree.Recorded log)
    (parent child : NodeId) :
    (tree.append parent child).Recorded log :=
  recorded.of_sameElements fun query => by
    rw [element?, kind?_append, ← element?]

/-- A node that is no element leaves the log as it is. -/
theorem add
    (recorded : tree.Recorded log)
    {kind : NodeKind}
    (other : ∀ element, kind ≠ .element element) :
    (tree.add kind).Recorded log :=
  recorded.of_sameElements fun query => by
    by_cases added : query = tree.size
    · rw [element?, kind?_add, if_pos added, added, Tree.element?_eq_none (Nat.le_refl _)]
      cases kind <;> simp_all
    · rw [element?, kind?_add, if_neg added, ← element?]

/-- Adding a child that is no element leaves the log as it is. -/
theorem addChild
    (recorded : tree.Recorded log)
    {kind : NodeKind}
    (other : ∀ element, kind ≠ .element element) :
    (tree.addChild parent kind).Recorded log :=
  (recorded.add other).append parent tree.size

/-- A new element is logged under its own tag with its own settings, and nothing else changes. -/
theorem addElement
    (recorded : tree.Recorded log)
    (name : String)
    (text : Option String)
    (attributes : List (String × String)) :
    (tree.addElement parent name text attributes).Recorded
      (log ++ creation tree.size name attributes) := by
  have fresh := recorded.createdAs?_eq_none (Nat.le_refl tree.size)
  have unset := recorded.unnamed tree.size fresh
  have created (query : NodeId) :
      createdAs? (log ++ creation tree.size name attributes) query =
        if query = tree.size then some name else createdAs? log query := by
    rw [createdAs?_append, createdAs?_creation]
    by_cases added : query = tree.size
    · simp [added, fresh]
    · simp [added, Ne.symm added]
  have settings (query : NodeId) :
      settingsOf (log ++ creation tree.size name attributes) query =
        if query = tree.size then attributes.map fun pair => .text pair.1 pair.2
        else settingsOf log query := by
    rw [settingsOf_append, settingsOf_creation]
    by_cases added : query = tree.size
    · simp [added, unset]
    · simp [added, Ne.symm added]
  constructor <;> intro query <;> by_cases added : query = tree.size
  · simp [tag?, Tree.addElement, element?_addChild, created, added]
  · simp [tag?, Tree.addElement, element?_addChild, created, added, ← recorded.tag]
  · simp [attributes?, Tree.addElement, element?_addChild, created, settings, added,
      Attributes.setAll_empty_eq]
  · simp [attributes?, Tree.addElement, element?_addChild, created, settings, added,
      ← recorded.attributes]
  · simp [created, added]
  · simpa [created, settings, added] using recorded.unnamed query

/-- Changing an element but for its tag and its attributes leaves the log as it is. -/
theorem updateElement
    (recorded : tree.Recorded log)
    {change : Element → Element}
    (sameTag : ∀ element, (change element).tag = element.tag)
    (sameAttributes : ∀ element, (change element).attributes = element.attributes) :
    (tree.updateElement id change).Recorded log where
  tag := by
    intro query
    rw [← recorded.tag, tag?, tag?, element?_updateElement, Option.map_map]
    congr 1
    funext element
    by_cases same : id = query <;> simp [same, sameTag]
  attributes := by
    intro query
    rw [← recorded.attributes, attributes?, attributes?, element?_updateElement, Option.map_map]
    congr 1
    funext element
    by_cases same : id = query <;> simp [same, sameAttributes]
  unnamed := recorded.unnamed

/-- A setting is logged where there is an element, and has no effect elsewhere. -/
theorem set
    (recorded : tree.Recorded log)
    (setting : Setting) :
    (tree.updateElement id fun element =>
        { element with attributes := element.attributes.after setting }).Recorded
      (log ++ tree.settingAt id setting) := by
  have created (query : NodeId) :
      createdAs? (log ++ tree.settingAt id setting) query = createdAs? log query := by
    rw [createdAs?_append, createdAs?_settingAt, Option.or_none]
  have settings (query : NodeId) :
      settingsOf (log ++ tree.settingAt id setting) query =
        settingsOf log query ++
          if (createdAs? log id).isSome ∧ id = query then [setting] else [] := by
    rw [settingsOf_append, settingsOf_settingAt, recorded.isElement_eq]
  constructor <;> intro query
  · rw [created, ← recorded.tag, tag?, tag?, element?_updateElement, Option.map_map]
    congr 1
    funext element
    by_cases same : id = query <;> simp [same]
  · rw [created, settings, attributes?, element?_updateElement, Option.map_map]
    by_cases same : id = query
    · subst same
      cases given : createdAs? log id with
      | none =>
          simp [recorded.element?_eq_none given]
      | some name =>
          obtain ⟨element, here, _, held⟩ := recorded.exists_element given
          simp [here, held, Attributes.ofSettings_concat]
    · simpa [attributes?, same, Function.comp_def] using recorded.attributes query
  · intro unknown
    rw [created] at unknown
    rw [settings, recorded.unnamed query unknown]
    have noElement : ¬ ((createdAs? log id).isSome = true ∧ id = query) := by
      rintro ⟨known, rfl⟩
      simp [unknown] at known
    rw [if_neg noElement]
    rfl

mutual

/-- What a building step does is what it logs. -/
theorem buildStep
    (builder : Builder)
    {log : List Naming}
    (recorded : builder.tree.Recorded log) :
    ∀ step : BuildStep, (builder.step step).tree.Recorded (log ++ stepLog builder step)
  | .element name text attributes steps => by
      rw [Builder.step, stepLog, ← List.append_assoc]
      exact buildSteps
        { builder.addElement name text attributes with position := builder.tree.size }
        (recorded.addElement name text attributes) steps
  | .enter name => by
      rw [Builder.step, stepLog]
      exact recorded.addElement name none []
  | .text content => by
      rw [Builder.step, stepLog, List.append_nil]
      exact recorded.addChild (by simp)
  | .raw content => by
      rw [Builder.step, stepLog, List.append_nil]
      exact recorded.addChild (by simp)
  | .attribute name value => by
      rw [Builder.step, stepLog]
      exact recorded.set (.text name value)
  | .attributeValues name values => by
      rw [Builder.step, stepLog]
      exact recorded.set (.list name values)
  | .ownText content => by
      rw [Builder.step, stepLog, List.append_nil]
      exact recorded.updateElement (fun _ => rfl) (fun _ => rfl)

/-- A building program adds what its steps log, one step after the other. -/
theorem buildSteps
    (builder : Builder)
    {log : List Naming}
    (recorded : builder.tree.Recorded log) :
    ∀ steps : List BuildStep, (builder.run steps).tree.Recorded (log ++ runLog builder steps)
  | [] => by
      rw [Builder.run, runLog, List.append_nil]
      exact recorded
  | first :: rest => by
      rw [Builder.run, runLog, ← List.append_assoc]
      exact buildSteps (builder.step first) (buildStep builder recorded first) rest

end

/-- What an edit does is what it logs, if it adds no element as it is. -/
theorem apply
    (recorded : tree.Recorded log)
    {edit : Edit}
    (named : edit.addsElement = false) :
    (tree.apply edit).Recorded (log ++ tree.editLog edit) := by
  cases edit with
  | add kind =>
      rw [editLog, List.append_nil]
      refine recorded.add ?_
      rintro element rfl
      cases named
  | append parent child =>
      rw [editLog, List.append_nil]
      exact recorded.append parent child
  | addElement parent name text attributes =>
      exact recorded.addElement name text attributes
  | build position steps =>
      exact buildSteps { tree := tree, position := position } recorded steps

/-- Edits add what they log, one edit after the other. -/
theorem applyAll
    (recorded : tree.Recorded log)
    {edits : List Edit}
    (named : ∀ edit ∈ edits, edit.addsElement = false) :
    (tree.applyAll edits).Recorded (log ++ tree.editsLog edits) := by
  induction edits generalizing tree log with
  | nil =>
      rw [editsLog, List.append_nil]
      exact recorded
  | cons first rest inductionHypothesis =>
      obtain ⟨here, later⟩ := List.forall_mem_cons.mp named
      rw [editsLog, ← List.append_assoc]
      exact inductionHypothesis (recorded.apply here) later

end Recorded

/-- In the document alone there is no element. -/
theorem recorded_empty : Tree.empty.Recorded [] where
  tag := by
    intro id
    cases id <;> rfl
  attributes := by
    intro id
    cases id <;> rfl
  unnamed := fun _ _ => rfl

/-- A tree is what is logged while it is built. -/
theorem recorded_built
    {edits : List Edit}
    (named : ∀ edit ∈ edits, edit.addsElement = false) :
    (built edits).Recorded (namings edits) :=
  recorded_empty.applyAll named

end MarkupQuery.Tree
