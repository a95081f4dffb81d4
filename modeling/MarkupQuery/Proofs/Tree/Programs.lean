import MarkupQuery.Proofs.Tree.Numbering
import MarkupQuery.Proofs.Tree.Removals
import MarkupQuery.Proofs.Tree.Revisions

namespace MarkupQuery.Builder

/-!
# What building programs add

A building program can be read without running it. It says how the element is changed at which it is
run, and which sketches it adds below this element; a step that goes down into a new child leaves
the rest of the program to the child. Running the program does just that: the element is changed in
place and the sketches are added at the end of its children, laid out behind all older nodes.
-/

open MarkupQuery.Tree Sketch

/-- The element that a step creates. -/
def created
    (name : String)
    (text : Option String)
    (attributes : List (String × String)) :
    Element :=
  { tag := name.map Char.toLower
    attributes := Attributes.recorded attributes
    text := text }

/-- How a program changes the element at which it is run, before it goes down into a child. -/
def ownChange : List BuildStep → Element → Element
  | [], element => element
  | .enter _ :: _, element => element
  | .element _ _ _ _ :: rest, element => ownChange rest element
  | .text _ :: rest, element => ownChange rest element
  | .raw _ :: rest, element => ownChange rest element
  | .attribute name value :: rest, element =>
      ownChange rest { element with attributes := element.attributes.set name value }
  | .attributeValues name values :: rest, element =>
      ownChange rest { element with attributes := element.attributes.setValues name values }
  | .ownText content :: rest, element =>
      ownChange rest { element with text := some content }

mutual

/-- What a program adds that begins with a step: `behind` is what the steps after it add. -/
def stepForest (rest : List BuildStep) (behind : List Sketch) : BuildStep → List Sketch
  | .element name text attributes steps =>
      .node (.element (ownChange steps (created name text attributes))) (forest steps) :: behind
  | .enter name => [.node (.element (ownChange rest (created name none []))) behind]
  | .text content => .node (.text content) [] :: behind
  | .raw content => .node (.raw content) [] :: behind
  | .attribute _ _ => behind
  | .attributeValues _ _ => behind
  | .ownText _ => behind

/-- The sketches that a program adds, in its own order. -/
def forest : List BuildStep → List Sketch
  | [] => []
  | first :: rest => stepForest rest (forest rest) first

end

/--
Running a program is changing the element at which it is run and adding the sketches that it says,
unless one of the new nodes gets the name of this element.
-/
def RunsAsRead (steps : List BuildStep) : Prop :=
  ∀ builder : Builder,
    builder.tree.Spares (sizeAll (forest steps)) builder.position →
      (builder.run steps).tree =
        (builder.tree.revise builder.position (onElement (ownChange steps))).graftAll
          builder.position (forest steps)

section Running

variable {builder : Builder} {rest : List BuildStep}

/-- A program without changes of its own element leaves that as it is. -/
theorem revise_ownChange_eq_self
    {steps : List BuildStep}
    (unchanged : ∀ element, ownChange steps element = element) :
    builder.tree.revise builder.position (onElement (ownChange steps)) = builder.tree :=
  revise_eq_self fun kind => by
    cases kind <;> simp [onElement, unchanged]

/-- A change of the element comes in front of the changes that the rest of the program makes. -/
theorem tree_run_updateElement
    (asRead : RunsAsRead rest)
    {change : Element → Element}
    (spared : builder.tree.Spares (sizeAll (forest rest)) builder.position) :
    ((builder.updateElement change).run rest).tree =
      (builder.tree.revise builder.position
          (onElement fun element => ownChange rest (change element))).graftAll
        builder.position (forest rest) := by
  have size : (builder.updateElement change).tree.size = builder.tree.size :=
    size_updateElement builder.tree builder.position change
  rw [asRead (builder.updateElement change) (spared.congr size), Builder.updateElement,
    updateElement_eq_revise, revise_revise]
  congr 2
  funext kind
  cases kind <;> rfl

/-- A sketch that is added comes in front of those that the rest of the program adds. -/
theorem tree_run_graft
    (asRead : RunsAsRead rest)
    {first : Sketch}
    (spared : builder.tree.Spares (sizeAll (first :: forest rest)) builder.position) :
    (Builder.run
          { builder with tree := builder.tree.graft builder.position first }
          rest).tree =
      (builder.tree.revise builder.position (onElement (ownChange rest))).graftAll
        builder.position (first :: forest rest) := by
  rw [sizeAll] at spared
  have here : builder.tree.Spares first.size builder.position :=
    spared.of_le (Nat.le_add_right _ _)
  have later := asRead { builder with tree := builder.tree.graft builder.position first }
    (spared.behind (size_graft builder.tree builder.position first))
  rw [later, revise_graft here, graftAll]

/-- Running a program at an element just created adds the element with what is below it. -/
theorem tree_run_created
    {steps : List BuildStep}
    (asRead : RunsAsRead steps)
    (name : String)
    (text : Option String)
    (attributes : List (String × String)) :
    (Builder.run
          { builder.addElement name text attributes with position := builder.tree.size }
          steps).tree =
      builder.tree.graft builder.position
        (.node (.element (ownChange steps (created name text attributes))) (forest steps)) := by
  have inside : builder.tree.size < (builder.addElement name text attributes).tree.size := by
    rw [Builder.addElement, Tree.addElement, Tree.addChild, size_append, size_add]
    exact Nat.lt_succ_self _
  rw [asRead _ (.inl inside), Builder.addElement, Tree.addElement, revise_addChild_self,
    Attributes.setAll_empty_eq_recorded]
  rfl

/-- What a program does is what is read off it. -/
theorem runsAsRead : ∀ steps : List BuildStep, RunsAsRead steps
  | [], builder, _ => by
      rw [revise_ownChange_eq_self fun _ => rfl]
      rfl
  | .element name text attributes steps :: rest, builder, spared => by
      rw [Builder.run, Builder.step, tree_run_created (runsAsRead steps)]
      exact tree_run_graft (runsAsRead rest) spared
  | .enter name :: rest, builder, _ => by
      rw [Builder.run, Builder.step, tree_run_created (runsAsRead rest),
        revise_ownChange_eq_self fun _ => rfl]
      rfl
  | .text content :: rest, _, spared => tree_run_graft (runsAsRead rest) spared
  | .raw content :: rest, _, spared => tree_run_graft (runsAsRead rest) spared
  | .attribute name value :: rest, _, spared => tree_run_updateElement (runsAsRead rest) spared
  | .attributeValues name values :: rest, _, spared =>
      tree_run_updateElement (runsAsRead rest) spared
  | .ownText content :: rest, _, spared => tree_run_updateElement (runsAsRead rest) spared

end Running

/--
A node is the same in two trees: it stands for the same, under the same parent and over the same
children.
-/
structure SameNode (tree grown : Tree) (id : NodeId) : Prop where
  kind :
    grown.kind? id = tree.kind? id
  parent :
    grown.parent? id = tree.parent? id
  children :
    grown.children id = tree.children id

/--
A tree has grown out of another by sketches: the nodes behind the old ones are those of the sketches,
numbered in document order from the tops on.
-/
structure GrownBy (tree : Tree) (sketches : List Sketch) (grown : Tree) : Prop where
  size :
    grown.size = tree.size + sizeAll sketches
  laidOut :
    grown.AllLaidOut tree.size sketches
  numbered :
    ((starts tree.size sketches).flatMap fun top => top :: grown.descendants top) =
      List.range' tree.size (sizeAll sketches)

section OlderNodes

variable {tree middle grown : Tree} {id : Nat}

theorem SameNode.trans
    (first : SameNode tree middle id)
    (second : SameNode middle grown id) :
    SameNode tree grown id where
  kind := second.kind.trans first.kind
  parent := second.parent.trans first.parent
  children := second.children.trans first.children

/-- Adding a node changes no older node but its parent. -/
theorem sameNode_addChild
    (linked : tree.Linked)
    {parent : Nat}
    (old : id < tree.size)
    (other : id ≠ parent)
    (kind : NodeKind) :
    SameNode tree (tree.addChild parent kind) id where
  kind := by
    rw [kind?_addChild, if_neg (Nat.ne_of_lt old)]
  parent := parent?_addChild old kind
  children := by
    by_cases itself : parent = tree.size
    · have refused : (tree.add kind).canAppend parent tree.size ≠ true := by
        intro allowed
        exact (canAppend_iff.mp allowed).2.2.1 itself.symm
      rw [Tree.addChild, Tree.append, if_neg refused, (sameLinks_add tree kind).children]
    · have spared : tree.Spares 1 parent := by
        unfold Spares
        omega
      rw [linked.children_addChild spared kind (Nat.le_of_lt old), if_neg other]

theorem sameNode_updateElement
    {position : Nat}
    (other : id ≠ position)
    (change : Element → Element) :
    SameNode tree (tree.updateElement position change) id where
  kind := by
    rw [updateElement_eq_revise, kind?_revise]
    simp [Ne.symm other]
  parent := by
    rw [(sameLinks_updateElement tree position change).parent]
  children := by
    rw [(sameLinks_updateElement tree position change).children]

theorem size_addChild
    (builder : Builder)
    (kind : NodeKind) :
    (builder.addChild kind).tree.size = builder.tree.size + 1 := by
  rw [Builder.addChild, Tree.addChild, size_append, size_add]

theorem size_addElement
    (builder : Builder)
    (name : String)
    (text : Option String)
    (attributes : List (String × String)) :
    (builder.addElement name text attributes).tree.size = builder.tree.size + 1 :=
  size_addChild builder _

/-- A program adds as many nodes as it says, wherever it is run. -/
theorem size_run :
    ∀ (steps : List BuildStep) (builder : Builder),
      (builder.run steps).tree.size = builder.tree.size + sizeAll (forest steps)
  | [], _ => rfl
  | .element name text attributes steps :: rest, builder => by
      rw [Builder.run, Builder.step, size_run rest, size_run steps, size_addElement, forest,
        stepForest, sizeAll, Sketch.size]
      omega
  | .enter name :: rest, builder => by
      rw [Builder.run, Builder.step, size_run rest, size_addElement, forest, stepForest, sizeAll,
        Sketch.size, sizeAll]
      omega
  | .text content :: rest, builder => by
      rw [Builder.run, Builder.step, size_run rest, size_addChild, forest, stepForest, sizeAll,
        Sketch.size, sizeAll]
      omega
  | .raw content :: rest, builder => by
      rw [Builder.run, Builder.step, size_run rest, size_addChild, forest, stepForest, sizeAll,
        Sketch.size, sizeAll]
      omega
  | .attribute name value :: rest, builder => by
      rw [Builder.run, Builder.step, size_run rest, Builder.updateElement, size_updateElement]
      rfl
  | .attributeValues name values :: rest, builder => by
      rw [Builder.run, Builder.step, size_run rest, Builder.updateElement, size_updateElement]
      rfl
  | .ownText content :: rest, builder => by
      rw [Builder.run, Builder.step, size_run rest, Builder.updateElement, size_updateElement]
      rfl

/-- No change takes a node out of the arena. -/
theorem keptByChanges_lt_size (id : Nat) :
    KeptByChanges fun tree => id < tree.size where
  add := by
    intro tree kind old
    rw [size_add]
    exact Nat.lt_succ_of_lt old
  append := by
    intro tree parent child old
    rwa [size_append]
  updateElement := by
    intro tree position change old
    rwa [size_updateElement]

theorem position_step (builder : Builder) (step : BuildStep) :
    (builder.step step).position = builder.position ∨
      (builder.step step).position = builder.tree.size := by
  cases step with
  | element _ _ _ _ =>
      rw [Builder.step]
      exact .inl rfl
  | enter _ =>
      exact .inr rfl
  | _ =>
      exact .inl rfl

mutual

/-- A building step changes no older node but the one at which it is run. -/
theorem sameNode_step
    (builder : Builder)
    (linked : builder.tree.Linked)
    (old : id < builder.tree.size)
    (other : id ≠ builder.position) :
    ∀ step : BuildStep, SameNode builder.tree (builder.step step).tree id
  | .element name text attributes steps => by
      have added : SameNode builder.tree (builder.addElement name text attributes).tree id :=
        sameNode_addChild linked old other _
      have addedLinked := keptByChanges_linked.keptWithTags.addElement builder.position name text
        attributes linked
      have stillOld := (keptByChanges_lt_size id).keptWithTags.addElement builder.position name text
        attributes old
      have below := sameNode_run
        { builder.addElement name text attributes with position := builder.tree.size }
        addedLinked stillOld (Nat.ne_of_lt old) steps
      rw [Builder.step]
      exact added.trans below
  | .enter name => by
      rw [Builder.step]
      exact sameNode_addChild linked old other _
  | .text content => by
      rw [Builder.step]
      exact sameNode_addChild linked old other _
  | .raw content => by
      rw [Builder.step]
      exact sameNode_addChild linked old other _
  | .attribute name value => by
      rw [Builder.step]
      exact sameNode_updateElement other _
  | .attributeValues name values => by
      rw [Builder.step]
      exact sameNode_updateElement other _
  | .ownText content => by
      rw [Builder.step]
      exact sameNode_updateElement other _

/-- A program changes no older node but the one at which it is run, wherever that is. -/
theorem sameNode_run
    (builder : Builder)
    (linked : builder.tree.Linked)
    (old : id < builder.tree.size)
    (other : id ≠ builder.position) :
    ∀ steps : List BuildStep, SameNode builder.tree (builder.run steps).tree id
  | [] => ⟨rfl, rfl, rfl⟩
  | first :: rest => by
      have stillOther : id ≠ (builder.step first).position := by
        rcases position_step builder first with same | isNew
        · rwa [same]
        · rw [isNew]
          exact Nat.ne_of_lt old
      have stillLinked := keptByChanges_linked.keptWithTags.buildStep builder linked first
      have stillOld := (keptByChanges_lt_size id).keptWithTags.buildStep builder old first
      rw [Builder.run]
      exact (sameNode_step builder linked old other first).trans
        (sameNode_run (builder.step first) stillLinked stillOld stillOther rest)

end

end OlderNodes

section NewNodes

variable {tree : Tree} {id : Nat} {steps : List BuildStep}

/-- The tree with its element changed grows by the sketches of the program. -/
theorem grafted_run
    (linked : tree.Linked)
    (spared : tree.Spares (sizeAll (forest steps)) id) :
    (tree.revise id (onElement (ownChange steps))).Linked ∧
      (tree.revise id (onElement (ownChange steps))).Grafted id (forest steps)
        (Builder.run ⟨tree, id⟩ steps).tree := by
  have size := size_revise tree id (onElement (ownChange steps))
  have revised : (tree.revise id (onElement (ownChange steps))).Linked :=
    linked.of_sameLinks (sameLinks_revise tree id _) (by rw [size]; exact linked.nonempty)
  rw [runsAsRead steps ⟨tree, id⟩ spared]
  exact ⟨revised, revised.grafted_graftAll (spared.congr size)⟩

theorem grownBy_run
    (linked : tree.Linked)
    (spared : tree.Spares (sizeAll (forest steps)) id) :
    GrownBy tree (forest steps) (Builder.run ⟨tree, id⟩ steps).tree := by
  obtain ⟨_, grafted⟩ := grafted_run linked spared
  have laidOut := grafted.laidOut
  rw [size_revise] at laidOut
  exact {
    size := size_run steps ⟨tree, id⟩
    laidOut := laidOut
    numbered := grafted.linked.flatMap_descendants_of_allLaidOut laidOut
  }

/-- The nodes on top get the node of the program as their parent, if that is there. -/
theorem parent?_run_of_mem_starts
    (linked : tree.Linked)
    (spared : tree.Spares (sizeAll (forest steps)) id)
    {top : NodeId}
    (member : top ∈ starts tree.size (forest steps)) :
    (Builder.run ⟨tree, id⟩ steps).tree.parent? top =
      if id < tree.size then some id else none := by
  obtain ⟨revised, _⟩ := grafted_run linked spared
  have size := size_revise tree id (onElement (ownChange steps))
  rw [← size] at member
  rw [runsAsRead steps ⟨tree, id⟩ spared,
    revised.parent?_of_mem_starts (spared.congr size) member, size]

end NewNodes

/--
What running a building program makes of a tree that edits have built. At a node that is there it
adds the nodes that the program says as the last children, numbered in document order behind the
old nodes, it changes the element there, and no other older node. At a name of no node it adds as
many nodes and changes no older node at all; it adds the same ones, without a parent for those on
top, if none of them gets this very name.
-/
theorem run_built
    (edits : List Edit)
    (id : Nat)
    (steps : List BuildStep) :
    (id < (built edits).size →
        GrownBy (built edits) (forest steps) (Builder.run ⟨built edits, id⟩ steps).tree ∧
          (Builder.run ⟨built edits, id⟩ steps).tree.children id =
            (built edits).children id ++ starts (built edits).size (forest steps) ∧
          (∀ top ∈ starts (built edits).size (forest steps),
            (Builder.run ⟨built edits, id⟩ steps).tree.parent? top = some id) ∧
          (Builder.run ⟨built edits, id⟩ steps).tree.kind? id =
            ((built edits).kind? id).map (onElement (ownChange steps)) ∧
          (Builder.run ⟨built edits, id⟩ steps).tree.parent? id = (built edits).parent? id ∧
          ∀ old : Nat, old < (built edits).size → old ≠ id →
            SameNode (built edits) (Builder.run ⟨built edits, id⟩ steps).tree old) ∧
      ((built edits).size ≤ id →
        (Builder.run ⟨built edits, id⟩ steps).tree.size =
            (built edits).size + sizeAll (forest steps) ∧
          ∀ old : Nat, old < (built edits).size →
            SameNode (built edits) (Builder.run ⟨built edits, id⟩ steps).tree old) ∧
      ((built edits).size + sizeAll (forest steps) ≤ id →
        GrownBy (built edits) (forest steps) (Builder.run ⟨built edits, id⟩ steps).tree ∧
          ∀ top ∈ starts (built edits).size (forest steps),
            (Builder.run ⟨built edits, id⟩ steps).tree.parent? top = none) := by
  have linked := linked_built edits
  refine ⟨fun inside => ?_, fun beyond => ⟨?_, ?_⟩, fun apart => ⟨?_, ?_⟩⟩
  · have spared : (built edits).Spares (sizeAll (forest steps)) id := .inl inside
    have links := sameLinks_revise (built edits) id (onElement (ownChange steps))
    have size := size_revise (built edits) id (onElement (ownChange steps))
    obtain ⟨_, grafted⟩ := grafted_run linked spared
    rw [← size] at inside
    refine ⟨grownBy_run linked spared, ?_, ?_, ?_, ?_, ?_⟩
    · rw [grafted.children id inside, if_pos rfl, links.children, size]
    · intro top member
      rw [parent?_run_of_mem_starts linked spared member, if_pos (size ▸ inside)]
    · rw [grafted.kind id inside, kind?_revise]
      simp
    · rw [runsAsRead steps ⟨built edits, id⟩ spared, parent?_graftAll inside, links.parent]
    · intro old isOld other
      exact sameNode_run ⟨built edits, id⟩ linked isOld other steps
  · exact size_run steps ⟨built edits, id⟩
  · intro old isOld
    exact sameNode_run ⟨built edits, id⟩ linked isOld
      (Nat.ne_of_lt (Nat.lt_of_lt_of_le isOld beyond)) steps
  · exact grownBy_run linked (.inr apart)
  · intro top member
    have missing : ¬ id < (built edits).size :=
      Nat.not_lt.mpr (Nat.le_trans (Nat.le_add_right _ _) apart)
    rw [parent?_run_of_mem_starts linked (.inr apart) member, if_neg missing]

/-- A program at the next name that a tree gives adds nodes to the first of its own. -/
theorem run_nextName :
    ¬ ∀ (edits : List Edit) (id : Nat) (steps : List BuildStep),
      (built edits).size ≤ id →
        ∀ top ∈ starts (built edits).size (forest steps),
          (Builder.run ⟨built edits, id⟩ steps).tree.parent? top = none := by
  intro detached
  have second := detached [] 1 [.element "a" none [] [], .element "b" none [] []]
    (by decide) 2 (by decide)
  exact absurd second (by decide)

end MarkupQuery.Builder
