import MarkupQuery.Tree.Edit

namespace MarkupQuery

/-!
# Building programs

A building program is run by a builder that stands at a node. Its steps add children there, run
further steps at a child just added, move the builder down to a new child, or change the element
at which the builder stands. Steps that change an element do nothing at a node of another kind.
-/

/-- One step of a building program. -/
inductive BuildStep where
  /-- Add an element and run steps at it. -/
  | element
      (name : String)
      (text : Option String)
      (attributes : List (String × String))
      (steps : List BuildStep)
  /-- Add an element and go on there. -/
  | enter (name : String)
  /-- Add a text node. -/
  | text (content : String)
  /-- Add a node of raw markup. -/
  | raw (content : String)
  /-- Set an attribute of the current element to what a text stands for. -/
  | attribute (name value : String)
  /-- Set an attribute of the current element to a list of values. -/
  | attributeValues (name : String) (values : List String)
  /-- Set the current element's own text. -/
  | ownText (content : String)

/-- A tree and the node at which building goes on. -/
structure Builder where
  tree : Tree
  position : NodeId

namespace Builder

/-- Add a child at the builder's node. -/
def addChild (builder : Builder) (kind : NodeKind) : Builder :=
  { builder with tree := builder.tree.addChild builder.position kind }

/-- Add an element at the builder's node. -/
def addElement
    (builder : Builder)
    (name : String)
    (text : Option String)
    (attributes : List (String × String)) :
    Builder :=
  { builder with
    tree := builder.tree.addElement builder.position name text attributes }

/-- Change the element at the builder's node. -/
def updateElement (builder : Builder) (change : Element → Element) : Builder :=
  { builder with tree := builder.tree.updateElement builder.position change }

mutual

/-- Run one step. After the steps at a child the builder stands where it stood before. -/
def step (builder : Builder) : BuildStep → Builder
  | .element name text attributes steps =>
      let child := builder.tree.size
      let added := builder.addElement name text attributes
      let built := run { added with position := child } steps
      { built with position := builder.position }
  | .enter name =>
      let child := builder.tree.size
      { builder.addElement name none [] with position := child }
  | .text content => builder.addChild (.text content)
  | .raw content => builder.addChild (.raw content)
  | .attribute name value =>
      builder.updateElement fun element =>
        { element with attributes := element.attributes.set name value }
  | .attributeValues name values =>
      builder.updateElement fun element =>
        { element with attributes := element.attributes.setValues name values }
  | .ownText content =>
      builder.updateElement fun element => { element with text := some content }

/-- Run the steps of a program in order. -/
def run (builder : Builder) : List BuildStep → Builder
  | [] => builder
  | first :: rest => run (step builder first) rest

end

mutual

/-- The builders after each step at a child and after the step itself. -/
def stepTrace (builder : Builder) : BuildStep → List Builder
  | .element name text attributes steps =>
      let child := builder.tree.size
      let added := builder.addElement name text attributes
      trace { added with position := child } steps ++
        [builder.step (.element name text attributes steps)]
  | .enter name => [builder.step (.enter name)]
  | .text content => [builder.step (.text content)]
  | .raw content => [builder.step (.raw content)]
  | .attribute name value => [builder.step (.attribute name value)]
  | .attributeValues name values => [builder.step (.attributeValues name values)]
  | .ownText content => [builder.step (.ownText content)]

/-- The builders after each step of a program, steps at a child before the step they belong to. -/
def trace (builder : Builder) : List BuildStep → List Builder
  | [] => []
  | first :: rest => stepTrace builder first ++ trace (builder.step first) rest

end

end Builder

end MarkupQuery
