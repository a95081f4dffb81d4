import MarkupQuery.Report.Json
import MarkupQuery.Selector.Plan
import MarkupQuery.Selector.Printer

namespace MarkupQuery.Report

/-!
# Reporting plans

A plan is reported branch by branch: the branch as selector text, and below it a line for each
segment; or all segments as records.
-/

open MarkupQuery.Selector

/-- The name of a combinator. -/
def combinatorName : Combinator → String
  | .descendant => "descendant"
  | .child => "child"
  | .adjacent => "adjacent"
  | .sibling => "sibling"

/-- The name of an attribute operator. -/
def operatorName : AttributeOperator → String
  | .equals => "equals"
  | .startsWith => "prefix"
  | .endsWith => "suffix"
  | .contains => "substring"

/-- The record of a tag test. -/
def tagRecord : Option TagTest → Json
  | none => .null
  | some .universal => .string "universal"
  | some (.named tag) => .object [("name", .string tag)]

/-- The record of an attribute test. -/
def attributeRecord (test : AttributeTest) : Json :=
  .object [
    ("name", .string test.name),
    ("comparison",
      match test.comparison with
      | none => .null
      | some (operator, value) => .array [.string (operatorName operator), .string value])]

/-- The record of a pseudo-class. -/
def pseudoRecord : Option Pseudo → Json
  | none => .null
  | some pseudo =>
      .object [("kind", .string pseudo.kind.name), ("argument", .ofString? pseudo.argument)]

/-- The record of a segment. -/
def segmentRecord (segment : Segment) : Json :=
  .object [
    ("combinator", .string (combinatorName segment.combinator)),
    ("tag", tagRecord segment.tag),
    ("id", .ofString? segment.id),
    ("classes", .array (segment.classes.map .string)),
    ("attributes", .array (segment.attributes.map attributeRecord)),
    ("pseudo", pseudoRecord segment.pseudo)]

/-- The width of the column in which combinators are named. -/
def combinatorWidth : Nat := 10

/-- The line of a segment: its combinator in a column, then its tests. -/
def segmentLine (segment : Segment) : String :=
  let name := combinatorName segment.combinator
  "  " ++ name ++ String.ofList (List.replicate (combinatorWidth - name.length) ' ') ++ " " ++
    segment.text ++ "\n"

/-- The lines of a branch. -/
def branchLines (branch : Branch) : String :=
  branch.text ++ "\n" ++ String.join (branch.map segmentLine)

/-- A plan as lines. -/
def planText (plan : Plan) : String :=
  String.join (plan.map branchLines)

/-- A plan as records. -/
def planJson (plan : Plan) : String :=
  (Json.array (plan.map fun branch => .array (branch.map segmentRecord))).documentText

end MarkupQuery.Report
