import MarkupQuery.Proofs.Selector.Lists
import MarkupQuery.Proofs.Selector.Parsing
import MarkupQuery.Proofs.Tree.Appending
import MarkupQuery.Proofs.Tree.Programs

namespace MarkupQuery

/-!
# The document as the root

An append may name any node as the child, the document too. It is refused if the parent is below the
document or is no node at all, but a node that was never attached can take the document as its
child. So the document is the root of a tree as long as every append of it was refused. Then it has
no siblings, and a branch that asks for siblings first finds nothing from there.
-/

namespace Builder

open MarkupQuery.Tree

variable {id : NodeId}

mutual

/-- A building step moves no older node, not even the one at which it is run. -/
theorem parent?_step
    (builder : Builder)
    (old : id < builder.tree.size) :
    ∀ step : BuildStep, (builder.step step).tree.parent? id = builder.tree.parent? id
  | .element name text attributes steps => by
      have stillOld := (keptByChanges_lt_size id).keptWithTags.addElement builder.position name text
        attributes old
      rw [Builder.step]
      exact (parent?_run
        { builder.addElement name text attributes with position := builder.tree.size }
        stillOld steps).trans (parent?_addChild old _)
  | .enter name => by
      rw [Builder.step]
      exact parent?_addChild old _
  | .text content => by
      rw [Builder.step]
      exact parent?_addChild old _
  | .raw content => by
      rw [Builder.step]
      exact parent?_addChild old _
  | .attribute name value => by
      rw [Builder.step, Builder.updateElement, (sameLinks_updateElement _ _ _).parent]
  | .attributeValues name values => by
      rw [Builder.step, Builder.updateElement, (sameLinks_updateElement _ _ _).parent]
  | .ownText content => by
      rw [Builder.step, Builder.updateElement, (sameLinks_updateElement _ _ _).parent]

theorem parent?_run
    (builder : Builder)
    (old : id < builder.tree.size) :
    ∀ steps : List BuildStep, (builder.run steps).tree.parent? id = builder.tree.parent? id
  | [] => rfl
  | first :: rest => by
      have stillOld := (keptByChanges_lt_size id).keptWithTags.buildStep builder old first
      rw [Builder.run, parent?_run (builder.step first) stillOld rest, parent?_step builder old]

end

end Builder

namespace Tree

instance (tree : Tree) (parent child : NodeId) : Decidable (tree.RefusesAppend parent child) :=
  inferInstanceAs (Decidable (_ ∨ _ ∨ _ ∨ _))

/-- An edit leaves the document where it is: it is no append of the document, or a refused one. -/
def Edit.LeavesDocument (tree : Tree) : Edit → Prop
  | .append parent child => child = root → tree.RefusesAppend parent child
  | _ => True

instance (tree : Tree) :
    (edit : Edit) → Decidable (edit.LeavesDocument tree)
  | .add _ => inferInstanceAs (Decidable True)
  | .append _ _ => inferInstanceAs (Decidable (_ → _))
  | .addElement _ _ _ _ => inferInstanceAs (Decidable True)
  | .build _ _ => inferInstanceAs (Decidable True)

/-- Each of several edits leaves the document where it is, in the tree that those before it make. -/
def LeavesDocument (tree : Tree) : List Edit → Prop
  | [] => True
  | first :: rest => first.LeavesDocument tree ∧ (tree.apply first).LeavesDocument rest

instance decidableLeavesDocument (tree : Tree) :
    (edits : List Edit) → Decidable (tree.LeavesDocument edits)
  | [] => inferInstanceAs (Decidable True)
  | first :: rest =>
      have := decidableLeavesDocument (tree.apply first) rest
      inferInstanceAs (Decidable (_ ∧ _))

section Document

variable {tree : Tree}

/-- An append gives the document a parent unless it leaves it where it is. -/
theorem parent?_root_append_eq_none_iff (parent child : NodeId) :
    (tree.append parent child).parent? root = none ↔
      tree.parent? root = none ∧ (child = root → tree.RefusesAppend parent child) := by
  by_cases refused : tree.RefusesAppend parent child
  · simp [append_of_refuses refused, refused]
  · rw [parent?_append (not_refusesAppend_iff.mp refused)]
    by_cases isRoot : root = child
    · simp [isRoot, refused]
    · simp [isRoot, Ne.symm isRoot]

/-- Only an append that is carried out gives the document a parent, and no edit takes it away. -/
theorem parent?_root_apply_eq_none_iff
    (nonempty : root < tree.size)
    (edit : Edit) :
    (tree.apply edit).parent? root = none ↔
      tree.parent? root = none ∧ edit.LeavesDocument tree := by
  cases edit with
  | append parent child =>
      exact parent?_root_append_eq_none_iff parent child
  | add kind =>
      have unmoved := congrFun (sameLinks_add tree kind).parent root
      simp only [apply, unmoved, Edit.LeavesDocument, and_true]
  | addElement parent name text attributes =>
      have unmoved :
          (tree.addElement parent name text attributes).parent? root = tree.parent? root :=
        parent?_addChild nonempty _
      simp only [apply, unmoved, Edit.LeavesDocument, and_true]
  | build position steps =>
      have unmoved := Builder.parent?_run ⟨tree, position⟩ nonempty steps
      simp only [apply, unmoved, Edit.LeavesDocument, and_true]

theorem parent?_root_applyAll_eq_none_iff
    (nonempty : root < tree.size)
    (edits : List Edit) :
    (tree.applyAll edits).parent? root = none ↔
      tree.parent? root = none ∧ tree.LeavesDocument edits := by
  induction edits generalizing tree with
  | nil =>
      simp [applyAll, LeavesDocument]
  | cons first rest inductionHypothesis =>
      have stillNonempty : root < (tree.apply first).size :=
        (Builder.keptByChanges_lt_size root).apply nonempty first
      have restKeeps := inductionHypothesis stillNonempty
      rw [parent?_root_apply_eq_none_iff nonempty first, and_assoc] at restKeeps
      exact restKeeps

/-- The document has no parent if and only if every append of it was refused. -/
theorem parent?_root_built_eq_none_iff (edits : List Edit) :
    (built edits).parent? root = none ↔ Tree.empty.LeavesDocument edits := by
  have orphan : Tree.empty.parent? root = none := rfl
  rw [built, parent?_root_applyAll_eq_none_iff (by decide), and_iff_right orphan]

end Document

end Tree

namespace Selector

open MarkupQuery.Text MarkupQuery.Tree

/-- A combinator that asks for siblings, such as `+` and `~`. -/
def Combinator.isBeside : Combinator → Bool
  | .adjacent => true
  | .sibling => true
  | .descendant => false
  | .child => false

/-- A branch begins with a combinator that asks for siblings. -/
def Branch.startsBeside : Branch → Bool
  | [] => false
  | segment :: _ => segment.combinator.isBeside

/--
The text of a branch begins with `+` or `~`. Of several combinator characters before the first test
the last one counts, as it does everywhere in a branch.
-/
def beginsBeside (text : String) : Bool :=
  (runCombinator (text.toList.takeWhile isRunChar)).isBeside

section Branches

variable {tree : Tree} {context : NodeId}

/-- What is read of a branch begins as its text does. -/
theorem startsBeside_of_parse
    {text : String}
    {branch : Branch}
    (parsed : Branch.parse text = .ok branch) :
    branch.startsBeside = beginsBeside text := by
  obtain ⟨written, shape, rfl⟩ := exists_written_of_parse parsed
  have run : text.toList.takeWhile isRunChar = written.first.run := by
    rw [← shape, WrittenBranch.text, WrittenSegment.text, List.append_assoc]
    exact takeWhile_append_of_stops written.first.runChars (written.first.stops_simple _)
  rw [beginsBeside, run]
  rfl

/-- A node without a parent has no targets beside it. -/
theorem Combinator.targets_of_orphan
    {combinator : Combinator}
    (beside : combinator.isBeside = true)
    (orphan : tree.parent? context = none) :
    combinator.targets tree context = [] := by
  cases combinator with
  | adjacent =>
      simp [targets, orphan]
  | sibling =>
      simp [targets, orphan]
  | descendant =>
      cases beside
  | child =>
      cases beside

theorem Branch.reached_of_orphan
    {branch : Branch}
    (beside : branch.startsBeside = true)
    (orphan : tree.parent? context = none) :
    branch.reached tree context = [] := by
  cases branch with
  | nil =>
      cases beside
  | cons segment rest =>
      rw [reached, Combinator.targets_of_orphan beside orphan, List.flatMap_nil]

theorem Branch.walk_of_orphan
    {branch : Branch}
    (beside : branch.startsBeside = true)
    (orphan : tree.parent? context = none) :
    branch.walk tree context = [] := by
  rw [walk_eq_eraseDups, reached_of_orphan beside orphan, List.eraseDups_nil]

/-- Branches that all begin beside a node without a parent find nothing from there. -/
theorem select_of_orphan
    {selector : String}
    {plan : Plan}
    (parsed : Plan.parse selector = .ok plan)
    (beside : ∀ text ∈ branchTexts selector, beginsBeside text = true)
    (orphan : tree.parent? context = none) :
    select tree context selector = .ok [] := by
  have nothing : ∀ branch ∈ plan, Branch.reached tree branch context = [] := by
    intro branch member
    obtain ⟨text, isText, read⟩ := Plan.exists_branchText_of_mem parsed member
    refine Branch.reached_of_orphan ?_ orphan
    rw [startsBeside_of_parse read, beside text isText]
  rw [select_of_parse parsed, Plan.select_eq_eraseDups, List.flatMap_eq_nil_iff.mpr nothing,
    List.eraseDups_nil]

end Branches

/--
In every tree that edits build the root is a document. It has no parent if and only if every append
of it was refused; then it has no siblings, and branches that begin with `+` or `~` find nothing
from there.
-/
theorem document_stays_root (edits : List Edit) :
    (built edits).kind? root = some .document ∧
      ((built edits).parent? root = none ↔ Tree.empty.LeavesDocument edits) ∧
      (Tree.empty.LeavesDocument edits →
        (built edits).previousSibling? root = none ∧
          (built edits).nextSibling? root = none ∧
          (∀ branch : Branch,
            branch.startsBeside = true → branch.walk (built edits) root = []) ∧
          ∀ (selector : String) (plan : Plan),
            Plan.parse selector = .ok plan →
              (∀ text ∈ branchTexts selector, beginsBeside text = true) →
                select (built edits) root selector = .ok []) := by
  refine ⟨kind?_root_built edits, parent?_root_built_eq_none_iff edits, fun left => ?_⟩
  have orphan := (parent?_root_built_eq_none_iff edits).mpr left
  obtain ⟨previous, next⟩ := (linked_built edits).orphan orphan
  exact ⟨previous, next, fun _ beside => Branch.walk_of_orphan beside orphan,
    fun _ _ parsed beside => select_of_orphan parsed beside orphan⟩

/-- A menu, a paragraph that is attached late, and appends of the document that are all refused. -/
theorem document_stays_root_menu :
    let edits : List Edit := [
      .addElement root "ul" none [("class", "menu")],
      .add (.element (Element.named "p")),
      .append 1 root,
      .append 9 root,
      .append root 2,
      .build 2 [.text "late", .enter "b"],
      .append 4 root
    ]
    let selector := "+ p, > ~ ul.menu"
    Tree.empty.LeavesDocument edits ∧
      (∀ text ∈ branchTexts selector, beginsBeside text = true) ∧
      (built edits).parent? root = none ∧
      select (built edits) root selector = .ok [] := by
  intro edits selector
  have left : Tree.empty.LeavesDocument edits := by
    decide +kernel
  have beside : ∀ text ∈ branchTexts selector, beginsBeside text = true := by
    decide +kernel
  have parsed :
      Plan.parse selector =
        .ok [
          [{ combinator := .adjacent, tag := some (.named "p") }],
          [{ combinator := .sibling, tag := some (.named "ul"), classes := ["menu"] }]
        ] := by
    decide +kernel
  obtain ⟨_, orphan, found⟩ := document_stays_root edits
  obtain ⟨_, _, _, selected⟩ := found left
  exact ⟨left, beside, orphan.mpr left, selected selector _ parsed beside⟩

/--
An element that was never attached takes the document as its child. With a paragraph behind it the
document has a sibling, and a branch that begins with `+` finds it.
-/
theorem document_appended :
    let edits : List Edit := [
      .add (.element (Element.named "div")),
      .add (.element (Element.named "p")),
      .append 1 root,
      .append 1 2
    ]
    (built edits).parent? root = some 1 ∧
      (built edits).nextSibling? root = some 2 ∧
      select (built edits) root "+ p" = .ok [2] := by
  decide +kernel

end Selector

end MarkupQuery
