import Mathlib.Data.Nat.Digits.Defs
import MarkupQuery.Proofs.Selector.Positions
import MarkupQuery.Proofs.Tree.Iterators

namespace MarkupQuery

/-!
# Positional tests

A positional test finds an element in the list of all elements under its parent. The same position
is counted along the links to the siblings before it, and an element is the last one if no element
follows along the links to the siblings behind it. An argument of `nth-child` asks for a position by
a number of any length. Reading it into a word that holds the number of nodes makes no difference:
what does not fit into the word is the position of no element.
-/

open MarkupQuery.Text

namespace Tree

/-- The position of an element under its parent, counted along the links to earlier siblings. -/
def positionByLinks (tree : Tree) (id : NodeId) : Nat :=
  ((tree.precedingSiblings id).filter tree.isElement).length + 1

theorem idxOf?_append_cons
    {id : NodeId}
    {earlier : List NodeId}
    (fresh : id ∉ earlier)
    (later : List NodeId) :
    (earlier ++ id :: later).idxOf? id = some earlier.length := by
  refine List.idxOf?_eq_some_iff.mpr ⟨by simp, by simp, ?_⟩
  intro index before
  rw [List.getElem_append_left before]
  exact fun same => fresh (same ▸ List.getElem_mem before)

namespace Linked

variable {tree : Tree} {id parent : NodeId}

/-- An element stands between the elements before and behind it that the links lead to. -/
theorem elementChildren_eq
    (linked : tree.Linked)
    (owned : tree.parent? id = some parent)
    (element : tree.isElement id = true) :
    tree.elementChildren parent =
      ((tree.precedingSiblings id).filter tree.isElement).reverse ++
        id :: (tree.followingSiblings id).filter tree.isElement := by
  rw [elementChildren, ← linked.siblings_eq_children owned]
  simp [element]

/-- The place of an element in the list of elements is the one told by the links. -/
theorem place?_eq
    (linked : tree.Linked)
    (owned : tree.parent? id = some parent)
    (element : tree.isElement id = true) :
    tree.place? id =
      some {
        position := tree.positionByLinks id
        count :=
          tree.positionByLinks id + ((tree.followingSiblings id).filter tree.isElement).length
      } := by
  have shape := linked.elementChildren_eq owned element
  have noDuplicates : (tree.elementChildren parent).Nodup :=
    (linked.nodup_children parent).filter _
  rw [shape] at noDuplicates
  have fresh : id ∉ ((tree.precedingSiblings id).filter tree.isElement).reverse := fun before =>
    (List.nodup_append.mp noDuplicates).2.2 id before id List.mem_cons_self rfl
  simp only [place?, owned, Option.bind_some, shape, idxOf?_append_cons fresh, Option.map_some,
    positionByLinks, List.length_append, List.length_reverse, List.length_cons]
  congr 2
  omega

/-- No position is greater than the number of nodes. -/
theorem positionByLinks_le
    (linked : tree.Linked)
    (id : NodeId) :
    tree.positionByLinks id ≤ tree.size := by
  have few := (linked.length_siblings_lt id).1
  have fewer := List.length_filter_le tree.isElement (tree.precedingSiblings id)
  rw [positionByLinks]
  omega

end Linked

end Tree

namespace Selector.NthPosition

/-- A number as it may be written: digits, one at least. -/
structure IsNumeral (argument : String) : Prop where
  nonempty : argument ≠ ""
  digits : ∀ c ∈ argument.toList, c.isDigit = true

/-- The number that a digit stands for. -/
def digitValue (c : Char) : Nat :=
  c.toNat - '0'.toNat

/-- The number that digits stand for, the last of them for the ones. -/
def decimalValue (argument : String) : Nat :=
  Nat.ofDigits 10 (argument.toList.reverse.map digitValue)

/-- What an argument asks for, by the parity of a position or by its number. -/
def AsksFor (argument : String) (position : Nat) : Prop :=
  (lowercase argument = "odd" ∧ position % 2 = 1) ∨
    (lowercase argument = "even" ∧ position % 2 = 0) ∨
    (IsNumeral argument ∧ decimalValue argument = position)

/-- Read digits after a number into a word of numbers below a bound, if they fit into it. -/
def readBelow? (bound : Nat) : List Char → Nat → Option Nat
  | [], value => some value
  | c :: digits, value =>
      if 10 * value < bound then
        if 10 * value + digitValue c < bound then
          readBelow? bound digits (10 * value + digitValue c)
        else
          none
      else
        none

section Numerals

variable {argument : String}

/-- Reading from the left gives every digit the weight of its place. -/
theorem ofDigitChars_eq
    (digits : List Char)
    (value : Nat) :
    Nat.ofDigitChars 10 digits value =
      Nat.ofDigits 10 (digits.reverse.map digitValue) + 10 ^ digits.length * value := by
  induction digits generalizing value with
  | nil =>
      simp
  | cons c digits inductionHypothesis =>
      rw [Nat.ofDigitChars_cons, inductionHypothesis]
      simp [Nat.ofDigits_append, digitValue, Nat.pow_succ, Nat.mul_add, Nat.mul_assoc,
        Nat.add_comm, Nat.add_left_comm]

theorem ofDigitChars_eq_decimalValue (argument : String) :
    Nat.ofDigitChars 10 argument.toList 0 = decimalValue argument := by
  rw [ofDigitChars_eq, Nat.mul_zero, Nat.add_zero, decimalValue]

/-- Reading digits never leads to a smaller number. -/
theorem le_ofDigitChars
    (digits : List Char)
    (value : Nat) :
    value ≤ Nat.ofDigitChars 10 digits value := by
  rw [ofDigitChars_eq]
  exact Nat.le_add_left_of_le (Nat.le_mul_of_pos_left value (Nat.pow_pos (by decide)))

/-- What is read into a word is the number itself if it fits, and nothing otherwise. -/
theorem readBelow?_eq
    {bound : Nat}
    (digits : List Char)
    {value : Nat}
    (fits : value < bound) :
    readBelow? bound digits value =
      if Nat.ofDigitChars 10 digits value < bound then
        some (Nat.ofDigitChars 10 digits value)
      else
        none := by
  induction digits generalizing value with
  | nil =>
      simp [readBelow?, Nat.ofDigitChars_nil, fits]
  | cons c digits inductionHypothesis =>
      rw [readBelow?, Nat.ofDigitChars_cons]
      change _ =
        if Nat.ofDigitChars 10 digits (10 * value + digitValue c) < bound then
          some (Nat.ofDigitChars 10 digits (10 * value + digitValue c))
        else
          none
      by_cases stillFits : 10 * value + digitValue c < bound
      · rw [if_pos (by omega), if_pos stillFits, inductionHypothesis stillFits]
      · -- A number that has left the word does not come back.
        have later := le_ofDigitChars digits (10 * value + digitValue c)
        have never : ¬ Nat.ofDigitChars 10 digits (10 * value + digitValue c) < bound := by
          omega
        rw [if_neg stillFits, if_neg never, ite_self]

/-- A word that holds a position is enough to compare any number with it. -/
theorem readBelow?_eq_some_iff
    {bound position : Nat}
    (fits : position < bound) :
    readBelow? bound argument.toList 0 = some position ↔ decimalValue argument = position := by
  rw [readBelow?_eq _ (Nat.zero_lt_of_lt fits), ofDigitChars_eq_decimalValue]
  constructor
  · intro read
    split at read
    · exact Option.some.inj read
    · cases read
  · rintro rfl
    rw [if_pos fits]

/-- A number is the same in either case, so it is neither of the two words. -/
theorem IsNumeral.lowercase_ne
    (numeral : IsNumeral argument)
    (word : String)
    {c : Char}
    (member : c ∈ word.toList)
    (letter : c.isDigit = false) :
    lowercase argument ≠ word := by
  rw [lowercase_eq_self fun c member => not_isUpper_of_isDigit (numeral.digits c member)]
  rintro rfl
  simp [numeral.digits c member] at letter

theorem isNumeral_iff :
    (!argument.toList.isEmpty && argument.toList.all Char.isDigit) = true ↔
      IsNumeral argument := by
  rw [Bool.and_eq_true, List.all_eq_true, Bool.not_eq_true', List.isEmpty_eq_false_iff]
  constructor
  · rintro ⟨nonempty, digits⟩
    exact ⟨by simpa using nonempty, digits⟩
  · rintro ⟨nonempty, digits⟩
    exact ⟨by simpa using nonempty, digits⟩

/-- An argument accepts the positions that it asks for. -/
theorem accepts_ofArgument_iff
    {position : Nat} :
    (ofArgument argument).accepts position = true ↔ AsksFor argument position := by
  unfold ofArgument AsksFor
  by_cases odd : lowercase argument = "odd"
  · have noNumeral : ¬ IsNumeral argument := fun numeral =>
      numeral.lowercase_ne "odd" (c := 'o') (by decide) (by decide) odd
    simp [odd, noNumeral, accepts]
  · by_cases even : lowercase argument = "even"
    · have noNumeral : ¬ IsNumeral argument := fun numeral =>
        numeral.lowercase_ne "even" (c := 'e') (by decide) (by decide) even
      simp [even, noNumeral, accepts]
    · rw [if_neg odd, if_neg even]
      by_cases numeral : IsNumeral argument
      · rw [if_pos (isNumeral_iff.mpr numeral), ofDigitChars_eq_decimalValue]
        simp [odd, even, numeral, accepts]
      · rw [if_neg (mt isNumeral_iff.mp numeral)]
        simp [odd, even, numeral, accepts]

/-- A numeral accepts a position that a word holds if the position is read into the word. -/
theorem IsNumeral.accepts_iff_readBelow?
    (numeral : IsNumeral argument)
    {bound position : Nat}
    (fits : position < bound) :
    (ofArgument argument).accepts position = true ↔
      readBelow? bound argument.toList 0 = some position := by
  have notOdd := numeral.lowercase_ne "odd" (c := 'o') (by decide) (by decide)
  have notEven := numeral.lowercase_ne "even" (c := 'e') (by decide) (by decide)
  rw [accepts_ofArgument_iff, readBelow?_eq_some_iff fits]
  simp [AsksFor, notOdd, notEven, numeral]

end Numerals

end Selector.NthPosition

namespace Selector

open MarkupQuery.Tree (built)

section Places

variable {tree : Tree} {id parent : NodeId}

/-- What a positional test asks of an element that has a parent, told along the sibling links. -/
def Pseudo.Holds (pseudo : Pseudo) (tree : Tree) (id : NodeId) : Prop :=
  match pseudo.kind with
  | .firstChild => tree.positionByLinks id = 1
  | .lastChild => tree.nextElementSibling? id = none
  | .nthChild => NthPosition.AsksFor pseudo.argumentText (tree.positionByLinks id)

theorem Pseudo.accepts_of_orphan
    (orphan : tree.parent? id = none)
    (pseudo : Pseudo) :
    pseudo.accepts tree id = false := by
  rw [accepts, Tree.place?, orphan]
  rfl

theorem Pseudo.accepts_iff_holds
    (linked : tree.Linked)
    (owned : tree.parent? id = some parent)
    (element : tree.isElement id = true)
    (pseudo : Pseudo) :
    pseudo.accepts tree id = true ↔ pseudo.Holds tree id := by
  rw [accepts, linked.place?_eq owned element, Option.any_some, acceptsPlace, Holds]
  cases pseudo.kind with
  | firstChild =>
      exact beq_iff_eq
  | lastChild =>
      simp [Tree.nextElementSibling?]
  | nthChild =>
      exact NthPosition.accepts_ofArgument_iff

/-- The elements among the children decide alone. -/
theorem Pseudo.accepts_congr
    {other : Tree}
    {otherParent : NodeId}
    (owned : tree.parent? id = some parent)
    (otherOwned : other.parent? id = some otherParent)
    (same : other.elementChildren otherParent = tree.elementChildren parent)
    (pseudo : Pseudo) :
    pseudo.accepts other id = pseudo.accepts tree id := by
  rw [accepts, accepts, Tree.place?, Tree.place?, owned, otherOwned, Option.bind_some,
    Option.bind_some, same]

end Places

/--
In every tree that edits build and of every element: without a parent it passes no positional test.
With one it passes `first-child` if its position, counted along the links to earlier siblings, is
one, `last-child` if no element follows along the links to later siblings, and `nth-child` if the
argument asks for its position by parity or by a number, however long. The number may as well be
read into a word that holds the number of nodes, and refused if it does not fit. In whatever tree
the node stands among the same elements, whatever else stands between them, it passes the same
tests.
-/
theorem accepts_pseudo_built
    (edits : List Tree.Edit)
    (id : NodeId)
    (element : (built edits).isElement id = true) :
    let tree := built edits
    (tree.parent? id = none → ∀ pseudo : Pseudo, pseudo.accepts tree id = false) ∧
      ∀ parent,
        tree.parent? id = some parent →
          (∀ pseudo : Pseudo, pseudo.accepts tree id = true ↔ pseudo.Holds tree id) ∧
            (∀ bound,
              tree.size < bound →
                ∀ argument,
                  NthPosition.IsNumeral argument →
                    (Pseudo.accepts { kind := .nthChild, argument := some argument } tree id =
                        true ↔
                      NthPosition.readBelow? bound argument.toList 0 =
                        some (tree.positionByLinks id))) ∧
            ∀ others otherParent,
              (built others).parent? id = some otherParent →
                (built others).elementChildren otherParent = tree.elementChildren parent →
                  ∀ pseudo : Pseudo,
                    pseudo.accepts (built others) id = pseudo.accepts tree id := by
  intro tree
  have linked : tree.Linked := Tree.linked_built edits
  refine ⟨Pseudo.accepts_of_orphan, fun parent owned => ⟨?_, ?_, ?_⟩⟩
  · exact Pseudo.accepts_iff_holds linked owned element
  · intro bound holdsSize argument numeral
    have fits := Nat.lt_of_le_of_lt (linked.positionByLinks_le id) holdsSize
    rw [Pseudo.accepts, linked.place?_eq owned element]
    exact numeral.accepts_iff_readBelow? fits
  · intro others otherParent otherOwned same
    exact Pseudo.accepts_congr owned otherOwned same

/--
The second item of a list, with texts, markup and a document around it, is the second and the last
one, just as in a list of the two items alone. A number that leaves a word is no smaller number.
-/
theorem accepts_pseudo_built_items :
    let edits : List Tree.Edit := [
      .build 0 [
        .element "ul" none [] [
          .text "before",
          .element "li" none [] [],
          .raw "<hr>",
          .element "li" none [] [],
          .text "behind"
        ]
      ],
      .add .document,
      .append 1 7
    ]
    let others : List Tree.Edit := [
      .build 0 [.element "ul" none [] []],
      .add (.text "nowhere"),
      .addElement 1 "li" none [],
      .add (.text "nowhere"),
      .addElement 1 "li" none []
    ]
    let tree := built edits
    let nth (argument : String) : Pseudo := { kind := .nthChild, argument := some argument }
    tree.isElement 5 = true ∧
      tree.parent? 5 = some 1 ∧
      tree.children 1 = [2, 3, 4, 5, 6, 7] ∧
      tree.positionByLinks 5 = 2 ∧
      ((nth "Even").accepts tree 5 ∧ (nth "002").accepts tree 5) ∧
      (nth "18446744073709551618").accepts tree 5 = false ∧
      NthPosition.readBelow? 18446744073709551616 "18446744073709551618".toList 0 = none ∧
      (∀ pseudo : Pseudo, pseudo.accepts tree 5 = true ↔ pseudo.Holds tree 5) ∧
      (built others).parent? 5 = some 1 ∧
      (built others).elementChildren 1 = tree.elementChildren 1 ∧
      ∀ pseudo : Pseudo, pseudo.accepts (built others) 5 = pseudo.accepts tree 5 := by
  intro edits others tree nth
  have element : tree.isElement 5 = true := by
    decide +kernel
  have owned : tree.parent? 5 = some 1 := by
    decide +kernel
  have otherOwned : (built others).parent? 5 = some 1 := by
    decide +kernel
  have same : (built others).elementChildren 1 = tree.elementChildren 1 := by
    decide +kernel
  obtain ⟨_, placed⟩ := accepts_pseudo_built edits 5 element
  obtain ⟨holds, _, alike⟩ := placed 1 owned
  exact ⟨element, owned, by decide +kernel, by decide +kernel, by decide +kernel,
    by decide +kernel, by decide +kernel, holds, otherOwned, same, alike others 1 otherOwned same⟩

end Selector

end MarkupQuery
