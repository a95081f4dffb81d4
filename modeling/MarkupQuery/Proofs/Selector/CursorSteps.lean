import MarkupQuery.Proofs.Text.Reading
import MarkupQuery.Selector.Cursor

namespace MarkupQuery.Selector

/-!
# Steps of the cursor

An offset in bytes between two characters is told by the text that stands there: the input is a
front of so many bytes and that text. Each step of a cursor, taken where some text stands, gives a
value and leaves the cursor where the remaining text stands, and so do steps that are taken in turn.
-/

open MarkupQuery.Text

section Lengths

variable {front text : List Char}

@[simp] theorem byteLength_nil : byteLength [] = 0 :=
  rfl

/-- The bytes of a text are those of its two parts. -/
@[simp] theorem byteLength_append (front text : List Char) :
    byteLength (front ++ text) = byteLength front + byteLength text := by
  simp [byteLength]

@[simp] theorem byteLength_cons (c : Char) (text : List Char) :
    byteLength (c :: text) = c.utf8Size + byteLength text := by
  rw [byteLength, String.ofList_cons, String.utf8ByteSize_append, String.utf8ByteSize_singleton]
  rfl

/-- The bytes of a text are counted character by character. -/
theorem byteLength_toList (input : String) : byteLength input.toList = input.utf8ByteSize := by
  rw [byteLength, String.ofList_toList]

/-- Only the empty text has no bytes. -/
theorem byteLength_pos_iff : 0 < byteLength text ↔ text ≠ [] := by
  cases text with
  | nil =>
      simp
  | cons c text =>
      have positive := c.utf8Size_pos
      rw [byteLength_cons]
      exact iff_of_true (by omega) (List.cons_ne_nil c text)

/-- Every character takes a byte at least. -/
theorem length_le_byteLength (text : List Char) : text.length ≤ byteLength text := by
  induction text with
  | nil =>
      exact Nat.le_refl 0
  | cons c text inductionHypothesis =>
      have positive := c.utf8Size_pos
      rw [List.length_cons, byteLength_cons]
      omega

/-- A text is cut where a front of it ends. -/
theorem cutAt?_append (front text : List Char) :
    cutAt? (front ++ text) (byteLength front) = some (front, text) := by
  induction front with
  | nil =>
      rw [List.nil_append, byteLength_nil, cutAt?]
  | cons c front inductionHypothesis =>
      obtain ⟨bytes, size⟩ := Nat.exists_eq_succ_of_ne_zero (Nat.ne_of_gt c.utf8Size_pos)
      have behind : bytes + 1 + byteLength front = bytes + byteLength front + 1 := by omega
      have remaining : bytes + byteLength front + 1 - (bytes + 1) = byteLength front := by omega
      rw [byteLength_cons, size, Nat.succ_eq_add_one, behind, List.cons_append, cutAt?, size,
        Nat.succ_eq_add_one, if_pos (by omega), remaining, inductionHypothesis]
      rfl

/-- Nothing else is cut off. -/
theorem eq_append_of_cutAt?
    {bytes : Nat}
    {whole : List Char}
    (cut : cutAt? whole bytes = some (front, text)) :
    whole = front ++ text ∧ byteLength front = bytes := by
  induction whole, bytes using cutAt?.induct generalizing front with
  | case1 whole =>
      simp only [cutAt?, Option.some.injEq, Prod.mk.injEq] at cut
      obtain ⟨rfl, rfl⟩ := cut
      exact ⟨rfl, rfl⟩
  | case2 bytes =>
      simp [cutAt?] at cut
  | case3 c others bytes fits inductionHypothesis =>
      rw [cutAt?, if_pos fits] at cut
      obtain ⟨⟨begun, rest⟩, inner, same⟩ := Option.map_eq_some_iff.mp cut
      obtain ⟨rfl, rfl⟩ := Prod.mk.inj same
      obtain ⟨rfl, length⟩ := inductionHypothesis inner
      refine ⟨rfl, ?_⟩
      rw [byteLength_cons, length]
      omega
  | case4 c others bytes tooLong =>
      simp [cutAt?, tooLong] at cut

/-- The run of a class ends at the first character outside of it. -/
theorem offsetOf?_getD
    (inClass : Char → Bool)
    (text : List Char) :
    (offsetOf? (fun c => !inClass c) text).getD (byteLength text) =
      byteLength (text.takeWhile inClass) := by
  induction text with
  | nil =>
      rfl
  | cons c text inductionHypothesis =>
      cases inside : inClass c with
      | false =>
          simp [offsetOf?, inside]
      | true =>
          rw [List.takeWhile_cons_of_pos inside, byteLength_cons c (text.takeWhile inClass),
            ← inductionHypothesis]
          cases found : offsetOf? (fun c => !inClass c) text <;> simp [offsetOf?, inside, found]

end Lengths

/-- A text stands at an offset of the input. -/
def Stands
    (input : String)
    (position : Nat)
    (text : List Char) :
    Prop :=
  ∃ before, input.toList = before ++ text ∧ position = byteLength before

namespace Stands

variable {input : String} {position other : Nat} {text : List Char}

/-- What was read and what remains are together as long as the input. -/
theorem position_add (stands : Stands input position text) :
    position + byteLength text = input.utf8ByteSize := by
  obtain ⟨before, shape, rfl⟩ := stands
  rw [← byteLength_toList, shape, byteLength_append]

/-- A text stands at one offset only, counted from the end. -/
theorem position_eq
    (stands : Stands input position text)
    (standsThere : Stands input other text) :
    other = position :=
  Nat.add_right_cancel (standsThere.position_add.trans stands.position_add.symm)

/-- There are no more characters left than the input has bytes. -/
theorem length_le (stands : Stands input position text) : text.length ≤ input.utf8ByteSize := by
  have whole := stands.position_add
  have bytes := length_le_byteLength text
  omega

/-- Behind a front the text stands as many bytes further on. -/
theorem next_eq
    {front : List Char}
    (stands : Stands input position (front ++ text))
    (standsNext : Stands input other text) :
    other = position + byteLength front := by
  have here := stands.position_add
  have there := standsNext.position_add
  rw [byteLength_append] at here
  omega

/-- Only the whole input stands at its start. -/
theorem position_pos_iff (stands : Stands input position text) :
    0 < position ↔ text.length < input.toList.length := by
  obtain ⟨before, shape, rfl⟩ := stands
  rw [shape, List.length_append]
  cases before with
  | nil =>
      simp
  | cons c before =>
      have positive := byteLength_pos_iff.mpr (List.cons_ne_nil c before)
      rw [List.length_cons]
      omega

end Stands

namespace CursorReader

variable {α β : Type} {input : String} {text middle rest : List Char}

/-- Wherever a text stands, a value is read and another text stands at the cursor then. -/
def Reads
    (input : String)
    (reader : CursorReader α)
    (text : List Char)
    (value : α)
    (rest : List Char) :
    Prop :=
  ∀ position, Stands input position text →
    ∃ next, reader.runAt input position = .ok (value, next) ∧ Stands input next rest

section Steps

variable {reader : CursorReader α} {next : α → CursorReader β} {value : α} {result : β}

/-- Giving a value reads nothing. -/
theorem Reads.pure (value : α) : Reads input (pure value) text value text :=
  fun position stands => ⟨position, rfl, stands⟩

/-- A reader goes on where the first part of it stopped. -/
theorem runAt_bind
    {position middle : Nat}
    (first : reader.runAt input position = .ok (value, middle)) :
    (reader >>= next).runAt input position = (next value).runAt input middle := by
  change Except.bind (reader.runAt input position) _ = _
  rw [first]
  rfl

/-- What is read in two parts is read one after the other. -/
theorem Reads.bind
    (first : Reads input reader text value middle)
    (second : Reads input (next value) middle result rest) :
    Reads input (reader >>= next) text result rest := by
  intro position stands
  obtain ⟨between, read, standsBetween⟩ := first position stands
  obtain ⟨final, readNext, standsFinal⟩ := second between standsBetween
  exact ⟨final, (runAt_bind read).trans readNext, standsFinal⟩

/-- The rest of the input is there wherever the offset is at a boundary. -/
theorem runAt_rest
    (input : String)
    (position : Nat) :
    CursorReader.rest.runAt input position =
      match cutAt? input.toList position with
      | some cut => .ok (cut.2, position)
      | none => .error .outOfRange := by
  change runAt
      (match cutAt? input.toList position with
      | some cut => Pure.pure cut.2
      | none => throw CursorFault.outOfRange) input position = _
  cases cutAt? input.toList position <;> rfl

/-- Looking at the rest of the input does not move the cursor. -/
theorem reads_rest (text : List Char) : Reads input CursorReader.rest text text text := by
  rintro position ⟨before, shape, rfl⟩
  refine ⟨byteLength before, ?_, before, shape, rfl⟩
  rw [runAt_rest, shape, cutAt?_append]

/-- Going on by the bytes of some characters goes past these characters. -/
theorem reads_advance (front rest : List Char) :
    Reads input (advance (byteLength front)) (front ++ rest) () rest := by
  rintro position ⟨before, shape, rfl⟩
  exact ⟨_, rfl, before ++ front, by rw [shape, List.append_assoc], (byteLength_append _ _).symm⟩

/-- A test that succeeds is followed by what is done then. -/
theorem Reads.ifTrue
    {test : CursorReader Bool}
    {passed failed : CursorReader β}
    (first : Reads input test text true middle)
    (second : Reads input passed middle result rest) :
    Reads input (do if ← test then passed else failed) text result rest :=
  first.bind (by simpa using second)

/-- A test that fails is followed by what is done otherwise. -/
theorem Reads.ifFalse
    {test : CursorReader Bool}
    {passed failed : CursorReader β}
    (first : Reads input test text false middle)
    (second : Reads input failed middle result rest) :
    Reads input (do if ← test then passed else failed) text result rest :=
  first.bind (by simpa using second)

/-- Looking at the next character does not move the cursor. -/
theorem reads_peek (text : List Char) : Reads input peek text text.head? text :=
  (reads_rest text).bind (.pure _)

/-- A character that stands there is passed. -/
theorem reads_eat
    (c : Char)
    (rest : List Char) :
    Reads input (eat c) (c :: rest) true rest := by
  refine (reads_peek (c :: rest)).bind ?_
  rw [List.head?_cons, if_pos rfl]
  have size : c.utf8Size = byteLength [c] := by
    simp
  rw [size]
  exact (reads_advance [c] rest).bind (.pure true)

/-- Where another character stands the cursor stays. -/
theorem reads_eat_of_ne
    {c : Char}
    (other : text.head? ≠ some c) :
    Reads input (eat c) text false text := by
  refine (reads_peek text).bind ?_
  rw [if_neg other]
  exact .pure false

/-- A literal that stands there is passed as a whole. -/
theorem reads_eatLiteral
    (literal : String)
    (rest : List Char) :
    Reads input (eatLiteral literal) (literal.toList ++ rest) true rest := by
  refine (reads_rest _).bind ?_
  rw [if_pos (by rw [afterLiteral?_eq_some_iff.mpr rfl]; rfl), ← byteLength_toList]
  exact (reads_advance literal.toList rest).bind (.pure true)

/-- Where a literal does not stand the cursor stays, even if a part of it does. -/
theorem reads_eatLiteral_of_none
    {literal : String}
    (other : afterLiteral? literal.toList text = none) :
    Reads input (eatLiteral literal) text false text := by
  refine (reads_rest text).bind ?_
  rw [if_neg (by simp [other])]
  exact .pure false

/-- The longest run of a class is taken. -/
theorem reads_takeWhile
    (inClass : Char → Bool)
    (text : List Char) :
    Reads input (takeWhile inClass) text (text.takeWhile inClass) (text.dropWhile inClass) := by
  refine (reads_rest text).bind ?_
  rw [offsetOf?_getD]
  have cut := cutAt?_append (text.takeWhile inClass) (text.dropWhile inClass)
  have moved :
      Reads input (advance (byteLength (text.takeWhile inClass)))
        (text.takeWhile inClass ++ text.dropWhile inClass) () (text.dropWhile inClass) :=
    reads_advance _ _
  rw [List.takeWhile_append_dropWhile] at cut moved
  refine moved.bind ?_
  rw [cut]
  exact .pure _

end Steps

end CursorReader

end MarkupQuery.Selector
