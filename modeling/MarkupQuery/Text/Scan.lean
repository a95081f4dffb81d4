namespace MarkupQuery.Text

/-!
# Reading from the start of a text

A reader takes a text and gives back what it read together with the text that follows. A reader
that fails gives nothing, so whoever called it still has the text as it was.
-/

/-- The text after a literal that stands at its start. -/
def afterLiteral? : List Char → List Char → Option (List Char)
  | [], text => some text
  | _ :: _, [] => none
  | expected :: literal, c :: text =>
      if expected = c then afterLiteral? literal text else none

/--
Read as often as one step succeeds and shortens the text.

The length test only says why the repetition ends: a step that reads something always passes it.
-/
def many
    {α : Type}
    (step? : List Char → Option (α × List Char))
    (text : List Char) :
    List α × List Char :=
  match step? text with
  | none => ([], text)
  | some (value, rest) =>
      if rest.length < text.length then
        let following := many step? rest
        (value :: following.1, following.2)
      else
        ([], text)
termination_by text.length

/-- The maximal run of characters of a class, if there is one, and the text after it. -/
def run?
    (inClass : Char → Bool)
    (text : List Char) :
    Option (List Char × List Char) :=
  match text.takeWhile inClass with
  | [] => none
  | word => some (word, text.dropWhile inClass)

end MarkupQuery.Text
