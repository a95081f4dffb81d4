import MarkupQuery.Html.Page
import MarkupQuery.Html.RawContent

namespace MarkupQuery.Html

/-!
# Reading markup

Markup is read token by token, as a whole page or as a fragment of one. Which token comes next
depends on what is open: the content of some elements is text up to their end tag, whatever it
looks like.
-/

/-- Line ends of all kinds as line feeds. -/
def unifyLineEnds : List Char → List Char
  | [] => []
  | '\r' :: '\n' :: rest => '\n' :: unifyLineEnds rest
  | '\r' :: rest => '\n' :: unifyLineEnds rest
  | c :: rest => c :: unifyLineEnds rest

/-- A text without a byte order mark at its start. -/
def dropByteOrderMark : List Char → List Char
  | '\uFEFF' :: rest => rest
  | text => text

/-- The characters of markup that are read. -/
def inputCharacters (markup : String) : List Char :=
  unifyLineEnds (dropByteOrderMark markup.toList)

/-- What takes in tokens, and knows how the input is to be read on. -/
structure Consumer (State : Type) where
  take : State → Token → State
  /-- The element whose content is text and comes next. -/
  textElement? : State → Option String
  /-- Whether what comes next stands in a graphic or a formula. -/
  inForeign : State → Bool
  /-- Whether the rest of the input is text. -/
  restIsText : State → Bool

namespace Consumer

variable {State : Type}

/--
Get ready for some characters. A reference without its semicolon that begins them is no place for a
line feed that does not count, so that an empty text comes in front of it.
-/
def prepare
    (consumer : Consumer State)
    (state : State)
    (characters : List Char) :
    State :=
  if beginsUnterminated characters then consumer.take state (.text "") else state

/-- Take in the next token, if reading gives one. -/
def takeNext
    (consumer : Consumer State)
    (state : State)
    (input : List Char) :
    State × List Char :=
  match Token.read (consumer.inForeign state) input with
  | (some token, rest) => (consumer.take (consumer.prepare state input) token, rest)
  | (none, rest) => (state, rest)

/--
Take in what comes next: a token, or the content of an element that is text and its end tag, or all
of the input.
-/
def step
    (consumer : Consumer State)
    (state : State)
    (input : List Char) :
    State × List Char :=
  match consumer.textElement? state with
  | none =>
      if consumer.restIsText state then
        (consumer.take state (.text (String.ofList (input.map replaceNull))), [])
      else
        consumer.takeNext state input
  | some name =>
      let content := rawContent name input
      let text := elementText name content.1
      consumer.takeNext (consumer.take (consumer.prepare state content.1) (.text text)) content.2

/--
Take in the whole input. Each step shortens it; the length test says why reading ends.
-/
def run
    (consumer : Consumer State)
    (state : State)
    (input : List Char) :
    State :=
  let next := consumer.step state input
  if next.2.length < input.length then
    consumer.run next.1 next.2
  else
    state
termination_by input.length

end Consumer

/-- A fragment takes in tokens as they come. -/
def fragmentConsumer : Consumer Nesting :=
  { take := Nesting.take
    textElement? := Nesting.textElement?
    inForeign := Nesting.inForeign
    restIsText := Nesting.restIsText }

/-- A page sorts tokens into its parts. -/
def pageConsumer : Consumer Page :=
  { take := Page.take
    textElement? := Page.textElement?
    inForeign := Page.inForeign
    restIsText := Page.restIsText }

/-- Markup read as a fragment: what stands in it and nothing else. -/
def readFragment (markup : String) : Markup :=
  .document (fragmentConsumer.run .empty (inputCharacters markup)).finish

/-- Markup read as a page: always with a head and a body. -/
def readPage (markup : String) : Markup :=
  .document (pageConsumer.run .empty (inputCharacters markup)).finish

end MarkupQuery.Html
