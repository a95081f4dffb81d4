import MarkupQuery.Selector.Branch

namespace MarkupQuery.Selector

/-!
# Reading a branch with a cursor

A branch can be read by moving a cursor over it. The cursor is an offset in bytes: it is moved on by
the length of what was read, and put back where a test turns out to be unfinished. Whenever the
branch is looked at, it is cut at the cursor. To cut it inside a character is a fault, and so is a
loop that goes on for more turns than the branch has bytes.
-/

open MarkupQuery.Text

/-- The length of a text in bytes. -/
def byteLength (text : List Char) : Nat :=
  (String.ofList text).utf8ByteSize

/-- A text cut after a number of bytes, if it is long enough and no character stands across. -/
def cutAt? : List Char → Nat → Option (List Char × List Char)
  | text, 0 => some ([], text)
  | [], _ + 1 => none
  | c :: text, bytes + 1 =>
      if c.utf8Size ≤ bytes + 1 then
        (cutAt? text (bytes + 1 - c.utf8Size)).map fun cut => (c :: cut.1, cut.2)
      else
        none

/-- How many bytes stand in front of the first character of a kind. -/
def offsetOf? (wanted : Char → Bool) : List Char → Option Nat
  | [] => none
  | c :: text =>
      if wanted c then some 0 else (offsetOf? wanted text).map fun bytes => c.utf8Size + bytes

/-- What can go wrong with a cursor. -/
inductive CursorFault where
  /-- The branch is cut inside a character or behind its end. -/
  | outOfRange
  /-- A loop has had more turns than the branch has bytes. -/
  | endless
  deriving Repr, DecidableEq

/-- A part of the reading of a branch, with the offset of the cursor as its state. -/
abbrev CursorReader (α : Type) : Type :=
  ReaderT String (StateT Nat (Except CursorFault)) α

namespace CursorReader

/-- What is read of a branch from an offset on, and the offset after it. -/
def runAt
    {α : Type}
    (reader : CursorReader α)
    (input : String)
    (position : Nat) :
    Except CursorFault (α × Nat) :=
  reader input position

/-- The text from the cursor on. -/
def rest : CursorReader (List Char) := do
  match cutAt? (← read).toList (← get) with
  | some cut => return cut.2
  | none => throw .outOfRange

def advance (bytes : Nat) : CursorReader Unit :=
  modify fun position => position + bytes

/-- The character at the cursor. -/
def peek : CursorReader (Option Char) := do
  return (← rest).head?

/-- Whether a character stands at the cursor, which is moved behind it. -/
def eat (c : Char) : CursorReader Bool := do
  if (← peek) = some c then
    advance c.utf8Size
    return true
  else
    return false

/-- Whether a literal stands at the cursor, which is moved behind it. -/
def eatLiteral (literal : String) : CursorReader Bool := do
  if (afterLiteral? literal.toList (← rest)).isSome then
    advance literal.utf8ByteSize
    return true
  else
    return false

/-- The run of a class at the cursor, possibly empty. -/
def takeWhile (inClass : Char → Bool) : CursorReader (List Char) := do
  let text ← rest
  let length := (offsetOf? (fun c => !inClass c) text).getD (byteLength text)
  advance length
  match cutAt? text length with
  | some cut => return cut.1
  | none => throw .outOfRange

/-- The run of a class at the cursor, if there is one. -/
def word (inClass : Char → Bool) : CursorReader (Option (List Char)) := do
  let letters ← takeWhile inClass
  return if letters.isEmpty then none else some letters

def ident : CursorReader (Option (List Char)) :=
  word isIdentChar

/-- What stands between two segments. Every combinator character is one byte long. -/
def combinator : CursorReader (Option Combinator) := do
  let skipped ← takeWhile isSpace
  match (← peek).bind Combinator.ofGlyph? with
  | some glyph =>
      advance 1
      let _ ← takeWhile isSpace
      return some glyph
  | none =>
      return if skipped.isEmpty then none else some .descendant

/-- Read something, and put the cursor back if that fails. -/
def orRestore
    {α : Type}
    (reader : CursorReader (Option α)) :
    CursorReader (Option α) := do
  let saved ← get
  let outcome ← reader
  match outcome with
  | some value => return some value
  | none =>
      set saved
      return none

def tagTest : CursorReader (Option TagTest) := do
  if ← eat '*' then
    return some .universal
  else
    return (← word Char.isAlphanum).map fun name => .named (lowercase (String.ofList name))

/-- A name after a sign, such as `#main` or `.done`. -/
def signedIdent (sign : Char) : CursorReader (Option String) :=
  orRestore do
    if ← eat sign then
      return (← ident).map String.ofList
    else
      return none

def operator : CursorReader (Option AttributeOperator) := do
  if ← eatLiteral "^=" then
    return some .startsWith
  else if ← eatLiteral "$=" then
    return some .endsWith
  else if ← eatLiteral "*=" then
    return some .contains
  else if ← eat '=' then
    return some .equals
  else
    return none

/-- The text up to a character that closes it, which is read too. -/
def upTo (closing : Char) : CursorReader (Option (List Char)) := do
  let letters ← takeWhile fun c => c != closing
  if ← eat closing then
    return some letters
  else
    return none

def value : CursorReader (Option (List Char)) := do
  if ← eat '"' then
    upTo '"'
  else if ← eat '\'' then
    upTo '\''
  else
    word fun c => c != ']' && !isBlank c

/-- What follows the name in an attribute test. -/
def comparison : CursorReader (Option (Option (AttributeOperator × String))) := do
  if ← eat ']' then
    return some none
  else
    match ← operator with
    | none => return none
    | some operator =>
        match ← value with
        | none => return none
        | some value =>
            if ← eat ']' then
              return some (some (operator, String.ofList value))
            else
              return none

/-- An attribute test in brackets. -/
def attributeTest : CursorReader (Option AttributeTest) :=
  orRestore do
    if ← eat '[' then
      match ← ident with
      | none => return none
      | some name =>
          return (← comparison).map fun comparison =>
            { name := lowercase (String.ofList name), comparison := comparison }
    else
      return none

/-- What may follow the colon of a pseudo-class. -/
def pseudoName : CursorReader (Option Pseudo) := do
  if ← eatLiteral "first-child" then
    return some { kind := .firstChild }
  else if ← eatLiteral "last-child" then
    return some { kind := .lastChild }
  else if ← eatLiteral "nth-child(" then
    return (← upTo ')').map fun argument =>
      { kind := .nthChild, argument := some (String.ofList (trim argument)) }
  else
    return none

/-- A pseudo-class with its colon. -/
def pseudo : CursorReader (Option Pseudo) :=
  orRestore do
    if ← eat ':' then
      pseudoName
    else
      return none

/-- What a loop reads before it fails to read any more, within a number of turns. -/
def collect
    {α : Type}
    (reader : CursorReader (Option α)) :
    (turns : Nat) → CursorReader (List α)
  | 0 => throw .endless
  | turns + 1 => do
      match ← reader with
      | none => return []
      | some value => return value :: (← collect reader turns)

/-- A loop has one turn for each byte and one more. -/
def repeated
    {α : Type}
    (reader : CursorReader (Option α)) :
    CursorReader (List α) := do
  collect reader ((← read).utf8ByteSize + 1)

/-- The tests that stand at the cursor, possibly none. -/
def simpleSelector : CursorReader ReadSegment := do
  let tag ← tagTest
  let id ← signedIdent '#'
  let classes ← repeated (signedIdent '.')
  let attributes ← repeated attributeTest
  let pseudos ← repeated pseudo
  return {
    segment := {
      tag := tag
      id := id
      classes := classes
      attributes := attributes
      pseudo := pseudos.getLast?
    }
    repeatedPseudo := decide (1 < pseudos.length)
  }

/--
One turn of the loop over a branch: a combinator, which only the segment at the very start may lack,
and a segment. The loop is left where there is no combinator or the cursor stays.
-/
def turn : CursorReader (Option ReadSegment) := do
  let start ← get
  let glyph ← combinator
  if glyph.isNone ∧ 0 < start then
    return none
  else
    let read ← simpleSelector
    if (← get) = start then
      return none
    else
      return some {
        read with
        segment := { read.segment with combinator := glyph.getD .descendant }
      }

/-- What one turn read, and from where to where. -/
structure Turn where
  read : ReadSegment
  start : Nat
  stop : Nat

/-- One turn with the offsets before and after it. -/
def spannedTurn : CursorReader (Option Turn) := do
  let start ← get
  let outcome ← turn
  let stop ← get
  return outcome.map fun read => { read := read, start := start, stop := stop }

/-- All turns over a branch. -/
def turns : CursorReader (List Turn) :=
  repeated spannedTurn

/-- Read a whole branch; empty segments are dropped with their combinators. -/
def branch : CursorReader (Except SelectorError Branch) := do
  let input ← read
  if isBlankText input then
    return .error (.empty input)
  else
    let turns ← turns
    let position ← get
    if position = input.utf8ByteSize then
      match segmentsOf (turns.map Turn.read) with
      | [] => return .error (.noSimpleSelector input)
      | segments => return .ok segments
    else
      return .error (.unparsed input position (String.ofList (← rest)))

end CursorReader

/-- Read a whole branch with a cursor. -/
def Branch.readByCursor (branch : String) : Except CursorFault (Except SelectorError Branch) :=
  (CursorReader.branch.runAt branch 0).map Prod.fst

end MarkupQuery.Selector
