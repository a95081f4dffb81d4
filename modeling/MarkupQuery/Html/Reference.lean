import MarkupQuery.Html.Reference.Names
import MarkupQuery.Text.Scan

namespace MarkupQuery.Html

/-!
# Character references

A character reference stands for what cannot be written as it is: `&` with a name or a number, and
a semicolon. After a number and after some names the semicolon may be missing. An ampersand that
begins no reference is an ordinary character.
-/

/-- What the numbers 128 to 159 stand for where that is not the control character. -/
def reassignedCodes : List (Nat × Nat) :=
  [(0x80, 0x20AC), (0x82, 0x201A), (0x83, 0x0192), (0x84, 0x201E), (0x85, 0x2026),
    (0x86, 0x2020), (0x87, 0x2021), (0x88, 0x02C6), (0x89, 0x2030), (0x8A, 0x0160),
    (0x8B, 0x2039), (0x8C, 0x0152), (0x8E, 0x017D), (0x91, 0x2018), (0x92, 0x2019),
    (0x93, 0x201C), (0x94, 0x201D), (0x95, 0x2022), (0x96, 0x2013), (0x97, 0x2014),
    (0x98, 0x02DC), (0x99, 0x2122), (0x9A, 0x0161), (0x9B, 0x203A), (0x9C, 0x0153),
    (0x9E, 0x017E), (0x9F, 0x0178)]

/-- The character that stands for one that cannot be given. -/
def replacementCharacter : Char := '\uFFFD'

/-- The character of a number; zero, surrogates and numbers too large have none. -/
def characterOfCode (code : Nat) : Char :=
  let code := (reassignedCodes.lookup code).getD code
  if code ≠ 0 ∧ code.isValidChar then Char.ofNat code else replacementCharacter

/-- The value of a hexadecimal digit in either case. -/
def hexDigit? (c : Char) : Option Nat :=
  if c.isDigit then
    some (c.toNat - '0'.toNat)
  else if 'a' ≤ c ∧ c ≤ 'f' then
    some (c.toNat - 'a'.toNat + 10)
  else if 'A' ≤ c ∧ c ≤ 'F' then
    some (c.toNat - 'A'.toNat + 10)
  else
    none

/-- The number that hexadecimal digits stand for; there has to be a digit. -/
def hexNumber? (digits : List Char) : Option Nat :=
  match digits.mapM hexDigit? with
  | some (first :: values) => some (values.foldl (fun number digit => 16 * number + digit) first)
  | _ => none

/-- The number that decimal digits stand for; there has to be a digit. -/
def decimalNumber? (digits : List Char) : Option Nat :=
  if digits.isEmpty || !digits.all Char.isDigit then
    none
  else
    some (Nat.ofDigitChars 10 digits 0)

/-- Where a reference stands: in text, or in the value of an attribute. -/
inductive ReferencePlace where
  | text
  | value
  deriving Repr, DecidableEq

/-- The length of the semicolon at the start of a text, if it stands there. -/
def semicolonLength : List Char → Nat
  | ';' :: _ => 1
  | _ => 0

/--
Whether a name that has no semicolon is none at all: in a value, where such a name may be part of
an address, what follows tells.
-/
def continuesName (place : ReferencePlace) (following : List Char) : Bool :=
  place = .value && following.head?.any fun c => c == '=' || c.isAlphanum

/-- The longest name at the start of a text that needs no semicolon. -/
def nameWithoutSemicolon? (text : List Char) : Option (List Char) :=
  ((namesWithoutSemicolon.map String.toList).filter fun name => name.isPrefixOf text).maxOn?
    List.length

/--
The characters of a name at the start of a text, and the length of the reference. A semicolon says
where the name ends; without it, the longest name that needs none counts.
-/
def namedReference? (place : ReferencePlace) (text : List Char) : Option (List Char × Nat) :=
  let word := text.takeWhile Char.isAlphanum
  let ended := if (text.drop word.length).head? = some ';' then charactersOfName? word else none
  match ended with
  | some characters => some (characters, word.length + 1)
  | none =>
      match nameWithoutSemicolon? text with
      | none => none
      | some name =>
          if continuesName place (text.drop name.length) then
            none
          else
            (charactersOfName? name).map fun characters => (characters, name.length)

/-- The character of a number given by digits at the start of a text, and the length of both. -/
def numericReference?
    (isDigit : Char → Bool)
    (number? : List Char → Option Nat)
    (text : List Char) :
    Option (List Char × Nat) :=
  let digits := text.takeWhile isDigit
  (number? digits).map fun code =>
    ([characterOfCode code], digits.length + semicolonLength (text.drop digits.length))

/-- The characters of a reference whose ampersand was just read, and the length of what follows. -/
def reference? (place : ReferencePlace) (text : List Char) : Option (List Char × Nat) :=
  match text with
  | '#' :: x :: rest =>
      if x = 'x' ∨ x = 'X' then
        (numericReference? (fun c => (hexDigit? c).isSome) hexNumber? rest).map fun read =>
          (read.1, read.2 + 2)
      else
        (numericReference? Char.isDigit decimalNumber? (x :: rest)).map fun read =>
          (read.1, read.2 + 1)
  | _ => namedReference? place text

/-- Whether a text begins with a reference that has no semicolon. -/
def beginsUnterminated (text : List Char) : Bool :=
  match text with
  | '&' :: rest => (reference? .text rest).any fun read => rest[read.2 - 1]? != some ';'
  | _ => false

/-- A text with each reference replaced by what it stands for. -/
def decodeReferences (place : ReferencePlace) : List Char → List Char
  | [] => []
  | c :: text =>
      if c = '&' then
        match reference? place text with
        | some (decoded, length) => decoded ++ decodeReferences place (text.drop length)
        | none => c :: decodeReferences place text
      else
        c :: decodeReferences place text
termination_by text => text.length
decreasing_by
  all_goals simp only [List.length_cons, List.length_drop]
  all_goals omega

end MarkupQuery.Html
