namespace MarkupQuery.Report

/-!
# JSON output

Values are written over several lines, two spaces for each level, with empty arrays and objects on
one. Only quotes, backslashes and control characters are escaped in strings.
-/

/-- The values that reports are made of. An object keeps its fields in order. -/
inductive Json where
  | null
  | string (content : String)
  | array (items : List Json)
  | object (fields : List (String × Json))

namespace Json

/-- A string, or null. -/
def ofString? : Option String → Json
  | none => .null
  | some content => .string content

/-- A character code in four hexadecimal digits. -/
def codeEscape (c : Char) : List Char :=
  let digits := Nat.toDigits 16 c.toNat
  ['\\', 'u'] ++ List.replicate (4 - digits.length) '0' ++ digits

/-- One character as it stands in a string. -/
def escapeChar (c : Char) : List Char :=
  if c = '"' then ['\\', '"']
  else if c = '\\' then ['\\', '\\']
  else if c = '\x08' then ['\\', 'b']
  else if c = '\x0C' then ['\\', 'f']
  else if c = '\n' then ['\\', 'n']
  else if c = '\r' then ['\\', 'r']
  else if c = '\t' then ['\\', 't']
  else if c.toNat < 0x20 then codeEscape c
  else [c]

/-- A string in its quotes. -/
def stringText (content : String) : String :=
  String.ofList ('"' :: content.toList.flatMap escapeChar ++ ['"'])

/-- A line break and the indentation of a level. -/
def lineStart (level : Nat) : String :=
  String.ofList ('\n' :: List.replicate (2 * level) ' ')

/-- The items of an array or object between its brackets, each on a line of its own. -/
def bracketed (opening closing : String) (level : Nat) (items : List String) : String :=
  if items.isEmpty then
    opening ++ closing
  else
    opening ++
      ",".intercalate (items.map fun item => lineStart (level + 1) ++ item) ++
      lineStart level ++ closing

mutual

/-- A value as it is written at a level. -/
def text (level : Nat) : Json → String
  | .null => "null"
  | .string content => stringText content
  | .array items => bracketed "[" "]" level (itemTexts (level + 1) items)
  | .object fields => bracketed "\x7b" "\x7d" level (fieldTexts (level + 1) fields)

/-- The items of an array as they are written. -/
def itemTexts (level : Nat) : List Json → List String
  | [] => []
  | item :: items => text level item :: itemTexts level items

/-- The fields of an object as they are written. -/
def fieldTexts (level : Nat) : List (String × Json) → List String
  | [] => []
  | (name, value) :: fields =>
      (stringText name ++ ": " ++ text level value) :: fieldTexts level fields

end

/-- A value as a whole document, with a line break at its end. -/
def documentText (value : Json) : String :=
  value.text 0 ++ "\n"

end Json

end MarkupQuery.Report
