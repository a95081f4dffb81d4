import MarkupQuery.Text.Printable

namespace MarkupQuery.Text

/-!
# Quoted text in messages

Messages show a piece of input between double quotes, on one line and without invisible
characters: the quote and the backslash are written with a backslash before them, the four common
controls by their letter, and every other character that is not printable by its code point.
-/

/-- The code point of a character in lower-case hexadecimal digits, between braces. -/
def codePointEscape (c : Char) : List Char :=
  ['\\', 'u', '\x7b'] ++ Nat.toDigits 16 c.toNat ++ ['\x7d']

/-- One character as it stands between the quotes. -/
def quoteChar (c : Char) : List Char :=
  if c = '"' then ['\\', '"']
  else if c = '\\' then ['\\', '\\']
  else if c = '\n' then ['\\', 'n']
  else if c = '\r' then ['\\', 'r']
  else if c = '\t' then ['\\', 't']
  else if c = '\x00' then ['\\', '0']
  else if isPrintable c then [c]
  else codePointEscape c

/-- A text in double quotes, each character shown by `quoteChar`. -/
def quoted (text : String) : String :=
  String.ofList ('"' :: text.toList.flatMap quoteChar ++ ['"'])

end MarkupQuery.Text
