namespace MarkupQuery.Html

/-!
# Escaping

Text that is written between tags must not look like markup, and a value written between double
quotes must not end them. The characters that could do so are written as named references.
-/

/-- Where escaped text is written. -/
inductive EscapePlace where
  | betweenTags
  | attributeValue
  deriving Repr, DecidableEq

/-- One character as it is written. A double quote is only in the way in an attribute value. -/
def escapeChar (place : EscapePlace) (c : Char) : List Char :=
  if c = '&' then "&amp;".toList
  else if c = '<' then "&lt;".toList
  else if c = '>' then "&gt;".toList
  else if c = '"' ∧ place = .attributeValue then "&quot;".toList
  else [c]

/-- A text as it is written. -/
def escape (place : EscapePlace) (text : String) : String :=
  String.ofList (text.toList.flatMap (escapeChar place))

/-- Whether a character is in the way where a text is written. -/
def needsEscape (place : EscapePlace) (c : Char) : Bool :=
  c == '&' || c == '<' || c == '>' || (place == .attributeValue && c == '"')

/-- A text as it is written; one with nothing in the way is given back and not copied. -/
def escapeOrBorrow (place : EscapePlace) (text : String) : String :=
  if text.toList.any (needsEscape place) then escape place text else text

end MarkupQuery.Html
