import MarkupQuery.Text.Ascii

namespace MarkupQuery

/-!
# Attributes of an element

The attributes of an element are an ordered map from names to lists of values. A name is folded to
lower case when it is set, and looked up as it stands. Setting a name again keeps its place. The
attributes `class` and `rel` hold lists of tokens, so a value written as one text is split at
ASCII whitespace; every other attribute holds the text as its one value. A list is never empty:
an attribute without a token holds one empty value.
-/

/-- The attributes whose value is a list of tokens. -/
def tokenListNames : List String := ["class", "rel"]

/-- Names with their values, in the order in which the names were first set. -/
structure Attributes where
  entries : List (String × List String) := []
  deriving Repr, DecidableEq

namespace Attributes

/-- No attributes. -/
def empty : Attributes := {}

/-- The number of names. -/
def size (attributes : Attributes) : Nat :=
  attributes.entries.length

/-- Whether no name is set. -/
def isEmpty (attributes : Attributes) : Bool :=
  attributes.entries.isEmpty

/-- The values of a name, compared letter for letter. -/
def get? (attributes : Attributes) (name : String) : Option (List String) :=
  attributes.entries.lookup name

/-- Whether a name is set, compared letter for letter. -/
def contains (attributes : Attributes) (name : String) : Bool :=
  (attributes.get? name).isSome

/-- Replace the values of a name where it stands, or put the name at the end. -/
def putEntry
    (name : String)
    (values : List String) :
    List (String × List String) → List (String × List String)
  | [] => [(name, values)]
  | entry :: entries =>
      if entry.1 = name then
        (name, values) :: entries
      else
        entry :: putEntry name values entries

/-- Set a name to a list of values, to one empty value if the list is empty. -/
def setValues
    (attributes : Attributes)
    (name : String)
    (values : List String) :
    Attributes :=
  { entries :=
      putEntry (Text.lowercase name) (if values.isEmpty then [""] else values)
        attributes.entries }

/-- The values that a text stands for under a name in lower case. -/
def valuesOf (name value : String) : List String :=
  if tokenListNames.contains name then Text.tokens value else [value]

/-- Set a name to the values that a text stands for. -/
def set
    (attributes : Attributes)
    (name value : String) :
    Attributes :=
  attributes.setValues name (valuesOf (Text.lowercase name) value)

/-- Set several names in order. -/
def setAll
    (attributes : Attributes)
    (pairs : List (String × String)) :
    Attributes :=
  pairs.foldl (fun attributes pair => attributes.set pair.1 pair.2) attributes

/-- Remove the first entry of a name. -/
def eraseEntry (name : String) :
    List (String × List String) → List (String × List String)
  | [] => []
  | entry :: entries =>
      if entry.1 = name then entries else entry :: eraseEntry name entries

/-- Remove a name, compared letter for letter. -/
def erase (attributes : Attributes) (name : String) : Attributes :=
  { entries := eraseEntry name attributes.entries }

/-- Remove a name, compared letter for letter, and give back the values that it had. -/
def remove
    (attributes : Attributes)
    (name : String) :
    Option (List String) × Attributes :=
  (attributes.get? name, attributes.erase name)

end Attributes

end MarkupQuery
