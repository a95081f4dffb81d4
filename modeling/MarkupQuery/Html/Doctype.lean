import MarkupQuery.Html.Reference
import MarkupQuery.Text.Ascii

namespace MarkupQuery.Html

/-!
# Doctype declarations

A doctype declaration says which edition of the language a page is written in, by the name of the
language and by public and system identifiers. All that matters of it is whether the edition is an
old one.
-/

open MarkupQuery.Text

/-- A null character has no place in a name or a value and is replaced. -/
def replaceNull (c : Char) : Char :=
  if c = '\x00' then replacementCharacter else c

/-- A doctype declaration. -/
structure Doctype where
  name : String
  publicId : Option String := none
  systemId : Option String := none
  deriving Repr, DecidableEq

/-- Whether a text begins with a word in any case. -/
def beginsWithWord (word text : List Char) : Bool :=
  (text.take word.length).map Char.toLower == word

/-- Editions of the language whose pages are of the old style. -/
def oldEditions : List String :=
  ["dtd html", "dtd html 2.0", "dtd html 2.0 extended", "dtd html 2.0 level 1",
    "dtd html 2.0 level 2", "dtd html 2.0 strict", "dtd html 2.0 strict level 1",
    "dtd html 2.0 strict level 2", "dtd html 2.1e", "dtd html 3", "dtd html 3 1995-03-24",
    "dtd html 3.0", "dtd html 3.2", "dtd html 3.2 draft", "dtd html 3.2 final",
    "dtd html 3.2s draft", "dtd html 4.0 frameset", "dtd html 4.0 transitional",
    "dtd html experimental 19960712", "dtd html experimental 970421", "dtd html extended 1.0",
    "dtd html extended relaxed 1.0", "dtd html level 0", "dtd html level 1", "dtd html level 2",
    "dtd html level 3", "dtd html strict", "dtd html strict level 0", "dtd html strict level 1",
    "dtd html strict level 2", "dtd html strict level 3", "dtd strict html"]

/-- Editions whose pages are of the old style unless a system identifier is given. -/
def transitionalEditions : List String :=
  ["dtd html 4.01 frameset", "dtd html 4.01 transitional"]

/-- A public identifier of an old edition that names the language and nothing else. -/
def oldPublicId : String := "html"

namespace Doctype

/-- An identifier in quotes, and what follows it. -/
def quoted? (text : List Char) : Option (String × List Char) :=
  match text.dropWhile isSpace with
  | '"' :: rest => upTo '"' rest
  | '\'' :: rest => upTo '\'' rest
  | _ => none
where
  upTo (quote : Char) (text : List Char) : Option (String × List Char) :=
    match text.dropWhile (fun c => c != quote) with
    | [] => none
    | _ :: rest =>
        some (String.ofList ((text.takeWhile fun c => c != quote).map replaceNull), rest)

/-- A declaration with the public identifier that follows its keyword, and the system identifier. -/
def withPublicId? (name : String) (text : List Char) : Option Doctype :=
  match quoted? text with
  | none => none
  | some (publicId, rest) =>
      if (rest.dropWhile isSpace).isEmpty then
        some { name := name, publicId := some publicId }
      else
        (quoted? rest).map fun read =>
          { name := name, publicId := some publicId, systemId := some read.1 }

/-- A declaration with the system identifier that follows its keyword. -/
def withSystemId? (name : String) (text : List Char) : Option Doctype :=
  (quoted? text).map fun read => { name := name, systemId := some read.1 }

/-- The declaration that stands between its keyword and the `>` that ends it. -/
def read? (text : List Char) : Option Doctype :=
  let named := text.dropWhile isSpace
  let name := lowercase
    (String.ofList ((named.takeWhile fun c => !isSpace c).map replaceNull))
  let rest := (named.dropWhile fun c => !isSpace c).dropWhile isSpace
  if named.isEmpty then none
  else if rest.isEmpty then some { name := name }
  else if beginsWithWord "public".toList rest then withPublicId? name (rest.drop 6)
  else if beginsWithWord "system".toList rest then withSystemId? name (rest.drop 6)
  else none

/-- The edition that a public identifier names, between its owner and its language. -/
def edition? (publicId : String) : Option String :=
  match (lowercase publicId).splitOn "//" with
  | "-" :: _ :: edition :: _ :: _ => some edition
  | _ => none

/-- Whether a declaration names an old edition. -/
def isOld (declaration : Doctype) : Bool :=
  let edition := declaration.publicId.bind edition?
  declaration.name != "html" ||
    declaration.publicId.map lowercase == some oldPublicId ||
    edition.any oldEditions.contains ||
    (declaration.systemId.isNone && edition.any transitionalEditions.contains)

end Doctype

end MarkupQuery.Html
