import MarkupQuery.Html.Doctype

namespace MarkupQuery.Html

/-!
# Tokens of markup

Markup is read one token at a time: a run of text, a start tag, an end tag, a comment or a doctype
declaration. Reading never fails: a `<` that begins nothing is text, a declaration or instruction
that is not known is a comment, and a tag that the input ends in is dropped.
-/

open MarkupQuery.Text

/-- A start tag: names in lower case, values with their references decoded. -/
structure StartTag where
  name : String
  attributes : List (String × String)
  selfClosing : Bool
  deriving Repr, DecidableEq

/-- One token. -/
inductive Token where
  | text (content : String)
  | startTag (tag : StartTag)
  | endTag (name : String)
  | comment
  /-- A doctype declaration; it may ask for a page of the old style. -/
  | doctype (isOld : Bool)
  deriving Repr, DecidableEq

/-- Whether a character ends a tag name. -/
def endsTagName (c : Char) : Bool :=
  isSpace c || c == '/' || c == '>'

/-- Whether a character ends an attribute name. -/
def endsAttributeName (c : Char) : Bool :=
  endsTagName c || c == '='

/-- Whether a character ends a value that stands without quotes. -/
def endsBareValue (c : Char) : Bool :=
  isSpace c || c == '>'

/-- The value that an attribute is given by some characters of the input. -/
def attributeValue (characters : List Char) : String :=
  String.ofList (decodeReferences .value (characters.map replaceNull))

/-- The name that a tag or an attribute is given by some characters of the input. -/
def markupName (characters : List Char) : String :=
  lowercase (String.ofList (characters.map replaceNull))

/-- A text up to a quote, and what follows that quote. Without the quote the tag has no end. -/
def quotedPart? (quote : Char) (text : List Char) : Option (String × List Char) :=
  match text.dropWhile (fun c => c != quote) with
  | [] => none
  | _ :: rest => some (attributeValue (text.takeWhile (fun c => c != quote)), rest)

/-- The value after an equals sign. -/
def valuePart? (text : List Char) : Option (String × List Char) :=
  match text.dropWhile isSpace with
  | '"' :: rest => quotedPart? '"' rest
  | '\'' :: rest => quotedPart? '\'' rest
  | bare =>
      some (attributeValue (bare.takeWhile (fun c => !endsBareValue c)),
        bare.dropWhile (fun c => !endsBareValue c))

/-- What may follow the name of an attribute: an equals sign and a value, or nothing. -/
def assignment? (text : List Char) : Option (String × List Char) :=
  match text.dropWhile isSpace with
  | '=' :: rest => valuePart? rest
  | _ => some ("", text)

/-- Skip spaces and slashes, but not the slash of `/>`. -/
def skipSeparators : List Char → List Char
  | [] => []
  | '/' :: '>' :: rest => '/' :: '>' :: rest
  | c :: rest => if isSpace c || c == '/' then skipSeparators rest else c :: rest

/-- One attribute. Its name has a first character, whichever it is, and goes on from there. -/
def attribute? (text : List Char) : Option ((String × String) × List Char) :=
  match skipSeparators text with
  | [] => none
  | '>' :: _ => none
  | '/' :: '>' :: _ => none
  | first :: rest =>
      let name := first :: rest.takeWhile (fun c => !endsAttributeName c)
      (assignment? (rest.dropWhile (fun c => !endsAttributeName c))).map fun read =>
        ((markupName name, read.1), read.2)

/-- The attributes with the first of each name only. -/
def firstOfEachName : List (String × String) → List (String × String)
  | [] => []
  | pair :: pairs => pair :: (firstOfEachName pairs).filter fun other => other.1 != pair.1

/-- A tag from its name on, and the text after it, unless the input ends in it. -/
def tag? (text : List Char) : Option (StartTag × List Char) :=
  let name := markupName (text.takeWhile (fun c => !endsTagName c))
  let attributes := many attribute? (text.dropWhile (fun c => !endsTagName c))
  let tag := fun selfClosing : Bool =>
    { name := name
      attributes := firstOfEachName attributes.1
      selfClosing := selfClosing : StartTag }
  match skipSeparators attributes.2 with
  | '>' :: rest => some (tag false, rest)
  | '/' :: '>' :: rest => some (tag true, rest)
  | _ => none

/-- The text after the end of a comment. -/
def afterComment : List Char → List Char
  | [] => []
  | '-' :: '-' :: '>' :: rest => rest
  | '-' :: '-' :: '!' :: '>' :: rest => rest
  | _ :: rest => afterComment rest

/-- The text after a comment whose opening was just read. It may end at once. -/
def afterCommentOpening : List Char → List Char
  | '>' :: rest => rest
  | '-' :: '>' :: rest => rest
  | text => afterComment text

/-- The text after the next `>`. -/
def afterAngle (text : List Char) : List Char :=
  (text.dropWhile (fun c => c != '>')).tail

/-- The text of a marked section, up to the `]]>` that ends it, and the text after that. -/
def sectionContent : List Char → List Char × List Char
  | [] => ([], [])
  | ']' :: ']' :: '>' :: rest => ([], rest)
  | c :: rest =>
      let read := sectionContent rest
      (c :: read.1, read.2)

/--
The doctype declaration whose keyword was just read. Pages are of the old style if it names an old
edition, and if it is not a declaration as it should be.
-/
def readDoctype (text : List Char) : Token × List Char :=
  let declaration :=
    if text.contains '>' then Doctype.read? (text.takeWhile fun c => c != '>') else none
  (.doctype ((declaration.map Doctype.isOld).getD true), afterAngle text)

/--
What `<!` begins. Only graphics and formulas have marked sections, whose content is text as it
stands.
-/
def readDeclaration (inForeign : Bool) (text : List Char) : Token × List Char :=
  match text with
  | '-' :: '-' :: rest => (.comment, afterCommentOpening rest)
  | _ =>
      if beginsWithWord "doctype".toList text then
        readDoctype (text.drop 7)
      else if inForeign && "[CDATA[".toList.isPrefixOf text then
        let content := sectionContent (text.drop 7)
        (.text (String.ofList content.1), content.2)
      else
        (.comment, afterAngle text)

/-- What `</` begins. Nothing stands in `</>`. -/
def readEndTag (text : List Char) : Option Token × List Char :=
  match text with
  | [] => (some (.text "</"), [])
  | '>' :: rest => (some (.text ""), rest)
  | c :: _ =>
      if c.isAlpha then
        match tag? text with
        | some (tag, rest) => (some (.endTag tag.name), rest)
        | none => (none, [])
      else
        (some .comment, afterAngle text)

/-- What `<` begins. -/
def readMarkup (inForeign : Bool) (text : List Char) : Option Token × List Char :=
  match text with
  | [] => (some (.text "<"), [])
  | '/' :: rest => readEndTag rest
  | '!' :: rest =>
      let read := readDeclaration inForeign rest
      (some read.1, read.2)
  | '?' :: rest => (some .comment, afterAngle rest)
  | c :: _ =>
      if c.isAlpha then
        match tag? text with
        | some (tag, rest) => (some (.startTag tag), rest)
        | none => (none, [])
      else
        (some (.text "<"), text)

/-- Read what stands at the start of a text, which may be a tag that the input ends in. -/
def Token.read (inForeign : Bool) (text : List Char) : Option Token × List Char :=
  match text with
  | [] => (none, [])
  | '<' :: rest => readMarkup inForeign rest
  | _ =>
      (some (.text (String.ofList (decodeReferences .text (text.takeWhile (fun c => c != '<'))))),
        text.dropWhile (fun c => c != '<'))

end MarkupQuery.Html
