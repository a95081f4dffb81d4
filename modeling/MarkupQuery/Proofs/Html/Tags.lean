import MarkupQuery.Html.Render
import MarkupQuery.Html.Token
import MarkupQuery.Proofs.Html.Escaping

namespace MarkupQuery.Html

/-!
# Written tags are read back

A start tag is written from an element, and reading it gives the name of the element and each of
its attributes with the text that its values make. An end tag gives the name. Both are read in front
of any text; a text between tags is read up to the next of them.
-/

open MarkupQuery.Text

/-- The characters of plain names: lower-case letters, digits and hyphens. -/
def isNameChar (c : Char) : Bool :=
  c.isLower || c.isDigit || c == '-'

/-- A name of such characters that begins with a letter. -/
def isPlainName (name : String) : Bool :=
  name.toList.head?.any Char.isLower && name.toList.all isNameChar

/-- A character that is read as it is written, or as a reference that stands for it. -/
def isCleanChar (c : Char) : Bool :=
  c != '\x00' && c != '\r' && c != '\uFEFF'

/-- A text of such characters: none that is replaced or dropped when markup is read. -/
def isClean (text : String) : Bool :=
  text.toList.all isCleanChar

/-- An attribute as it is read: its values make one text. -/
def readEntry (entry : String × List String) : String × String :=
  (entry.1, " ".intercalate entry.2)

/-- An attribute that can be written and read. -/
def isPlainEntry (entry : String × List String) : Bool :=
  isPlainName entry.1 && isClean (readEntry entry).2

section Names

variable {c : Char} {name : String}

/-- Within a plain name the name of an attribute goes on. -/
theorem endsAttributeName_of_isNameChar (inside : isNameChar c = true) :
    endsAttributeName c = false := by
  refine Bool.eq_false_iff.mpr fun ends => ?_
  simp only [endsAttributeName, endsTagName, isSpace, Bool.or_eq_true, beq_iff_eq] at ends
  rcases ends with ((((((rfl | rfl) | rfl) | rfl) | rfl) | rfl) | rfl) | rfl <;>
    exact absurd inside (by decide)

/-- Within a plain name the name of a tag goes on. -/
theorem endsTagName_of_isNameChar (inside : isNameChar c = true) :
    endsTagName c = false :=
  (Bool.or_eq_false_iff.mp (endsAttributeName_of_isNameChar inside)).1

/-- There are no spaces in a plain name. -/
theorem isSpace_of_isNameChar (inside : isNameChar c = true) :
    isSpace c = false :=
  (Bool.or_eq_false_iff.mp (Bool.or_eq_false_iff.mp (endsTagName_of_isNameChar inside)).1).1

/-- A text without null characters is read as it is. -/
theorem map_replaceNull_eq_self
    {text : List Char}
    (noNull : '\x00' ∉ text) :
    text.map replaceNull = text := by
  calc
    text.map replaceNull = text.map id :=
      List.map_congr_left fun c member => by
        have notNull : c ≠ '\x00' := fun null => noNull (null ▸ member)
        simp [replaceNull, notNull]
    _ = text := List.map_id _

/-- A plain name is in lower case already. -/
theorem not_isUpper_of_isNameChar (inside : isNameChar c = true) :
    c.isUpper = false := by
  simp only [isNameChar, Bool.or_eq_true, beq_iff_eq] at inside
  rcases inside with (lower | digit) | rfl
  · exact not_isUpper_of_isLower lower
  · exact not_isUpper_of_isDigit digit
  · decide

/-- A plain name consists of name characters. -/
theorem isNameChar_of_mem
    (plain : isPlainName name = true)
    (member : c ∈ name.toList) :
    isNameChar c = true :=
  List.all_eq_true.mp (Bool.and_eq_true_iff.mp plain).2 c member

/-- A plain name begins with a letter. -/
theorem exists_cons_of_isPlainName (plain : isPlainName name = true) :
    ∃ initial letters, name.toList = initial :: letters ∧ initial.isLower = true := by
  have head := (Bool.and_eq_true_iff.mp plain).1
  cases shape : name.toList with
  | nil =>
      simp [shape] at head
  | cons initial letters =>
      exact ⟨initial, letters, rfl, by simpa [shape] using head⟩

/-- A plain name is read as it is written. -/
theorem markupName_of_isPlainName (plain : isPlainName name = true) :
    markupName name.toList = name := by
  have noNull : '\x00' ∉ name.toList :=
    fun null => absurd (isNameChar_of_mem plain null) (by decide)
  rw [markupName, map_replaceNull_eq_self noNull, String.ofList_toList]
  exact lowercase_eq_self fun c member =>
    not_isUpper_of_isNameChar (isNameChar_of_mem plain member)

end Names

section Attributes

/-- What may come after an attribute: the end of its name, and no value for it. -/
structure EndsAttribute (text : List Char) : Prop where
  stops : Stops (fun c => !endsAttributeName c) text
  unassigned : Stops (· == '=') (text.dropWhile isSpace)

variable {entry : String × List String} {rest : List Char}

/-- Letters and digits are clean. -/
theorem isCleanChar_of_isAlphanum
    {c : Char}
    (alphanum : c.isAlphanum = true) :
    isCleanChar c = true := by
  have differs (other : Char) (notAlphanum : other.isAlphanum = false) : c ≠ other :=
    fun same => Bool.false_ne_true (notAlphanum.symm.trans (same ▸ alphanum))
  simp [isCleanChar, differs '\x00' (by decide), differs '\r' (by decide),
    differs '\uFEFF' (by decide)]

/-- A clean text is written with clean characters. -/
theorem isCleanChar_of_mem_escaped
    {place : EscapePlace}
    {text : String}
    {c : Char}
    (clean : isClean text = true)
    (member : c ∈ text.toList.flatMap (escapeChar place)) :
    isCleanChar c = true := by
  rcases mem_or_isAlphanum_of_mem_escaped member with rfl | rfl | alphanum | inText
  · decide
  · decide
  · exact isCleanChar_of_isAlphanum alphanum
  · exact List.all_eq_true.mp clean c inText

/-- A clean text is written without a null. -/
theorem null_not_mem_escaped
    {place : EscapePlace}
    {text : String}
    (clean : isClean text = true) :
    '\x00' ∉ text.toList.flatMap (escapeChar place) :=
  fun null => absurd (isCleanChar_of_mem_escaped clean null) (by decide)

/-- A value is read back from between its quotes. -/
theorem quotedPart?_escaped
    {value : String}
    (clean : isClean value = true)
    (rest : List Char) :
    quotedPart? '"' (value.toList.flatMap (escapeChar .attributeValue) ++ '"' :: rest) =
      some (value, rest) := by
  have decoded :
      decodeReferences .value (value.toList.flatMap (escapeChar .attributeValue)) =
        value.toList := by
    simpa [decodeReferences] using
      decodeReferences_escaped .attributeValue value.toList [] .value
  rw [quotedPart?, dropWhile_delimited quote_not_mem_escaped,
    takeWhile_delimited quote_not_mem_escaped, attributeValue,
    map_replaceNull_eq_self (null_not_mem_escaped clean), decoded, String.ofList_toList]

/-- What is written after the name of an attribute. -/
def assignedText (value : String) : List Char :=
  if value.isEmpty then
    []
  else
    '=' :: '"' :: (value.toList.flatMap (escapeChar .attributeValue) ++ ['"'])

/-- An attribute is written as a space, its name and its values. -/
theorem toList_attributeText (entry : String × List String) :
    (attributeText entry).toList =
      ' ' :: (entry.1.toList ++ assignedText (readEntry entry).2) := by
  unfold attributeText assignedText readEntry
  dsimp only
  by_cases empty : (" ".intercalate entry.2).isEmpty = true
  · rw [if_pos empty, if_pos empty]
    simp
  · rw [if_neg empty, if_neg empty]
    simp [escape]

/-- The name of an attribute ends where its value, or what follows it, begins. -/
theorem stops_assignedText
    (value : String)
    (ends : EndsAttribute rest) :
    Stops (fun c => !endsAttributeName c) (assignedText value ++ rest) := by
  unfold assignedText
  split
  · exact ends.stops
  · exact stops_cons.mpr (by decide)

/-- A value is read back, the empty one from nothing. -/
theorem assignment?_assignedText
    {value : String}
    (clean : isClean value = true)
    (ends : EndsAttribute rest) :
    assignment? (assignedText value ++ rest) = some (value, rest) := by
  unfold assignedText
  split
  · next empty =>
      rw [List.nil_append, String.isEmpty_iff.mp empty, assignment?]
      split
      · next assigned =>
          exact absurd (stops_cons.mp (assigned ▸ ends.unassigned)) (by decide)
      · rfl
  · have quoted := quotedPart?_escaped clean rest
    simp only [List.cons_append, List.append_assoc, List.nil_append]
    rw [← quoted]
    rfl

/-- Spaces and slashes are skipped up to a name. -/
theorem skipSeparators_name
    {initial : Char}
    {text : List Char}
    (lower : initial.isLower = true) :
    skipSeparators (' ' :: initial :: text) = initial :: text := by
  have name : isNameChar initial = true := by
    simp [isNameChar, lower]
  have noSlash : initial ≠ '/' := by
    rintro rfl
    exact absurd lower (by decide)
  have here : skipSeparators (initial :: text) = initial :: text := by
    rw [skipSeparators]
    · simp [isSpace_of_isNameChar name, noSlash]
    · intro _ slash
      exact absurd slash noSlash
  rw [skipSeparators, here]
  · rfl
  · intro _ slash
    exact absurd slash (by decide)

/-- An attribute is read back in front of what may come after it. -/
theorem attribute?_written
    (plain : isPlainEntry entry = true)
    (ends : EndsAttribute rest) :
    attribute? ((attributeText entry).toList ++ rest) = some (readEntry entry, rest) := by
  obtain ⟨plainName, clean⟩ := Bool.and_eq_true_iff.mp plain
  obtain ⟨initial, letters, name, lower⟩ := exists_cons_of_isPlainName plainName
  have inside : ∀ c ∈ letters, (!endsAttributeName c) = true := by
    intro c member
    have nameChar : isNameChar c = true :=
      isNameChar_of_mem plainName (by simp [name, member])
    simp [endsAttributeName_of_isNameChar nameChar]
  have stops := stops_assignedText (readEntry entry).2 ends
  rw [toList_attributeText, attribute?, name, List.cons_append, List.cons_append,
    List.cons_append, skipSeparators_name lower]
  split
  · next nothing =>
      cases nothing
  · next closes =>
      have angle : initial = '>' := (List.cons.inj closes).1
      exact absurd (angle ▸ lower) (by decide)
  · next closes =>
      have slash : initial = '/' := (List.cons.inj closes).1
      exact absurd (slash ▸ lower) (by decide)
  · next first others _ _ here =>
      obtain ⟨rfl, rfl⟩ := List.cons.inj here
      rw [List.append_assoc, takeWhile_append_of_stops inside stops,
        dropWhile_append_of_stops inside stops, assignment?_assignedText clean ends]
      simp only [Option.map_some, ← name, markupName_of_isPlainName plainName]
      rfl

/-- A name of attributes, and what closes a tag, may come after an attribute. -/
theorem endsAttribute_attributeText
    (plain : isPlainEntry entry = true)
    (rest : List Char) :
    EndsAttribute ((attributeText entry).toList ++ rest) := by
  obtain ⟨plainName, _⟩ := Bool.and_eq_true_iff.mp plain
  obtain ⟨initial, letters, name, lower⟩ := exists_cons_of_isPlainName plainName
  have nameChar : isNameChar initial = true := by
    simp [isNameChar, lower]
  have notEquals : (initial == '=') = false :=
    (Bool.or_eq_false_iff.mp (endsAttributeName_of_isNameChar nameChar)).2
  rw [toList_attributeText, name]
  refine ⟨stops_cons.mpr (by decide), ?_⟩
  have begins :
      (' ' :: (initial :: letters ++ assignedText (readEntry entry).2) ++ rest).dropWhile isSpace =
        initial :: (letters ++ assignedText (readEntry entry).2 ++ rest) := by
    rw [List.cons_append, List.dropWhile_cons_of_pos (by decide), List.cons_append,
      List.cons_append, List.dropWhile_cons_of_neg (by simp [isSpace_of_isNameChar nameChar])]
  rw [begins]
  exact stops_cons.mpr notEquals

/-- An attribute may end at the end of the tag. -/
theorem endsAttribute_angle (rest : List Char) :
    EndsAttribute ('>' :: rest) :=
  ⟨stops_cons.mpr (by decide), stops_cons.mpr (by decide)⟩

/-- The attributes of a tag are read back in turn. -/
theorem many_attribute?_written
    {entries : List (String × List String)}
    (plain : ∀ entry ∈ entries, isPlainEntry entry = true)
    (rest : List Char) :
    EndsAttribute
        ((entries.flatMap fun entry => (attributeText entry).toList) ++ '>' :: rest) ∧
      many attribute?
          ((entries.flatMap fun entry => (attributeText entry).toList) ++ '>' :: rest) =
        (entries.map readEntry, '>' :: rest) := by
  refine many_flatMap_of_mem EndsAttribute ?_ ?_ ?_ (endsAttribute_angle rest) ?_
  · intro entry _
    simp [toList_attributeText]
  · intro entry member text ends
    exact attribute?_written (plain entry member) ends
  · intro entry member text _
    exact endsAttribute_attributeText (plain entry member) text
  · rfl

/-- Attributes of different names are all kept. -/
theorem firstOfEachName_eq_self
    {pairs : List (String × String)}
    (distinct : (pairs.map Prod.fst).Nodup) :
    firstOfEachName pairs = pairs := by
  induction pairs with
  | nil =>
      rfl
  | cons pair pairs inductionHypothesis =>
      obtain ⟨fresh, others⟩ := List.nodup_cons.mp distinct
      rw [firstOfEachName, inductionHypothesis others, List.filter_eq_self.mpr]
      intro other member
      have different : other.1 ≠ pair.1 :=
        fun same => fresh (same ▸ List.mem_map_of_mem member)
      simpa using different

end Attributes

section Tags

/-- An element that can be written and read. -/
structure HasReadableTags (element : Element) : Prop where
  tag : isPlainName element.tag = true
  entries : ∀ entry ∈ element.attributes.entries, isPlainEntry entry = true
  distinct : (element.attributes.entries.map Prod.fst).Nodup

/-- The start tag that is read for an element. -/
def startTagOf (element : Element) : StartTag where
  name := element.tag
  attributes := element.attributes.entries.map readEntry
  selfClosing := false

variable {element : Element} {rest : List Char}

/-- A start tag is written as its name and its attributes in angle brackets. -/
theorem toList_startTag (element : Element) :
    (startTag element).toList =
      '<' :: (element.tag.toList ++
        ((element.attributes.entries.flatMap fun entry => (attributeText entry).toList) ++
          ['>'])) := by
  simp [startTag, List.flatMap_map]

/-- An end tag is written as its name in angle brackets, behind a slash. -/
theorem toList_endTag (element : Element) :
    (endTag element).toList = '<' :: '/' :: (element.tag.toList ++ ['>']) := by
  simp [endTag]

/-- A tag is read from its name on. -/
theorem tag?_written
    {name : String}
    (entries : List (String × List String))
    (plainName : isPlainName name = true)
    (plain : ∀ entry ∈ entries, isPlainEntry entry = true)
    (distinct : (entries.map Prod.fst).Nodup)
    (rest : List Char) :
    tag? (name.toList ++
        ((entries.flatMap fun entry => (attributeText entry).toList) ++ '>' :: rest)) =
      some ({ name := name, attributes := entries.map readEntry, selfClosing := false }, rest) := by
  have inside : ∀ c ∈ name.toList, (!endsTagName c) = true := by
    intro c member
    simp [endsTagName_of_isNameChar (isNameChar_of_mem plainName member)]
  have stops :
      Stops (fun c => !endsTagName c)
        ((entries.flatMap fun entry => (attributeText entry).toList) ++ '>' :: rest) := by
    cases entries with
    | nil =>
        exact stops_cons.mpr (by decide)
    | cons entry entries =>
        rw [List.flatMap_cons, toList_attributeText]
        exact stops_cons.mpr (by decide)
  obtain ⟨_, attributes⟩ := many_attribute?_written plain rest
  have names : ((entries.map readEntry).map Prod.fst).Nodup := by
    rwa [List.map_map]
  have closes : skipSeparators ('>' :: rest) = '>' :: rest := by
    rw [skipSeparators]
    · rfl
    · intro _ slash
      exact absurd slash (by decide)
  rw [tag?, takeWhile_append_of_stops inside stops, dropWhile_append_of_stops inside stops,
    attributes]
  simp only [closes, markupName_of_isPlainName plainName, firstOfEachName_eq_self names]

/-- Markup that begins with a letter is a start tag. -/
theorem readMarkup_of_isLower
    {initial : Char}
    {text : List Char}
    {tag : StartTag}
    {inForeign : Bool}
    (lower : initial.isLower = true)
    (read : tag? (initial :: text) = some (tag, rest)) :
    readMarkup inForeign (initial :: text) = (some (.startTag tag), rest) := by
  have alpha := isAlpha_of_isLower lower
  rw [readMarkup]
  · rw [if_pos alpha, read]
  · intro slash
    exact absurd (slash ▸ lower) (by decide)
  · intro exclamation
    exact absurd (exclamation ▸ lower) (by decide)
  · intro question
    exact absurd (question ▸ lower) (by decide)

/-- A start tag is read with all its attributes, and nothing behind it. -/
theorem read_startTag
    (plain : HasReadableTags element)
    (inForeign : Bool) :
    Token.read inForeign ((startTag element).toList ++ rest) =
      (some (.startTag (startTagOf element)), rest) := by
  have tag := tag?_written _ plain.tag plain.entries plain.distinct rest
  obtain ⟨initial, letters, name, lower⟩ := exists_cons_of_isPlainName plain.tag
  rw [name] at tag
  simp only [toList_startTag, name, List.cons_append, List.append_assoc, List.nil_append]
  exact readMarkup_of_isLower lower tag

/-- An end tag is read, and nothing behind it. -/
theorem read_endTag
    (plain : HasReadableTags element)
    (inForeign : Bool) :
    Token.read inForeign ((endTag element).toList ++ rest) =
      (some (.endTag element.tag), rest) := by
  have tag :=
    tag?_written [] plain.tag (by simp) (by simp) rest
  obtain ⟨initial, letters, name, lower⟩ := exists_cons_of_isPlainName plain.tag
  have alpha := isAlpha_of_isLower lower
  have shape :
      (endTag element).toList ++ rest = '<' :: '/' :: (element.tag.toList ++ '>' :: rest) := by
    simp [toList_endTag]
  rw [shape, name]
  rw [name] at tag
  change readEndTag (initial :: letters ++ '>' :: rest) = _
  rw [List.cons_append, readEndTag]
  · rw [if_pos alpha]
    simp only [List.flatMap_nil, List.nil_append, List.cons_append] at tag
    rw [tag]
  · intro angle
    exact absurd (angle ▸ lower) (by decide)

/-- Text is read up to the next tag. -/
theorem read_text
    {content : String}
    (nonempty : content ≠ "")
    (stops : Stops (fun c => c != '<') rest)
    (inForeign : Bool) :
    Token.read inForeign ((escape .betweenTags content).toList ++ rest) =
      (some (.text content), rest) := by
  have inside :
      ∀ c ∈ content.toList.flatMap (escapeChar .betweenTags), (c != '<') = true := by
    intro c member
    simpa using fun less => less_not_mem_escaped (less ▸ member)
  have decoded :
      decodeReferences .text (content.toList.flatMap (escapeChar .betweenTags)) =
        content.toList := by
    simpa [decodeReferences] using
      decodeReferences_escaped .betweenTags content.toList [] .text
  obtain ⟨initial, others, shape⟩ :=
    List.exists_cons_of_ne_nil fun empty => nonempty (String.toList_eq_nil_iff.mp empty)
  obtain ⟨first, written, escaped, notLess⟩ :=
    (escaped_escapeChar .betweenTags initial).exists_cons
  have begins :
      ∃ behind, (escape .betweenTags content).toList ++ rest = first :: behind := by
    simp [escape, shape, escaped]
  obtain ⟨behind, begins⟩ := begins
  rw [Token.read]
  · simp only [escape, String.toList_ofList]
    rw [takeWhile_append_of_stops inside stops, dropWhile_append_of_stops inside stops, decoded,
      String.ofList_toList]
  · simp [begins]
  · intro text less
    rw [begins] at less
    exact notLess (List.cons.inj less).1

end Tags

end MarkupQuery.Html
