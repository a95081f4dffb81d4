import MarkupQuery.Proofs.Html.Tags

namespace MarkupQuery

/-!
# Escaped texts and start tags are recovered

Four entities are written for the characters that are in the way, and nothing else that is written
begins with an ampersand. So a text is recovered by replacing the entities from left to right, also
if it looked like an entity before. In a start tag no value ends at a quote of its own, so the tag
can be taken apart where the names hold none of the characters by which its parts are told.
-/

open Html Text

namespace Html

/-- The entities that are written, and the characters they stand for. -/
def entities : List (String × Char) :=
  [("&amp;", '&'), ("&lt;", '<'), ("&gt;", '>'), ("&quot;", '"')]

/-- From left to right, every entity replaced by its character. -/
def replaceEntities : List Char → List Char
  | '&' :: 'a' :: 'm' :: 'p' :: ';' :: rest => '&' :: replaceEntities rest
  | '&' :: 'l' :: 't' :: ';' :: rest => '<' :: replaceEntities rest
  | '&' :: 'g' :: 't' :: ';' :: rest => '>' :: replaceEntities rest
  | '&' :: 'q' :: 'u' :: 'o' :: 't' :: ';' :: rest => '"' :: replaceEntities rest
  | c :: rest => c :: replaceEntities rest
  | [] => []

/-- Whether a character cannot be taken for the end of a name in a tag. -/
def staysInName (c : Char) : Bool :=
  !(isSpace c || c == '=' || c == '"' || c == '\'' || c == '<' || c == '>' || c == '/')

/-- Whether a name can be told from what stands around it in a tag. -/
def isSeparableName (name : String) : Bool :=
  !name.isEmpty && name.toList.all staysInName

/-- The text of a value that is assigned to a name, and what follows it. -/
def readAssigned : List Char → String × List Char
  | '=' :: '"' :: text =>
      (String.ofList (replaceEntities (text.takeWhile fun c => c != '"')),
        (text.dropWhile fun c => c != '"').drop 1)
  | text => ("", text)

/-- A name and the text of its value, behind a space. -/
def readPair? : List Char → Option ((String × String) × List Char)
  | ' ' :: text =>
      let assigned := readAssigned (text.dropWhile staysInName)
      some ((String.ofList (text.takeWhile staysInName), assigned.1), assigned.2)
  | _ => none

/-- The name in a start tag and its pairs of names and values, and what follows the tag. -/
def readStartTag? : List Char → Option ((String × List (String × String)) × List Char)
  | '<' :: text =>
      let pairs := many readPair? (text.dropWhile staysInName)
      match pairs.2 with
      | '>' :: rest => some ((String.ofList (text.takeWhile staysInName), pairs.1), rest)
      | _ => none
  | _ => none

end Html

/-- Whether the name of an element and those of its attributes can be told in its start tag. -/
def Element.hasSeparableNames (element : Element) : Bool :=
  (element.tag :: element.attributes.entries.map Prod.fst).all isSeparableName

namespace Html

section Escaping

variable {place : EscapePlace} {c : Char} {text rest : List Char}

theorem escapeChar_of_not_needsEscape (clear : needsEscape place c = false) :
    escapeChar place c = [c] := by
  simp only [needsEscape, Bool.or_eq_false_iff, Bool.and_eq_false_iff, beq_eq_false_iff_ne] at clear
  obtain ⟨⟨⟨notAmpersand, notLess⟩, notGreater⟩, notQuote⟩ := clear
  have notBoth : ¬(c = '"' ∧ place = .attributeValue) := fun ⟨isQuote, inValue⟩ =>
    notQuote.elim (fun elsewhere => elsewhere inValue) (fun other => other isQuote)
  rw [escapeChar, if_neg notAmpersand, if_neg notLess, if_neg notGreater, if_neg notBoth]

/-- A text with nothing in the way is written as it is. -/
theorem escapeOrBorrow_eq_escape
    (place : EscapePlace)
    (text : String) :
    escapeOrBorrow place text = escape place text := by
  unfold escapeOrBorrow
  split
  · rfl
  · next clear =>
      rw [List.any_eq_true, not_exists] at clear
      have same : text.toList.flatMap (escapeChar place) = text.toList :=
        escaped_eq_self_iff.mpr fun c member =>
          escapeChar_of_not_needsEscape (Bool.eq_false_iff.mpr fun needs => clear c ⟨member, needs⟩)
      rw [escape, same, String.ofList_toList]

theorem escape_append
    (place : EscapePlace)
    (first second : String) :
    escape place (first ++ second) = escape place first ++ escape place second := by
  rw [escape, String.toList_append, List.flatMap_append, String.ofList_append]
  rfl

theorem replaceEntities_cons
    (notAmpersand : c ≠ '&')
    (rest : List Char) :
    replaceEntities (c :: rest) = c :: replaceEntities rest := by
  rw [replaceEntities.eq_def]
  split
  all_goals simp_all

/-- Where a text is escaped, its characters are what the entities stand for, whatever follows. -/
theorem replaceEntities_escaped
    (place : EscapePlace)
    (text rest : List Char) :
    replaceEntities (text.flatMap (escapeChar place) ++ rest) = text ++ replaceEntities rest := by
  induction text with
  | nil =>
      rfl
  | cons c text inductionHypothesis =>
      rw [List.flatMap_cons, List.append_assoc, List.cons_append, ← inductionHypothesis]
      cases needs : needsEscape place c with
      | false =>
          have notAmpersand : c ≠ '&' := by
            rintro rfl
            exact absurd needs (by simp [needsEscape])
          rw [escapeChar_of_not_needsEscape needs]
          exact replaceEntities_cons notAmpersand _
      | true =>
          simp only [needsEscape, Bool.or_eq_true, Bool.and_eq_true, beq_iff_eq] at needs
          rcases needs with ((rfl | rfl) | rfl) | ⟨rfl, rfl⟩
          all_goals rfl

theorem replaceEntities_escape
    (place : EscapePlace)
    (text : String) :
    replaceEntities (escape place text).toList = text.toList := by
  simpa [escape, replaceEntities] using replaceEntities_escaped place text.toList []

/-- A character that is in the way is written as an entity. -/
theorem exists_entity_of_needsEscape (needs : needsEscape place c = true) :
    ∃ entity ∈ entities, entity.1.toList = escapeChar place c := by
  simp only [needsEscape, Bool.or_eq_true, Bool.and_eq_true, beq_iff_eq] at needs
  rcases needs with ((rfl | rfl) | rfl) | ⟨rfl, rfl⟩
  · exact ⟨("&amp;", '&'), by decide, rfl⟩
  · exact ⟨("&lt;", '<'), by decide, rfl⟩
  · exact ⟨("&gt;", '>'), by decide, rfl⟩
  · exact ⟨("&quot;", '"'), by decide, rfl⟩

theorem not_mem_tail_of_mem_entities :
    ∀ entity ∈ entities, '&' ∉ entity.1.toList.tail := by
  decide

/-- In what is written for a character an ampersand stands only at the start of an entity. -/
theorem exists_entity_of_escapeChar_eq
    {before : List Char}
    (written : escapeChar place c = before ++ '&' :: rest) :
    ∃ entity ∈ entities, entity.1.toList = '&' :: rest := by
  cases needs : needsEscape place c with
  | false =>
      rw [escapeChar_of_not_needsEscape needs] at written
      have ampersand : '&' ∈ [c] := written ▸ List.mem_append_right before List.mem_cons_self
      rw [← List.mem_singleton.mp ampersand] at needs
      exact absurd needs (by simp [needsEscape])
  | true =>
      obtain ⟨entity, member, shape⟩ := exists_entity_of_needsEscape needs
      refine ⟨entity, member, ?_⟩
      rw [written] at shape
      cases before with
      | nil =>
          exact shape
      | cons first before =>
          have inTail : '&' ∈ entity.1.toList.tail := by
            simp [shape]
          exact absurd inTail (not_mem_tail_of_mem_entities entity member)

/-- Every ampersand that is written begins an entity. -/
theorem exists_entity_of_escaped_eq
    {before : List Char}
    (written : text.flatMap (escapeChar place) = before ++ '&' :: rest) :
    ∃ entity ∈ entities, entity.1.toList <+: '&' :: rest := by
  induction text generalizing before with
  | nil =>
      simp at written
  | cons c text inductionHypothesis =>
      rw [List.flatMap_cons] at written
      rcases List.append_eq_append_iff.mp written with
        ⟨between, _, later⟩ | ⟨begun, here, remains⟩
      · exact inductionHypothesis later
      · cases begun with
        | nil =>
            exact inductionHypothesis (remains.symm.trans (List.nil_append _).symm)
        | cons first begun =>
            obtain ⟨rfl, remains⟩ := List.cons.inj remains
            obtain ⟨entity, member, shape⟩ := exists_entity_of_escapeChar_eq here
            refine ⟨entity, member, ?_⟩
            rw [shape, remains]
            exact ⟨text.flatMap (escapeChar place), rfl⟩

end Escaping

section Tags

variable {entry : String × List String} {rest : List Char}

/-- What is written for a value is read as the value. -/
theorem readAssigned_assignedText
    (value : String)
    (unassigned : Stops (· == '=') rest) :
    readAssigned (assignedText value ++ rest) = (value, rest) := by
  unfold assignedText
  split
  · next empty =>
      rw [List.nil_append, String.isEmpty_iff.mp empty, readAssigned.eq_def]
      split
      · exact absurd (stops_cons.mp unassigned) (by decide)
      · rfl
  · simp only [List.cons_append, List.append_assoc, List.nil_append]
    rw [readAssigned, takeWhile_delimited quote_not_mem_escaped,
      dropWhile_delimited quote_not_mem_escaped]
    have replaced := replaceEntities_escape .attributeValue value
    rw [escape, String.toList_ofList] at replaced
    rw [replaced, String.ofList_toList]
    rfl

/-- What comes after a name is not part of it. -/
theorem stops_assigned
    (value : String)
    (stops : Stops staysInName rest) :
    Stops staysInName (assignedText value ++ rest) := by
  unfold assignedText
  split
  · exact stops
  · exact stops_cons.mpr (by decide)

theorem staysInName_of_mem
    {name : String}
    (separable : isSeparableName name = true) :
    ∀ c ∈ name.toList, staysInName c = true :=
  List.all_eq_true.mp (Bool.and_eq_true_iff.mp separable).2

/-- What may come after an attribute: neither more of its name nor a value. -/
structure Separated (text : List Char) : Prop where
  stops : Stops staysInName text
  unassigned : Stops (· == '=') text

theorem separated_cons
    {c : Char}
    (ends : staysInName c = false)
    (notEquals : (c == '=') = false)
    (rest : List Char) :
    Separated (c :: rest) :=
  ⟨stops_cons.mpr ends, stops_cons.mpr notEquals⟩

/-- An attribute is read as its name and the text of its values. -/
theorem readPair?_attributeText
    (separable : isSeparableName entry.1 = true)
    (separated : Separated rest) :
    readPair? ((attributeText entry).toList ++ rest) = some (readEntry entry, rest) := by
  have inside := staysInName_of_mem separable
  have stops := stops_assigned (readEntry entry).2 separated.stops
  rw [toList_attributeText, List.cons_append, List.append_assoc, readPair?,
    dropWhile_append_of_stops inside stops, takeWhile_append_of_stops inside stops,
    readAssigned_assignedText _ separated.unassigned, String.ofList_toList]
  rfl

theorem many_readPair?_written
    {entries : List (String × List String)}
    (separable : ∀ entry ∈ entries, isSeparableName entry.1 = true)
    (rest : List Char) :
    Separated ((entries.flatMap fun entry => (attributeText entry).toList) ++ '>' :: rest) ∧
      many readPair?
          ((entries.flatMap fun entry => (attributeText entry).toList) ++ '>' :: rest) =
        (entries.map readEntry, '>' :: rest) := by
  refine many_flatMap_of_mem Separated ?_ ?_ ?_
    (separated_cons (by decide) (by decide) rest) rfl
  · intro entry _
    simp [toList_attributeText]
  · intro entry member text separated
    exact readPair?_attributeText (separable entry member) separated
  · intro entry member text _
    rw [toList_attributeText]
    exact separated_cons (by decide) (by decide) _

/-- A start tag is taken apart, whatever follows it. -/
theorem readStartTag?_written
    {element : Element}
    (separable : element.hasSeparableNames = true)
    (rest : List Char) :
    readStartTag? ((startTag element).toList ++ rest) =
      some ((element.tag, element.attributes.entries.map readEntry), rest) := by
  obtain ⟨tagSeparable, entriesSeparable⟩ :=
    List.forall_mem_cons.mp (List.all_eq_true.mp separable)
  obtain ⟨separated, pairs⟩ := many_readPair?_written
    (fun entry member => entriesSeparable entry.1 (List.mem_map_of_mem member)) rest
  have inside := staysInName_of_mem tagSeparable
  rw [toList_startTag]
  simp only [List.cons_append, List.append_assoc, List.nil_append]
  rw [readStartTag?, dropWhile_append_of_stops inside separated.stops,
    takeWhile_append_of_stops inside separated.stops, pairs, String.ofList_toList]
  rfl

/-- A start tag is told by the name of the element and its pairs of names and values. -/
theorem startTag_congr
    {first second : Element}
    (sameTag : first.tag = second.tag)
    (samePairs :
      first.attributes.entries.map readEntry = second.attributes.entries.map readEntry) :
    startTag first = startTag second := by
  have eachWritten (entries : List (String × List String)) :
      (entries.flatMap fun entry => (attributeText entry).toList) =
        (entries.map readEntry).flatMap fun pair =>
          ' ' :: (pair.1.toList ++ assignedText pair.2) := by
    rw [List.flatMap_map]
    simp only [toList_attributeText]
    rfl
  rw [← String.toList_inj, toList_startTag, toList_startTag, eachWritten, eachWritten, sameTag,
    samePairs]

end Tags

/--
A text is recovered from how it is written in either place by replacing the entities from left to
right; nothing in it looks like a tag or, in a value, like the end of the value; each of its
ampersands begins an entity; and it can be written part by part, or not at all if nothing is in the
way. Hence where no name is empty or holds a character by which the parts of a tag are told, the
name of an element and its attributes, each with the text of its values, are recovered from the
start tag, and elements have one start tag only if they agree in these.
-/
theorem escaping_is_reversible :
    (∀ (place : EscapePlace) (text : String),
      replaceEntities (escape place text).toList = text.toList ∧
      '<' ∉ (escape place text).toList ∧
      '>' ∉ (escape place text).toList ∧
      (place = .attributeValue → '"' ∉ (escape place text).toList) ∧
      (∀ before after, (escape place text).toList = before ++ '&' :: after →
        ∃ entity ∈ entities, entity.1.toList <+: '&' :: after) ∧
      (∀ more, escape place (text ++ more) = escape place text ++ escape place more) ∧
      escapeOrBorrow place text = escape place text) ∧
    (∀ element : Element, element.hasSeparableNames = true →
      ∀ rest,
        readStartTag? ((startTag element).toList ++ rest) =
          some ((element.tag, element.attributes.entries.map readEntry), rest)) ∧
    (∀ first second : Element,
      first.hasSeparableNames = true →
      second.hasSeparableNames = true →
      (startTag first = startTag second ↔
        first.tag = second.tag ∧
          first.attributes.entries.map readEntry = second.attributes.entries.map readEntry)) := by
  refine ⟨fun place text => ?_, fun element separable => readStartTag?_written separable,
    fun first second firstSeparable secondSeparable => ⟨fun same => ?_, fun same => ?_⟩⟩
  · have characters : (escape place text).toList = text.toList.flatMap (escapeChar place) :=
      String.toList_ofList
    refine ⟨replaceEntities_escape place text, ?_, ?_, ?_, fun before after written => ?_,
      escape_append place text, escapeOrBorrow_eq_escape place text⟩
    · rw [characters]
      exact less_not_mem_escaped
    · rw [characters]
      exact greater_not_mem_escaped
    · rintro rfl
      rw [characters]
      exact quote_not_mem_escaped
    · exact exists_entity_of_escaped_eq (characters ▸ written)
  · have read := readStartTag?_written firstSeparable []
    rw [same, readStartTag?_written secondSeparable []] at read
    simp only [Option.some.injEq, Prod.mk.injEq, and_true] at read
    exact ⟨read.1.symm, read.2.symm⟩
  · exact startTag_congr same.1 same.2

/-- A tag with a value full of markup and entities, and one without any. -/
theorem escaping_is_reversible_input :
    let element : Element := {
      tag := "input"
      attributes := {
        entries := [("title", ["say", "\"&lt;\"", "> 1"]), ("disabled", []), ("checked", [""])]
      }
    }
    element.hasSeparableNames = true ∧
      startTag element =
        "<input title=\"say &quot;&amp;lt;&quot; &gt; 1\" disabled checked>" ∧
      readStartTag? ((startTag element).toList ++ "x=\"y\">".toList) =
        some (("input", [("title", "say \"&lt;\" > 1"), ("disabled", ""), ("checked", "")]),
          "x=\"y\">".toList) := by
  intro element
  have separable : element.hasSeparableNames = true := by
    decide +kernel
  refine ⟨separable, by decide +kernel, ?_⟩
  rw [escaping_is_reversible.2.1 element separable]
  decide +kernel

end Html

end MarkupQuery
