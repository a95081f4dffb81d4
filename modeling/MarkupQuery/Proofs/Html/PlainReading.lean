import MarkupQuery.Html.Reader
import MarkupQuery.Proofs.Html.PlainNesting
import MarkupQuery.Proofs.Html.Rendering
import MarkupQuery.Proofs.Html.Tags

namespace MarkupQuery

/-!
# Plain markup is read back

A sketch of plain elements and texts is written as markup, start and end tags around what is written
of the children. Reading takes in as many tokens as were written, each where it was written, so that
the markup of the sketch comes back whatever stood before it and whatever follows.
-/

open Html Text

namespace Sketch

mutual

/-- What is read where a sketch is written. Of raw markup nothing is known but its text. -/
def markup : Sketch → Markup
  | .node .document children => .document (allMarkup children)
  | .node (.text content) _ => .text content
  | .node (.raw content) _ => .text content
  | .node (.element element) children =>
      .element element.tag (element.attributes.entries.map readEntry) (allMarkup children) []

def allMarkup : List Sketch → List Markup
  | [] => []
  | first :: rest => markup first :: allMarkup rest

end

/-- Whether a sketch is one of text. -/
def isText : Sketch → Bool
  | .node (.text _) _ => true
  | _ => false

/-- Whether the first of some sketches is one of text. -/
def beginWithText (sketches : List Sketch) : Bool :=
  sketches.head?.any isText

mutual

/-- A sketch of plain markup that may stand in open elements, of which the names are given. -/
def Readable (outer : List String) : Sketch → Prop
  | .node (.element element) children =>
      element.tag ∈ plainTags ∧ HasReadableTags element ∧ element.text = none ∧
        fitsIn outer element.tag = true ∧ (isVoid element = true → children = []) ∧
          AllReadable (element.tag :: outer) children
  | .node (.text content) children =>
      content ≠ "" ∧ isClean content = true ∧ children = []
  | _ => False

/-- Sketches of plain markup, of which no two texts follow each other. -/
def AllReadable (outer : List String) : List Sketch → Prop
  | [] => True
  | first :: rest =>
      Readable outer first ∧ AllReadable outer rest ∧
        (isText first = true → beginWithText rest = false)

end

end Sketch

namespace Html

section Steps

variable {State : Type} {consumer : Consumer State} {state next : State} {input rest : List Char}

/-- Where a step takes some of the input the run goes on behind it. -/
theorem Consumer.run_of_step
    (step : consumer.step state input = (next, rest))
    (shorter : rest.length < input.length) :
    consumer.run state input = consumer.run next rest := by
  rw [Consumer.run, step]
  exact if_pos shorter

/-- At the end of the input reading ends. -/
theorem Consumer.run_nil (consumer : Consumer State) (state : State) :
    consumer.run state [] = state := by
  rw [Consumer.run]
  exact if_neg (Nat.not_lt_zero _)

end Steps

section Tokens

variable {nesting : Nesting} {written rest : List Char} {token : Token}

/-- Among plain elements, a token that is read is taken in. -/
theorem run_of_read
    (plain : nesting.IsPlain)
    (read : Token.read false (written ++ rest) = (some token, rest))
    (terminated : beginsUnterminated (written ++ rest) = false)
    (nonempty : written ≠ []) :
    fragmentConsumer.run nesting (written ++ rest) =
      fragmentConsumer.run (nesting.take token) rest := by
  refine Consumer.run_of_step ?_ ?_
  · have noText : fragmentConsumer.textElement? nesting = none :=
      plain.textElement?_eq_none
    have goesOn : fragmentConsumer.restIsText nesting = false :=
      plain.restIsText_eq_false
    have inBody : fragmentConsumer.inForeign nesting = false :=
      plain.inForeign_eq_false
    simp only [Consumer.step, noText, goesOn, Consumer.takeNext, inBody, read, Consumer.prepare,
      terminated, Bool.false_eq_true, if_false]
    rfl
  · rw [List.length_append]
    have positive := List.length_pos_iff.mpr nonempty
    omega

/-- In a plain state a start tag is read and taken. -/
theorem run_startTag
    {element : Element}
    (plain : nesting.IsPlain)
    (isPlain : HasReadableTags element) :
    fragmentConsumer.run nesting ((startTag element).toList ++ rest) =
      fragmentConsumer.run (nesting.take (.startTag (startTagOf element))) rest := by
  refine run_of_read plain (read_startTag isPlain false) ?_ ?_
  · rw [toList_startTag]
    rfl
  · simp [toList_startTag]

/-- In a plain state an end tag is read and taken. -/
theorem run_endTag
    {element : Element}
    (plain : nesting.IsPlain)
    (isPlain : HasReadableTags element) :
    fragmentConsumer.run nesting ((endTag element).toList ++ rest) =
      fragmentConsumer.run (nesting.take (.endTag element.tag)) rest := by
  refine run_of_read plain (read_endTag isPlain false) ?_ ?_
  · rw [toList_endTag]
    rfl
  · simp [toList_endTag]

/-- In a plain state a text is read as a whole and taken, with its entities decoded. -/
theorem run_text
    {content : String}
    (plain : nesting.IsPlain)
    (nonempty : content ≠ "")
    (stops : Stops (fun c => c != '<') rest) :
    fragmentConsumer.run nesting ((escape .betweenTags content).toList ++ rest) =
      fragmentConsumer.run (nesting.take (.text content)) rest := by
  have characters : content.toList ≠ [] :=
    fun empty => nonempty (String.toList_eq_nil_iff.mp empty)
  refine run_of_read plain (read_text nonempty stops false) ?_ ?_
  · rw [escape, String.toList_ofList]
    exact beginsUnterminated_escaped characters
  · obtain ⟨initial, others, shape⟩ := List.exists_cons_of_ne_nil characters
    obtain ⟨first, behind, escaped, _⟩ :=
      (escaped_escapeChar .betweenTags initial).exists_cons
    simp [escape, shape, escaped]

end Tokens

/-- What is written of an element begins with a tag. -/
theorem stops_written
    {outer : List String}
    {sketch : Sketch}
    (readable : sketch.Readable outer)
    (notText : sketch.isText = false)
    (rest : List Char) :
    Stops (fun c => c != '<') (sketch.written ++ rest) := by
  cases sketch with
  | node kind children =>
      cases kind with
      | element element =>
          rw [Sketch.written]
          split
          · rw [toList_startTag]
            exact stops_cons.mpr rfl
          · rw [opening, String.toList_append, toList_startTag]
            exact stops_cons.mpr rfl
      | text content =>
          cases notText
      | document =>
          exact readable.elim
      | raw content =>
          exact readable.elim

/-- What is no text is not read as one. -/
theorem markup_ne_text
    {outer : List String}
    {sketch : Sketch}
    (readable : sketch.Readable outer)
    (notText : sketch.isText = false)
    (content : String) :
    sketch.markup ≠ .text content := by
  cases sketch with
  | node kind children =>
      cases kind with
      | element element =>
          exact nofun
      | text content =>
          cases notText
      | document =>
          exact readable.elim
      | raw content =>
          exact readable.elim

/-- Where no text begins, what is written begins with a tag. -/
theorem stops_allWritten
    {outer : List String}
    {sketches : List Sketch}
    {rest : List Char}
    (readable : Sketch.AllReadable outer sketches)
    (noText : Sketch.beginWithText sketches = false)
    (stops : Stops (fun c => c != '<') rest) :
    Stops (fun c => c != '<') (Sketch.allWritten sketches ++ rest) := by
  cases sketches with
  | nil =>
      exact stops
  | cons first others =>
      rw [Sketch.allWritten, List.append_assoc]
      exact stops_written readable.1 noText _

/-- Plain elements that are not void may have children. -/
theorem mem_plainContainers
    {name : String}
    (known : name ∈ plainTags)
    (notVoid : voidElements.contains name = false) :
    name ∈ plainContainers := by
  have each :
      ∀ name ∈ plainTags, voidElements.contains name = false → name ∈ plainContainers := by
    decide
  exact each name known notVoid

/-- An element is written as its start tag, its children and its end tag. -/
theorem written_element
    {element : Element}
    {children : List Sketch}
    (notVoid : voidElements.contains element.tag = false)
    (noText : element.text = none) :
    (Sketch.node (.element element) children).written =
      (startTag element).toList ++ Sketch.allWritten children ++ (endTag element).toList := by
  rw [Sketch.written, isVoid, notVoid, if_neg Bool.false_ne_true, opening, noText]
  simp [escape]

section Elements

variable {nesting : Nesting} {element : Element} {rest : List Char}

/-- An element that holds nothing is read back. -/
theorem exists_run_void
    (plain : nesting.IsPlain)
    (known : element.tag ∈ plainTags)
    (readable : HasReadableTags element)
    (fits : fitsIn nesting.openNames element.tag = true)
    (void : isVoid element = true) :
    ∃ frames,
      fragmentConsumer.run nesting ((Sketch.node (.element element) []).written ++ rest) =
        fragmentConsumer.run
          (nesting.after [(Sketch.node (.element element) []).markup] frames) rest := by
  obtain ⟨frames, taken⟩ := plain.exists_take_void (startTagOf element) known fits void
  refine ⟨frames, ?_⟩
  rw [Sketch.written, if_pos void, run_startTag plain readable, taken]
  rfl

/-- An element is read back if its children are where it is open. -/
theorem exists_run_element
    {children : List Sketch}
    (plain : nesting.IsPlain)
    (known : element.tag ∈ plainTags)
    (readable : HasReadableTags element)
    (fits : fitsIn nesting.openNames element.tag = true)
    (notVoid : voidElements.contains element.tag = false)
    (noText : element.text = none)
    (reads :
      ∀ before behind,
        Stops (fun c => c != '<') behind →
          ∃ frames,
            fragmentConsumer.run (nesting.opened (startTagOf element) before)
                (Sketch.allWritten children ++ behind) =
              fragmentConsumer.run
                ((nesting.opened (startTagOf element) before).after
                  (Sketch.allMarkup children) frames) behind) :
    ∃ frames,
      fragmentConsumer.run nesting ((Sketch.node (.element element) children).written ++ rest) =
        fragmentConsumer.run
          (nesting.after [(Sketch.node (.element element) children).markup] frames) rest := by
  have isContainer := mem_plainContainers known notVoid
  obtain ⟨opening, opens⟩ := plain.exists_take_startTag (startTagOf element) known fits notVoid
  have stops : Stops (fun c => c != '<') ((endTag element).toList ++ rest) := by
    rw [toList_endTag]
    exact stops_cons.mpr rfl
  obtain ⟨frames, inside⟩ := reads opening _ stops
  have plainInside := (plain.opened (startTagOf element) isContainer opening).after
    (Sketch.allMarkup children) frames
  refine ⟨frames, ?_⟩
  rw [written_element notVoid noText, List.append_assoc, List.append_assoc,
    run_startTag plain readable, opens, inside, run_endTag plainInside readable]
  exact congrArg (fragmentConsumer.run · rest)
    (plain.take_endTag_opened (startTagOf element) isContainer _ _ _)

end Elements

mutual

/-- A sketch of plain markup is read back where it may stand, in front of what may follow. -/
theorem exists_run_written
    {nesting : Nesting}
    {rest : List Char}
    (plain : nesting.IsPlain) :
    ∀ {sketch : Sketch},
      sketch.Readable nesting.openNames →
        (sketch.isText = true →
          (∀ before, nesting.content.head? ≠ some (.text before)) ∧
            Stops (fun c => c != '<') rest) →
          ∃ frames,
            fragmentConsumer.run nesting (sketch.written ++ rest) =
              fragmentConsumer.run (nesting.after [sketch.markup] frames) rest
  | .node (.text content) children, readable, apart => by
      obtain ⟨nonempty, clean, _⟩ := readable
      obtain ⟨before, behind⟩ := apart rfl
      have noNull : '\x00' ∉ content.toList :=
        fun null => absurd (List.all_eq_true.mp clean _ null) (by decide)
      obtain ⟨frames, taken⟩ := plain.exists_take_text nonempty noNull before
      exact ⟨frames, by rw [Sketch.written, run_text plain nonempty behind, taken, Sketch.markup]⟩
  | .node (.element element) children, readable, _ => by
      obtain ⟨known, tags, noText, fits, leaf, below⟩ := readable
      by_cases void : isVoid element = true
      · obtain rfl := leaf void
        exact exists_run_void plain known tags fits void
      · have notVoid : voidElements.contains element.tag = false :=
          Bool.eq_false_iff.mpr void
        refine exists_run_element plain known tags fits notVoid noText fun before behind stops => ?_
        exact exists_run_allWritten
          (plain.opened (startTagOf element) (mem_plainContainers known notVoid) before) stops below
          fun _ _ => nofun
  | .node .document _, readable, _ => readable.elim
  | .node (.raw _) _, readable, _ => readable.elim

/-- Readable sketches are read in turn, in front of a tag. -/
theorem exists_run_allWritten
    {nesting : Nesting}
    {rest : List Char}
    (plain : nesting.IsPlain)
    (stops : Stops (fun c => c != '<') rest) :
    ∀ {sketches : List Sketch},
      Sketch.AllReadable nesting.openNames sketches →
        (Sketch.beginWithText sketches = true →
          ∀ before, nesting.content.head? ≠ some (.text before)) →
          ∃ frames,
            fragmentConsumer.run nesting (Sketch.allWritten sketches ++ rest) =
              fragmentConsumer.run (nesting.after (Sketch.allMarkup sketches) frames) rest
  | [], _, _ => ⟨nesting.allowsFrames, by
      rw [Sketch.allMarkup, Nesting.after_nil]
      rfl⟩
  | first :: others, readable, apart => by
      obtain ⟨here, later, separate⟩ := readable
      have around :
          first.isText = true →
            (∀ before, nesting.content.head? ≠ some (.text before)) ∧
              Stops (fun c => c != '<') (Sketch.allWritten others ++ rest) :=
        fun isText => ⟨apart isText, stops_allWritten later (separate isText) stops⟩
      obtain ⟨before, reads⟩ := exists_run_written plain here around
      have laterHere :
          Sketch.AllReadable (nesting.after [first.markup] before).openNames others := by
        rwa [Nesting.openNames_after]
      have laterApart :
          Sketch.beginWithText others = true →
            ∀ content,
              (nesting.after [first.markup] before).content.head? ≠ some (.text content) := by
        intro textFollows content
        have notText : first.isText = false :=
          Bool.eq_false_iff.mpr fun isText =>
            Bool.false_ne_true ((separate isText).symm.trans textFollows)
        rw [Nesting.content_after]
        exact fun same => markup_ne_text here notText content (Option.some.inj same)
      obtain ⟨frames, readsOn⟩ :=
        exists_run_allWritten (plain.after [first.markup] before) stops laterHere laterApart
      refine ⟨frames, ?_⟩
      rw [Sketch.allWritten, List.append_assoc, reads, readsOn, Nesting.after_after]
      rfl

end

section Input

variable {outer : List String}

/-- Letters, digits and hyphens are clean. -/
theorem isCleanChar_of_isNameChar
    {c : Char}
    (inside : isNameChar c = true) :
    isCleanChar c = true := by
  have differs (other : Char) (noName : isNameChar other = false) : c ≠ other :=
    fun same => Bool.false_ne_true (noName.symm.trans (same ▸ inside))
  simp [isCleanChar, differs '\x00' (by decide), differs '\r' (by decide),
    differs '\uFEFF' (by decide)]

/-- A plain attribute is written with clean characters. -/
theorem isCleanChar_of_mem_attributeText
    {entry : String × List String}
    (plain : isPlainEntry entry = true)
    {c : Char}
    (member : c ∈ (attributeText entry).toList) :
    isCleanChar c = true := by
  obtain ⟨plainName, clean⟩ := Bool.and_eq_true_iff.mp plain
  rw [toList_attributeText, assignedText] at member
  rcases List.mem_cons.mp member with rfl | member
  · decide
  rcases List.mem_append.mp member with inName | inValue
  · exact isCleanChar_of_isNameChar (isNameChar_of_mem plainName inName)
  split at inValue
  · cases inValue
  · simp only [List.mem_cons, List.mem_append, List.not_mem_nil, or_false] at inValue
    rcases inValue with rfl | rfl | escaped | rfl
    · decide
    · decide
    · exact isCleanChar_of_mem_escaped clean escaped
    · decide

/-- A readable start tag is written with clean characters. -/
theorem isCleanChar_of_mem_startTag
    {element : Element}
    (plain : HasReadableTags element)
    {c : Char}
    (member : c ∈ (startTag element).toList) :
    isCleanChar c = true := by
  rw [toList_startTag] at member
  simp only [List.mem_cons, List.mem_append, List.mem_flatMap, List.not_mem_nil, or_false] at member
  rcases member with rfl | inTag | ⟨entry, isEntry, inEntry⟩ | rfl
  · decide
  · exact isCleanChar_of_isNameChar (isNameChar_of_mem plain.tag inTag)
  · exact isCleanChar_of_mem_attributeText (plain.entries entry isEntry) inEntry
  · decide

/-- A readable end tag is written with clean characters. -/
theorem isCleanChar_of_mem_endTag
    {element : Element}
    (plain : HasReadableTags element)
    {c : Char}
    (member : c ∈ (endTag element).toList) :
    isCleanChar c = true := by
  rw [toList_endTag] at member
  simp only [List.mem_cons, List.mem_append, List.not_mem_nil, or_false] at member
  rcases member with rfl | rfl | inTag | rfl
  · decide
  · decide
  · exact isCleanChar_of_isNameChar (isNameChar_of_mem plain.tag inTag)
  · decide

mutual

/-- Nothing that is written of plain markup is changed when it is read. -/
theorem isCleanChar_of_mem_written :
    ∀ {outer : List String} {sketch : Sketch},
      sketch.Readable outer → ∀ c ∈ sketch.written, isCleanChar c = true
  | _, .node (.text content) _, readable, c, member => by
      obtain ⟨_, clean, _⟩ := readable
      rw [Sketch.written, escape, String.toList_ofList] at member
      exact isCleanChar_of_mem_escaped clean member
  | _, .node (.element element) children, readable, c, member => by
      obtain ⟨_, isPlain, noText, _, _, below⟩ := readable
      by_cases void : isVoid element = true
      · rw [Sketch.written, if_pos void] at member
        exact isCleanChar_of_mem_startTag isPlain member
      · rw [written_element (Bool.eq_false_iff.mpr void) noText] at member
        rcases List.mem_append.mp member with before | ends
        · rcases List.mem_append.mp before with begins | inside
          · exact isCleanChar_of_mem_startTag isPlain begins
          · exact isCleanChar_of_mem_allWritten below c inside
        · exact isCleanChar_of_mem_endTag isPlain ends
  | _, .node .document _, readable, _, _ => readable.elim
  | _, .node (.raw _) _, readable, _, _ => readable.elim

/-- Readable sketches are written with clean characters. -/
theorem isCleanChar_of_mem_allWritten :
    ∀ {outer : List String} {sketches : List Sketch},
      Sketch.AllReadable outer sketches →
        ∀ c ∈ Sketch.allWritten sketches, isCleanChar c = true
  | _, [], _, c, member => by
      cases member
  | _, first :: others, readable, c, member => by
      rcases List.mem_append.mp member with here | later
      · exact isCleanChar_of_mem_written readable.1 c here
      · exact isCleanChar_of_mem_allWritten readable.2.1 c later

end

/-- A text without carriage returns has its line ends already. -/
theorem unifyLineEnds_eq_self
    {text : List Char}
    (noReturn : '\r' ∉ text) :
    unifyLineEnds text = text := by
  fun_induction unifyLineEnds text with
  | case1 =>
      rfl
  | case2 rest inductionHypothesis =>
      exact absurd List.mem_cons_self noReturn
  | case3 rest _ inductionHypothesis =>
      exact absurd List.mem_cons_self noReturn
  | case4 c rest _ _ inductionHypothesis =>
      rw [inductionHypothesis fun member => noReturn (List.mem_cons_of_mem c member)]

/-- Clean characters are read just as they stand. -/
theorem inputCharacters_eq
    {text : List Char}
    (clean : ∀ c ∈ text, isCleanChar c = true) :
    inputCharacters (String.ofList text) = text := by
  have noMark : dropByteOrderMark text = text := by
    unfold dropByteOrderMark
    split
    · exact absurd (clean '\uFEFF' List.mem_cons_self) (by decide)
    · rfl
  rw [inputCharacters, String.toList_ofList, noMark]
  exact unifyLineEnds_eq_self fun member => absurd (clean '\r' member) (by decide)

/-- At the end of a fragment what was read outside of all elements is there. -/
theorem finish_after_empty
    (read : List Markup)
    (frames : Bool) :
    (Nesting.empty.after read frames).finish = read := by
  rw [Nesting.finish, (Nesting.isPlain_empty.after read frames).placeTableText_eq_self]
  simp [Nesting.after, Nesting.addInside, Nesting.empty, Nesting.closed, Nesting.closeMany]

/-- Plain markup is read back as a fragment. -/
theorem readFragment_written
    {sketches : List Sketch}
    (readable : Sketch.AllReadable [] sketches) :
    readFragment (String.ofList (Sketch.allWritten sketches)) =
      .document (Sketch.allMarkup sketches) := by
  have characters := inputCharacters_eq (isCleanChar_of_mem_allWritten readable)
  obtain ⟨frames, reads⟩ :=
    exists_run_allWritten Nesting.isPlain_empty stops_nil readable fun _ _ => nofun
  rw [List.append_nil, Consumer.run_nil] at reads
  rw [readFragment, characters, reads, finish_after_empty]

end Input

end Html

end MarkupQuery
