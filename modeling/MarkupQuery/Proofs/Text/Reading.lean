import MarkupQuery.Text.Scan

namespace MarkupQuery.Text

/-!
# Readers and what they read

A reader is right when it reads a written item in front of every text that does not go on with it,
and when what it read is always some written item. Both are stated here once for runs of a class of
characters, for literals and for repetition.
-/

/-- A non-empty run of characters of one class. -/
structure Word (inClass : Char → Bool) where
  letters : List Char
  nonempty : letters ≠ []
  inside : ∀ c ∈ letters, inClass c = true

namespace Word

variable {inClass : Char → Bool}

/-- The word as a string. -/
def string (word : Word inClass) : String :=
  String.ofList word.letters

theorem exists_cons (word : Word inClass) :
    ∃ c rest, word.letters = c :: rest ∧ inClass c = true := by
  obtain ⟨c, rest, shape⟩ := List.exists_cons_of_ne_nil word.nonempty
  exact ⟨c, rest, shape, word.inside c (by simp [shape])⟩

theorem toList_string (word : Word inClass) :
    word.string.toList = word.letters :=
  String.toList_ofList

theorem string_ne_empty (word : Word inClass) :
    word.string ≠ "" := by
  intro nothing
  refine word.nonempty ?_
  rw [← word.toList_string, nothing]
  rfl

/-- A non-empty string over a class as a word. -/
def ofString
    (name : String)
    (nonempty : name ≠ "")
    (inside : ∀ c ∈ name.toList, inClass c = true) :
    Word inClass where
  letters := name.toList
  nonempty := by simpa using nonempty
  inside := inside

theorem string_ofString
    {name : String}
    {nonempty : name ≠ ""}
    {inside : ∀ c ∈ name.toList, inClass c = true} :
    (ofString name nonempty inside).string = name :=
  String.ofList_toList

end Word

/-- A text does not begin with a character of a class. -/
def Stops (inClass : Char → Bool) (text : List Char) : Prop :=
  ∀ c, text.head? = some c → inClass c = false

section Runs

variable {inClass : Char → Bool}

/-- Every class stops at the end of a text. -/
theorem stops_nil : Stops inClass [] := by
  simp [Stops]

/-- A class stops in front of a character outside of it. -/
theorem stops_cons
    {c : Char}
    {text : List Char} :
    Stops inClass (c :: text) ↔ inClass c = false := by
  simp [Stops]

theorem stops_of_forall
    {text : List Char}
    (outside : ∀ c ∈ text, inClass c = false) :
    Stops inClass text :=
  fun c head => outside c (List.mem_of_mem_head? head)

theorem stops_append
    {first rest : List Char}
    (firstStops : Stops inClass first)
    (restStops : Stops inClass rest) :
    Stops inClass (first ++ rest) := by
  cases first with
  | nil =>
      exact restStops
  | cons c first =>
      exact stops_cons.mpr (stops_cons.mp firstStops)

/-- Only the start of a text counts. -/
theorem stops_append_of_ne_nil
    {first rest : List Char}
    (nonempty : first ≠ []) :
    Stops inClass (first ++ rest) ↔ Stops inClass first := by
  obtain ⟨c, first, rfl⟩ := List.exists_cons_of_ne_nil nonempty
  rw [List.cons_append, stops_cons, stops_cons]

/-- Texts that each end outside a class do so when they are joined. -/
theorem stops_reverse_flatMap
    {α : Type}
    {itemText : α → List Char}
    {items : List α}
    (each : ∀ item ∈ items, Stops inClass (itemText item).reverse) :
    Stops inClass (items.flatMap itemText).reverse := by
  induction items with
  | nil =>
      exact stops_nil
  | cons item items inductionHypothesis =>
      obtain ⟨here, later⟩ := List.forall_mem_cons.mp each
      rw [List.flatMap_cons, List.reverse_append]
      exact stops_append (inductionHypothesis later) here

/-- A class stops where a run of it was dropped. -/
theorem stops_dropWhile (text : List Char) :
    Stops inClass (text.dropWhile inClass) := by
  intro c head
  have kept := List.head?_dropWhile_not inClass text
  rw [head] at kept
  simpa using kept

/-- What remains of a text after a run of a class, if the run ends there. -/
theorem dropWhile_append_of_stops
    {letters rest : List Char}
    (inside : ∀ c ∈ letters, inClass c = true)
    (stops : Stops inClass rest) :
    (letters ++ rest).dropWhile inClass = rest := by
  rw [List.dropWhile_append_of_pos inside]
  cases rest with
  | nil =>
      rfl
  | cons c rest =>
      rw [List.dropWhile_cons_of_neg]
      simp [stops_cons.mp stops]

/-- The run of a class at the start of a text, if it ends there. -/
theorem takeWhile_append_of_stops
    {letters rest : List Char}
    (inside : ∀ c ∈ letters, inClass c = true)
    (stops : Stops inClass rest) :
    (letters ++ rest).takeWhile inClass = letters := by
  rw [List.takeWhile_append_of_pos inside]
  cases rest with
  | nil =>
      simp
  | cons c rest =>
      rw [List.takeWhile_cons_of_neg]
      · simp
      · simp [stops_cons.mp stops]

/-- A word is read as a whole in front of a text that does not continue it. -/
theorem run?_word
    (word : Word inClass)
    {rest : List Char}
    (stops : Stops inClass rest) :
    run? inClass (word.letters ++ rest) = some (word.letters, rest) := by
  obtain ⟨c, letters, shape, _⟩ := word.exists_cons
  rw [run?, takeWhile_append_of_stops word.inside stops,
    dropWhile_append_of_stops word.inside stops, shape]

/-- There is no run where a text does not begin with the class. -/
theorem run?_eq_none
    {text : List Char}
    (stops : Stops inClass text) :
    run? inClass text = none := by
  have nothing : text.takeWhile inClass = [] := by
    have inside : ∀ c ∈ [], inClass c = true := by
      simp
    simpa using takeWhile_append_of_stops inside stops
  rw [run?, nothing]

/-- What was read as a run is a word of the text. -/
theorem exists_word_of_run?
    {text letters rest : List Char}
    (read : run? inClass text = some (letters, rest)) :
    ∃ word : Word inClass, word.letters = letters ∧ text = letters ++ rest := by
  unfold run? at read
  split at read
  · simp at read
  · next nonempty =>
      simp only [Option.some.injEq, Prod.mk.injEq] at read
      obtain ⟨taken, dropped⟩ := read
      refine ⟨{
        letters := letters
        nonempty := ?_
        inside := ?_
      }, rfl, ?_⟩
      · intro none
        exact nonempty (taken.trans none)
      · intro c member
        rw [← taken] at member
        exact List.all_eq_true.mp List.all_takeWhile c member
      · rw [← taken, ← dropped, List.takeWhile_append_dropWhile]

end Runs

section Delimiters

variable {delimiter : Char} {content rest : List Char}

theorem ne_delimiter_of_not_mem (closed : delimiter ∉ content) :
    ∀ c ∈ content, (c != delimiter) = true := by
  intro c member
  have different : c ≠ delimiter := fun same => closed (same ▸ member)
  simpa using different

/-- What remains of a text from the first delimiter on. -/
theorem dropWhile_delimited (closed : delimiter ∉ content) :
    (content ++ delimiter :: rest).dropWhile (fun c => c != delimiter) = delimiter :: rest :=
  dropWhile_append_of_stops (ne_delimiter_of_not_mem closed) (stops_cons.mpr (by simp))

/-- The text before the first delimiter. -/
theorem takeWhile_delimited (closed : delimiter ∉ content) :
    (content ++ delimiter :: rest).takeWhile (fun c => c != delimiter) = content :=
  takeWhile_append_of_stops (ne_delimiter_of_not_mem closed) (stops_cons.mpr (by simp))

/-- A text in which something remains from the first delimiter on is delimited. -/
theorem delimited_of_dropWhile
    {text : List Char}
    {found : Char}
    (remains : text.dropWhile (fun c => c != delimiter) = found :: rest) :
    text = text.takeWhile (fun c => c != delimiter) ++ delimiter :: rest ∧
      delimiter ∉ text.takeWhile (fun c => c != delimiter) := by
  have same : found = delimiter := by
    have stops : Stops (fun c => c != delimiter) (text.dropWhile fun c => c != delimiter) :=
      stops_dropWhile text
    rw [remains] at stops
    simpa using stops_cons.mp stops
  constructor
  · rw [← same, ← remains, same, List.takeWhile_append_dropWhile]
  · intro member
    have inside := List.all_eq_true.mp List.all_takeWhile delimiter member
    simp at inside

end Delimiters

/-- A literal is read off the text that begins with it. -/
theorem afterLiteral?_eq_some_iff
    {literal text rest : List Char} :
    afterLiteral? literal text = some rest ↔ text = literal ++ rest := by
  induction literal generalizing text with
  | nil =>
      simp [afterLiteral?]
  | cons expected literal inductionHypothesis =>
      cases text with
      | nil =>
          simp [afterLiteral?]
      | cons c text =>
          by_cases same : expected = c
          · simp [afterLiteral?, same, inductionHypothesis]
          · simp [afterLiteral?, same, Ne.symm same]

section Repetition

variable {α : Type} {step? : List Char → Option (α × List Char)}

/-- Reading over and over ends where nothing can be read. -/
theorem many_of_none
    {text : List Char}
    (stuck : step? text = none) :
    many step? text = ([], text) := by
  rw [many, stuck]

/-- What was read once comes first, if reading it made the text shorter. -/
theorem many_of_some
    {text rest : List Char}
    {value : α}
    (read : step? text = some (value, rest))
    (shorter : rest.length < text.length) :
    many step? text = (value :: (many step? rest).1, (many step? rest).2) := by
  rw [many, read]
  simp [shorter]

/--
Written items are read one after the other, in front of a text where the reader stops. What may
follow an item is a property of texts that items in front of a text keep.
-/
theorem many_flatMap_of_mem
    {β : Type}
    {items : List β}
    {itemText : β → List Char}
    {value : β → α}
    (follows : List Char → Prop)
    (nonempty : ∀ item ∈ items, itemText item ≠ [])
    (reads :
      ∀ item ∈ items, ∀ text, follows text →
        step? (itemText item ++ text) = some (value item, text))
    (keeps : ∀ item ∈ items, ∀ text, follows text → follows (itemText item ++ text))
    {rest : List Char}
    (followed : follows rest)
    (stuck : step? rest = none) :
    follows (items.flatMap itemText ++ rest) ∧
      many step? (items.flatMap itemText ++ rest) = (items.map value, rest) := by
  induction items with
  | nil =>
      exact ⟨followed, many_of_none stuck⟩
  | cons item items inductionHypothesis =>
      obtain ⟨notEmpty, othersNotEmpty⟩ := List.forall_mem_cons.mp nonempty
      obtain ⟨read, othersRead⟩ := List.forall_mem_cons.mp reads
      obtain ⟨kept, othersKept⟩ := List.forall_mem_cons.mp keeps
      obtain ⟨othersFollow, othersMany⟩ :=
        inductionHypothesis othersNotEmpty othersRead othersKept
      have shorter :
          (items.flatMap itemText ++ rest).length <
            (itemText item ++ (items.flatMap itemText ++ rest)).length := by
        have positive := List.length_pos_iff.mpr notEmpty
        simp only [List.length_append]
        omega
      rw [List.flatMap_cons, List.append_assoc]
      refine ⟨kept _ othersFollow, ?_⟩
      rw [many_of_some (read _ othersFollow) shorter, othersMany]
      rfl

/-- The same for items that are all read alike. -/
theorem many_flatMap
    {β : Type}
    {items : List β}
    {itemText : β → List Char}
    {value : β → α}
    (follows : List Char → Prop)
    (nonempty : ∀ item, itemText item ≠ [])
    (reads :
      ∀ item text, follows text →
        step? (itemText item ++ text) = some (value item, text))
    (keeps : ∀ item text, follows text → follows (itemText item ++ text))
    {rest : List Char}
    (followed : follows rest)
    (stuck : step? rest = none) :
    many step? (items.flatMap itemText ++ rest) = (items.map value, rest) :=
  (many_flatMap_of_mem follows (fun item _ => nonempty item) (fun item _ => reads item)
    (fun item _ => keeps item) followed stuck).2

/-- What repetition read is a list of items, if what one step reads is an item. -/
theorem exists_items_of_many
    {β : Type}
    {itemText : β → List Char}
    {value : β → α}
    (sound :
      ∀ text read rest, step? text = some (read, rest) →
        ∃ item, text = itemText item ++ rest ∧ value item = read)
    (text : List Char) :
    ∃ items : List β,
      text = items.flatMap itemText ++ (many step? text).2 ∧
        items.map value = (many step? text).1 := by
  induction text using many.induct step? with
  | case1 text stuck =>
      rw [many_of_none stuck]
      exact ⟨[], by simp, rfl⟩
  | case2 text read rest stepped shorter inductionHypothesis =>
      obtain ⟨item, itemShape, itemValue⟩ := sound text read rest stepped
      obtain ⟨items, shape, values⟩ := inductionHypothesis
      rw [many_of_some stepped shorter]
      refine ⟨item :: items, ?_, ?_⟩
      · rw [List.flatMap_cons, List.append_assoc, ← shape, ← itemShape]
      · rw [List.map_cons, itemValue, values]
  | case3 text read rest stepped notShorter =>
      rw [many, stepped]
      simp only [notShorter, if_false]
      exact ⟨[], by simp, rfl⟩

end Repetition

end MarkupQuery.Text
