import MarkupQuery.Html.Escape
import MarkupQuery.Html.Reference
import MarkupQuery.Proofs.Text.Folding

namespace MarkupQuery.Html

/-!
# Escaped text is read back

Each character that is in the way is written as a reference that ends in a semicolon, so it is read
as this reference whatever comes after it. All other characters are written and read as they are.
-/

open MarkupQuery.Text

section Names

variable {place : ReferencePlace} {name characters rest : List Char}

/-- A name that ends in a semicolon is read whatever comes after it. -/
theorem namedReference?_terminated
    (inside : ∀ c ∈ name, c.isAlphanum = true)
    (known : charactersOfName? name = some characters) :
    namedReference? place (name ++ ';' :: rest) = some (characters, name.length + 1) := by
  have word : (name ++ ';' :: rest).takeWhile Char.isAlphanum = name :=
    takeWhile_append_of_stops inside (stops_cons.mpr (by decide))
  simp [namedReference?, word, known]

/-- A reference that begins with a letter is one by name. -/
theorem reference?_terminated
    (nonempty : name ≠ [])
    (inside : ∀ c ∈ name, c.isAlphanum = true)
    (known : charactersOfName? name = some characters) :
    reference? place (name ++ ';' :: rest) = some (characters, name.length + 1) := by
  obtain ⟨first, others, rfl⟩ := List.exists_cons_of_ne_nil nonempty
  rw [← namedReference?_terminated inside known]
  unfold reference?
  split
  · next numeric =>
      have hash : first = '#' := (List.cons.inj numeric).1
      have letter := inside first (by simp)
      rw [hash] at letter
      exact absurd letter (by decide)
  · rfl

end Names

/-- A character as it is written: itself, or a reference by name that stands for it. -/
inductive Escaped (c : Char) : List Char → Prop where
  | itself :
      c ≠ '&' → c ≠ '<' → c ≠ '>' → Escaped c [c]
  | named (name : List Char) :
      name ≠ [] →
      (∀ letter ∈ name, letter.isAlphanum = true) →
      charactersOfName? name = some [c] →
      Escaped c ('&' :: (name ++ [';']))

theorem escaped_escapeChar
    (place : EscapePlace)
    (c : Char) :
    Escaped c (escapeChar place c) := by
  unfold escapeChar
  split
  · next same =>
      subst same
      exact .named ['a', 'm', 'p'] (by decide) (List.all_eq_true.mp (by decide))
        (by decide +kernel)
  split
  · next same =>
      subst same
      exact .named ['l', 't'] (by decide) (List.all_eq_true.mp (by decide))
        (by decide +kernel)
  split
  · next same =>
      subst same
      exact .named ['g', 't'] (by decide) (List.all_eq_true.mp (by decide))
        (by decide +kernel)
  split
  · next same =>
      rw [same.1]
      exact .named ['q', 'u', 'o', 't'] (by decide) (List.all_eq_true.mp (by decide))
        (by decide +kernel)
  · next notAmpersand notLess notGreater _ =>
      exact .itself notAmpersand notLess notGreater

namespace Escaped

variable {c : Char} {written rest : List Char}

theorem exists_cons (escaped : Escaped c written) :
    ∃ first others, written = first :: others ∧ first ≠ '<' := by
  cases escaped with
  | itself _ notLess _ =>
      exact ⟨c, [], rfl, notLess⟩
  | named _ _ _ _ =>
      exact ⟨'&', _, rfl, by decide⟩

/-- Whatever follows, a written character is read as the character. -/
theorem decodeReferences_append
    (escaped : Escaped c written)
    (place : ReferencePlace) :
    decodeReferences place (written ++ rest) = c :: decodeReferences place rest := by
  cases escaped with
  | itself notAmpersand _ _ =>
      rw [List.singleton_append, decodeReferences, if_neg notAmpersand]
  | named name nonempty inside known =>
      have read :
          reference? place (name ++ ';' :: rest) = some ([c], name.length + 1) :=
        reference?_terminated nonempty inside known
      have shape : '&' :: (name ++ [';']) ++ rest = '&' :: (name ++ ';' :: rest) := by
        simp
      rw [shape, decodeReferences, if_pos rfl, read]
      simp

/-- Every reference that is written has its semicolon. -/
theorem beginsUnterminated_append (escaped : Escaped c written) :
    beginsUnterminated (written ++ rest) = false := by
  cases escaped with
  | itself notAmpersand _ _ =>
      unfold beginsUnterminated
      split
      · next ampersand =>
          exact absurd (List.cons.inj ampersand).1 notAmpersand
      · rfl
  | named name nonempty inside known =>
      have shape : '&' :: (name ++ [';']) ++ rest = '&' :: (name ++ ';' :: rest) := by
        simp
      rw [shape, beginsUnterminated, reference?_terminated nonempty inside known]
      simp

/-- Of the characters that are in the way only the ampersand is written. -/
theorem eq_or_isAlphanum
    (escaped : Escaped c written)
    {other : Char}
    (member : other ∈ written) :
    other = '&' ∨ other = ';' ∨ other.isAlphanum = true ∨
      (other = c ∧ c ≠ '<' ∧ c ≠ '>') := by
  cases escaped with
  | itself notAmpersand notLess notGreater =>
      have same : other = c := by
        simpa using member
      exact Or.inr (Or.inr (Or.inr ⟨same, notLess, notGreater⟩))
  | named name nonempty inside known =>
      simp only [List.mem_cons, List.mem_append, List.not_mem_nil, or_false] at member
      rcases member with ampersand | letter | semicolon
      · exact Or.inl ampersand
      · exact Or.inr (Or.inr (Or.inl (inside other letter)))
      · exact Or.inr (Or.inl semicolon)

end Escaped

section Texts

variable {place : EscapePlace} {text rest : List Char}

/-- An escaped text is read as the text, whatever follows it. -/
theorem decodeReferences_escaped
    (place : EscapePlace)
    (text rest : List Char)
    (readAt : ReferencePlace) :
    decodeReferences readAt (text.flatMap (escapeChar place) ++ rest) =
      text ++ decodeReferences readAt rest := by
  induction text with
  | nil =>
      rfl
  | cons c text inductionHypothesis =>
      rw [List.flatMap_cons, List.append_assoc,
        (escaped_escapeChar place c).decodeReferences_append, inductionHypothesis,
        List.cons_append]

theorem beginsUnterminated_escaped (nonempty : text ≠ []) :
    beginsUnterminated (text.flatMap (escapeChar place) ++ rest) = false := by
  obtain ⟨c, others, rfl⟩ := List.exists_cons_of_ne_nil nonempty
  rw [List.flatMap_cons, List.append_assoc]
  exact (escaped_escapeChar place c).beginsUnterminated_append

/-- An escaped text does not look like a tag, neither where one begins nor where one ends. -/
theorem angle_not_mem_escaped
    {angle : Char}
    (isAngle : angle = '<' ∨ angle = '>') :
    angle ∉ text.flatMap (escapeChar place) := by
  intro member
  obtain ⟨c, _, written⟩ := List.mem_flatMap.mp member
  have apart : angle ≠ '&' ∧ angle ≠ ';' ∧ angle.isAlphanum = false := by
    rcases isAngle with rfl | rfl
    · decide
    · decide
  rcases (escaped_escapeChar place c).eq_or_isAlphanum written with
    same | same | letter | ⟨same, notLess, notGreater⟩
  · exact apart.1 same
  · exact apart.2.1 same
  · exact Bool.false_ne_true (apart.2.2.symm.trans letter)
  · rcases isAngle with rfl | rfl
    · exact notLess same.symm
    · exact notGreater same.symm

theorem less_not_mem_escaped :
    '<' ∉ text.flatMap (escapeChar place) :=
  angle_not_mem_escaped (Or.inl rfl)

theorem greater_not_mem_escaped :
    '>' ∉ text.flatMap (escapeChar place) :=
  angle_not_mem_escaped (Or.inr rfl)

/-- An escaped value does not end at a quote. -/
theorem quote_not_mem_escaped :
    '"' ∉ text.flatMap (escapeChar .attributeValue) := by
  intro member
  obtain ⟨c, _, written⟩ := List.mem_flatMap.mp member
  rcases (escaped_escapeChar .attributeValue c).eq_or_isAlphanum written with
    same | same | letter | ⟨same, _⟩
  · exact absurd same (by decide)
  · exact absurd same (by decide)
  · exact absurd letter (by decide)
  · subst same
    exact absurd written (by decide)

/-- Escaping adds nothing but ampersands, semicolons and letters. -/
theorem mem_or_isAlphanum_of_mem_escaped
    {c : Char}
    (member : c ∈ text.flatMap (escapeChar place)) :
    c = '&' ∨ c = ';' ∨ c.isAlphanum = true ∨ c ∈ text := by
  obtain ⟨source, inText, written⟩ := List.mem_flatMap.mp member
  rcases (escaped_escapeChar place source).eq_or_isAlphanum written with
    same | same | letter | ⟨same, _⟩
  · exact Or.inl same
  · exact Or.inr (Or.inl same)
  · exact Or.inr (Or.inr (Or.inl letter))
  · exact Or.inr (Or.inr (Or.inr (same ▸ inText)))

/-- A text with something visible in it stays visible. -/
theorem isBlankText_escape_eq_false
    {content : String}
    (visible : isBlankText content = false) :
    isBlankText (escape place content) = false := by
  rw [isBlankText, List.all_eq_false] at visible ⊢
  obtain ⟨c, member, notBlank⟩ := visible
  rw [escape, String.toList_ofList]
  generalize written : escapeChar place c = characters
  cases written ▸ escaped_escapeChar place c with
  | itself =>
      exact ⟨c, List.mem_flatMap.mpr ⟨c, member, by simp [written]⟩, notBlank⟩
  | named name =>
      exact ⟨'&', List.mem_flatMap.mpr ⟨c, member, by simp [written]⟩, by decide⟩

/-- Escaping makes no text shorter. -/
theorem length_le_length_escaped :
    text.length ≤ (text.flatMap (escapeChar place)).length := by
  induction text with
  | nil =>
      exact Nat.le_refl 0
  | cons c text inductionHypothesis =>
      obtain ⟨first, others, written, _⟩ := (escaped_escapeChar place c).exists_cons
      simp only [List.flatMap_cons, written, List.length_append, List.length_cons]
      omega

/-- A text is written as it is if each of its characters is. -/
theorem escaped_eq_self_iff :
    text.flatMap (escapeChar place) = text ↔ ∀ c ∈ text, escapeChar place c = [c] := by
  induction text with
  | nil =>
      simp
  | cons c text inductionHypothesis =>
      rw [List.forall_mem_cons, ← inductionHypothesis, List.flatMap_cons]
      obtain ⟨first, others, written, _⟩ := (escaped_escapeChar place c).exists_cons
      constructor
      · intro same
        rw [written, List.cons_append, List.cons.injEq] at same
        obtain ⟨rfl, same⟩ := same
        -- What was written behind the first character would have to come out of the rest.
        have longer : text.length ≤ (text.flatMap (escapeChar place)).length :=
          length_le_length_escaped
        have nothing : others = [] := by
          have lengths := congrArg List.length same
          rw [List.length_append] at lengths
          exact List.length_eq_zero_iff.mp (by omega)
        rw [nothing, List.nil_append] at same
        exact ⟨by rw [written, nothing], same⟩
      · rintro ⟨here, later⟩
        rw [here, later]
        rfl

theorem escapeChar_betweenTags_eq_self_iff
    {c : Char} :
    escapeChar .betweenTags c = [c] ↔ c ≠ '&' ∧ c ≠ '<' ∧ c ≠ '>' := by
  constructor
  · intro same
    refine ⟨?_, ?_, ?_⟩
    all_goals
      rintro rfl
      exact absurd same (by decide)
  · rintro ⟨notAmpersand, notLess, notGreater⟩
    simp [escapeChar, notAmpersand, notLess, notGreater]

/-- Between tags a text is written as it is if nothing in it is in the way there. -/
theorem escape_betweenTags_eq_self_iff
    {content : String} :
    escape .betweenTags content = content ↔
      ∀ c ∈ content.toList, c ≠ '&' ∧ c ≠ '<' ∧ c ≠ '>' := by
  simp only [← escapeChar_betweenTags_eq_self_iff, ← escaped_eq_self_iff, escape,
    ← String.toList_inj, String.toList_ofList]

end Texts

end MarkupQuery.Html
