import Mathlib.Data.List.TakeWhile
import MarkupQuery.Proofs.Text.Reading
import MarkupQuery.Text.Ascii
import MarkupQuery.Text.Blank

namespace MarkupQuery.Text

/-!
# Folded names and trimmed texts

Folding a name to lower case and trimming a text are projections: each leaves a normal form, and
leaves a text in normal form as it is.
-/

section Folding

variable {c : Char}

theorem isUpper_iff :
    c.isUpper = true ↔ 65 ≤ c.toNat ∧ c.toNat ≤ 90 :=
  decide_eq_true_iff

theorem isLower_iff :
    c.isLower = true ↔ 97 ≤ c.toNat ∧ c.toNat ≤ 122 :=
  Bool.and_eq_true_iff.trans (and_congr decide_eq_true_iff decide_eq_true_iff)

theorem isDigit_iff :
    c.isDigit = true ↔ 48 ≤ c.toNat ∧ c.toNat ≤ 57 :=
  Char.isDigit_iff_toNat

/-- There are upper-case letters, lower-case letters and digits. -/
theorem isAlphanum_iff :
    c.isAlphanum = true ↔ c.isUpper = true ∨ c.isLower = true ∨ c.isDigit = true := by
  change (c.isUpper || c.isLower || c.isDigit) = true ↔ _
  rw [Bool.or_eq_true, Bool.or_eq_true, or_assoc]

theorem isAlpha_of_isLower (lower : c.isLower = true) :
    c.isAlpha = true := by
  change (c.isUpper || c.isLower) = true
  rw [lower, Bool.or_true]

/-- What is no upper-case letter is not folded. -/
theorem toLower_of_not_isUpper (folded : c.isUpper = false) :
    c.toLower = c := by
  have notUpper := of_decide_eq_false folded
  exact dif_neg notUpper

/-- The two cases of a letter are 32 code points apart. -/
theorem toNat_toLower (upper : c.isUpper = true) :
    c.toLower.toNat = c.toNat + 32 := by
  have bound := (isUpper_iff.mp upper).2
  have shifted : c.toLower.val = c.val + 32 := by
    have inRange := of_decide_eq_true upper
    unfold Char.toLower
    rw [dif_pos inRange]
    rfl
  change c.toLower.val.toNat = c.val.toNat + 32
  rw [shifted, UInt32.toNat_add]
  change (c.toNat + 32) % 2 ^ 32 = c.toNat + 32
  omega

/-- An upper-case letter is folded to a lower-case one. -/
theorem isLower_toLower (upper : c.isUpper = true) :
    c.toLower.isLower = true := by
  have code := isUpper_iff.mp upper
  rw [isLower_iff, toNat_toLower upper]
  omega

/-- No character is both a lower-case and an upper-case letter. -/
theorem not_isUpper_of_isLower (lower : c.isLower = true) :
    c.isUpper = false := by
  refine Bool.eq_false_iff.mpr fun upper => ?_
  have lowerCode := isLower_iff.mp lower
  have upperCode := isUpper_iff.mp upper
  omega

theorem not_isUpper_of_isDigit (digit : c.isDigit = true) :
    c.isUpper = false := by
  refine Bool.eq_false_iff.mpr fun upper => ?_
  have digitCode := isDigit_iff.mp digit
  have upperCode := isUpper_iff.mp upper
  omega

/-- Folding leaves no upper-case letter. -/
theorem not_isUpper_toLower (c : Char) :
    c.toLower.isUpper = false := by
  cases upper : c.isUpper with
  | true =>
      exact not_isUpper_of_isLower (isLower_toLower upper)
  | false =>
      rw [toLower_of_not_isUpper upper, upper]

/-- A folded letter or digit is a lower-case letter or a digit. -/
theorem isLower_or_isDigit_toLower (alphanum : c.isAlphanum = true) :
    c.toLower.isLower = true ∨ c.toLower.isDigit = true := by
  cases upper : c.isUpper with
  | true =>
      exact Or.inl (isLower_toLower upper)
  | false =>
      rw [toLower_of_not_isUpper upper]
      simpa [upper] using isAlphanum_iff.mp alphanum

/-- A name is folded letter by letter. -/
theorem toList_lowercase (name : String) :
    (lowercase name).toList = name.toList.map Char.toLower :=
  String.toList_map

/-- Folded names are compared letter for letter. -/
theorem lowercase_beq (name other : String) :
    (lowercase name == other) = (name.toList.map Char.toLower == other.toList) := by
  rw [← toList_lowercase, Bool.eq_iff_iff, beq_iff_eq, beq_iff_eq, String.toList_inj]

/-- A name without upper-case ASCII letters. -/
def IsFolded (name : String) : Prop :=
  ∀ c ∈ name.toList, c.isUpper = false

/-- A folded name has no upper-case letters. -/
theorem isFolded_lowercase (name : String) :
    IsFolded (lowercase name) := by
  intro c member
  rw [toList_lowercase] at member
  obtain ⟨written, _, rfl⟩ := List.mem_map.mp member
  exact not_isUpper_toLower written

/-- A name without upper-case letters is not changed by folding. -/
theorem lowercase_eq_self
    {name : String}
    (folded : ∀ c ∈ name.toList, c.isUpper = false) :
    lowercase name = name := by
  rw [← String.toList_inj, toList_lowercase]
  calc
    name.toList.map Char.toLower = name.toList.map id :=
      List.map_congr_left fun c member => toLower_of_not_isUpper (folded c member)
    _ = name.toList := List.map_id _

/-- Letters and digits are not blank. -/
theorem not_isBlank_of_isAlphanum (alphanum : c.isAlphanum = true) :
    isBlank c = false := by
  have code : 48 ≤ c.toNat ∧ c.toNat ≤ 122 := by
    rcases isAlphanum_iff.mp alphanum with upper | lower | digit
    · have bounds := isUpper_iff.mp upper
      omega
    · have bounds := isLower_iff.mp lower
      omega
    · have bounds := isDigit_iff.mp digit
      omega
  simp only [isBlank, covers, blankRanges, List.any_cons, List.any_nil, Bool.or_false,
    Bool.or_eq_false_iff, Bool.and_eq_false_iff, decide_eq_false_iff_not]
  omega

end Folding

section Trimming

/-- No blank stands at either end of a text. -/
structure Trimmed (text : List Char) : Prop where
  start : Stops isBlank text
  finish : Stops isBlank text.reverse

variable {text : List Char}

/-- A text that does not begin with a blank is not changed at its start. -/
theorem trimStart_eq_self (start : Stops isBlank text) :
    trimStart text = text := by
  have nothing : ∀ c ∈ [], isBlank c = true := by
    simp
  exact dropWhile_append_of_stops nothing start

/-- A text without blanks at its ends is not changed by trimming. -/
theorem trim_eq_self (trimmed : Trimmed text) :
    trim text = text := by
  have finish : text.reverse.dropWhile isBlank = text.reverse :=
    trimStart_eq_self trimmed.finish
  rw [trim, trimStart_eq_self trimmed.start, trimEnd, finish, List.reverse_reverse]

/-- Trimming drops characters at the two ends only. -/
theorem infix_trim (text : List Char) :
    trim text <:+: text := by
  have finish : trim text <+: trimStart text := by
    rw [trim, trimEnd, ← List.reverse_suffix, List.reverse_reverse]
    exact List.dropWhile_suffix isBlank
  exact finish.isInfix.trans (List.dropWhile_suffix isBlank).isInfix

/-- Dropping blanks at the start keeps the end. -/
theorem stops_reverse_trimStart (finish : Stops isBlank text.reverse) :
    Stops isBlank (trimStart text).reverse := by
  intro c head
  have split := List.takeWhile_append_dropWhile (p := isBlank) (l := text)
  refine finish c ?_
  rw [← split, List.reverse_append, List.head?_append, ← trimStart, head]
  rfl

/-- Dropping blanks at the end keeps the start. -/
theorem stops_trimEnd (start : Stops isBlank text) :
    Stops isBlank (trimEnd text) := by
  have finish : Stops isBlank text.reverse.reverse := by
    rwa [List.reverse_reverse]
  exact stops_reverse_trimStart finish

/-- Trimming leaves no blank at either end. -/
theorem trimmed_trim (text : List Char) :
    Trimmed (trim text) where
  start := stops_trimEnd (stops_dropWhile text)
  finish := by
    rw [trim, trimEnd, List.reverse_reverse]
    exact stops_dropWhile _

/-- Blanks in front of a text are trimmed with the others. -/
theorem trim_blanks_append
    {blanks : List Char}
    (blank : ∀ c ∈ blanks, isBlank c = true)
    (text : List Char) :
    trim (blanks ++ text) = trim text := by
  rw [trim, trim, trimStart, List.dropWhile_append_of_pos blank, ← trimStart]

/-- Blanks behind a text are trimmed with the others. -/
theorem trim_append_blanks
    {blanks : List Char}
    (blank : ∀ c ∈ blanks, isBlank c = true)
    (text : List Char) :
    trim (text ++ blanks) = trim text := by
  have nothing : trimStart blanks = [] :=
    List.dropWhile_eq_nil_iff.mpr blank
  have blankBehind : ∀ c ∈ blanks.reverse, isBlank c = true :=
    fun c member => blank c (List.mem_reverse.mp member)
  rw [trim, trim, trimStart, List.dropWhile_append, ← trimStart, ← trimStart, nothing]
  split
  · next allBlank =>
      rw [List.isEmpty_iff.mp allBlank]
  · rw [trimEnd, trimEnd, List.reverse_append, List.dropWhile_append_of_pos blankBehind]

/-- A text is blank if nothing is left of it. -/
theorem isBlankText_iff_trim
    {content : String} :
    isBlankText content = true ↔ trim content.toList = [] := by
  rw [isBlankText, List.all_eq_true, ← List.dropWhile_eq_nil_iff, ← trimStart]
  constructor
  · intro nothing
    rw [trim, nothing]
    rfl
  · intro nothing
    cases shape : trimStart content.toList with
    | nil =>
        rfl
    | cons c rest =>
        have start : Stops isBlank (trimStart content.toList) :=
          stops_dropWhile content.toList
        rw [shape, stops_cons] at start
        have allBlank : (c :: rest).reverse.dropWhile isBlank = [] := by
          rw [trim, trimEnd, shape] at nothing
          exact List.reverse_eq_nil_iff.mp nothing
        have visible := List.dropWhile_eq_nil_iff.mp allBlank c (by simp)
        simp [start] at visible

end Trimming

end MarkupQuery.Text
