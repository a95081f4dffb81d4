import MarkupQuery.Proofs.Html.Tags
import MarkupQuery.Proofs.Tree.Settings

namespace MarkupQuery.Html

/-!
# Values of attributes as one text

The values of an attribute are written as one text, with a space between any two of them. Setting
the attribute to this text gives the values back if they are one text for an attribute that holds
one, and tokens, or no token at all, for an attribute that holds a list of them.
-/

open MarkupQuery.Text

/-- A text that does not fall apart where token lists are separated, and is not lost. -/
def isToken (value : String) : Bool :=
  !value.isEmpty && value.toList.all fun c => !isSpace c

/-- Whether the values of an attribute are those that they make as one text. -/
def holdsPlainValues (entry : String × List String) : Bool :=
  entry.2.all isClean &&
    if tokenListNames.contains entry.1 then
      entry.2 == [""] || !entry.2.isEmpty && entry.2.all isToken
    else
      entry.2.length == 1

section Tokens

variable {values : List String}

theorem toList_intercalate_cons
    (value next : String)
    (others : List String) :
    (" ".intercalate (value :: next :: others)).toList =
      value.toList ++ ' ' :: (" ".intercalate (next :: others)).toList := by
  simp

/-- Tokens with a space between any two of them are found again. -/
theorem splitOnP_intercalate
    (nonempty : values ≠ [])
    (tokens : ∀ value ∈ values, ∀ c ∈ value.toList, isSpace c = false) :
    (" ".intercalate values).toList.splitOnP isSpace = values.map String.toList := by
  induction values with
  | nil =>
      exact absurd rfl nonempty
  | cons value values inductionHypothesis =>
      obtain ⟨here, later⟩ := List.forall_mem_cons.mp tokens
      cases values with
      | nil =>
          simpa using List.splitOnP_eq_singleton here
      | cons next others =>
          have rest := inductionHypothesis (by simp) later
          rw [toList_intercalate_cons,
            List.splitOnP_append_cons_of_forall_mem here ' ' (by decide), rest]
          rfl

theorem tokens_intercalate (tokens : values.all isToken = true) :
    Text.tokens (" ".intercalate values) = values := by
  have each (value : String) (member : value ∈ values) :
      value ≠ "" ∧ ∀ c ∈ value.toList, isSpace c = false := by
    have token := List.all_eq_true.mp tokens value member
    simpa [isToken] using token
  cases values with
  | nil =>
      rfl
  | cons value others =>
      have pieces :
          (((value :: others).map String.toList).filter fun piece => !piece.isEmpty) =
            (value :: others).map String.toList := by
        refine List.filter_eq_self.mpr fun piece member => ?_
        obtain ⟨token, isValue, rfl⟩ := List.mem_map.mp member
        simpa using (each token isValue).1
      rw [Text.tokens, splitOnP_intercalate (by simp) fun value member => (each value member).2,
        pieces, List.map_map]
      simp

end Tokens

section Values

variable {entry : String × List String}

/-- The text that clean values make is clean. -/
theorem isClean_intercalate
    {values : List String}
    (clean : values.all isClean = true) :
    isClean (" ".intercalate values) = true := by
  induction values with
  | nil =>
      rfl
  | cons value values inductionHypothesis =>
      obtain ⟨here, later⟩ := Bool.and_eq_true_iff.mp clean
      cases values with
      | nil =>
          simpa using here
      | cons next others =>
          have rest := inductionHypothesis later
          rw [isClean] at here rest ⊢
          rw [toList_intercalate_cons, List.all_append, List.all_cons, here, rest]
          rfl

/-- The values that an attribute is set to by the text that they make. -/
theorem valuesOf_readEntry (plain : holdsPlainValues entry = true) :
    (if (Attributes.valuesOf entry.1 (readEntry entry).2).isEmpty then [""]
      else Attributes.valuesOf entry.1 (readEntry entry).2) = entry.2 := by
  have values := (Bool.and_eq_true_iff.mp plain).2
  unfold Attributes.valuesOf readEntry
  split at values
  · next isList =>
      simp only [isList, if_true]
      rcases Bool.or_eq_true_iff.mp values with single | tokens
      · rw [beq_iff_eq.mp single]
        rfl
      · obtain ⟨nonempty, each⟩ := Bool.and_eq_true_iff.mp tokens
        rw [tokens_intercalate each]
        exact if_neg (by simpa using nonempty)
  · next isSingle =>
      obtain ⟨value, shape⟩ := List.length_eq_one_iff.mp (beq_iff_eq.mp values)
      rw [if_neg isSingle, shape]
      simp

/-- Setting an attribute to the text of its values puts it behind attributes of other names. -/
theorem set_readEntry
    {entries : List (String × List String)}
    (plainName : isPlainName entry.1 = true)
    (plain : holdsPlainValues entry = true)
    (fresh : entry.1 ∉ entries.map Prod.fst) :
    Attributes.set { entries := entries } entry.1 (readEntry entry).2 =
      { entries := entries ++ [entry] } := by
  have folded : lowercase entry.1 = entry.1 :=
    lowercase_eq_self fun c member => not_isUpper_of_isNameChar (isNameChar_of_mem plainName member)
  rw [Attributes.set, Attributes.setValues, folded, valuesOf_readEntry plain,
    Attributes.putEntry_of_not_mem fresh]

/-- Attributes are given back by the texts that their values make. -/
theorem setAll_readEntry
    (before : List (String × List String))
    {entries : List (String × List String)}
    (plain :
      ∀ entry ∈ entries, isPlainName entry.1 = true ∧ holdsPlainValues entry = true)
    (distinct : ((before ++ entries).map Prod.fst).Nodup) :
    Attributes.setAll { entries := before } (entries.map readEntry) =
      { entries := before ++ entries } := by
  induction entries generalizing before with
  | nil =>
      rw [List.append_nil]
      rfl
  | cons entry entries inductionHypothesis =>
      obtain ⟨⟨plainName, values⟩, later⟩ := List.forall_mem_cons.mp plain
      have fresh : entry.1 ∉ before.map Prod.fst := by
        intro known
        rw [List.map_append] at distinct
        exact (List.nodup_append.mp distinct).2.2 entry.1 known entry.1 (by simp) rfl
      have first := set_readEntry plainName values fresh
      have rest : ((before ++ [entry] ++ entries).map Prod.fst).Nodup := by
        simpa using distinct
      calc
        Attributes.setAll { entries := before } ((entry :: entries).map readEntry) =
            Attributes.setAll { entries := before ++ [entry] } (entries.map readEntry) :=
          congrArg (Attributes.setAll · (entries.map readEntry)) first
        _ = { entries := before ++ entry :: entries } := by
          rw [inductionHypothesis _ later rest, List.append_assoc]
          rfl

end Values

end MarkupQuery.Html
