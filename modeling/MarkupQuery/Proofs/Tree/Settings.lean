import Mathlib.Data.List.Induction
import MarkupQuery.Tree.Attributes

namespace MarkupQuery.Attributes

/-!
# Attributes as a record of settings

Attributes come about by settings, one after the other. What a look-up answers can be told from the
settings alone: it is what the last setting gave under a name that folds to the one looked up. So
spellings of one name overwrite each other, and a name in upper case is never found.
-/

open MarkupQuery.Text

/-- One setting of an attribute, to what a text stands for or to a list of values. -/
inductive Setting where
  | text (name value : String)
  | list (name : String) (values : List String)
  deriving Repr, DecidableEq

/-- The five characters between which the words of a text stand. -/
def separators : List Char := [' ', '\t', '\n', '\x0C', '\r']

/-- What a text holds between separators, without the empty pieces. -/
def words (value : String) : List String :=
  ((value.toList.splitOnP fun c => c ∈ separators).filter fun piece => piece ≠ []).map
    String.ofList

namespace Setting

/-- The name as it was spelled. -/
def name : Setting → String
  | .text name _ => name
  | .list name _ => name

/-- The name under which the setting is kept, with its ASCII letters in lower case. -/
def key (setting : Setting) : String :=
  setting.name.map Char.toLower

/-- What the setting says as a list of tokens: a text is split at whitespace, a list is not. -/
def tokens : Setting → List String
  | .text _ value => words value
  | .list _ values => values

/-- The values that are set: a text stands for its tokens under two names, else for itself. -/
def values (setting : Setting) : List String :=
  match setting with
  | .text _ value =>
      if setting.key = "class" ∨ setting.key = "rel" then words value else [value]
  | .list _ values => values

/-- The values that are kept, one empty value instead of none. -/
def kept (setting : Setting) : List String :=
  if setting.values = [] then [""] else setting.values

end Setting

/-- The attributes after a setting. -/
def after (attributes : Attributes) : Setting → Attributes
  | .text name value => attributes.set name value
  | .list name values => attributes.setValues name values

/-- The attributes that settings make of none. -/
def ofSettings (settings : List Setting) : Attributes :=
  settings.foldl after .empty

/-- The last setting of an attribute, however its name was spelled. -/
def lastSetting? (settings : List Setting) (name : String) : Option Setting :=
  (settings.filter fun setting => setting.key == name).getLast?

section Entries

variable {name : String} {values : List String} {entries : List (String × List String)}

/-- A name that is not there yet is put at the end. -/
theorem putEntry_of_not_mem
    (fresh : name ∉ entries.map Prod.fst) :
    putEntry name values entries = entries ++ [(name, values)] := by
  induction entries with
  | nil =>
      rfl
  | cons entry entries inductionHypothesis =>
      rw [List.map_cons, List.mem_cons, not_or] at fresh
      rw [putEntry, if_neg (Ne.symm fresh.1), inductionHypothesis fresh.2]
      rfl

theorem mem_map_fst_cons_iff
    {entry : String × List String}
    (different : entry.1 ≠ name) :
    name ∈ (entry :: entries).map Prod.fst ↔ name ∈ entries.map Prod.fst := by
  simp [Ne.symm different]

/-- A name that is there keeps its place, and another one goes last. -/
theorem map_fst_putEntry :
    (putEntry name values entries).map Prod.fst =
      entries.map Prod.fst ++ if name ∈ entries.map Prod.fst then [] else [name] := by
  induction entries with
  | nil =>
      rfl
  | cons entry entries inductionHypothesis =>
      rw [putEntry]
      by_cases here : entry.1 = name
      · simp [here]
      · rw [if_neg here, List.map_cons, inductionHypothesis, ← List.cons_append, ← List.map_cons]
        by_cases known : name ∈ entries.map Prod.fst
        · rw [if_pos known, if_pos ((mem_map_fst_cons_iff here).mpr known)]
        · rw [if_neg known, if_neg (mt (mem_map_fst_cons_iff here).mp known)]

end Entries

section Lookups

variable {name : String} {settings : List Setting} {setting : Setting}

/-- A name that is put is found with the values put; others are found as before. -/
theorem lookup_putEntry
    (query : String)
    (values : List String)
    (entries : List (String × List String)) :
    (putEntry name values entries).lookup query =
      if query = name then some values else entries.lookup query := by
  have different {first second : String} (other : first ≠ second) : (first == second) = false :=
    beq_eq_false_iff_ne.mpr other
  induction entries with
  | nil =>
      by_cases same : query = name
      · simp [putEntry, same]
      · simp [putEntry, same, List.lookup_cons, different same]
  | cons entry entries inductionHypothesis =>
      obtain ⟨key, held⟩ := entry
      rw [putEntry]
      by_cases here : key = name
      · by_cases same : query = name
        · simp [here, same]
        · simp [here, same, List.lookup_cons, different same]
      · rw [if_neg here, List.lookup_cons, inductionHypothesis, List.lookup_cons]
        by_cases same : query = name
        · simp [same, different (Ne.symm here)]
        · rw [if_neg same, if_neg same]

/-- The tokens of a text are its words. -/
theorem tokens_eq_words (value : String) :
    Text.tokens value = words value := by
  have spaces (c : Char) : isSpace c = decide (c ∈ separators) := by
    rw [Bool.eq_iff_iff]
    simp [isSpace, separators, or_assoc]
  have nonempty (piece : List Char) : (!piece.isEmpty) = decide (piece ≠ []) := by
    cases piece <;> rfl
  simp only [Text.tokens, words, funext spaces, nonempty]

/-- A text stands for its words under the names of token lists, else for itself. -/
theorem valuesOf_lowercase (name value : String) :
    valuesOf (lowercase name) value = (Setting.text name value).values := by
  have listed :
      tokenListNames.contains (lowercase name) = true ↔
        (Setting.text name value).key = "class" ∨ (Setting.text name value).key = "rel" := by
    rw [List.contains_iff_mem, tokenListNames, List.mem_cons, List.mem_singleton]
    rfl
  rw [valuesOf, Setting.values, tokens_eq_words]
  exact if_congr listed rfl rfl

/-- A setting puts the values it keeps under its key. -/
theorem after_eq (attributes : Attributes) :
    attributes.after setting =
      { entries := putEntry setting.key setting.kept attributes.entries } := by
  have orEmpty (values : List String) :
      (if values.isEmpty then [""] else values) = if values = [] then [""] else values :=
    if_congr List.isEmpty_iff rfl rfl
  cases setting with
  | text name value =>
      rw [after, set, setValues, orEmpty, valuesOf_lowercase]
      rfl
  | list name values =>
      rw [after, setValues, orEmpty]
      rfl

/-- A setting decides what is found under its key, and under no other name. -/
theorem get?_after (attributes : Attributes) :
    (attributes.after setting).get? name =
      if name = setting.key then some setting.kept else attributes.get? name := by
  rw [after_eq, get?, lookup_putEntry, get?]

theorem ofSettings_concat :
    ofSettings (settings ++ [setting]) = (ofSettings settings).after setting := by
  simp [ofSettings]

/-- Setting several names in order is a record of settings by texts. -/
theorem setAll_empty_eq (pairs : List (String × String)) :
    empty.setAll pairs = ofSettings (pairs.map fun pair => .text pair.1 pair.2) := by
  rw [ofSettings, List.foldl_map]
  rfl

/-- A setting is the last one of its key, and of no other name. -/
theorem lastSetting?_concat :
    lastSetting? (settings ++ [setting]) name =
      if setting.key = name then some setting else lastSetting? settings name := by
  rw [lastSetting?, List.filter_append]
  by_cases same : setting.key = name
  · simp [same]
  · simp [same, lastSetting?]

/-- The last setting under a name decides what is found there. -/
theorem get?_ofSettings (settings : List Setting) (name : String) :
    (ofSettings settings).get? name = (lastSetting? settings name).map Setting.kept := by
  induction settings using List.reverseRecOn with
  | nil =>
      rfl
  | append_singleton settings setting inductionHypothesis =>
      rw [ofSettings_concat, get?_after, lastSetting?_concat, inductionHypothesis]
      by_cases same : setting.key = name
      · rw [if_pos same, if_pos same.symm, Option.map_some]
      · rw [if_neg same, if_neg (Ne.symm same)]

/-- There is a last setting under a name if there is any. -/
theorem isSome_lastSetting? :
    (lastSetting? settings name).isSome =
      settings.any fun setting => setting.key == name := by
  rw [lastSetting?, Bool.eq_iff_iff, List.getLast?_isSome]
  simp [List.filter_eq_nil_iff]

/-- The last setting of a name has it as its key. -/
theorem key_of_lastSetting?
    (last : lastSetting? settings name = some setting) :
    setting.key = name := by
  have member := List.mem_of_getLast? last
  simpa using (List.mem_filter.mp member).2

end Lookups

/-- A token is among the values kept for the classes if the setting says so. -/
theorem contains_kept_of_class
    {setting : Setting}
    (classes : setting.key = "class")
    {token : String}
    (nonempty : token ≠ "") :
    setting.kept.contains token = setting.tokens.contains token := by
  have said : setting.values = setting.tokens := by
    cases setting with
    | text name value =>
        exact if_pos (Or.inl classes)
    | list name values =>
        rfl
  rw [Setting.kept, said]
  split
  · next nothing =>
      simp [nothing, nonempty]
  · rfl

end MarkupQuery.Attributes
