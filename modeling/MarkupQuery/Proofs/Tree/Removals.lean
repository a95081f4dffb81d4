import Mathlib.Data.List.Nodup
import MarkupQuery.Proofs.FirstOccurrences
import MarkupQuery.Proofs.Text.Folding
import MarkupQuery.Proofs.Tree.Settings

namespace MarkupQuery.Attributes

/-!
# Attributes after settings and removals

Attributes are set and removed in any order. A removal takes back all settings of a name before it,
so the attributes are those that the other settings make alone: one entry for each name, at the
place of its first setting and with the values of its last. A name that is removed and set again
stands at the end, whereas one that is set twice stays where it is.
-/

open MarkupQuery.Text

/-- A call that changes attributes. -/
inductive Call where
  | set (setting : Setting)
  /-- A name is removed as it is spelled. -/
  | remove (name : String)
  deriving Repr, DecidableEq

def afterCall (attributes : Attributes) : Call → Attributes
  | .set setting => attributes.after setting
  | .remove name => (attributes.remove name).2

/-- The attributes that calls make of none. -/
def ofCalls (calls : List Call) : Attributes :=
  calls.foldl afterCall .empty

/-- The settings that are in force after calls: no later call removes the name that was set. -/
def inForce : List Call → List Setting
  | [] => []
  | .remove _ :: later => inForce later
  | .set setting :: later =>
      if later.contains (.remove setting.key) then
        inForce later
      else
        setting :: inForce later

/-- The folded names of settings, each where it is set first. -/
def namesOf (settings : List Setting) : List String :=
  (settings.map Setting.key).eraseDups

/-- One entry for each name, with what its last setting says. -/
def entriesOf (settings : List Setting) : List (String × List String) :=
  (namesOf settings).filterMap fun name =>
    (lastSetting? settings name).map fun setting => (name, setting.kept)

/-- The attributes for which names are set to texts, in the order of the list. -/
def recorded (pairs : List (String × String)) : Attributes :=
  { entries := entriesOf (pairs.map fun pair => .text pair.1 pair.2) }

/-- Attributes are what settings say, whichever way they are asked. -/
structure Records (attributes : Attributes) (settings : List Setting) : Prop where
  entries :
    attributes.entries = entriesOf settings
  names :
    attributes.entries.map Prod.fst = namesOf settings
  distinct :
    (attributes.entries.map Prod.fst).Nodup
  folded :
    ∀ entry ∈ attributes.entries, IsFolded entry.1
  nonempty :
    ∀ entry ∈ attributes.entries, entry.2 ≠ []
  get? :
    ∀ name, attributes.get? name = (lastSetting? settings name).map Setting.kept
  contains :
    ∀ name,
      attributes.contains name = settings.any fun setting => setting.key == name
  size :
    attributes.size = (namesOf settings).length
  isEmpty :
    attributes.isEmpty = settings.isEmpty

section Entries

variable {name : String} {values : List String} {entries : List (String × List String)}

/-- Where each name stands once, a name that is there keeps its place, and another goes last. -/
theorem putEntry_eq (distinct : (entries.map Prod.fst).Nodup) :
    putEntry name values entries =
      if name ∈ entries.map Prod.fst then
        entries.map fun entry => if entry.1 = name then (name, values) else entry
      else
        entries ++ [(name, values)] := by
  induction entries with
  | nil =>
      rfl
  | cons entry entries inductionHypothesis =>
      obtain ⟨fresh, rest⟩ := List.nodup_cons.mp distinct
      rw [putEntry]
      by_cases here : entry.1 = name
      · have others :
            (entries.map fun entry => if entry.1 = name then (name, values) else entry) =
              entries.map id := by
          refine List.map_congr_left fun other member => if_neg fun same => fresh ?_
          exact List.mem_map.mpr ⟨other, member, same.trans here.symm⟩
        simp [here, others]
      · rw [if_neg here, inductionHypothesis rest]
        by_cases known : name ∈ entries.map Prod.fst
        · rw [if_pos known, if_pos ((mem_map_fst_cons_iff here).mpr known), List.map_cons,
            if_neg here]
        · rw [if_neg known, if_neg (mt (mem_map_fst_cons_iff here).mp known), List.cons_append]

/-- Where each name stands once, removing a name leaves the others. -/
theorem eraseEntry_eq (distinct : (entries.map Prod.fst).Nodup) :
    eraseEntry name entries = entries.filter fun entry => entry.1 != name := by
  induction entries with
  | nil =>
      rfl
  | cons entry entries inductionHypothesis =>
      obtain ⟨fresh, rest⟩ := List.nodup_cons.mp distinct
      rw [eraseEntry]
      by_cases here : entry.1 = name
      · have others : (entries.filter fun entry => entry.1 != name) = entries := by
          refine List.filter_eq_self.mpr fun other member => bne_iff_ne.mpr fun same => fresh ?_
          exact List.mem_map.mpr ⟨other, member, same.trans here.symm⟩
        simp [here, others]
      · simp [here, inductionHypothesis rest]

/-- Removing a name takes back that it was put, and does not touch other names. -/
theorem eraseEntry_putEntry (removed : String) :
    eraseEntry removed (putEntry name values entries) =
      if name = removed then
        eraseEntry removed entries
      else
        putEntry name values (eraseEntry removed entries) := by
  induction entries with
  | nil =>
      by_cases same : name = removed <;> simp [putEntry, eraseEntry, same]
  | cons entry entries inductionHypothesis =>
      by_cases here : entry.1 = name
      · by_cases same : name = removed
        · simp [putEntry, eraseEntry, here, same]
        · simp [putEntry, eraseEntry, here, same]
      · by_cases gone : entry.1 = removed
        · have different : name ≠ removed := fun same => here (gone.trans same.symm)
          simp [putEntry, eraseEntry, gone, different, Ne.symm different]
        · by_cases same : name = removed <;>
            simp_all [putEntry, eraseEntry]

/-- Where each name stands once, entries are told by their names and by look-ups. -/
theorem eq_filterMap_lookup (distinct : (entries.map Prod.fst).Nodup) :
    entries =
      (entries.map Prod.fst).filterMap fun name => (entries.lookup name).map fun found =>
        (name, found) := by
  induction entries with
  | nil =>
      rfl
  | cons entry entries inductionHypothesis =>
      obtain ⟨fresh, rest⟩ := List.nodup_cons.mp distinct
      have others :
          (entries.map Prod.fst).filterMap (fun name =>
              ((entry :: entries).lookup name).map fun found => (name, found)) =
            entries := by
        conv_rhs => rw [inductionHypothesis rest]
        refine List.filterMap_congr fun name member => ?_
        have different : (name == entry.1) = false :=
          beq_eq_false_iff_ne.mpr fun same => fresh (same ▸ member)
        rw [List.lookup_cons, different]
      rw [List.map_cons, List.filterMap_cons, others, List.lookup_cons, beq_self_eq_true]
      rfl

end Entries

section Removals

variable {settings : List Setting} {setting : Setting} {calls : List Call}

theorem ofCalls_concat (call : Call) :
    ofCalls (calls ++ [call]) = (ofCalls calls).afterCall call := by
  simp [ofCalls]

/-- A setting is in force right after it was made. -/
theorem inForce_concat_set :
    inForce (calls ++ [.set setting]) = inForce calls ++ [setting] := by
  induction calls with
  | nil =>
      rfl
  | cons call calls inductionHypothesis =>
      cases call with
      | set earlier =>
          by_cases removed : Call.remove earlier.key ∈ calls <;>
            simp [inForce, removed, inductionHypothesis]
      | remove name =>
          simpa [inForce] using inductionHypothesis

/-- A removal takes back the settings whose folded name is the one removed. -/
theorem inForce_concat_remove (name : String) :
    inForce (calls ++ [.remove name]) =
      (inForce calls).filter fun setting => setting.key != name := by
  induction calls with
  | nil =>
      rfl
  | cons call calls inductionHypothesis =>
      cases call with
      | set earlier =>
          by_cases removed : Call.remove earlier.key ∈ calls
          · simp [inForce, removed, inductionHypothesis]
          · by_cases same : earlier.key = name
            · subst same
              simp [inForce, removed, inductionHypothesis]
            · simp [inForce, removed, same, inductionHypothesis]
      | remove other =>
          simpa [inForce] using inductionHypothesis

/-- Removing a name undoes all settings of it, as if they had never been made. -/
theorem erase_ofSettings (name : String) :
    (ofSettings settings).erase name =
      ofSettings (settings.filter fun setting => setting.key != name) := by
  induction settings using List.reverseRecOn with
  | nil =>
      rfl
  | append_singleton settings setting inductionHypothesis =>
      rw [ofSettings_concat, after_eq, erase, eraseEntry_putEntry, List.filter_append]
      by_cases same : setting.key = name
      · have gone : [setting].filter (fun setting => setting.key != name) = [] := by
          simp [same]
        rw [if_pos same, gone, List.append_nil, ← inductionHypothesis]
        rfl
      · have kept : [setting].filter (fun setting => setting.key != name) = [setting] := by
          simp [same]
        rw [if_neg same, kept, ofSettings_concat, after_eq, ← inductionHypothesis]
        rfl

/-- Calls make what the settings make that are in force after them. -/
theorem ofCalls_eq (calls : List Call) :
    ofCalls calls = ofSettings (inForce calls) := by
  induction calls using List.reverseRecOn with
  | nil =>
      rfl
  | append_singleton calls call inductionHypothesis =>
      rw [ofCalls_concat, inductionHypothesis]
      cases call with
      | set setting =>
          rw [inForce_concat_set, ofSettings_concat, afterCall]
      | remove name =>
          rw [inForce_concat_remove, ← erase_ofSettings]
          rfl

/-- The names stand in the order of their first settings. -/
theorem map_fst_entries_ofSettings (settings : List Setting) :
    (ofSettings settings).entries.map Prod.fst = namesOf settings := by
  induction settings using List.reverseRecOn with
  | nil =>
      rfl
  | append_singleton settings setting inductionHypothesis =>
      rw [ofSettings_concat, after_eq, map_fst_putEntry, inductionHypothesis]
      simp only [namesOf, List.map_append, List.map_singleton, eraseDups_concat, List.mem_eraseDups]

theorem nodup_names_ofSettings (settings : List Setting) :
    ((ofSettings settings).entries.map Prod.fst).Nodup := by
  rw [map_fst_entries_ofSettings]
  exact nodup_eraseDups _

/-- Settings make one entry for each name, with what was set last. -/
theorem entries_ofSettings (settings : List Setting) :
    (ofSettings settings).entries = entriesOf settings := by
  rw [eq_filterMap_lookup (nodup_names_ofSettings settings), map_fst_entries_ofSettings, entriesOf]
  refine List.filterMap_congr fun name _ => ?_
  have found := get?_ofSettings settings name
  rw [get?] at found
  rw [found, Option.map_map]
  rfl

/-- Names that are set in order, beginning with no attributes, are recorded. -/
theorem setAll_empty_eq_recorded (pairs : List (String × String)) :
    empty.setAll pairs = recorded pairs := by
  rw [setAll_empty_eq, recorded, ← entries_ofSettings]

/-- No setting keeps an empty list of values. -/
theorem kept_ne_nil (setting : Setting) :
    setting.kept ≠ [] := by
  rw [Setting.kept]
  split
  · exact List.cons_ne_nil "" []
  · next something =>
      exact something

/-- Every entry stands under a folded name, with values that a setting gave it. -/
theorem exists_setting_of_mem_entriesOf
    {entry : String × List String}
    (member : entry ∈ entriesOf settings) :
    ∃ setting : Setting, entry = (setting.key, setting.kept) := by
  obtain ⟨name, _, found⟩ := List.mem_filterMap.mp member
  obtain ⟨setting, last, rfl⟩ := Option.map_eq_some_iff.mp found
  exact ⟨setting, by rw [key_of_lastSetting? last]⟩

/-- Without settings there are no names, and with settings there are some. -/
theorem isEmpty_ofSettings (settings : List Setting) :
    (ofSettings settings).isEmpty = settings.isEmpty := by
  have names := map_fst_entries_ofSettings settings
  rw [Attributes.isEmpty]
  cases settings with
  | nil =>
      rfl
  | cons setting settings =>
      rw [namesOf, List.map_cons, List.eraseDups_cons] at names
      cases entries : (ofSettings (setting :: settings)).entries with
      | nil =>
          simp [entries] at names
      | cons entry entries =>
          rfl

/-- Whatever is set, the attributes are a record of it. -/
theorem records_ofSettings (settings : List Setting) :
    (ofSettings settings).Records settings where
  entries := entries_ofSettings settings
  names := map_fst_entries_ofSettings settings
  distinct := nodup_names_ofSettings settings
  folded := by
    intro entry member
    rw [entries_ofSettings] at member
    obtain ⟨setting, rfl⟩ := exists_setting_of_mem_entriesOf member
    exact isFolded_lowercase setting.name
  nonempty := by
    intro entry member
    rw [entries_ofSettings] at member
    obtain ⟨setting, rfl⟩ := exists_setting_of_mem_entriesOf member
    exact kept_ne_nil setting
  get? := get?_ofSettings settings
  contains := by
    intro name
    rw [contains, get?_ofSettings, Option.isSome_map, isSome_lastSetting?]
  size := by
    rw [Attributes.size, ← List.length_map Prod.fst, map_fst_entries_ofSettings]
  isEmpty := isEmpty_ofSettings settings

/-- The names that stand in the entries are those that are set. -/
theorem Records.mem_names_iff
    {attributes : Attributes}
    (records : attributes.Records settings)
    (name : String) :
    name ∈ attributes.entries.map Prod.fst ↔ attributes.contains name = true := by
  rw [records.names, records.contains, namesOf, List.mem_eraseDups, List.any_eq_true]
  simp

end Removals

end MarkupQuery.Attributes
