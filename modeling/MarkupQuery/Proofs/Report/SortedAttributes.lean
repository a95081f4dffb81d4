import Mathlib.Data.List.Sort
import MarkupQuery.Proofs.Tree.Removals
import MarkupQuery.Report.Match

namespace MarkupQuery.Report

/-!
# Attributes in a record

The record of an element has its attributes sorted by name. Sorting is as good as collecting them in
a sorted map, in which a name stands once: attributes have no name twice, however often and under
whatever spellings names were set and removed before.
-/

open Attributes (Setting Call ofCalls inForce namesOf)
open MarkupQuery.Text

/-- The attributes with the values of each joined by spaces, in their own order. -/
def joinedAttributes (attributes : Attributes) : List (String × String) :=
  attributes.entries.map fun entry => (entry.1, " ".intercalate entry.2)

section Sorting

variable {pairs : List (String × String)}

/-- A sorted map holds the pairs that it is made of, if no name stands in two of them. -/
theorem toList_ofList_perm (distinct : (pairs.map Prod.fst).Nodup) :
    (Std.TreeMap.ofList pairs).toList.Perm pairs := by
  have apart : pairs.Pairwise fun first second => ¬ compare first.1 second.1 = .eq := by
    refine (List.pairwise_map.mp distinct).imp fun different same => different ?_
    exact Std.LawfulEqOrd.eq_of_compare same
  refine (List.perm_ext_iff_of_nodup ?_ (List.Nodup.of_map _ distinct)).mpr ?_
  · refine Std.TreeMap.distinct_keys_toList.imp ?_
    rintro first _ different rfl
    exact different Std.ReflOrd.compare_self
  · rintro ⟨name, value⟩
    rw [Std.TreeMap.mem_toList_iff_getElem?_eq_some]
    constructor
    · intro found
      by_cases known : name ∈ pairs.map Prod.fst
      · obtain ⟨⟨_, held⟩, member, rfl⟩ := List.mem_map.mp known
        rw [Std.TreeMap.getElem?_ofList_of_mem Std.ReflOrd.compare_self apart member] at found
        exact Option.some.inj found ▸ member
      · rw [Std.TreeMap.getElem?_ofList_of_contains_eq_false (by simpa using known)] at found
        cases found
    · intro member
      exact Std.TreeMap.getElem?_ofList_of_mem Std.ReflOrd.compare_self apart member

/-- Sorting pairs by name is collecting them in a sorted map, if no name stands in two of them. -/
theorem toList_ofList_eq_mergeSort (distinct : (pairs.map Prod.fst).Nodup) :
    (Std.TreeMap.ofList pairs).toList = pairs.mergeSort fun first second => first.1 ≤ second.1 := by
  have collected := toList_ofList_perm distinct
  have sorted := List.mergeSort_perm pairs fun first second => first.1 ≤ second.1
  have collectedInOrder :
      (Std.TreeMap.ofList pairs).toList.Pairwise fun first second => first.1 ≤ second.1 := by
    refine Std.TreeMap.ordered_keys_toList.imp ?_
    intro first second less
    exact Std.le_of_lt (compareOfLessAndEq_eq_lt.mp less)
  have sortedInOrder :
      (pairs.mergeSort fun first second => first.1 ≤ second.1).Pairwise fun first second =>
        first.1 ≤ second.1 := by
    refine (List.pairwise_mergeSort ?_ ?_ pairs).imp of_decide_eq_true
    · intro _ _ _ firstLess secondLess
      rw [decide_eq_true_eq] at firstLess secondLess ⊢
      exact String.le_trans firstLess secondLess
    · intro first second
      simpa using String.le_total first.1 second.1
  refine List.Perm.eq_of_pairwise ?_ collectedInOrder sortedInOrder
    (collected.trans sorted.symm)
  intro first second inFirst inSecond upTo downTo
  exact List.inj_on_of_nodup_map distinct (collected.mem_iff.mp inFirst)
    (sorted.mem_iff.mp inSecond) (String.le_antisymm upTo downTo)

end Sorting

/--
After any settings and removals the attributes are what the settings in force say: one entry for
each name, folded, at the place of its first setting and with the values of its last. Setting a name
that is there changes its values where it stands, setting another puts it at the end, and removing a
name gives back its values and leaves the other entries. Sorted by name the entries are those that a
map sorted by name would hold, and none is missing.
-/
theorem ofCalls_in_order (calls : List Call) :
    (ofCalls calls).Records (inForce calls) ∧
      (∀ setting : Setting,
        (ofCalls (calls ++ [.set setting])).entries =
          if (ofCalls calls).contains setting.key then
            (ofCalls calls).entries.map fun entry =>
              if entry.1 = setting.key then (entry.1, setting.kept) else entry
          else
            (ofCalls calls).entries ++ [(setting.key, setting.kept)]) ∧
      (∀ name : String,
        (ofCalls calls).remove name =
            ((ofCalls calls).get? name, ofCalls (calls ++ [.remove name])) ∧
          (ofCalls (calls ++ [.remove name])).entries =
            (ofCalls calls).entries.filter fun entry => entry.1 != name) ∧
      sortedAttributes (ofCalls calls) =
        (Std.TreeMap.ofList (joinedAttributes (ofCalls calls))).toList ∧
      (sortedAttributes (ofCalls calls)).Perm (joinedAttributes (ofCalls calls)) := by
  have records : (ofCalls calls).Records (inForce calls) := by
    rw [Attributes.ofCalls_eq]
    exact Attributes.records_ofSettings (inForce calls)
  refine ⟨records, fun setting => ?_, fun name => ⟨?_, ?_⟩, ?_, List.mergeSort_perm _ _⟩
  · rw [Attributes.ofCalls_concat, Attributes.afterCall, Attributes.after_eq,
      Attributes.putEntry_eq records.distinct]
    simp only [records.mem_names_iff]
    split
    · refine List.map_congr_left fun entry _ => ?_
      split
      · next same =>
          rw [same]
      · rfl
    · rfl
  · rw [Attributes.ofCalls_concat]
    rfl
  · rw [Attributes.ofCalls_concat]
    exact Attributes.eraseEntry_eq records.distinct
  · have distinct : ((joinedAttributes (ofCalls calls)).map Prod.fst).Nodup := by
      rw [joinedAttributes, List.map_map]
      exact records.distinct
    exact (toList_ofList_eq_mergeSort distinct).symm

end MarkupQuery.Report
