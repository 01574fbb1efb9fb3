import Mathlib.Data.List.Sort
import NatSpec.Proofs.Dict
import NatSpec.Proofs.Tree.ReadBack

set_option autoImplicit false

namespace NatSpec

namespace Dict

variable {α : Type}

-- The last of the settings of `key` in a history, which starts with the oldest one, gave `value`.
def SetLast (history : List (String × α)) (key : String) (value : α) : Prop :=
  ∃ before after, history = before ++ (key, value) :: after ∧ key ∉ after.map Prod.fst

theorem not_in_keys_iff (key : String) (entries : List (String × α)) :
    key ∉ entries.map Prod.fst ↔ ∀ entry ∈ entries, (key != entry.1) = true := by
  simp only [List.mem_map, not_exists, not_and, bne_iff_ne, ne_eq]
  exact forall₂_congr fun entry _ => not_congr eq_comm

theorem set_last_iff (history : List (String × α)) (key : String) (value : α) :
    SetLast history key value ↔ history.reverse.lookup key = some value := by
  rw [List.lookup_eq_some_iff]
  constructor
  · rintro ⟨before, after, rfl, untouched⟩
    refine ⟨after.reverse, before.reverse, by simp, ?_⟩
    rw [← not_in_keys_iff]
    simpa using untouched
  · rintro ⟨newer, older, reversed, untouched⟩
    refine ⟨older.reverse, newer.reverse, ?_, ?_⟩
    · rw [← List.reverse_reverse history, reversed]
      simp
    · rw [← not_in_keys_iff] at untouched
      simpa using untouched

theorem of_entries_found (history : List (String × α)) (key : String) (value : α) :
    (ofEntries history).get? key = some value ↔ SetLast history key value := by
  rw [set_last_iff, (of_entries_collects history).2]

theorem of_entries_absent (history : List (String × α)) (key : String) :
    (ofEntries history).get? key = none ↔ key ∉ history.map Prod.fst := by
  rw [(of_entries_collects history).2, List.lookup_eq_none_iff, not_in_keys_iff]
  simp only [List.mem_reverse]

theorem get_none_iff (dict : Dict α) (key : String) : dict.get? key = none ↔ key ∉ dict.keys := by
  induction dict with
  | nil => simp [get?, keys]
  | cons entry rest ih =>
    rcases entry with ⟨head, old⟩
    rw [get?, keys, List.map_cons, List.mem_cons, not_or]
    by_cases same : key = head
    · simp [same]
    · rw [if_neg same, ih]
      exact (and_iff_right same).symm

theorem mem_of_get {dict : Dict α} {key : String} {value : α} (found : dict.get? key = some value) :
    (key, value) ∈ dict := by
  induction dict with
  | nil => cases found
  | cons entry rest ih =>
    rcases entry with ⟨head, old⟩
    rw [get?] at found
    by_cases same : key = head
    · rw [if_pos same] at found
      cases found
      exact same ▸ List.mem_cons_self ..
    · rw [if_neg same] at found
      exact List.mem_cons_of_mem _ (ih found)

theorem get_of_mem {dict : Dict α} {key : String} {value : α} (sorted : dict.Sorted)
    (member : (key, value) ∈ dict) : dict.get? key = some value := by
  induction dict with
  | nil => cases member
  | cons entry rest ih =>
    obtain ⟨below, tail⟩ := List.pairwise_cons.mp sorted
    rcases List.mem_cons.mp member with rfl | later
    · rw [get?, if_pos rfl]
    · have less : entry.1 < key := below key (List.mem_map_of_mem later)
      rw [get?, if_neg (String.ne_of_lt less).symm, ih tail later]

theorem mem_iff_get {dict : Dict α} (sorted : dict.Sorted) (key : String) (value : α) :
    (key, value) ∈ dict ↔ dict.get? key = some value :=
  ⟨get_of_mem sorted, mem_of_get⟩

theorem sorted_ext {left right : Dict α} (leftSorted : left.Sorted) (rightSorted : right.Sorted)
    (same : ∀ key, left.get? key = right.get? key) : left = right := by
  have ascending {dict : Dict α} (sorted : dict.Sorted) :
      dict.Pairwise fun first second => first.1 < second.1 := List.pairwise_map.mp sorted
  have irreflexive : Std.Irrefl fun first second : String × α => first.1 < second.1 :=
    ⟨fun entry => String.lt_irrefl entry.1⟩
  refine (ascending leftSorted).eq_of_mem_iff (ascending rightSorted) fun entry => ?_
  rw [mem_iff_get leftSorted, mem_iff_get rightSorted, same]

theorem of_entries_settled {history other : List (String × α)}
    (same : ∀ key value, SetLast other key value ↔ SetLast history key value) :
    ofEntries other = ofEntries history := by
  refine sorted_ext (of_entries_collects other).1 (of_entries_collects history).1 fun key => ?_
  refine Option.ext fun value => ?_
  rw [of_entries_found, of_entries_found, same]

theorem of_entries_commute (before after : List (String × α)) {first second : String × α}
    (different : first.1 ≠ second.1) :
    ofEntries (before ++ first :: second :: after) =
      ofEntries (before ++ second :: first :: after) := by
  have collected := of_entries_collects (α := α)
  refine sorted_ext (collected _).1 (collected _).1 fun key => ?_
  rw [(collected _).2, (collected _).2]
  have swapped : [second, first].lookup key = [first, second].lookup key := by
    rcases first with ⟨key₁, value₁⟩
    rcases second with ⟨key₂, value₂⟩
    by_cases atFirst : key = key₁
    · subst atFirst
      simp [List.lookup_cons, beq_false_of_ne different]
    · simp [List.lookup_cons, beq_false_of_ne atFirst]
  have reversed (one two : String × α) : (before ++ one :: two :: after).reverse =
      after.reverse ++ ([two, one] ++ before.reverse) := by simp
  rw [reversed, reversed, List.lookup_append, List.lookup_append, List.lookup_append,
    List.lookup_append, swapped]

end Dict

open Json

def Tree.ofHistory (history : List (String × Tree)) : Tree := .object (Dict.ofEntries history)

def Tree.layouts (tree : Tree) : List String := [tree.compact, tree.pretty]

theorem member_values_map (members : List (String × Tree)) :
    memberValues members = members.map fun member => (member.1, member.2.value) := by
  induction members with
  | nil => rfl
  | cons member rest ih => rw [memberValues, ih, List.map_cons]

theorem member_values_keys (members : Dict Tree) :
    Dict.keys (memberValues members) = members.keys := by
  rw [member_values_map, Dict.keys, List.map_map]
  rfl

theorem member_values_get (members : Dict Tree) (key : String) :
    Dict.get? key (memberValues members) = (members.get? key).map Tree.value := by
  induction members with
  | nil => rfl
  | cons member rest ih =>
    rcases member with ⟨head, tree⟩
    rw [memberValues, Dict.get?, Dict.get?, ih]
    by_cases same : key = head
    · rw [if_pos same, if_pos same, Option.map_some]
    · rw [if_neg same, if_neg same]

structure Lists (history : List (String × Tree)) (members : Dict Value) : Prop where
  ascending : members.keys.Pairwise (· < ·)
  complete : ∀ key, key ∈ members.keys ↔ key ∈ history.map Prod.fst
  latest : ∀ key value,
    (key, value) ∈ members ↔ ∃ tree, Dict.SetLast history key tree ∧ value = tree.value

theorem history_listed (history : List (String × Tree)) :
    Lists history (memberValues (Dict.ofEntries history)) := by
  have sorted := (Dict.of_entries_collects history).1
  refine ⟨?_, fun key => ?_, fun key value => ?_⟩
  · rw [member_values_keys]
    exact sorted
  · rw [member_values_keys, ← not_iff_not, ← Dict.get_none_iff, Dict.of_entries_absent]
  · have found (tree : Tree) := Dict.mem_iff_get sorted key tree
    simp only [Dict.of_entries_found] at found
    rw [member_values_map, List.mem_map]
    constructor
    · rintro ⟨⟨key, tree⟩, member, same⟩
      cases same
      exact ⟨tree, (found tree).mp member, rfl⟩
    · rintro ⟨tree, last, rfl⟩
      exact ⟨(key, tree), (found tree).mpr last, rfl⟩

structure FiniteMap (history : List (String × Tree)) : Prop where
  found : ∀ key value,
    (Tree.ofHistory history).get? key = some value ↔ Dict.SetLast history key value
  absent : ∀ key, (Tree.ofHistory history).get? key = none ↔ key ∉ history.map Prod.fst
  listed : ∀ text ∈ (Tree.ofHistory history).layouts, ∃ members,
    Lists history members ∧ ∀ value, Denotes text.toList value ↔ value = .object members
  settled : ∀ other, (∀ key value, Dict.SetLast other key value ↔ Dict.SetLast history key value) →
    (Tree.ofHistory other).layouts = (Tree.ofHistory history).layouts
  commuting : ∀ before first second after, history = before ++ first :: second :: after →
    first.1 ≠ second.1 →
      (Tree.ofHistory (before ++ second :: first :: after)).layouts =
        (Tree.ofHistory history).layouts

theorem object_is_finite_map (history : List (String × Tree)) : FiniteMap history where
  found := Dict.of_entries_found history
  absent := Dict.of_entries_absent history
  listed text laid := by
    refine ⟨_, history_listed history, ?_⟩
    rcases List.mem_pair.mp laid with rfl | rfl
    · exact compact_denotes _
    · exact pretty_denotes _
  settled other same := by
    rw [Tree.ofHistory, Dict.of_entries_settled same, Tree.ofHistory]
  commuting before first second after same different := by
    rw [same, Tree.ofHistory, ← Dict.of_entries_commute before after different, Tree.ofHistory]

end NatSpec
