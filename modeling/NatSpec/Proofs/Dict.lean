import Mathlib.Data.List.Induction
import NatSpec.Dict

set_option autoImplicit false

namespace NatSpec.Dict

variable {α : Type}

def insertAll (entries : List (String × α)) (dict : Dict α) : Dict α :=
  entries.foldl (fun dict entry => dict.insert entry.1 entry.2) dict

def ofEntries (entries : List (String × α)) : Dict α := insertAll entries empty

def Collects (dict : Dict α) (entries : List (String × α)) : Prop :=
  dict.Sorted ∧ ∀ key, dict.get? key = entries.reverse.lookup key

theorem insert_all_sorted (entries : List (String × α)) (dict : Dict α) (sorted : dict.Sorted) :
    (insertAll entries dict).Sorted := by
  induction entries generalizing dict with
  | nil => exact sorted
  | cons entry rest ih => exact ih _ (sorted_insert entry.1 entry.2 dict sorted)

theorem insert_all_get (entries : List (String × α)) (dict : Dict α) (key : String) :
    (insertAll entries dict).get? key = (entries.reverse.lookup key).or (dict.get? key) := by
  induction entries generalizing dict with
  | nil => rfl
  | cons entry rest ih =>
    rcases entry with ⟨head, value⟩
    have here : (insert head value dict).get? key =
        ([(head, value)].lookup key).or (dict.get? key) := by
      rw [get?_insert, List.lookup_cons, List.lookup_nil]
      by_cases same : key = head
      · simp [same]
      · simp [same, beq_false_of_ne same]
    have later := ih (insert head value dict)
    simp only [insertAll, List.foldl_cons] at later ⊢
    rw [later, here, List.reverse_cons, List.lookup_append, Option.or_assoc]

theorem of_entries_collects (entries : List (String × α)) :
    (ofEntries entries).Collects entries := by
  refine ⟨insert_all_sorted entries empty sorted_empty, ?_⟩
  intro key
  rw [ofEntries, insert_all_get, get?_empty, Option.or_none]

def Below (bound : String) (dict : Dict α) : Prop := ∀ key ∈ dict.keys, key < bound

def Above (bound : String) (dict : Dict α) : Prop := ∀ key ∈ dict.keys, bound < key

theorem below_append (bound : String) (left right : Dict α) (leftBelow : Below bound left)
    (rightBelow : Below bound right) : Below bound (left ++ right) := by
  intro key member
  rw [keys, List.map_append] at member
  rcases List.mem_append.mp member with inLeft | inRight
  · exact leftBelow key inLeft
  · exact rightBelow key inRight

theorem insert_between (key : String) (value : α) (before after : Dict α)
    (below : Below key before) (above : Above key after) :
    insert key value (before ++ after) = before ++ (key, value) :: after := by
  induction before with
  | nil =>
    cases after with
    | nil => rfl
    | cons entry rest =>
      rcases entry with ⟨head, old⟩
      have less : key < head := above head (by simp [keys])
      rw [List.nil_append, insert, if_neg (String.ne_of_lt less), if_pos less, List.nil_append]
  | cons entry rest ih =>
    rcases entry with ⟨head, old⟩
    have less : head < key := below head (by simp [keys])
    have later : Below key rest := fun other member => below other (List.mem_cons_of_mem head member)
    rw [List.cons_append, insert, if_neg (String.ne_of_lt less).symm,
      if_neg (String.lt_asymm less), ih later, List.cons_append]

theorem mem_insert {key : String} {value : α} {entry : String × α} {dict : Dict α}
    (member : entry ∈ insert key value dict) : entry = (key, value) ∨ entry ∈ dict := by
  induction dict with
  | nil => exact .inl (List.mem_singleton.mp member)
  | cons head rest ih =>
    rw [insert] at member
    by_cases same : key = head.1
    · rw [if_pos same] at member
      exact (List.mem_cons.mp member).imp_right (List.mem_cons_of_mem head)
    · rw [if_neg same] at member
      by_cases less : key < head.1
      · rw [if_pos less] at member
        exact List.mem_cons.mp member
      · rw [if_neg less] at member
        rcases List.mem_cons.mp member with here | later
        · exact .inr (here ▸ List.mem_cons_self ..)
        · exact (ih later).imp_right (List.mem_cons_of_mem head)

theorem insert_not_empty (key : String) (value : α) (dict : Dict α) :
    insert key value dict ≠ [] := by
  cases dict with
  | nil => simp [insert]
  | cons entry rest =>
    rw [insert]
    split
    · simp
    · split <;> simp

theorem insert_all_not_empty (entries : List (String × α)) (dict : Dict α) (filled : dict ≠ []) :
    insertAll entries dict ≠ [] := by
  induction entries generalizing dict with
  | nil => exact filled
  | cons entry rest ih => exact ih _ (insert_not_empty entry.1 entry.2 dict)

theorem of_entries_empty_iff (entries : List (String × α)) :
    ofEntries entries = [] ↔ entries = [] := by
  cases entries with
  | nil => exact Iff.rfl
  | cons entry rest =>
    have filled := insert_all_not_empty rest _ (insert_not_empty entry.1 entry.2 empty)
    exact ⟨fun empty => absurd empty filled, nofun⟩

theorem insert_perm {key : String} (value : α) {dict : Dict α} (fresh : key ∉ dict.keys) :
    (insert key value dict).Perm ((key, value) :: dict) := by
  induction dict with
  | nil => exact .refl _
  | cons entry rest ih =>
    rw [keys, List.map_cons, List.mem_cons, not_or] at fresh
    rw [insert, if_neg fresh.1]
    by_cases less : key < entry.1
    · rw [if_pos less]
    · rw [if_neg less]
      exact ((ih fresh.2).cons entry).trans (.swap ..)

-- By induction from the last entry, which is the one set last.
theorem of_entries_perm {entries : List (String × α)} (distinct : (entries.map Prod.fst).Nodup) :
    (ofEntries entries).Perm entries := by
  induction entries using List.reverseRecOn with
  | nil => exact .refl _
  | append_singleton before entry ih =>
    rw [List.map_append, List.nodup_append] at distinct
    obtain ⟨earlier, -, apart⟩ := distinct
    have collected := ih earlier
    have fresh : entry.1 ∉ (ofEntries before).keys := by
      rw [keys, (collected.map Prod.fst).mem_iff]
      exact fun member => apart _ member _ (List.mem_singleton_self _) rfl
    have last : ofEntries (before ++ [entry]) = (ofEntries before).insert entry.1 entry.2 :=
      List.foldl_append ..
    rw [last]
    exact (insert_perm entry.2 fresh).trans
      ((collected.cons entry).trans (List.perm_append_singleton entry before).symm)

theorem sorted_perm {left right : Dict α} (leftSorted : left.Sorted) (rightSorted : right.Sorted)
    (perm : left.Perm right) : left = right := by
  refine perm.eq_of_pairwise (fun first second _ _ less greater => ?_)
    (List.pairwise_map.mp leftSorted) (List.pairwise_map.mp rightSorted)
  exact absurd greater (String.lt_asymm less)

theorem of_entries_reordered {entries other : List (String × α)}
    (distinct : (entries.map Prod.fst).Nodup) (perm : other.Perm entries) :
    ofEntries other = ofEntries entries := by
  have otherDistinct := (perm.map Prod.fst).nodup_iff.mpr distinct
  exact sorted_perm (of_entries_collects other).1 (of_entries_collects entries).1
    ((of_entries_perm otherDistinct).trans (perm.trans (of_entries_perm distinct).symm))

end NatSpec.Dict
