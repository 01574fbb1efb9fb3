set_option autoImplicit false

namespace NatSpec

abbrev Dict (α : Type) := List (String × α)

namespace Dict

variable {α : Type}

def empty : Dict α := []

def get? (key : String) : Dict α → Option α
  | [] => none
  | (other, value) :: rest => if key = other then some value else get? key rest

def insert (key : String) (value : α) : Dict α → Dict α
  | [] => [(key, value)]
  | (other, old) :: rest =>
    if key = other then (key, value) :: rest
    else if key < other then (key, value) :: (other, old) :: rest
    else (other, old) :: insert key value rest

def keys (dict : Dict α) : List String := dict.map Prod.fst

def Sorted (dict : Dict α) : Prop := dict.keys.Pairwise (· < ·)

@[simp] theorem get?_empty (key : String) : get? key (empty : Dict α) = none := rfl

@[simp] theorem sorted_empty : Sorted (empty : Dict α) := List.Pairwise.nil

theorem get?_insert (key other : String) (value : α) (dict : Dict α) :
    get? other (insert key value dict) = if other = key then some value else get? other dict := by
  induction dict with
  | nil => rfl
  | cons entry rest ih =>
    rcases entry with ⟨head, old⟩
    simp only [insert]
    split
    · rename_i same
      subst same
      simp only [get?]
      split <;> rfl
    · rename_i different
      split
      · simp only [get?]
      · simp only [get?, ih]
        split
        · rename_i atHead
          subst atHead
          simp [Ne.symm different]
        · rfl

theorem get?_insert_self (key : String) (value : α) (dict : Dict α) :
    get? key (insert key value dict) = some value := by
  simp [get?_insert]

theorem mem_keys_insert (key other : String) (value : α) (dict : Dict α) :
    other ∈ (insert key value dict).keys ↔ other = key ∨ other ∈ dict.keys := by
  induction dict with
  | nil => simp [insert, keys]
  | cons entry rest ih =>
    rcases entry with ⟨head, old⟩
    simp only [insert]
    split
    · rename_i same
      subst same
      simp [keys]
    · split
      · simp [keys]
      · simp only [keys, List.map_cons, List.mem_cons] at ih ⊢
        rw [ih]
        exact or_left_comm

theorem sorted_insert (key : String) (value : α) (dict : Dict α) (h : dict.Sorted) :
    (insert key value dict).Sorted := by
  induction dict with
  | nil => simp [insert, Sorted, keys]
  | cons entry rest ih =>
    rcases entry with ⟨head, old⟩
    have headLt : ∀ other ∈ keys rest, head < other := (List.pairwise_cons.1 h).1
    have tail : Sorted rest := (List.pairwise_cons.1 h).2
    simp only [insert]
    split
    · rename_i same
      subst same
      exact h
    · rename_i different
      split
      · rename_i less
        refine List.pairwise_cons.2 ⟨?_, h⟩
        intro other member
        rcases List.mem_cons.1 member with same | inRest
        · rw [same]
          exact less
        · exact String.lt_trans less (headLt other inRest)
      · rename_i notLess
        have above : head < key := Decidable.byContradiction fun notAbove =>
          different (String.le_antisymm (String.not_lt.1 notAbove) (String.not_lt.1 notLess))
        refine List.pairwise_cons.2 ⟨?_, ih tail⟩
        intro other member
        rcases (mem_keys_insert key other value rest).1 member with same | inRest
        · rw [same]
          exact above
        · exact headLt other inRest

end Dict

end NatSpec
