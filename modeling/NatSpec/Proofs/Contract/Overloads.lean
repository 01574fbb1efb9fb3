import Mathlib.Data.List.Infix
import NatSpec.Contract
import NatSpec.Proofs.Text.Delimited

set_option autoImplicit false

namespace NatSpec

structure Balanced (text : List Char) : Prop where
  opened : ∀ front ∈ text.inits, front.count ')' ≤ front.count '('
  closed : text.count ')' = text.count '('

-- At each comma there is a parenthesis left to close.
def CommasInside (text : List Char) : Prop :=
  ∀ front ∈ text.inits, front.getLast? = some ',' → front.count ')' < front.count '('

structure TypeName (type : List Char) : Prop where
  filled : type ≠ []
  balanced : Balanced type
  inside : CommasInside type

instance (text : List Char) : Decidable (Balanced text) :=
  decidable_of_iff ((∀ front ∈ text.inits, front.count ')' ≤ front.count '(') ∧
    text.count ')' = text.count '(')
    ⟨fun ⟨opened, closed⟩ => ⟨opened, closed⟩, fun ⟨opened, closed⟩ => ⟨opened, closed⟩⟩

instance (text : List Char) : Decidable (CommasInside text) :=
  inferInstanceAs (Decidable (∀ front ∈ text.inits, _))

instance (type : List Char) : Decidable (TypeName type) :=
  decidable_of_iff (type ≠ [] ∧ Balanced type ∧ CommasInside type)
    ⟨fun ⟨filled, balanced, inside⟩ => ⟨filled, balanced, inside⟩,
      fun ⟨filled, balanced, inside⟩ => ⟨filled, balanced, inside⟩⟩

example : TypeName "((uint256,bool)[],bytes)".toList ∧ ¬ TypeName "uint256,bool".toList ∧
    ¬ TypeName ")(".toList := by
  decide

structure Overloads (functions : List FunctionDecl) : Prop where
  derived : ∀ function ∈ functions, function.signature = ""
  different : (functions.map fun function => (function.name, function.paramTypes)).Nodup
  names : ∀ function ∈ functions, '(' ∉ function.name.toList
  types : ∀ function ∈ functions, ∀ type ∈ function.paramTypes, TypeName type.toList

-- After a whole type a comma would stand outside parentheses, so a longer type has no comma there.
theorem type_not_longer {type more after after' : List Char} (named : TypeName type)
    (longer : TypeName (type ++ more)) (rest : ',' :: after = more ++ ',' :: after') :
    more = [] ∧ after = after' := by
  cases more with
  | nil => exact ⟨rfl, (List.cons.inj rest).2⟩
  | cons c more =>
    obtain rfl : ',' = c := (List.cons.inj rest).1
    have front : type ++ [','] ∈ (type ++ ',' :: more).inits := by
      rw [List.mem_inits]
      exact ⟨more, by simp⟩
    have nested := longer.inside _ front List.getLast?_concat
    have counted (bracket : Char) (different : bracket ≠ ',') :
        (type ++ [',']).count bracket = type.count bracket := by
      rw [List.count_append, List.count_singleton, beq_false_of_ne (Ne.symm different)]
      rfl
    rw [counted ')' (by decide), counted '(' (by decide), named.balanced.closed] at nested
    exact absurd nested (Nat.lt_irrefl _)

theorem first_type_unique {left right after after' : List Char} (named : TypeName left)
    (named' : TypeName right) (same : left ++ ',' :: after = right ++ ',' :: after') :
    left = right ∧ after = after' := by
  rcases List.append_eq_append_iff.mp same with ⟨more, rfl, rest⟩ | ⟨more, rfl, rest⟩
  · obtain ⟨rfl, equal⟩ := type_not_longer named named' rest
    exact ⟨(List.append_nil left).symm, equal⟩
  · obtain ⟨rfl, equal⟩ := type_not_longer named' named rest
    exact ⟨List.append_nil right, equal.symm⟩

-- With a comma after the last type too, every type ends at one.
def ended (types : List (List Char)) : List Char := types.flatMap (· ++ [','])

theorem ended_cons (type : List Char) (rest : List (List Char)) :
    ended (type :: rest) = type ++ ',' :: ended rest := by
  simp [ended]

theorem ended_joined {types : List (List Char)} (some : types ≠ []) :
    [','].intercalate types ++ [','] = ended types := by
  induction types with
  | nil => exact absurd rfl some
  | cons type rest ih =>
    cases rest with
    | nil => rw [List.intercalate_singleton, ended_cons, ended, List.flatMap_nil]
    | cons next more =>
      rw [List.intercalate_cons_cons, ended_cons, ← ih (List.cons_ne_nil _ _)]
      simp

theorem ended_unique {left right : List (List Char)} (named : ∀ type ∈ left, TypeName type)
    (named' : ∀ type ∈ right, TypeName type) (same : ended left = ended right) : left = right := by
  induction left generalizing right with
  | nil =>
    cases right with
    | nil => rfl
    | cons other rest =>
      rw [ended_cons] at same
      cases other <;> cases same
  | cons type rest ih =>
    cases right with
    | nil =>
      rw [ended_cons] at same
      cases type <;> cases same
    | cons other more =>
      obtain ⟨first, later⟩ := List.forall_mem_cons.mp named
      obtain ⟨first', later'⟩ := List.forall_mem_cons.mp named'
      rw [ended_cons, ended_cons] at same
      obtain ⟨equal, follows⟩ := first_type_unique first first' same
      rw [equal, ih later later' follows]

theorem joined_types_empty {types : List (List Char)} (named : ∀ type ∈ types, TypeName type)
    (empty : Json.commas types = []) : types = [] := by
  cases types with
  | nil => rfl
  | cons type rest =>
    rw [Json.commas_cons] at empty
    have filled := (named type (List.mem_cons_self ..)).filled
    exact absurd (List.append_eq_nil_iff.mp empty).1 filled

theorem joined_types_unique {left right : List (List Char)} (named : ∀ type ∈ left, TypeName type)
    (named' : ∀ type ∈ right, TypeName type)
    (same : [','].intercalate left = [','].intercalate right) : left = right := by
  by_cases nothing : left = []
  · subst left
    exact (joined_types_empty named' same.symm).symm
  · by_cases nothing' : right = []
    · subst right
      exact joined_types_empty named same
    · apply ended_unique named named'
      rw [← ended_joined nothing, ← ended_joined nothing', same]

theorem call_signature_chars {function : FunctionDecl} (derived : function.signature = "") :
    function.callSignature.toList =
      function.name.toList ++
        '(' :: ([','].intercalate (function.paramTypes.map String.toList) ++ [')']) := by
  rw [FunctionDecl.callSignature, if_pos derived]
  simp

theorem overload_unique {functions : List FunctionDecl} (overloads : Overloads functions)
    {left right : FunctionDecl} (inLeft : left ∈ functions) (inRight : right ∈ functions)
    (same : left.callSignature = right.callSignature) :
    left.name = right.name ∧ left.paramTypes = right.paramTypes := by
  have chars := congrArg String.toList same
  rw [call_signature_chars (overloads.derived left inLeft),
    call_signature_chars (overloads.derived right inRight)] at chars
  obtain ⟨name, rest⟩ :=
    Text.split_unique (overloads.names left inLeft) (overloads.names right inRight) chars
  have named {function : FunctionDecl} (member : function ∈ functions) :
      ∀ type ∈ function.paramTypes.map String.toList, TypeName type :=
    List.forall_mem_map.mpr (overloads.types function member)
  have types := joined_types_unique (named inLeft) (named inRight) (List.append_cancel_right rest)
  exact ⟨String.toList_injective name,
    List.map_injective_iff.mpr (fun _ _ => String.toList_injective) types⟩

theorem call_signatures_different {functions : List FunctionDecl}
    (overloads : Overloads functions) :
    (functions.map FunctionDecl.callSignature).Nodup := by
  have different := List.pairwise_map.mp overloads.different
  refine List.pairwise_map.mpr (different.imp_of_mem fun inLeft inRight apart same => apart ?_)
  obtain ⟨name, types⟩ := overload_unique overloads inLeft inRight same
  exact Prod.ext name types

end NatSpec
