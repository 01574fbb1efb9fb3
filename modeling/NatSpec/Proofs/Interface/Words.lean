import Mathlib.Data.List.Basic
import NatSpec.Proofs.Interface.Pieces
import NatSpec.Proofs.Text.Delimited

set_option autoImplicit false

namespace NatSpec

open InterfaceText Text

def delimiters : List Char := [' ', '(', ')', '\x7b', '\x7d', ',', ';']

def Undelimited (word : String) : Prop := ∀ c ∈ word.toList, c ∉ delimiters

instance (word : String) : Decidable (Undelimited word) :=
  List.decidableBAll (· ∉ delimiters) word.toList

def FunctionDecl.words (function : FunctionDecl) : List String :=
  function.name :: (function.paramNames ++ function.paramTypes ++ function.returnNames ++
    function.returnTypes)

def StructDecl.words (struct : StructDecl) : List String :=
  struct.name :: struct.members.flatMap fun member => [member.name, member.type]

def EnumDecl.words (enum : EnumDecl) : List String := enum.name :: enum.values

theorem undelimited_clear {word : String} {stop : Char} (plain : Undelimited word)
    (stops : stop ∈ delimiters) : stop ∉ word.toList :=
  fun inside => plain stop inside stops

theorem word_unique {word other : String} {stop : Char} {follow follow' : List Char}
    (plain : Undelimited word) (plain' : Undelimited other) (stops : stop ∈ delimiters)
    (stopped : follow.head? = some stop) (stopped' : follow'.head? = some stop)
    (same : word.toList ++ follow = other.toList ++ follow') : word = other ∧ follow = follow' := by
  obtain ⟨after, rfl⟩ := List.head?_eq_some_iff.mp stopped
  obtain ⟨after', rfl⟩ := List.head?_eq_some_iff.mp stopped'
  obtain ⟨letters, rest⟩ :=
    split_unique (undelimited_clear plain stops) (undelimited_clear plain' stops) same
  exact ⟨String.toList_inj.mp letters, congrArg (stop :: ·) rest⟩

def PlainParams (params : List (String × String)) : Prop :=
  ∀ param ∈ params, Undelimited param.1 ∧ Undelimited param.2

theorem param_piece_clear {params : List (String × String)} (plain : PlainParams params)
    {stop : Char} (stops : stop ∈ delimiters) (notBlank : stop ≠ ' ') :
    ∀ piece ∈ params.map paramPiece, stop ∉ piece := by
  intro piece member
  obtain ⟨param, listed, rfl⟩ := List.mem_map.mp member
  obtain ⟨name, type⟩ := plain param listed
  simp only [paramPiece, List.mem_append, List.mem_cons, not_or]
  exact ⟨undelimited_clear type stops, notBlank, undelimited_clear name stops⟩

theorem param_piece_filled (params : List (String × String)) : [] ∉ params.map paramPiece := by
  intro member
  obtain ⟨param, _, empty⟩ := List.mem_map.mp member
  exact List.append_ne_nil_of_right_ne_nil _ (List.cons_ne_nil _ _) empty

theorem param_piece_unique {param other : String × String} (plain : Undelimited param.2)
    (plain' : Undelimited other.2) (same : paramPiece param = paramPiece other) : param = other := by
  have blank (type : String) (undelimited : Undelimited type) : ' ' ∉ type.toList :=
    undelimited_clear undelimited (by decide)
  obtain ⟨type, name⟩ := split_unique (blank _ plain) (blank _ plain') same
  exact Prod.ext (String.toList_inj.mp name) (String.toList_inj.mp type)

theorem params_unique {left right : List (String × String)} {after after' : List Char}
    (plain : PlainParams left) (plain' : PlainParams right)
    (same : paramsPiece left ++ after = paramsPiece right ++ after') :
    left = right ∧ after = after' := by
  simp only [params_piece, List.cons_append, List.append_assoc, List.nil_append] at same
  have clear (params : List (String × String)) (plain : PlainParams params) :
      ∀ piece ∈ params.map paramPiece, ',' ∉ piece ∧ ')' ∉ piece := fun piece member =>
    ⟨param_piece_clear plain (by decide) (by decide) piece member,
      param_piece_clear plain (by decide) (by decide) piece member⟩
  obtain ⟨pieces, rest⟩ := comma_parts_told_apart (by decide) (clear left plain)
    (clear right plain') (param_piece_filled left) (param_piece_filled right)
    (List.cons.inj same).2
  exact ⟨map_unique (fun param inLeft other inRight =>
    param_piece_unique (plain param inLeft).2 (plain' other inRight).2) pieces, rest⟩

theorem returns_unique {lead : List Char} {left right : List (String × String)}
    {after after' : List Char}
    (opened : ∀ tail tail', ';' :: tail ≠ lead ++ "returns".toList ++ tail')
    (plain : PlainParams left) (plain' : PlainParams right)
    (same : returnsPiece lead left ++ ';' :: after = returnsPiece lead right ++ ';' :: after') :
    left = right ∧ after = after' := by
  cases left with
  | nil =>
    cases right with
    | nil => exact ⟨rfl, (List.cons.inj same).2⟩
    | cons value rest =>
      rw [returns_piece_cons, List.append_assoc] at same
      exact absurd same (opened _ _)
  | cons value rest =>
    cases right with
    | nil =>
      rw [returns_piece_cons, List.append_assoc] at same
      exact absurd same.symm (opened _ _)
    | cons value' rest' =>
      simp only [returns_piece_cons, List.append_assoc] at same
      obtain ⟨equal, follows⟩ := params_unique plain plain'
        (List.append_cancel_left (List.append_cancel_left same))
      exact ⟨equal, (List.cons.inj follows).2⟩

theorem returns_not_constant (returns : List (String × String)) (after after' : List Char) :
    returnsPiece [] returns ++ ';' :: after ≠ "constant".toList ++ after' := by
  intro same
  cases returns with
  | nil => exact absurd (List.cons.inj same).1 (by decide)
  | cons value rest =>
    rw [returns_piece_cons] at same
    exact absurd (List.cons.inj same).1 (by decide)

theorem modifiers_unique {constant constant' : Bool} {returns returns' : List (String × String)}
    {after after' : List Char} (plain : PlainParams returns) (plain' : PlainParams returns')
    (same : modifiersPiece constant returns ++ ';' :: after =
      modifiersPiece constant' returns' ++ ';' :: after') :
    constant = constant' ∧ returns = returns' ∧ after = after' := by
  cases constant with
  | false =>
    cases constant' with
    | false =>
      refine ⟨rfl, returns_unique ?_ plain plain' same⟩
      exact fun tail tail' same => absurd (List.cons.inj same).1 (by decide)
    | true =>
      rw [modifiersPiece, modifiersPiece, if_neg Bool.false_ne_true, if_pos rfl,
        List.append_assoc] at same
      exact absurd same (returns_not_constant _ _ _)
  | true =>
    cases constant' with
    | false =>
      rw [modifiersPiece, modifiersPiece, if_neg Bool.false_ne_true, if_pos rfl,
        List.append_assoc] at same
      exact absurd same.symm (returns_not_constant _ _ _)
    | true =>
      rw [modifiersPiece, modifiersPiece, if_pos rfl, if_pos rfl, List.append_assoc,
        List.append_assoc] at same
      refine ⟨rfl, returns_unique ?_ plain plain' (List.append_cancel_left same)⟩
      exact fun tail tail' same => absurd (List.cons.inj same).1 (by decide)

theorem zip_plain {names types : List String} (plain : ∀ name ∈ names, Undelimited name)
    (plain' : ∀ type ∈ types, Undelimited type) : PlainParams (names.zip types) := by
  intro param member
  obtain ⟨name, type⟩ := List.of_mem_zip member
  exact ⟨plain _ name, plain' _ type⟩

structure FunctionDecl.Callable (function : FunctionDecl) : Prop where
  words : ∀ word ∈ function.words, Undelimited word
  paired : function.Paired
  bare : function.bare = function

theorem callable_params {call : FunctionDecl} (callable : call.Callable) :
    PlainParams (call.paramNames.zip call.paramTypes) :=
  zip_plain (fun _ member => callable.words _ (by simp [FunctionDecl.words, member]))
    (fun _ member => callable.words _ (by simp [FunctionDecl.words, member]))

theorem callable_returns {call : FunctionDecl} (callable : call.Callable) :
    PlainParams (call.returnNames.zip call.returnTypes) :=
  zip_plain (fun _ member => callable.words _ (by simp [FunctionDecl.words, member]))
    (fun _ member => callable.words _ (by simp [FunctionDecl.words, member]))

theorem call_told_apart {left right : FunctionDecl} (callable : left.Callable)
    (callable' : right.Callable) : ToldApart FunctionDecl.piece left right := by
  intro after after' same
  simp only [FunctionDecl.piece, functionPiece, signature_piece, List.append_assoc] at same
  obtain ⟨name, later⟩ := word_unique (callable.words _ (List.mem_cons_self ..))
    (callable'.words _ (List.mem_cons_self ..)) (by decide : '(' ∈ delimiters) rfl rfl
    (List.append_cancel_left same)
  obtain ⟨params, later⟩ :=
    params_unique (callable_params callable) (callable_params callable') later
  obtain ⟨constant, returns, rest⟩ :=
    modifiers_unique (callable_returns callable) (callable_returns callable') later
  refine ⟨?_, rest⟩
  rw [← callable.bare, ← callable'.bare]
  exact bare_inj name constant callable.paired.params (params ▸ callable'.paired.params)
    callable.paired.returns (returns ▸ callable'.paired.returns)

theorem struct_member_told_apart {left right : MemberDecl}
    (plain : Undelimited left.name ∧ Undelimited left.type)
    (plain' : Undelimited right.name ∧ Undelimited right.type) :
    ToldApart memberPiece left right := by
  intro after after' same
  simp only [memberPiece, List.append_assoc, List.cons_append, List.nil_append] at same
  obtain ⟨type, later⟩ :=
    word_unique plain.2 plain'.2 (by decide : ' ' ∈ delimiters) rfl rfl same
  obtain ⟨name, later⟩ :=
    word_unique plain.1 plain'.1 (by decide : ';' ∈ delimiters) rfl rfl (List.cons.inj later).2
  exact ⟨congrArg₂ MemberDecl.mk name type, (List.cons.inj later).2⟩

theorem member_not_closed {member : MemberDecl} (plain : Undelimited member.type)
    (after : List Char) : NotAt memberPiece ('\x7d' :: after) member := by
  intro tail same
  rw [memberPiece, List.append_assoc] at same
  cases letters : member.type.toList with
  | nil =>
    rw [letters] at same
    exact absurd (List.cons.inj same).1 (by decide)
  | cons c rest =>
    rw [letters] at same
    have closing : c = '\x7d' := (List.cons.inj same).1
    exact plain c (letters ▸ List.mem_cons_self ..) (closing ▸ by decide)

theorem struct_member_plain {struct : StructDecl} (plain : ∀ word ∈ struct.words, Undelimited word)
    {member : MemberDecl} (listed : member ∈ struct.members) :
    Undelimited member.name ∧ Undelimited member.type := by
  have written (word : String) (either : word ∈ [member.name, member.type]) : word ∈ struct.words :=
    List.mem_cons_of_mem _ (List.mem_flatMap.mpr ⟨member, listed, either⟩)
  exact ⟨plain _ (written _ (by simp)), plain _ (written _ (by simp))⟩

theorem struct_told_apart {left right : StructDecl} (plain : ∀ word ∈ left.words, Undelimited word)
    (plain' : ∀ word ∈ right.words, Undelimited word) : ToldApart structPiece left right := by
  intro after after' same
  simp only [struct_piece, List.append_assoc, List.cons_append, List.nil_append] at same
  obtain ⟨name, later⟩ := word_unique (plain _ (List.mem_cons_self ..))
    (plain' _ (List.mem_cons_self ..)) (by decide : '\x7b' ∈ delimiters) rfl rfl
    (List.append_cancel_left same)
  obtain ⟨members, rest⟩ := pieces_unique
    (fun a inLeft b inRight => struct_member_told_apart (struct_member_plain plain inLeft)
      (struct_member_plain plain' inRight))
    (fun b inRight => member_not_closed (struct_member_plain plain' inRight).2 after)
    (fun a inLeft => member_not_closed (struct_member_plain plain inLeft).2 after')
    (List.cons.inj later).2
  exact ⟨congrArg₂ StructDecl.mk name members, (List.cons.inj rest).2⟩

theorem enum_told_apart {left right : EnumDecl} (plain : ∀ word ∈ left.words, Undelimited word)
    (plain' : ∀ word ∈ right.words, Undelimited word) (filled : "" ∉ left.values)
    (filled' : "" ∉ right.values) : ToldApart enumPiece left right := by
  intro after after' same
  simp only [enum_piece, List.append_assoc, List.cons_append, List.nil_append] at same
  obtain ⟨name, later⟩ := word_unique (plain _ (List.mem_cons_self ..))
    (plain' _ (List.mem_cons_self ..)) (by decide : '\x7b' ∈ delimiters) rfl rfl
    (List.append_cancel_left same)
  have clear (enum : EnumDecl) (plain : ∀ word ∈ enum.words, Undelimited word) :
      ∀ part ∈ enum.values.map String.toList, ',' ∉ part ∧ '\x7d' ∉ part := by
    intro part member
    obtain ⟨value, listed, rfl⟩ := List.mem_map.mp member
    have undelimited := plain value (List.mem_cons_of_mem _ listed)
    exact ⟨undelimited_clear undelimited (by decide), undelimited_clear undelimited (by decide)⟩
  have nonempty (enum : EnumDecl) (filled : "" ∉ enum.values) :
      [] ∉ enum.values.map String.toList := by
    intro member
    obtain ⟨value, listed, empty⟩ := List.mem_map.mp member
    exact filled (String.toList_eq_nil_iff.mp empty ▸ listed)
  obtain ⟨values, rest⟩ := comma_parts_told_apart (by decide) (clear left plain)
    (clear right plain') (nonempty left filled) (nonempty right filled') (List.cons.inj later).2
  have equal := (List.map_inj_right fun _ _ => String.toList_inj.mp).mp values
  exact ⟨congrArg₂ EnumDecl.mk name equal, rest⟩

end NatSpec
