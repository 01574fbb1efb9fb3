import Mathlib.Data.List.TakeWhile
import NatSpec.Proofs.Contract.RoundTrip
import NatSpec.Proofs.Json.CutShort

set_option autoImplicit false

namespace NatSpec

open Json

section Members

variable {α β : Type} {shape : Shape α} {key : String}

theorem whole_none (shape : Shape α) : WholeMembers shape [] := nofun

theorem whole_append {first second : List (String × List Char)}
    (wholeFirst : WholeMembers shape first) (wholeSecond : WholeMembers shape second) :
    WholeMembers shape (first ++ second) := fun member listed =>
  (List.mem_append.mp listed).elim (wholeFirst member) (wholeSecond member)

theorem whole_field {chars : List Char} {value : β} {reader : Reader β} {set : β → α → α}
    {required : Bool} {later : List (String × List Char)}
    (known : shape.field? key = some ⟨key, required, reader.map set⟩)
    (here : Whole reader chars value) (whole : WholeMembers shape later) :
    WholeMembers shape ((key, chars) :: later) := by
  intro member listed
  rcases List.mem_cons.mp listed with rfl | inLater
  · exact ⟨_, set value, known, whole_map set here⟩
  · exact whole member inLater

theorem whole_present {reader : Reader β} {set : Option β → α → α} {required : Bool}
    {written : β → List Char} (value? : Option β)
    (known : shape.field? key = some ⟨key, required, (Reader.nullable reader).map set⟩)
    (whole : ∀ value, Whole reader (written value) value) :
    WholeMembers shape (value?.toList.map fun value => (key, written value)) := by
  cases value? with
  | none => exact whole_none shape
  | some value => exact whole_field known (whole_nullable (whole value)) (whole_none shape)

theorem whole_filled {set : String → α → α} {required : Bool} (text : String)
    (known : shape.field? key = some ⟨key, required, Reader.string.map set⟩) :
    WholeMembers shape (textMember? key (nonEmpty? (some text))) := by
  cases nonEmpty? (some text) with
  | none => exact whole_none shape
  | some kept => exact whole_field known (whole_string kept) (whole_none shape)

end Members

theorem event_param_whole (param : EventParam) :
    Whole EventParam.shape.reader param.written param := by
  refine ⟨event_param_reads param, needs_record ?_ (List.Sublist.refl _) (by decide)⟩
  apply whole_field rfl (whole_string param.name)
  apply whole_field rfl (whole_string param.type)
  apply whole_field rfl (whole_bool param.indexed)
  exact whole_none _

theorem event_whole (event : EventDecl) : Whole EventDecl.shape.reader event.written event := by
  refine ⟨event_reads event, needs_record ?_ (List.Sublist.refl _) (by decide)⟩
  apply whole_field rfl (whole_string event.name)
  apply whole_field rfl (whole_bool event.anonymous)
  apply whole_field rfl (whole_list event.params fun param _ => event_param_whole param)
  exact whole_none _

theorem member_whole (member : MemberDecl) :
    Whole MemberDecl.shape.reader member.written member := by
  refine ⟨member_reads member, needs_record ?_ (List.Sublist.refl _) (by decide)⟩
  apply whole_field rfl (whole_string member.name)
  apply whole_field rfl (whole_string member.type)
  exact whole_none _

theorem struct_whole (struct : StructDecl) :
    Whole StructDecl.shape.reader struct.written struct := by
  refine ⟨struct_reads struct, needs_record ?_ (List.Sublist.refl _) (by decide)⟩
  apply whole_field rfl (whole_string struct.name)
  apply whole_field rfl (whole_list struct.members fun member _ => member_whole member)
  exact whole_none _

theorem enum_whole (enum : EnumDecl) : Whole EnumDecl.shape.reader enum.written enum := by
  refine ⟨enum_reads enum, needs_record ?_ (List.Sublist.refl _) (by decide)⟩
  apply whole_field rfl (whole_string enum.name)
  apply whole_field rfl (whole_strings enum.values)
  exact whole_none _

theorem constructor_whole (constructor : ConstructorDecl) :
    Whole ConstructorDecl.shape.reader constructor.written constructor := by
  refine ⟨constructor_reads constructor, needs_record ?_ (List.Sublist.refl _) (by decide)⟩
  apply whole_field rfl (whole_strings constructor.paramNames)
  apply whole_field rfl (whole_strings constructor.paramTypes)
  exact whole_none _

theorem function_whole (function : FunctionDecl) :
    Whole FunctionDecl.shape.reader function.written function := by
  refine ⟨function_reads function, needs_record ?_ ?_ (by decide)⟩
  · refine whole_append (whole_append ?_ (whole_filled function.signature rfl))
      (whole_present function.documentation rfl whole_string)
    apply whole_field rfl (whole_string function.name)
    apply whole_field rfl (whole_bool function.constant)
    apply whole_field rfl (whole_strings function.paramNames)
    apply whole_field rfl (whole_strings function.paramTypes)
    apply whole_field rfl (whole_strings function.returnNames)
    apply whole_field rfl (whole_strings function.returnTypes)
    exact whole_none _
  · rw [List.map_append, List.map_append]
    exact ((List.Sublist.refl _).append (present_names _ _)).append (present_names _ _)

theorem contract_whole (contract : Contract) :
    Whole Contract.shape.reader contract.written contract := by
  refine ⟨contract_reads contract, needs_record ?_ ?_ (by decide)⟩
  · refine whole_append (whole_append (whole_append ?_
      (whole_present contract.documentation rfl whole_string))
      (whole_present contract.constructor rfl constructor_whole)) ?_
    · apply whole_field rfl (whole_string contract.name)
      apply whole_field rfl (whole_bool contract.isLibrary)
      exact whole_none _
    · apply whole_field rfl (whole_list contract.functions fun decl _ => function_whole decl)
      apply whole_field rfl (whole_list contract.events fun decl _ => event_whole decl)
      apply whole_field rfl (whole_list contract.structs fun decl _ => struct_whole decl)
      apply whole_field rfl (whole_list contract.enums fun decl _ => enum_whole decl)
      exact whole_none _
  · rw [List.map_append, List.map_append, List.map_append]
    exact (((List.Sublist.refl _).append (present_names _ _)).append (present_names _ _)).append
      (List.Sublist.refl _)

def OnlyWhiteSpace (text : String) : Prop :=
  ∀ c ∈ text.toList, c = ' ' ∨ c = '\n' ∨ c = '\t' ∨ c = '\r'

theorem skip_blank_nil_iff (text : String) : skipBlank text.toList = [] ↔ OnlyWhiteSpace text := by
  simp only [skipBlank, List.dropWhile_eq_nil_iff, OnlyWhiteSpace, isBlank, Bool.or_eq_true,
    decide_eq_true_eq, or_assoc]

structure DamageRefused (contract : Contract) : Prop where
  cut : ∀ part lost : String, contract.toJson = part ++ lost → lost ≠ "" →
    ∃ failure, Contract.ofJson part = .error failure ∧ failure.cause.category = .eof
  padded : ∀ more, OnlyWhiteSpace more → Contract.ofJson (contract.toJson ++ more) = .ok contract
  followed : ∀ more, ¬ OnlyWhiteSpace more →
    ∃ failure, Contract.ofJson (contract.toJson ++ more) = .error failure ∧
      failure.cause = .trailingCharacters ∧ failure.cause.category = .syntactic ∧
      failure.cause.message = "trailing characters"

theorem damaged_description_refused (contract : Contract) : DamageRefused contract where
  cut part lost same missing := by
    have cut : Cut part.toList contract.written := by
      have chars : contract.written = part.toList ++ lost.toList := by
        rw [← String.toList_append, ← same, Contract.toJson, String.toList_ofList]
      cases ends : lost.toList with
      | nil => exact absurd (String.toList_eq_nil_iff.mp ends) missing
      | cons c tail => exact ⟨c, tail, ends ▸ chars⟩
    obtain ⟨halt, failed, early⟩ := (contract_whole contract).needs part.toList cut
    exact ⟨halt.inText part.toList, by rw [Contract.ofJson, Json.read, failed], early⟩
  padded more blank := by
    have followed := read_followed (contract_reads contract) more
    rw [if_pos ((skip_blank_nil_iff more).mpr blank)] at followed
    exact followed
  followed more visible := by
    have followed := read_followed (contract_reads contract) more
    rw [if_neg (mt (skip_blank_nil_iff more).mp visible)] at followed
    exact ⟨_, followed, rfl, rfl, rfl⟩

end NatSpec
