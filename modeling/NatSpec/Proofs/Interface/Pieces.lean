import NatSpec.Interface
import NatSpec.Proofs.Contract.Bare
import NatSpec.Proofs.Outcome

set_option autoImplicit false

namespace NatSpec

namespace InterfaceText

theorem write_write (text : InterfaceText) (first second : List Char) :
    (text.write first).write second = text.write (first ++ second) := by
  simp only [write, List.append_assoc]

theorem write_nil (text : InterfaceText) : text.write [] = text := by
  rw [write, List.append_nil]

theorem fold_write {α : Type} (piece : α → List Char) (items : List α) (text : InterfaceText) :
    items.foldl (fun text item => text.write (piece item)) text =
      text.write (items.flatMap piece) := by
  induction items generalizing text with
  | nil => exact (write_nil text).symm
  | cons item rest ih => rw [List.foldl_cons, ih, write_write, List.flatMap_cons]

theorem trim_space_space (text : InterfaceText) (piece : List Char) :
    (text.write (piece ++ [' '])).trimSpace = text.write piece := by
  simp [trimSpace, write, ← List.append_assoc]

theorem trim_space_other (text : InterfaceText) (piece : List Char) (c : Char) (other : c ≠ ' ') :
    (text.write (piece ++ [c])).trimSpace = text.write (piece ++ [c]) := by
  simp [trimSpace, write, ← List.append_assoc, other]

def paramPiece (param : String × String) : List Char := param.2.toList ++ ' ' :: param.1.toList

theorem params_piece (params : List (String × String)) :
    paramsPiece params = '(' :: ([','].intercalate (params.map paramPiece) ++ [')']) :=
  rfl

def returnsPiece (lead : List Char) (returns : List (String × String)) : List Char :=
  if returns.isEmpty then [] else lead ++ "returns".toList ++ paramsPiece returns

theorem returns_piece_cons (lead : List Char) (value : String × String)
    (rest : List (String × String)) :
    returnsPiece lead (value :: rest) = lead ++ "returns".toList ++ paramsPiece (value :: rest) :=
  rfl

def modifiersPiece (constant : Bool) (returns : List (String × String)) : List Char :=
  if constant then "constant".toList ++ returnsPiece [' '] returns else returnsPiece [] returns

def signaturePiece (name : String) (params : List (String × String)) : List Char :=
  "function ".toList ++ name.toList ++ paramsPiece params

-- By `rfl`: the rewriter would first evaluate the literal.
theorem signature_piece (name : String) (params : List (String × String)) :
    signaturePiece name params = "function ".toList ++ name.toList ++ paramsPiece params :=
  rfl

def functionPiece (name : String) (params : List (String × String)) (constant : Bool)
    (returns : List (String × String)) : List Char :=
  signaturePiece name params ++ (modifiersPiece constant returns ++ [';'])

theorem trim_space_signature (text : InterfaceText) (name : String)
    (params : List (String × String)) :
    (text.write (signaturePiece name params)).trimSpace =
      text.write (signaturePiece name params) := by
  have closing : signaturePiece name params = "function ".toList ++ name.toList ++
      '(' :: [','].intercalate (params.map paramPiece) ++ [')'] := by
    rw [signature_piece, params_piece, List.append_assoc ("function ".toList ++ name.toList),
      List.cons_append]
  rw [closing]
  exact trim_space_other text _ ')' (by decide)

theorem trim_space_constant (text : InterfaceText) :
    (text.write "constant ".toList).trimSpace = text.write "constant".toList :=
  trim_space_space text "constant".toList

theorem function_writes (name : String) (params : List (String × String)) (constant : Bool)
    (returns : List (String × String)) (text : InterfaceText) :
    text.function name params constant returns =
      text.write (functionPiece name params constant returns) := by
  unfold function functionPiece
  rw [← signature_piece]
  have settled := trim_space_signature text name params
  generalize signaturePiece name params = signature at settled ⊢
  cases constant with
  | false =>
    cases returns with
    | nil =>
      change ((text.write signature).trimSpace).write [';'] = text.write (signature ++ [';'])
      rw [settled, write_write]
    | cons value rest =>
      change ((text.write signature).write ("returns".toList ++ paramsPiece _)).write [';'] =
        text.write (signature ++ ("returns".toList ++ paramsPiece _ ++ [';']))
      simp only [write_write, List.append_assoc]
  | true =>
    cases returns with
    | nil =>
      change (((text.write signature).write "constant ".toList).trimSpace).write [';'] =
        text.write (signature ++ ("constant".toList ++ [';']))
      rw [trim_space_constant, write_write, write_write]
    | cons value rest =>
      change (((text.write signature).write ("constant".toList ++ [' '])).write
        ("returns".toList ++ paramsPiece _)).write [';'] = text.write (signature ++
          ("constant".toList ++ ([' '] ++ "returns".toList ++ paramsPiece _) ++ [';']))
      simp only [write_write, List.append_assoc]

def memberPiece (member : MemberDecl) : List Char :=
  member.type.toList ++ ' ' :: (member.name.toList ++ [';'])

theorem struct_piece (struct : StructDecl) :
    structPiece struct = "struct ".toList ++ (struct.name.toList ++
      '\x7b' :: (struct.members.flatMap memberPiece ++ ['\x7d'])) := by
  simp only [← List.append_assoc]
  rfl

theorem enum_piece (enum : EnumDecl) :
    enumPiece enum = "enum ".toList ++ (enum.name.toList ++
      '\x7b' :: ([','].intercalate (enum.values.map String.toList) ++ ['\x7d'])) := by
  simp only [← List.append_assoc]
  rfl

end InterfaceText

open InterfaceText

def FunctionDecl.piece (function : FunctionDecl) : List Char :=
  functionPiece function.name (function.paramNames.zip function.paramTypes) function.constant
    (function.returnNames.zip function.returnTypes)

structure FunctionDecl.Paired (function : FunctionDecl) : Prop where
  params : function.params = .ok (function.paramNames.zip function.paramTypes)
  returns : function.returns = .ok (function.returnNames.zip function.returnTypes)

theorem write_interface_ok {function : FunctionDecl} {text written : InterfaceText}
    (done : function.writeInterface text = .ok written) :
    function.Paired ∧ written = text.write function.piece := by
  obtain ⟨params, paired, later⟩ := bind_ok done
  obtain ⟨returns, returned, same⟩ := bind_ok later
  cases same
  obtain rfl := pair_params_zip paired
  obtain rfl := pair_params_zip returned
  exact ⟨⟨paired, returned⟩, function_writes ..⟩

theorem write_interface_run {calls : List FunctionDecl} {text written : InterfaceText}
    (done : calls.foldlM FunctionDecl.writeInterface text = .ok written) :
    (∀ call ∈ calls, call.Paired) ∧ written = text.write (calls.flatMap FunctionDecl.piece) := by
  induction calls generalizing text with
  | nil =>
    cases done
    exact ⟨fun _ none => absurd none List.not_mem_nil, (write_nil _).symm⟩
  | cons call rest ih =>
    rw [List.foldlM_cons] at done
    obtain ⟨next, first, later⟩ := bind_ok done
    obtain ⟨paired, rfl⟩ := write_interface_ok first
    obtain ⟨others, same⟩ := ih later
    refine ⟨List.forall_mem_cons.mpr ⟨paired, others⟩, ?_⟩
    rw [same, write_write, List.flatMap_cons]

theorem constructor_written (constructor : ConstructorDecl) (name : String) (text : InterfaceText) :
    (constructor.call name).writeInterface text =
      constructor.params >>= fun params => .ok (text.function name params false []) :=
  rfl

theorem functions_written (functions : List FunctionDecl) (text : InterfaceText) :
    (functions.map FunctionDecl.bare).foldlM FunctionDecl.writeInterface text =
      functions.foldlM FunctionDecl.writeInterface text := by
  rw [List.foldlM_map]
  rfl

theorem interface_calls (contract : Contract) :
    contract.interface =
      (contract.calls.foldlM FunctionDecl.writeInterface contract.interfaceHead >>= fun text =>
        .ok text.closed) := by
  unfold Contract.interface Contract.calls
  cases contract.constructor with
  | none =>
    rw [Option.map_none, Option.toList_none, List.nil_append, functions_written]
    rfl
  | some constructor =>
    rw [Option.map_some, Option.toList_some, List.singleton_append, List.foldlM_cons,
      constructor_written]
    change (constructor.params >>= fun params =>
      contract.functions.foldlM FunctionDecl.writeInterface
        (contract.interfaceHead.function contract.name params false []) >>= fun text =>
          .ok text.closed) = _
    simp only [functions_written]
    cases constructor.params with
    | error error => rfl
    | ok params => rfl

inductive Declaration where
  | struct (decl : StructDecl)
  | enum (decl : EnumDecl)
  | call (function : FunctionDecl)

def Declaration.piece : Declaration → List Char
  | .struct decl => structPiece decl
  | .enum decl => enumPiece decl
  | .call function => function.piece

def Contract.declarations (contract : Contract) : List Declaration :=
  (if contract.isLibrary then contract.structs.map .struct ++ contract.enums.map .enum else []) ++
    contract.calls.map .call

theorem interface_head_write (contract : Contract) :
    contract.interfaceHead.write (contract.calls.flatMap FunctionDecl.piece) =
      (opened contract.keyword contract.name).write
        (contract.declarations.flatMap Declaration.piece) := by
  have calls : (contract.calls.map Declaration.call).flatMap Declaration.piece =
      contract.calls.flatMap FunctionDecl.piece := List.flatMap_map ..
  have structs (text : InterfaceText) : contract.structs.foldl (fun text decl => text.struct decl)
      text = text.write ((contract.structs.map Declaration.struct).flatMap Declaration.piece) := by
    rw [List.flatMap_map]
    exact fold_write structPiece contract.structs text
  have enums (text : InterfaceText) : contract.enums.foldl (fun text decl => text.enum decl)
      text = text.write ((contract.enums.map Declaration.enum).flatMap Declaration.piece) := by
    rw [List.flatMap_map]
    exact fold_write enumPiece contract.enums text
  unfold Contract.interfaceHead Contract.declarations
  rw [List.flatMap_append, calls, ← write_write]
  by_cases library : contract.isLibrary = true
  · rw [if_pos library, if_pos library, List.flatMap_append, ← write_write, structs, enums]
  · rw [if_neg library, if_neg library, List.flatMap_nil, write_nil]

theorem interface_ok {contract : Contract} {text : String} (done : contract.interface = .ok text) :
    (∀ call ∈ contract.calls, call.Paired) ∧
      text.toList = contract.keyword.toList ++ ' ' :: (contract.name.toList ++
        '\x7b' :: (contract.declarations.flatMap Declaration.piece ++ ['\x7d'])) := by
  rw [interface_calls] at done
  obtain ⟨written, run, same⟩ := bind_ok done
  obtain ⟨paired, rfl⟩ := write_interface_run run
  refine ⟨paired, ?_⟩
  rw [interface_head_write] at same
  rw [← Except.ok.inj same, closed, String.toList_ofList, write_write, write, opened]
  simp only [List.append_assoc, List.cons_append, List.nil_append]

end NatSpec
