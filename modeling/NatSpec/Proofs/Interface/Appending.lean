import NatSpec.Proofs.Interface.Pieces

set_option autoImplicit false

namespace NatSpec

open InterfaceText

inductive InterfaceItem where
  | struct (decl : StructDecl)
  | enum (decl : EnumDecl)
  | function (name : String) (params : List (String × String)) (constant : Bool)
      (returns : List (String × String))

def InterfaceText.add (text : InterfaceText) : InterfaceItem → InterfaceText
  | .struct decl => text.struct decl
  | .enum decl => text.enum decl
  | .function name params constant returns => text.function name params constant returns

def paramList (params : List (String × String)) : String :=
  "(" ++ ",".intercalate (params.map fun param => param.2 ++ " " ++ param.1) ++ ")"

def functionHead (name : String) (params : List (String × String)) : String :=
  "function " ++ name ++ paramList params

def InterfaceItem.fragment : InterfaceItem → String
  | .struct decl =>
    "struct " ++ decl.name ++ "\x7b" ++
      String.join (decl.members.map fun member => member.type ++ " " ++ member.name ++ ";") ++
        "\x7d"
  | .enum decl => "enum " ++ decl.name ++ "\x7b" ++ ",".intercalate decl.values ++ "\x7d"
  | .function name params constant returns =>
    functionHead name params ++ (if constant then "constant" else "") ++
      (if constant ∧ returns ≠ [] then " " else "") ++
        (if returns ≠ [] then "returns" ++ paramList returns else "") ++ ";"

theorem param_list_piece (params : List (String × String)) :
    (paramList params).toList = paramsPiece params := by
  have param : String.toList ∘ (fun param : String × String => param.2 ++ " " ++ param.1) =
      paramPiece := by
    funext param
    simp [paramPiece]
  rw [paramList, params_piece, String.toList_append, String.toList_append,
    String.toList_intercalate, List.map_map, param]
  rfl

theorem function_head_piece (name : String) (params : List (String × String)) :
    (functionHead name params).toList = signaturePiece name params := by
  rw [functionHead, signature_piece, String.toList_append, String.toList_append, param_list_piece]

theorem struct_fragment (decl : StructDecl) :
    (InterfaceItem.struct decl).fragment.toList = structPiece decl := by
  rw [InterfaceItem.fragment, struct_piece]
  simp [String.toList_join, List.flatMap_map]
  rfl

theorem enum_fragment (decl : EnumDecl) :
    (InterfaceItem.enum decl).fragment.toList = enumPiece decl := by
  rw [InterfaceItem.fragment, enum_piece]
  simp

theorem function_fragment (name : String) (params : List (String × String)) (constant : Bool)
    (returns : List (String × String)) :
    (InterfaceItem.function name params constant returns).fragment.toList =
      functionPiece name params constant returns := by
  have returned := param_list_piece returns
  rw [InterfaceItem.fragment, functionPiece, ← function_head_piece]
  cases returns with
  | nil => cases constant <;> simp [modifiersPiece, returnsPiece]
  | cons value rest => cases constant <;> simp [modifiersPiece, returnsPiece, returned]

theorem add_writes (text : InterfaceText) (item : InterfaceItem) :
    text.add item = text.write item.fragment.toList := by
  cases item with
  | struct decl => rw [struct_fragment]; rfl
  | enum decl => rw [enum_fragment]; rfl
  | function name params constant returns => rw [function_fragment]; exact function_writes ..

theorem add_all_writes (text : InterfaceText) (items : List InterfaceItem) :
    items.foldl InterfaceText.add text =
      text.write (String.join (items.map InterfaceItem.fragment)).toList := by
  have adding : InterfaceText.add = fun text item => text.write item.fragment.toList :=
    funext fun text => funext fun item => add_writes text item
  rw [adding, fold_write (fun item : InterfaceItem => item.fragment.toList), String.toList_join,
    List.flatMap_map]

def InterfaceText.declared (text : InterfaceText) (name : String) (params : List (String × String))
    (constant : Bool) : InterfaceText :=
  let text := text.write ("function ".toList ++ name.toList ++ paramsPiece params)
  if constant then text.write "constant ".toList else text

structure TrimsOwnSpace (text : InterfaceText) (name : String) (params : List (String × String))
    (constant : Bool) : Prop where
  declared : text.declared name params constant =
    text.write (functionHead name params ++ if constant then "constant " else "").toList
  trimmed : (text.declared name params constant).trimSpace =
    text.write (functionHead name params ++ if constant then "constant" else "").toList
  ended : text.function name params constant [] =
    (text.declared name params constant).trimSpace.write [';']

theorem trims_own_space (text : InterfaceText) (name : String) (params : List (String × String))
    (constant : Bool) : TrimsOwnSpace text name params constant := by
  have head := function_head_piece name params
  cases constant with
  | false =>
    have declared : text.declared name params false = text.write (signaturePiece name params) := rfl
    refine ⟨?_, ?_, rfl⟩
    · rw [declared, ← head, if_neg Bool.false_ne_true, String.append_empty]
    · rw [declared, trim_space_signature, ← head, if_neg Bool.false_ne_true, String.append_empty]
  | true =>
    have declared : text.declared name params true =
        (text.write (signaturePiece name params)).write "constant ".toList := rfl
    refine ⟨?_, ?_, rfl⟩
    · rw [declared, write_write, ← head, if_pos rfl, String.toList_append]
    · rw [declared, trim_space_constant, write_write, ← head, if_pos rfl, String.toList_append]

theorem interface_text_appends :
    (∀ (keyword name : String) (items : List InterfaceItem),
      (items.foldl InterfaceText.add (.opened keyword name)).closed =
        keyword ++ " " ++ name ++ "\x7b" ++ String.join (items.map InterfaceItem.fragment) ++
          "\x7d") ∧
      (∀ (text : InterfaceText) (item : InterfaceItem),
        text.add item = text.write item.fragment.toList) ∧
        ∀ (text : InterfaceText) (name : String) (params : List (String × String))
          (constant : Bool), TrimsOwnSpace text name params constant := by
  refine ⟨fun keyword name items => ?_, add_writes, trims_own_space⟩
  rw [add_all_writes, ← String.toList_inj, closed, String.toList_ofList, write_write, write, opened]
  simp

example : (InterfaceItem.function "f " [(" ", "int")] true []).fragment =
    "function f (int  )constant;" := by
  decide +kernel

end NatSpec
