import NatSpec.Contract.Reader
import NatSpec.Contract.Written
import NatSpec.Proofs.Json.Records

set_option autoImplicit false

namespace NatSpec

open Json

section Members

variable {α β : Type} {shape : Shape α} {record final : α} {key : String}

theorem fills_field {chars : List Char} {value : β} {reader : Reader β} {set : β → α → α}
    {required : Bool} {later : List (String × List Char)}
    (known : shape.field? key = some ⟨key, required, reader.map set⟩)
    (reads : Reads reader chars value) (fills : Fills shape (set value record) later final) :
    Fills shape record ((key, chars) :: later) final :=
  .next _ (set value) known (reads_map set reads) fills

theorem fills_present {reader : Reader β} {set : Option β → α → α} {required : Bool}
    {written : β → List Char} (value? : Option β)
    (known : shape.field? key = some ⟨key, required, (Reader.nullable reader).map set⟩)
    (reads : ∀ value, Reads reader (written value) value) (absent : set none record = record)
    (stored : set value? record = final) :
    Fills shape record (value?.toList.map fun value => (key, written value)) final := by
  subst stored
  cases value? with
  | none =>
    rw [absent]
    exact .none record
  | some value => exact fills_field known (reads_nullable (reads value)) (.none _)

theorem fills_filled {set : String → α → α} {required : Bool} (text : String)
    (known : shape.field? key = some ⟨key, required, Reader.string.map set⟩)
    (empty : set "" record = record) (stored : set text record = final) :
    Fills shape record (textMember? key (nonEmpty? (some text))) final := by
  subst stored
  by_cases blank : text = ""
  · subst blank
    rw [empty]
    exact .none record
  · have kept : nonEmpty? (some text) = some text := by simp [nonEmpty?, blank]
    rw [kept]
    exact fills_field known (reads_string text) (.none _)

theorem present_names (written : β → List Char) (value? : Option β) :
    ((value?.toList.map fun value => (key, written value)).map Prod.fst).Sublist [key] := by
  cases value? with
  | none => exact List.nil_sublist _
  | some value => exact List.Sublist.refl _

end Members

theorem event_param_reads (param : EventParam) :
    Reads EventParam.shape.reader param.written param := by
  refine reads_full_record ?_ rfl (by decide)
  apply fills_field rfl (reads_string param.name)
  apply fills_field rfl (reads_string param.type)
  apply fills_field rfl (reads_bool param.indexed)
  exact .none _

theorem event_reads (event : EventDecl) : Reads EventDecl.shape.reader event.written event := by
  refine reads_full_record ?_ rfl (by decide)
  apply fills_field rfl (reads_string event.name)
  apply fills_field rfl (reads_bool event.anonymous)
  apply fills_field rfl (reads_list event.params fun param _ => event_param_reads param)
  exact .none _

theorem member_reads (member : MemberDecl) :
    Reads MemberDecl.shape.reader member.written member := by
  refine reads_full_record ?_ rfl (by decide)
  apply fills_field rfl (reads_string member.name)
  apply fills_field rfl (reads_string member.type)
  exact .none _

theorem struct_reads (struct : StructDecl) :
    Reads StructDecl.shape.reader struct.written struct := by
  refine reads_full_record ?_ rfl (by decide)
  apply fills_field rfl (reads_string struct.name)
  apply fills_field rfl (reads_list struct.members fun member _ => member_reads member)
  exact .none _

theorem enum_reads (enum : EnumDecl) : Reads EnumDecl.shape.reader enum.written enum := by
  refine reads_full_record ?_ rfl (by decide)
  apply fills_field rfl (reads_string enum.name)
  apply fills_field rfl (reads_strings enum.values)
  exact .none _

theorem constructor_reads (constructor : ConstructorDecl) :
    Reads ConstructorDecl.shape.reader constructor.written constructor := by
  refine reads_full_record ?_ rfl (by decide)
  apply fills_field rfl (reads_strings constructor.paramNames)
  apply fills_field rfl (reads_strings constructor.paramTypes)
  exact .none _

theorem function_reads (function : FunctionDecl) :
    Reads FunctionDecl.shape.reader function.written function := by
  have declared : Fills FunctionDecl.shape {}
      [("name", writtenString function.name), ("constant", writtenBool function.constant),
        ("parameterNames", writtenStrings function.paramNames),
        ("parameterTypes", writtenStrings function.paramTypes),
        ("returnParameterNames", writtenStrings function.returnNames),
        ("returnParameterTypes", writtenStrings function.returnTypes)]
      { function with signature := "", documentation := none } := by
    apply fills_field rfl (reads_string function.name)
    apply fills_field rfl (reads_bool function.constant)
    apply fills_field rfl (reads_strings function.paramNames)
    apply fills_field rfl (reads_strings function.paramTypes)
    apply fills_field rfl (reads_strings function.returnNames)
    apply fills_field rfl (reads_strings function.returnTypes)
    exact .none _
  have signed : Fills FunctionDecl.shape { function with signature := "", documentation := none }
      (textMember? "signature" (nonEmpty? (some function.signature)))
      { function with documentation := none } :=
    fills_filled function.signature rfl rfl rfl
  have documented : Fills FunctionDecl.shape { function with documentation := none }
      (textMember? "documentation" function.documentation) function :=
    fills_present function.documentation rfl reads_string rfl rfl
  refine reads_record (fills_append (fills_append declared signed) documented) ?_ (by decide)
    (by simp [FunctionDecl.shape, requiredField, optionalField])
  rw [List.map_append, List.map_append]
  exact ((List.Sublist.refl _).append (present_names _ _)).append (present_names _ _)

theorem contract_reads (contract : Contract) :
    Reads Contract.shape.reader contract.written contract := by
  have named : Fills Contract.shape {}
      [("name", writtenString contract.name), ("isLibrary", writtenBool contract.isLibrary)]
      { name := contract.name, isLibrary := contract.isLibrary } := by
    apply fills_field rfl (reads_string contract.name)
    apply fills_field rfl (reads_bool contract.isLibrary)
    exact .none _
  have documented : Fills Contract.shape { name := contract.name, isLibrary := contract.isLibrary }
      (textMember? "documentation" contract.documentation)
      { contract with
        constructor := none, functions := [], events := [], structs := [], enums := [] } :=
    fills_present contract.documentation rfl reads_string rfl rfl
  have constructed : Fills Contract.shape
      { contract with
        constructor := none, functions := [], events := [], structs := [], enums := [] }
      (contract.constructor.toList.map fun decl => ("constructor", decl.written))
      { contract with functions := [], events := [], structs := [], enums := [] } :=
    fills_present contract.constructor rfl constructor_reads rfl rfl
  have listed : Fills Contract.shape
      { contract with functions := [], events := [], structs := [], enums := [] }
      [("functions", writtenArray (contract.functions.map FunctionDecl.written)),
        ("events", writtenArray (contract.events.map EventDecl.written)),
        ("structs", writtenArray (contract.structs.map StructDecl.written)),
        ("enums", writtenArray (contract.enums.map EnumDecl.written))] contract := by
    apply fills_field rfl (reads_list contract.functions fun decl _ => function_reads decl)
    apply fills_field rfl (reads_list contract.events fun decl _ => event_reads decl)
    apply fills_field rfl (reads_list contract.structs fun decl _ => struct_reads decl)
    apply fills_field rfl (reads_list contract.enums fun decl _ => enum_reads decl)
    exact .none _
  have filled := fills_append (fills_append (fills_append named documented) constructed) listed
  refine reads_record filled ?_ (by decide)
    (by simp [Contract.shape, requiredField, optionalField])
  rw [List.map_append, List.map_append, List.map_append]
  exact (((List.Sublist.refl _).append (present_names _ _)).append (present_names _ _)).append
    (List.Sublist.refl _)

theorem of_json_to_json (contract : Contract) : Contract.ofJson contract.toJson = .ok contract :=
  read_written (contract_reads contract)

end NatSpec
