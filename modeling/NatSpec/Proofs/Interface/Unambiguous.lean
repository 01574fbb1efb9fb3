import NatSpec.Proofs.Interface.Words

set_option autoImplicit false

namespace NatSpec

open Text

structure Contract.Plain (contract : Contract) : Prop where
  name : Undelimited contract.name
  calls : ∀ call ∈ contract.calls, ∀ word ∈ call.words, Undelimited word
  structs : ∀ struct ∈ contract.structs, ∀ word ∈ struct.words, Undelimited word
  enums : ∀ enum ∈ contract.enums, ∀ word ∈ enum.words, Undelimited word
  -- An empty value would be taken for no value at all.
  values : ∀ enum ∈ contract.enums, "" ∉ enum.values

def Declaration.Legible : Declaration → Prop
  | .struct decl => ∀ word ∈ decl.words, Undelimited word
  | .enum decl => (∀ word ∈ decl.words, Undelimited word) ∧ "" ∉ decl.values
  | .call function => function.Callable

def Declaration.opening : Declaration → Char
  | .struct _ => 's'
  | .enum _ => 'e'
  | .call _ => 'f'

theorem declaration_opening (decl : Declaration) :
    ∃ tail, decl.piece = decl.opening :: tail := by
  cases decl with
  | struct decl => exact ⟨_, rfl⟩
  | enum decl => exact ⟨_, rfl⟩
  | call function => exact ⟨_, rfl⟩

theorem declaration_not_closed (decl : Declaration) : NotAt Declaration.piece ['\x7d'] decl := by
  intro after same
  obtain ⟨tail, opened⟩ := declaration_opening decl
  rw [opened] at same
  have closing : decl.opening = '\x7d' := (List.cons.inj same).1
  cases decl <;> simp [Declaration.opening] at closing

theorem declaration_opening_told {left right : Declaration} {after after' : List Char}
    (same : left.piece ++ after = right.piece ++ after') : left.opening = right.opening := by
  obtain ⟨tail, opened⟩ := declaration_opening left
  obtain ⟨tail', opened'⟩ := declaration_opening right
  rw [opened, opened'] at same
  exact (List.cons.inj same).1

theorem declaration_told_apart {left right : Declaration} (legible : left.Legible)
    (legible' : right.Legible) : ToldApart Declaration.piece left right := by
  intro after after' same
  have opening := declaration_opening_told same
  cases left with
  | struct decl =>
    cases right with
    | struct other =>
      obtain ⟨equal, rest⟩ := struct_told_apart legible legible' after after' same
      exact ⟨congrArg _ equal, rest⟩
    | enum other => simp [Declaration.opening] at opening
    | call other => simp [Declaration.opening] at opening
  | enum decl =>
    cases right with
    | struct other => simp [Declaration.opening] at opening
    | enum other =>
      obtain ⟨equal, rest⟩ :=
        enum_told_apart legible.1 legible'.1 legible.2 legible'.2 after after' same
      exact ⟨congrArg _ equal, rest⟩
    | call other => simp [Declaration.opening] at opening
  | call function =>
    cases right with
    | struct other => simp [Declaration.opening] at opening
    | enum other => simp [Declaration.opening] at opening
    | call other =>
      obtain ⟨equal, rest⟩ := call_told_apart legible legible' after after' same
      exact ⟨congrArg _ equal, rest⟩

theorem declarations_legible {contract : Contract} (plain : contract.Plain)
    (paired : ∀ call ∈ contract.calls, call.Paired) :
    ∀ decl ∈ contract.declarations, decl.Legible := by
  intro decl member
  rcases List.mem_append.mp member with type | called
  · by_cases library : contract.isLibrary = true
    · rw [if_pos library] at type
      rcases List.mem_append.mp type with declared | declared
      · obtain ⟨struct, listed, rfl⟩ := List.mem_map.mp declared
        exact plain.structs struct listed
      · obtain ⟨enum, listed, rfl⟩ := List.mem_map.mp declared
        exact ⟨plain.enums enum listed, plain.values enum listed⟩
    · rw [if_neg library] at type
      exact absurd type List.not_mem_nil
  · obtain ⟨call, listed, rfl⟩ := List.mem_map.mp called
    exact ⟨plain.calls call listed, paired call listed, calls_bare listed⟩

def Declaration.struct? : Declaration → Option StructDecl
  | .struct decl => some decl
  | _ => none

def Declaration.enum? : Declaration → Option EnumDecl
  | .enum decl => some decl
  | _ => none

def Declaration.call? : Declaration → Option FunctionDecl
  | .call function => some function
  | _ => none

theorem declarations_calls (contract : Contract) :
    contract.declarations.filterMap Declaration.call? = contract.calls := by
  by_cases library : contract.isLibrary = true
  · simp [Contract.declarations, library, List.filterMap_map, Function.comp_def, Declaration.call?]
  · simp [Contract.declarations, library, List.filterMap_map, Function.comp_def, Declaration.call?]

theorem declarations_types {contract : Contract} (library : contract.isLibrary = true) :
    contract.declarations.filterMap Declaration.struct? = contract.structs ∧
      contract.declarations.filterMap Declaration.enum? = contract.enums := by
  simp [Contract.declarations, library, List.filterMap_map, Function.comp_def,
    Declaration.struct?, Declaration.enum?]

theorem keyword_unique {contract other : Contract} {after after' : List Char}
    (same : contract.keyword.toList ++ ' ' :: after = other.keyword.toList ++ ' ' :: after') :
    contract.isLibrary = other.isLibrary ∧ after = after' := by
  unfold Contract.keyword at same
  cases library : contract.isLibrary <;> cases library' : other.isLibrary
  · rw [library, library'] at same
    exact ⟨rfl, (List.cons.inj (List.append_cancel_left same)).2⟩
  · rw [library, library'] at same
    exact absurd (List.cons.inj same).1 (by decide)
  · rw [library, library'] at same
    exact absurd (List.cons.inj same).1 (by decide)
  · rw [library, library'] at same
    exact ⟨rfl, (List.cons.inj (List.append_cancel_left same)).2⟩

theorem interface_unambiguous (contract other : Contract) (text : String) (plain : contract.Plain)
    (otherPlain : other.Plain) (here : contract.interface = .ok text)
    (there : other.interface = .ok text) :
    contract.isLibrary = other.isLibrary ∧ contract.name = other.name ∧
      contract.calls = other.calls ∧
        (contract.isLibrary = true →
          contract.structs = other.structs ∧ contract.enums = other.enums) := by
  obtain ⟨paired, written⟩ := interface_ok here
  obtain ⟨paired', written'⟩ := interface_ok there
  obtain ⟨library, later⟩ := keyword_unique (written.symm.trans written')
  obtain ⟨name, later⟩ :=
    word_unique plain.name otherPlain.name (by decide : '\x7b' ∈ delimiters) rfl rfl later
  have legible := declarations_legible plain paired
  have legible' := declarations_legible otherPlain paired'
  obtain ⟨declarations, _⟩ := pieces_unique
    (fun decl inLeft decl' inRight =>
      declaration_told_apart (legible decl inLeft) (legible' decl' inRight))
    (fun decl _ => declaration_not_closed decl) (fun decl _ => declaration_not_closed decl)
    (List.cons.inj later).2
  refine ⟨library, name, ?_, ?_⟩
  · rw [← declarations_calls contract, declarations, declarations_calls other]
  · intro isLibrary
    obtain ⟨structs, enums⟩ := declarations_types isLibrary
    obtain ⟨structs', enums'⟩ := declarations_types (library ▸ isLibrary)
    rw [declarations] at structs enums
    exact ⟨structs.symm.trans structs', enums.symm.trans enums'⟩

def wallet : Contract :=
  { name := "Wallet"
    isLibrary := true
    constructor := some ⟨["owner"], ["address"]⟩
    functions :=
      [{ name := "all", constant := true, returnNames := [""], returnTypes := ["uint256[]"] },
        { name := "", constant := true, paramNames := [""], paramTypes := [""] }]
    structs := [⟨"Entry", [⟨"amount", "uint256"⟩]⟩, ⟨"Nothing", []⟩]
    enums := [⟨"State", ["Open", "Closed"]⟩, ⟨"None", []⟩] }

def walletRetold : Contract :=
  { wallet with
    documentation := some "@title Wallet"
    constructor := none
    functions :=
      { name := "Wallet", paramNames := ["owner"], paramTypes := ["address"],
        signature := "Wallet(address)" } :: wallet.functions }

def walletText : String :=
  "library Wallet\x7bstruct Entry\x7buint256 amount;\x7dstruct Nothing\x7b\x7d" ++
    "enum State\x7bOpen,Closed\x7denum None\x7b\x7dfunction Wallet(address owner);" ++
      "function all()constant returns(uint256[] );function ( )constant;\x7d"

theorem wallet_interface_tells_calls :
    wallet.Plain ∧ walletRetold.Plain ∧ wallet.interface = .ok walletText ∧
      walletRetold.interface = .ok walletText ∧
        wallet.isLibrary = walletRetold.isLibrary ∧ wallet.name = walletRetold.name ∧
          wallet.calls = walletRetold.calls ∧
            (wallet.isLibrary = true →
              wallet.structs = walletRetold.structs ∧ wallet.enums = walletRetold.enums) := by
  have plain : wallet.Plain := ⟨by decide, by decide, by decide, by decide, by decide⟩
  have plain' : walletRetold.Plain := ⟨by decide, by decide, by decide, by decide, by decide⟩
  have here : wallet.interface = .ok walletText := by decide +kernel
  have there : walletRetold.interface = .ok walletText := by
    rw [← here, interface_calls, interface_calls]
    rfl
  exact ⟨plain, plain', here, there,
    interface_unambiguous wallet walletRetold walletText plain plain' here there⟩

end NatSpec
