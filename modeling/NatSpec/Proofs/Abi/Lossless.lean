import NatSpec.Abi
import NatSpec.Proofs.Contract.Bare
import NatSpec.Proofs.Outcome
import NatSpec.Proofs.Tree.Compact

set_option autoImplicit false

namespace NatSpec

theorem abi_param_members (param : String × String) :
    abiParam param = .object [("name", .string param.1), ("type", .string param.2)] :=
  rfl

theorem abi_params_inj {left right : List (String × String)}
    (same : abiParams left = abiParams right) : left = right := by
  refine (List.map_inj_right ?_).mp (Tree.array.inj same)
  intro param other equal
  simp only [abi_param_members, Tree.object.injEq, List.cons.injEq, Prod.mk.injEq,
    Tree.string.injEq, true_and, and_true] at equal
  exact Prod.ext equal.1 equal.2

theorem function_abi_item_ok {function : FunctionDecl} {item : Tree}
    (rendered : function.abiItem = .ok item) :
    ∃ params returns, function.params = .ok params ∧ function.returns = .ok returns ∧
      item = .object [("constant", .bool function.constant), ("inputs", abiParams params),
        ("name", .string function.name), ("outputs", abiParams returns),
        ("type", .string "function")] := by
  obtain ⟨params, paired, later⟩ := bind_ok rendered
  obtain ⟨returns, returned, same⟩ := bind_ok later
  cases same
  exact ⟨params, returns, paired, returned, rfl⟩

theorem constructor_abi_item_ok {constructor : ConstructorDecl} {item : Tree}
    (rendered : constructor.abiItem = .ok item) :
    ∃ params, constructor.params = .ok params ∧
      item = .object [("inputs", abiParams params), ("type", .string "constructor")] := by
  obtain ⟨params, paired, same⟩ := bind_ok rendered
  cases same
  exact ⟨params, paired, rfl⟩

theorem event_param_members (param : EventParam) :
    param.abiItem = .object [("indexed", .bool param.indexed), ("name", .string param.name),
      ("type", .string param.type)] :=
  rfl

theorem event_members (event : EventDecl) :
    event.abiItem = .object [("anonymous", .bool event.anonymous),
      ("inputs", .array (event.params.map EventParam.abiItem)), ("name", .string event.name),
      ("type", .string "event")] :=
  rfl

theorem function_abi_item_told {left right : FunctionDecl} {item : Tree}
    (here : left.abiItem = .ok item) (there : right.abiItem = .ok item) :
    left.bare = right.bare := by
  obtain ⟨params, returns, paired, returned, rendered⟩ := function_abi_item_ok here
  obtain ⟨params', returns', paired', returned', rendered'⟩ := function_abi_item_ok there
  rw [rendered] at rendered'
  simp only [Tree.object.injEq, List.cons.injEq, Prod.mk.injEq, Tree.string.injEq, Tree.bool.injEq,
    true_and, and_true] at rendered'
  obtain ⟨constant, inputs, name, outputs⟩ := rendered'
  rw [abi_params_inj inputs] at paired
  rw [abi_params_inj outputs] at returned
  exact bare_inj name constant paired paired' returned returned'

theorem constructor_abi_item_told {left right : ConstructorDecl} {item : Tree}
    (here : left.abiItem = .ok item) (there : right.abiItem = .ok item) : left = right := by
  obtain ⟨params, paired, rendered⟩ := constructor_abi_item_ok here
  obtain ⟨params', paired', rendered'⟩ := constructor_abi_item_ok there
  rw [rendered] at rendered'
  simp only [Tree.object.injEq, List.cons.injEq, Prod.mk.injEq, true_and, and_true] at rendered'
  rw [abi_params_inj rendered'] at paired
  obtain ⟨names, types⟩ := pair_params_inj paired paired'
  exact (ConstructorDecl.mk.injEq ..).mpr ⟨names, types⟩

theorem event_param_inj (left right : EventParam) (same : left.abiItem = right.abiItem) :
    left = right := by
  simp only [event_param_members, Tree.object.injEq, List.cons.injEq, Prod.mk.injEq,
    Tree.string.injEq, Tree.bool.injEq, true_and, and_true] at same
  obtain ⟨indexed, name, type⟩ := same
  exact (EventParam.mk.injEq ..).mpr ⟨name, type, indexed⟩

theorem event_inj (left right : EventDecl) (same : left.abiItem = right.abiItem) :
    left = right := by
  simp only [event_members, Tree.object.injEq, List.cons.injEq, Prod.mk.injEq, Tree.string.injEq,
    Tree.bool.injEq, Tree.array.injEq, true_and, and_true] at same
  obtain ⟨anonymous, inputs, name⟩ := same
  have params := (List.map_inj_right event_param_inj).mp inputs
  exact (EventDecl.mk.injEq ..).mpr ⟨name, anonymous, params⟩

def Tree.isEntry (kind : String) (item : Tree) : Bool :=
  match item.get? "type" with
  | some (.string text) => text = kind
  | _ => false

def AllEntries (kind : String) (items : List Tree) : Prop :=
  ∀ item ∈ items, ∀ other, item.isEntry other = decide (kind = other)

theorem filter_entries {kind : String} {items : List Tree} (all : AllEntries kind items)
    (other : String) : items.filter (Tree.isEntry other) = if kind = other then items else [] := by
  by_cases same : kind = other
  · rw [if_pos same, List.filter_eq_self]
    intro item member
    simp [all item member, same]
  · rw [if_neg same, List.filter_eq_nil_iff]
    intro item member
    simp [all item member, same]

theorem all_entries_of_rendered {α : Type} {render : α → Except OutputError Tree}
    {declared : List α} {kind : String} {items : List Tree}
    (rendered : declared.map render = items.map .ok)
    (typed : ∀ decl item, render decl = .ok item → item.get? "type" = some (.string kind)) :
    AllEntries kind items := by
  intro item member other
  have listed : Except.ok item ∈ declared.map render := by
    rw [rendered]
    exact List.mem_map_of_mem member
  obtain ⟨decl, _, ok⟩ := List.mem_map.mp listed
  rw [Tree.isEntry, typed decl item ok]

theorem function_entries {functions : List FunctionDecl} {items : List Tree}
    (rendered : functions.map FunctionDecl.abiItem = items.map .ok) :
    AllEntries "function" items := by
  refine all_entries_of_rendered rendered ?_
  intro function item ok
  obtain ⟨params, returns, _, _, same⟩ := function_abi_item_ok ok
  rw [same]
  rfl

theorem constructor_entries {constructors : List ConstructorDecl} {items : List Tree}
    (rendered : constructors.map ConstructorDecl.abiItem = items.map .ok) :
    AllEntries "constructor" items := by
  refine all_entries_of_rendered rendered ?_
  intro constructor item ok
  obtain ⟨params, _, same⟩ := constructor_abi_item_ok ok
  rw [same]
  rfl

theorem event_entries (events : List EventDecl) :
    AllEntries "event" (events.map EventDecl.abiItem) := by
  intro item member other
  obtain ⟨event, _, rfl⟩ := List.mem_map.mp member
  rfl

theorem abi_items_ok {contract : Contract} {entries : List Tree}
    (rendered : contract.abiItems = .ok entries) :
    contract.functions.map FunctionDecl.abiItem =
        (entries.filter (Tree.isEntry "function")).map .ok ∧
      contract.constructor.toList.map ConstructorDecl.abiItem =
        (entries.filter (Tree.isEntry "constructor")).map .ok ∧
      contract.events.map EventDecl.abiItem = entries.filter (Tree.isEntry "event") := by
  obtain ⟨functions, first, later⟩ := bind_ok rendered
  obtain ⟨constructors, second, same⟩ := bind_ok later
  cases same
  have functionsKind := filter_entries (function_entries (map_m_ok first))
  have constructorsKind := filter_entries (constructor_entries (map_m_ok second))
  have eventsKind := filter_entries (event_entries contract.events)
  refine ⟨?_, ?_, ?_⟩
  · simpa [List.filter_append, functionsKind, constructorsKind, eventsKind] using map_m_ok first
  · simpa [List.filter_append, functionsKind, constructorsKind, eventsKind] using map_m_ok second
  · simp [List.filter_append, functionsKind, constructorsKind, eventsKind]

theorem abi_determines_declarations (contract other : Contract) (text : String)
    (here : contract.abi = .ok text) (there : other.abi = .ok text) :
    contract.functions.map FunctionDecl.bare = other.functions.map FunctionDecl.bare ∧
      contract.constructor = other.constructor ∧ contract.events = other.events := by
  obtain ⟨entries, items, compact⟩ := bind_ok here
  obtain ⟨entries', items', compact'⟩ := bind_ok there
  have trees : Tree.array entries = Tree.array entries' :=
    compact_injective ((Except.ok.inj compact).trans (Except.ok.inj compact').symm)
  obtain rfl := Tree.array.inj trees
  obtain ⟨functions, constructor, events⟩ := abi_items_ok items
  obtain ⟨functions', constructor', events'⟩ := abi_items_ok items'
  refine ⟨map_told functions functions' fun _ _ _ => function_abi_item_told, ?_, ?_⟩
  · have same : contract.constructor.toList.map id = other.constructor.toList.map id :=
      map_told constructor constructor' fun _ _ _ => constructor_abi_item_told
    rw [List.map_id, List.map_id] at same
    rw [← Option.head?_toList (o := contract.constructor), same, Option.head?_toList]
  · exact (List.map_inj_right event_inj).mp (events.trans events'.symm)

def quotedNames : Contract :=
  { name := "Left"
    constructor := some ⟨["a\"b"], ["uint\\8"]⟩
    functions := [{ name := "f\n", paramNames := [""], paramTypes := ["\t"], signature := "f()" }]
    events := [{ name := "E", params := [⟨"x", "bool", true⟩] }] }

def quotedNamesRetold : Contract :=
  { quotedNames with
    name := "Right"
    isLibrary := true
    functions := [{ name := "f\n", paramNames := [""], paramTypes := ["\t"],
                    documentation := some "@dev Other words." }]
    enums := [⟨"Color", ["Red"]⟩] }

theorem quoted_names_tell_declarations :
    ∃ text, quotedNames.abi = .ok text ∧ quotedNamesRetold.abi = .ok text ∧
      quotedNames.functions.map FunctionDecl.bare =
          quotedNamesRetold.functions.map FunctionDecl.bare ∧
        quotedNames.constructor = quotedNamesRetold.constructor ∧
          quotedNames.events = quotedNamesRetold.events := by
  obtain ⟨text, here⟩ : ∃ text, quotedNames.abi = .ok text := ⟨_, rfl⟩
  have there : quotedNamesRetold.abi = .ok text := here
  exact ⟨text, here, there, abi_determines_declarations _ _ text here there⟩

end NatSpec
