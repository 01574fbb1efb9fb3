import NatSpec.Abi
import NatSpec.Proofs.Interface.Pieces

set_option autoImplicit false

namespace NatSpec

def FunctionDecl.listSizes (function : FunctionDecl) : List (Nat × Nat) :=
  [(function.paramNames.length, function.paramTypes.length),
    (function.returnNames.length, function.returnTypes.length)]

def ConstructorDecl.listSizes (constructor : ConstructorDecl) : List (Nat × Nat) :=
  [(constructor.paramNames.length, constructor.paramTypes.length)]

namespace Contract

def functionSizes (contract : Contract) : List (Nat × Nat) :=
  contract.functions.flatMap FunctionDecl.listSizes

def constructorSizes (contract : Contract) : List (Nat × Nat) :=
  contract.constructor.toList.flatMap ConstructorDecl.listSizes

structure ListsMatch (contract : Contract) : Prop where
  params : ∀ function ∈ contract.functions,
    function.paramNames.length = function.paramTypes.length
  returns : ∀ function ∈ contract.functions,
    function.returnNames.length = function.returnTypes.length
  constructed : ∀ constructor ∈ contract.constructor,
    constructor.paramNames.length = constructor.paramTypes.length

end Contract

def mismatch? (sizes : List (Nat × Nat)) : Option OutputError :=
  (sizes.find? fun size => size.1 ≠ size.2).map fun size => .sizeMismatch size.1 size.2

theorem mismatch_append (first second : List (Nat × Nat)) :
    mismatch? (first ++ second) = (mismatch? first).or (mismatch? second) := by
  rw [mismatch?, List.find?_append, Option.map_or]
  rfl

theorem mismatch_flat_map {α : Type} (sizes : α → List (Nat × Nat)) (items : List α) :
    mismatch? (items.flatMap sizes) = items.findSome? fun item => mismatch? (sizes item) := by
  induction items with
  | nil => rfl
  | cons item rest ih =>
    rw [List.flatMap_cons, mismatch_append, ih, List.findSome?_cons]
    cases mismatch? (sizes item) <;> rfl

theorem mismatch_none_iff {sizes : List (Nat × Nat)} :
    mismatch? sizes = none ↔ ∀ size ∈ sizes, size.1 = size.2 := by
  rw [mismatch?, Option.map_eq_none_iff, List.find?_eq_none]
  simp only [ne_eq, decide_eq_true_eq, Decidable.not_not]

theorem pair_params_failure (names types : List String) :
    failure? (pairParams names types) = mismatch? [(names.length, types.length)] := by
  unfold pairParams mismatch?
  by_cases same : names.length = types.length
  · rw [if_pos same, List.find?_cons_of_neg (by simpa using same)]
    rfl
  · rw [if_neg same, List.find?_cons_of_pos (by simpa using same)]
    rfl

theorem function_lists_failure {α : Type} (function : FunctionDecl)
    (next : List (String × String) → List (String × String) → Except OutputError α)
    (total : ∀ params returns, failure? (next params returns) = none) :
    failure? (function.params >>= fun params => function.returns >>= next params) =
      mismatch? function.listSizes := by
  have returned (params : List (String × String)) : failure? (function.returns >>= next params) =
      mismatch? [(function.returnNames.length, function.returnTypes.length)] := by
    rw [failure_bind_total (total params), FunctionDecl.returns, pair_params_failure]
  rw [failure_bind returned, FunctionDecl.params, pair_params_failure, ← mismatch_append]
  rfl

theorem constructor_lists_failure {α : Type} (constructor : ConstructorDecl)
    (next : List (String × String) → Except OutputError α)
    (total : ∀ params, failure? (next params) = none) :
    failure? (constructor.params >>= next) = mismatch? constructor.listSizes := by
  rw [failure_bind_total total, ConstructorDecl.params, pair_params_failure]
  rfl

theorem abi_failure (contract : Contract) :
    failure? contract.abi = mismatch? (contract.functionSizes ++ contract.constructorSizes) := by
  have functions : failure? (contract.functions.mapM FunctionDecl.abiItem) =
      mismatch? contract.functionSizes := by
    rw [failure_map_m, Contract.functionSizes, mismatch_flat_map]
    exact congrArg contract.functions.findSome?
      (funext fun function => function_lists_failure function _ fun _ _ => rfl)
  have constructors : failure? (contract.constructor.toList.mapM ConstructorDecl.abiItem) =
      mismatch? contract.constructorSizes := by
    rw [failure_map_m, Contract.constructorSizes, mismatch_flat_map]
    exact congrArg contract.constructor.toList.findSome?
      (funext fun constructor => constructor_lists_failure constructor _ fun _ => rfl)
  have items : failure? contract.abiItems =
      mismatch? (contract.functionSizes ++ contract.constructorSizes) := by
    rw [mismatch_append, ← functions, ← constructors]
    exact failure_bind fun _ => failure_bind_total fun _ => rfl
  rw [← items]
  exact failure_bind_total fun _ => rfl

theorem interface_failure (contract : Contract) :
    failure? contract.interface =
      mismatch? (contract.constructorSizes ++ contract.functionSizes) := by
  have functions (text : InterfaceText) :
      failure? (contract.functions.foldlM FunctionDecl.writeInterface text) =
        mismatch? contract.functionSizes := by
    rw [Contract.functionSizes, mismatch_flat_map]
    exact failure_fold_m (fun text function => function_lists_failure function _ fun _ _ => rfl) ..
  have closed (text : InterfaceText) :
      failure? (contract.functions.foldlM FunctionDecl.writeInterface text >>= fun text =>
        pure text.closed) = mismatch? contract.functionSizes := by
    rw [← functions text]
    exact failure_bind_total fun _ => rfl
  rw [mismatch_append]
  unfold Contract.interface Contract.constructorSizes
  cases contract.constructor with
  | none => exact closed contract.interfaceHead
  | some constructor =>
    rw [Option.toList_some, List.flatMap_singleton, ConstructorDecl.listSizes,
      ← pair_params_failure]
    exact failure_bind fun _ => closed _

theorem lists_match_iff (contract : Contract) :
    contract.ListsMatch ↔
      ∀ size ∈ contract.functionSizes ++ contract.constructorSizes, size.1 = size.2 := by
  constructor
  · intro matching size listed
    rcases List.mem_append.mp listed with inFunction | inConstructor
    · obtain ⟨function, declared, member⟩ := List.mem_flatMap.mp inFunction
      rcases List.mem_cons.mp member with rfl | last
      · exact matching.params function declared
      · obtain rfl := List.mem_singleton.mp last
        exact matching.returns function declared
    · obtain ⟨constructor, declared, member⟩ := List.mem_flatMap.mp inConstructor
      obtain rfl := List.mem_singleton.mp member
      exact matching.constructed constructor (Option.mem_toList.mp declared)
  · intro same
    have inFunction {size : Nat × Nat} {function : FunctionDecl}
        (declared : function ∈ contract.functions) (member : size ∈ function.listSizes) :
        size.1 = size.2 :=
      same size (List.mem_append_left _ (List.mem_flatMap.mpr ⟨function, declared, member⟩))
    refine ⟨fun function declared => ?_, fun function declared => ?_,
      fun constructor declared => ?_⟩
    · exact inFunction declared (List.mem_cons_self ..)
    · exact inFunction declared (List.mem_cons_of_mem _ (List.mem_cons_self ..))
    · exact same _ (List.mem_append_right _ (List.mem_flatMap.mpr
        ⟨constructor, Option.mem_toList.mpr declared, List.mem_cons_self ..⟩))

theorem abi_of_lists_match {contract : Contract} (matching : contract.ListsMatch) :
    ∃ text, contract.abi = .ok text := by
  have same := (lists_match_iff contract).mp matching
  rw [← failure_none_iff, abi_failure]
  exact mismatch_none_iff.mpr same

theorem interface_of_lists_match {contract : Contract} (matching : contract.ListsMatch) :
    ∃ text, contract.interface = .ok text := by
  have same := (lists_match_iff contract).mp matching
  rw [← failure_none_iff, interface_failure]
  refine mismatch_none_iff.mpr fun size listed => same size ?_
  exact List.mem_append.mpr (List.mem_append.mp listed).symm

theorem abi_and_interface_reject_alike (contract : Contract) :
    ((∃ text, contract.abi = .ok text) ↔ contract.ListsMatch) ∧
    ((∃ text, contract.interface = .ok text) ↔ contract.ListsMatch) ∧
    failure? contract.abi = mismatch? (contract.functionSizes ++ contract.constructorSizes) ∧
    failure? contract.interface =
      mismatch? (contract.constructorSizes ++ contract.functionSizes) := by
  refine ⟨?_, ?_, abi_failure contract, interface_failure contract⟩
  · rw [← failure_none_iff, abi_failure, mismatch_none_iff, lists_match_iff]
  · rw [← failure_none_iff, interface_failure, mismatch_none_iff, lists_match_iff]
    simp only [List.mem_append, or_comm]

end NatSpec
