import Mathlib.Data.List.Induction
import NatSpec.Proofs.Contract.Sizes
import NatSpec.Proofs.Tree.ReadBack

set_option autoImplicit false

namespace NatSpec

open Json

theorem pair_params_push {names types : List String} {pairs : List (String × String)}
    (paired : pairParams names types = .ok pairs) (name type : String) :
    pairParams (names ++ [name]) (types ++ [type]) = .ok (pairs ++ [(name, type)]) := by
  have same := pair_params_lengths paired
  have longer : (names ++ [name]).length = (types ++ [type]).length := by
    rw [List.length_append, List.length_append, same]
    rfl
  rw [pairParams, if_pos longer, List.zip_append same, ← pair_params_zip paired]
  rfl

namespace FunctionDecl

inductive Step where
  | param (type name : String)
  | result (type name : String)
  | constant
  | signature (text : String)
  | documentation (text : String)

def take (function : FunctionDecl) : Step → FunctionDecl
  | .param type name => function.addParam type name
  | .result type name => function.addReturn type name
  | .constant => function.asConstant
  | .signature text => function.setSignature text
  | .documentation text => function.setDocumentation text

def made (name : String) (steps : List Step) : FunctionDecl := steps.foldl take (named name)

def Step.param? : Step → Option (String × String)
  | .param type name => some (name, type)
  | _ => none

def Step.result? : Step → Option (String × String)
  | .result type name => some (name, type)
  | _ => none

theorem take_params {function : FunctionDecl} {params : List (String × String)}
    (paired : function.params = .ok params) (step : Step) :
    (function.take step).params = .ok (params ++ step.param?.toList) := by
  have unchanged : function.params = .ok (params ++ []) := by rw [List.append_nil, paired]
  cases step with
  | param type name => exact pair_params_push paired name type
  | _ => exact unchanged

theorem take_returns {function : FunctionDecl} {returns : List (String × String)}
    (paired : function.returns = .ok returns) (step : Step) :
    (function.take step).returns = .ok (returns ++ step.result?.toList) := by
  have unchanged : function.returns = .ok (returns ++ []) := by rw [List.append_nil, paired]
  cases step with
  | result type name => exact pair_params_push paired name type
  | _ => exact unchanged

theorem made_lists (name : String) (steps : List Step) :
    (made name steps).params = .ok (steps.filterMap Step.param?) ∧
      (made name steps).returns = .ok (steps.filterMap Step.result?) := by
  induction steps using List.reverseRecOn with
  | nil => exact ⟨rfl, rfl⟩
  | append_singleton earlier step ih =>
    rw [made, List.foldl_append, ← made, List.filterMap_append, List.filterMap_append]
    exact ⟨take_params ih.1 step, take_returns ih.2 step⟩

end FunctionDecl

def ConstructorDecl.made (params : List (String × String)) : ConstructorDecl :=
  params.foldl (fun constructor param => constructor.addParam param.1 param.2) {}

theorem constructor_made_params (params : List (String × String)) :
    (ConstructorDecl.made params).params = .ok (params.map Prod.swap) := by
  induction params using List.reverseRecOn with
  | nil => rfl
  | append_singleton earlier param ih =>
    rw [ConstructorDecl.made, List.foldl_append, ← ConstructorDecl.made, List.map_append]
    exact pair_params_push ih param.2 param.1

namespace EventDecl

inductive Step where
  | param (type name : String) (indexed : Bool)
  | anonymous

def take (event : EventDecl) : Step → EventDecl
  | .param type name indexed => event.addParam type name indexed
  | .anonymous => event.asAnonymous

def made (name : String) (steps : List Step) : EventDecl := steps.foldl take (named name)

end EventDecl

def StructDecl.made (name : String) (members : List (String × String)) : StructDecl :=
  members.foldl (fun struct member => struct.addMember member.1 member.2) (named name)

namespace Contract

inductive Step where
  | documentation (text : String)
  | constructor (params : List (String × String))
  | function (name : String) (steps : List FunctionDecl.Step)
  | event (name : String) (steps : List EventDecl.Step)
  | struct (name : String) (members : List (String × String))
  | enum (name : String) (values : List String)

def take (contract : Contract) : Step → Contract
  | .documentation text => contract.setDocumentation text
  | .constructor params => contract.setConstructor (.made params)
  | .function name steps => contract.addFunction (.made name steps)
  | .event name steps => contract.addEvent (.made name steps)
  | .struct name members => contract.addStruct (.made name members)
  | .enum name values => contract.addEnum ⟨name, values⟩

def made (isLibrary : Bool) (name : String) (steps : List Step) : Contract :=
  steps.foldl take (if isLibrary then library name else named name)

namespace Step

def function? : Step → Option FunctionDecl
  | .function name steps => some (.made name steps)
  | _ => none

def constructor? : Step → Option ConstructorDecl
  | .constructor params => some (.made params)
  | _ => none

def event? : Step → Option EventDecl
  | .event name steps => some (.made name steps)
  | _ => none

end Step

theorem take_functions (contract : Contract) (step : Step) :
    (contract.take step).functions = contract.functions ++ step.function?.toList := by
  cases step with
  | function name steps => rfl
  | _ => exact (List.append_nil contract.functions).symm

theorem take_events (contract : Contract) (step : Step) :
    (contract.take step).events = contract.events ++ step.event?.toList := by
  cases step with
  | event name steps => rfl
  | _ => exact (List.append_nil contract.events).symm

theorem take_constructor (contract : Contract) (step : Step) :
    (contract.take step).constructor = step.constructor?.or contract.constructor := by
  cases step <;> rfl

structure Declares (contract : Contract) (steps : List Step) : Prop where
  functions : contract.functions = steps.filterMap Step.function?
  events : contract.events = steps.filterMap Step.event?
  constructor : contract.constructor = (steps.filterMap Step.constructor?).getLast?

theorem named_declares (isLibrary : Bool) (name : String) :
    (if isLibrary then library name else named name).Declares [] := by
  cases isLibrary with
  | false => exact ⟨rfl, rfl, rfl⟩
  | true => exact ⟨rfl, rfl, rfl⟩

theorem take_declares {contract : Contract} {steps : List Step}
    (declares : contract.Declares steps) (step : Step) :
    (contract.take step).Declares (steps ++ [step]) := by
  refine ⟨?_, ?_, ?_⟩
  · rw [take_functions, declares.functions, List.filterMap_append]
    rfl
  · rw [take_events, declares.events, List.filterMap_append]
    rfl
  · rw [take_constructor, declares.constructor, List.filterMap_append, List.getLast?_append]
    cases found : step.constructor? <;> simp [found]

theorem made_declares (isLibrary : Bool) (name : String) (steps : List Step) :
    (made isLibrary name steps).Declares steps := by
  induction steps using List.reverseRecOn with
  | nil => exact named_declares isLibrary name
  | append_singleton earlier step ih =>
    rw [made, List.foldl_append, ← made]
    exact take_declares ih step

namespace Step

def functionLists? : Step → Option (List (String × String) × List (String × String))
  | .function _ steps =>
    some (steps.filterMap FunctionDecl.Step.param?, steps.filterMap FunctionDecl.Step.result?)
  | _ => none

def constructorList? : Step → Option (List (String × String))
  | .constructor params => some (params.map Prod.swap)
  | _ => none

theorem function_lists (step : Step) :
    step.function?.map (fun function => (function.params, function.returns)) =
      step.functionLists?.map fun lists => (.ok lists.1, .ok lists.2) := by
  cases step with
  | function name steps =>
    obtain ⟨params, returns⟩ := FunctionDecl.made_lists name steps
    exact congrArg some (Prod.ext params returns)
  | _ => rfl

theorem constructor_list (step : Step) :
    step.constructor?.map ConstructorDecl.params = step.constructorList?.map .ok := by
  cases step with
  | constructor params => exact congrArg some (constructor_made_params params)
  | _ => rfl

end Step

theorem declared_function_lists {contract : Contract} {steps : List Step}
    (declares : contract.Declares steps) :
    contract.functions.map (fun function => (function.params, function.returns)) =
      (steps.filterMap Step.functionLists?).map fun lists => (.ok lists.1, .ok lists.2) := by
  rw [declares.functions, List.map_filterMap, List.map_filterMap]
  exact congrArg steps.filterMap (funext Step.function_lists)

theorem declared_constructor_list {contract : Contract} {steps : List Step}
    (declares : contract.Declares steps) :
    contract.constructor.map ConstructorDecl.params =
      (steps.filterMap Step.constructorList?).getLast?.map .ok := by
  rw [declares.constructor, ← List.getLast?_map, ← List.getLast?_map, List.map_filterMap,
    List.map_filterMap]
  exact congrArg (fun found => (steps.filterMap found).getLast?) (funext Step.constructor_list)

theorem declared_lists_match {contract : Contract} {steps : List Step}
    (declares : contract.Declares steps) : contract.ListsMatch := by
  have paired : ∀ function ∈ contract.functions,
      ∃ params returns, function.params = .ok params ∧ function.returns = .ok returns := by
    intro function declared
    have listed := List.mem_map_of_mem (f := fun f : FunctionDecl => (f.params, f.returns)) declared
    rw [declared_function_lists declares] at listed
    obtain ⟨lists, _, same⟩ := List.mem_map.mp listed
    obtain ⟨params, returns⟩ := Prod.mk.inj same
    exact ⟨lists.1, lists.2, params.symm, returns.symm⟩
  refine ⟨fun function declared => ?_, fun function declared => ?_, fun constructor given => ?_⟩
  · obtain ⟨params, _, same, _⟩ := paired function declared
    exact pair_params_lengths same
  · obtain ⟨_, returns, _, same⟩ := paired function declared
    exact pair_params_lengths same
  · have lists := declared_constructor_list declares
    rw [given, Option.map_some] at lists
    obtain ⟨params, _, same⟩ := Option.map_eq_some_iff.mp lists.symm
    exact pair_params_lengths same.symm

end Contract

theorem abi_entry_count {contract : Contract} {text : String} (done : contract.abi = .ok text) :
    ∃ entries, (∀ value, Denotes text.toList value ↔ value = .array entries) ∧
      entries.length = contract.functions.length + contract.events.length +
        if contract.constructor.isSome then 1 else 0 := by
  obtain ⟨items, rendered, same⟩ := bind_ok done
  obtain ⟨functions, first, later⟩ := bind_ok rendered
  obtain ⟨constructors, second, listed⟩ := bind_ok later
  cases same
  cases listed
  refine ⟨itemValues (functions ++ constructors ++ contract.events.map EventDecl.abiItem), ?_, ?_⟩
  · exact compact_denotes _
  · rw [item_values_map, List.length_map, List.length_append, List.length_append, List.length_map,
      map_m_length first, map_m_length second, Option.length_toList]
    omega

namespace Contract

structure Presentable (contract : Contract) (steps : List Step) : Prop where
  declares : contract.Declares steps
  functions : contract.functions.map (fun function => (function.params, function.returns)) =
    (steps.filterMap Step.functionLists?).map fun lists => (.ok lists.1, .ok lists.2)
  constructor : contract.constructor.map ConstructorDecl.params =
    (steps.filterMap Step.constructorList?).getLast?.map .ok
  matching : contract.ListsMatch
  interface : ∃ text, contract.interface = .ok text
  abi : ∃ text entries, contract.abi = .ok text ∧
    (∀ value, Denotes text.toList value ↔ value = .array entries) ∧
      entries.length = contract.functions.length + contract.events.length +
        if contract.constructor.isSome then 1 else 0

theorem made_contract_presentable (isLibrary : Bool) (name : String) (steps : List Step) :
    (made isLibrary name steps).Presentable steps := by
  have declares := made_declares isLibrary name steps
  have matching := declared_lists_match declares
  obtain ⟨text, done⟩ := abi_of_lists_match matching
  obtain ⟨entries, read, count⟩ := abi_entry_count done
  exact ⟨declares, declared_function_lists declares, declared_constructor_list declares, matching,
    interface_of_lists_match matching, text, entries, done, read, count⟩

end Contract

end NatSpec
