import NatSpec.Contract

set_option autoImplicit false

namespace NatSpec

def FunctionDecl.bare (function : FunctionDecl) : FunctionDecl :=
  { function with signature := "", documentation := none }

def ConstructorDecl.call (name : String) (constructor : ConstructorDecl) : FunctionDecl :=
  { name, paramNames := constructor.paramNames, paramTypes := constructor.paramTypes }

def Contract.calls (contract : Contract) : List FunctionDecl :=
  (contract.constructor.map (ConstructorDecl.call contract.name)).toList ++
    contract.functions.map FunctionDecl.bare

theorem calls_bare {contract : Contract} {call : FunctionDecl} (called : call ∈ contract.calls) :
    call.bare = call := by
  rcases List.mem_append.mp called with constructed | declared
  · obtain ⟨constructor, _, rfl⟩ := Option.map_eq_some_iff.mp (Option.mem_toList.mp constructed)
    rfl
  · obtain ⟨function, _, rfl⟩ := List.mem_map.mp declared
    rfl

theorem pair_params_zip {names types : List String} {pairs : List (String × String)}
    (paired : pairParams names types = .ok pairs) : pairs = names.zip types := by
  unfold pairParams at paired
  split at paired
  · exact (Except.ok.inj paired).symm
  · cases paired

theorem pair_params_ok {names types : List String} {pairs : List (String × String)}
    (paired : pairParams names types = .ok pairs) :
    pairs.map Prod.fst = names ∧ pairs.map Prod.snd = types := by
  unfold pairParams at paired
  split at paired
  · rename_i same
    cases paired
    exact ⟨List.map_fst_zip (Nat.le_of_eq same), List.map_snd_zip (Nat.le_of_eq same.symm)⟩
  · cases paired

theorem pair_params_lengths {names types : List String} {pairs : List (String × String)}
    (paired : pairParams names types = .ok pairs) : names.length = types.length := by
  obtain ⟨firsts, seconds⟩ := pair_params_ok paired
  rw [← firsts, ← seconds, List.length_map, List.length_map]

theorem pair_params_inj {names types names' types' : List String} {pairs : List (String × String)}
    (here : pairParams names types = .ok pairs) (there : pairParams names' types' = .ok pairs) :
    names = names' ∧ types = types' := by
  obtain ⟨first, second⟩ := pair_params_ok here
  obtain ⟨first', second'⟩ := pair_params_ok there
  exact ⟨first.symm.trans first', second.symm.trans second'⟩

theorem bare_inj {left right : FunctionDecl} {params returns : List (String × String)}
    (name : left.name = right.name) (constant : left.constant = right.constant)
    (leftParams : left.params = .ok params) (rightParams : right.params = .ok params)
    (leftReturns : left.returns = .ok returns) (rightReturns : right.returns = .ok returns) :
    left.bare = right.bare := by
  obtain ⟨paramNames, paramTypes⟩ := pair_params_inj leftParams rightParams
  obtain ⟨returnNames, returnTypes⟩ := pair_params_inj leftReturns rightReturns
  simp only [FunctionDecl.bare, name, constant, paramNames, paramTypes, returnNames, returnTypes]

end NatSpec
