import NatSpec.Output
import NatSpec.Proofs.Comment.Faults
import NatSpec.Proofs.Contract.Sizes
import NatSpec.Proofs.Documents.Failures

set_option autoImplicit false

namespace NatSpec

open Comment

def Output.readsComments : Output → Bool
  | .userDoc => true
  | .devDoc => true
  | .abi => false
  | .interface => false

namespace FunctionDecl

def uncommented (function : FunctionDecl) : FunctionDecl := { function with documentation := none }

def matched (function : FunctionDecl) : FunctionDecl :=
  { function with
    paramTypes := function.paramNames
    returnNames := []
    returnTypes := []
    signature := function.callSignature }

theorem call_signature_not_empty (function : FunctionDecl) : function.callSignature ≠ "" := by
  unfold callSignature
  by_cases derived : function.signature = ""
  · rw [if_pos derived, ne_eq, ← String.toList_inj]
    simp
  · rw [if_neg derived]
    exact derived

theorem matched_call_signature (function : FunctionDecl) :
    function.matched.callSignature = function.callSignature :=
  if_neg (call_signature_not_empty function)

theorem matched_documented (function : FunctionDecl) :
    function.matched.documented? = function.documented? := by
  rw [documented?, matched_call_signature]
  rfl

theorem matched_dev_entry (function : FunctionDecl) :
    devEntry function.matched = devEntry function := by
  rw [devEntry, matched_call_signature]
  rfl

end FunctionDecl

namespace Contract

def uncommented (contract : Contract) : Contract :=
  { contract with
    documentation := none
    functions := contract.functions.map FunctionDecl.uncommented }

def matched (contract : Contract) : Contract :=
  { contract with
    constructor := none
    functions := contract.functions.map FunctionDecl.matched }

theorem matched_lists_match (contract : Contract) : contract.matched.ListsMatch := by
  refine ⟨?_, ?_, nofun⟩
  · intro function member
    obtain ⟨declared, _, rfl⟩ := List.mem_map.mp member
    rfl
  · intro function member
    obtain ⟨declared, _, rfl⟩ := List.mem_map.mp member
    rfl

theorem matched_user_doc (contract : Contract) : contract.matched.userDoc = contract.userDoc := by
  have documented : contract.matched.functions.filterMap FunctionDecl.documented? =
      contract.functions.filterMap FunctionDecl.documented? := by
    rw [matched, List.filterMap_map]
    exact congrArg contract.functions.filterMap (funext FunctionDecl.matched_documented)
  rw [userDoc, userDoc, user_methods_gather, user_methods_gather, documented]

theorem matched_dev_doc (contract : Contract) : contract.matched.devDoc = contract.devDoc := by
  have methods (fields : Fields) : devMethods contract.matched.functions fields Dict.empty =
      devMethods contract.functions fields Dict.empty := by
    rw [dev_methods_gather, dev_methods_gather, gather_all, gather_all, matched,
      List.findSome?_map, List.filterMap_map]
    simp only [Function.comp_def, FunctionDecl.matched_dev_entry]
  unfold devDoc
  simp only [methods]
  rfl

theorem uncommented_abi (contract : Contract) : contract.uncommented.abi = contract.abi := by
  have functions : contract.uncommented.functions.mapM FunctionDecl.abiItem =
      contract.functions.mapM FunctionDecl.abiItem := by
    rw [uncommented, List.mapM_map]
    rfl
  rw [abi, abiItems, functions]
  rfl

theorem uncommented_interface (contract : Contract) :
    contract.uncommented.interface = contract.interface := by
  have functions (text : InterfaceText) :
      contract.uncommented.functions.foldlM FunctionDecl.writeInterface text =
        contract.functions.foldlM FunctionDecl.writeInterface text := by
    rw [uncommented, List.foldlM_map]
    rfl
  unfold interface
  simp only [functions]
  rfl

end Contract

theorem comment_alone_fault {comment? : Option String} {owner : Owner} {error : OutputError}
    (failed : commentAlone comment? owner = .error error) : TagFault owner error := by
  unfold commentAlone at failed
  cases comment? with
  | none => cases failed
  | some comment => exact collect_fault failed

theorem tag_fault_blames {owner : Owner} {error : OutputError} (fault : TagFault owner error) :
    error.kind.blamesSource = true := by
  cases fault <;> rfl

theorem mismatch_blames {sizes : List (Nat × Nat)} {error : OutputError}
    (found : mismatch? sizes = some error) : error.kind.blamesSource = false := by
  obtain ⟨size, _, rfl⟩ := Option.map_eq_some_iff.mp found
  rfl

open FunctionDecl

theorem comment_failure_blames {functions : List FunctionDecl} {error : OutputError}
    (failed : functions.findSome? commentFailure? = some error) :
    error.kind.blamesSource = true := by
  obtain ⟨function, _, here⟩ := List.exists_of_findSome?_eq_some failed
  exact tag_fault_blames (comment_alone_fault (failure_some_iff.mp here))

theorem dev_failure_blames {functions : List FunctionDecl} {error : OutputError}
    (failed : functions.findSome? devFailure? = some error) : error.kind.blamesSource = true := by
  obtain ⟨function, _, here⟩ := List.exists_of_findSome?_eq_some failed
  rcases dev_failure_cases here with commentFailed | ⟨param, rfl⟩
  · exact tag_fault_blames (comment_alone_fault (failure_some_iff.mp commentFailed))
  · rfl

theorem document_error_blames (contract : Contract) (output : Output) (error : OutputError)
    (failed : contract.document output = .error error) :
    error.kind.blamesSource = output.readsComments := by
  rw [← failure_some_iff] at failed
  cases output with
  | userDoc => exact comment_failure_blames ((user_doc_failure contract).symm.trans failed)
  | devDoc =>
    rcases Option.or_eq_some_iff.mp ((dev_doc_failure contract).symm.trans failed) with
      own | ⟨_, inFunction⟩
    · exact tag_fault_blames (comment_alone_fault (failure_some_iff.mp own))
    · exact dev_failure_blames inFunction
  | abi => exact mismatch_blames ((abi_failure contract).symm.trans failed)
  | interface => exact mismatch_blames ((interface_failure contract).symm.trans failed)

theorem outputs_blame_their_source (contract : Contract) (output : Output) :
    (∀ error, contract.document output = .error error →
      error.kind.blamesSource = output.readsComments) ∧
    (output.readsComments = false →
      contract.uncommented.document output = contract.document output) ∧
    (output.readsComments = true →
      contract.matched.ListsMatch ∧
        contract.matched.document output = contract.document output) := by
  refine ⟨document_error_blames contract output, fun other => ?_, fun reads => ?_⟩
  · cases output with
    | userDoc => cases other
    | devDoc => cases other
    | abi => exact contract.uncommented_abi
    | interface => exact contract.uncommented_interface
  · refine ⟨contract.matched_lists_match, ?_⟩
    cases output with
    | userDoc => exact contract.matched_user_doc
    | devDoc => exact contract.matched_dev_doc
    | abi => cases reads
    | interface => cases reads

def lopsided : FunctionDecl :=
  { misspelt with returnNames := ["ok", ""], returnTypes := ["bool"] }

def twiceWrong : Contract := { functions := [lopsided] }

theorem twice_wrong_blames_both :
    twiceWrong.userDoc = .error (.unknownTag "oops") ∧
      (OutputError.unknownTag "oops").kind.blamesSource = true ∧
        twiceWrong.matched.userDoc = twiceWrong.userDoc ∧
          twiceWrong.abi = .error (.sizeMismatch 2 1) ∧
            (OutputError.sizeMismatch 2 1).kind.blamesSource = false ∧
              twiceWrong.uncommented.abi = twiceWrong.abi := by
  have failed : lopsided.commentFailure? = some (.unknownTag "oops") :=
    failure_some_iff.mpr misspelt_comment
  have user : twiceWrong.userDoc = .error (.unknownTag "oops") := by
    rw [← failure_some_iff, user_doc_failure, twiceWrong, List.findSome?_cons, failed]
  have abi : twiceWrong.abi = .error (.sizeMismatch 2 1) := rfl
  obtain ⟨blamed, _, unmatched⟩ := outputs_blame_their_source twiceWrong .userDoc
  obtain ⟨unblamed, silent, _⟩ := outputs_blame_their_source twiceWrong .abi
  exact ⟨user, blamed _ user, (unmatched rfl).2, abi, unblamed _ abi, silent rfl⟩

end NatSpec
