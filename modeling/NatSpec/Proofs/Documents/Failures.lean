import NatSpec.Proofs.Documents.DevDoc
import NatSpec.Proofs.Documents.UserDoc

set_option autoImplicit false

namespace NatSpec

open Comment

namespace FunctionDecl

def commentFailure? (function : FunctionDecl) : Option OutputError :=
  failure? (commentAlone function.comment? .function)

def devFailure? (function : FunctionDecl) : Option OutputError := failure? (devEntry function)

def DocumentsOwnParams (function : FunctionDecl) : Prop :=
  ∀ fields, commentAlone function.comment? .function = .ok fields →
    ∀ param ∈ fields.params, param.1 ∈ function.paramNames

theorem dev_failure_of_comment {function : FunctionDecl} {error : OutputError}
    (failed : function.commentFailure? = some error) : function.devFailure? = some error := by
  rw [commentFailure?, failure_some_iff] at failed
  rw [devFailure?, devEntry, failed]
  rfl

theorem dev_failure_cases {function : FunctionDecl} {error : OutputError}
    (failed : function.devFailure? = some error) :
    function.commentFailure? = some error ∨
      ∃ param, error = .undeclaredParam param function.callSignature := by
  rw [devFailure?, failure_some_iff, devEntry] at failed
  cases read : commentAlone function.comment? .function with
  | error other =>
    simp only [read, Except.error.injEq] at failed
    exact .inl (by rw [commentFailure?, read, failed]; rfl)
  | ok fields =>
    simp only [read] at failed
    cases named : function.undeclared? fields with
    | none => simp [named] at failed
    | some param =>
      simp only [named, Except.error.injEq] at failed
      exact .inr ⟨param, failed.symm⟩

theorem dev_failure_none {function : FunctionDecl} (own : function.DocumentsOwnParams)
    (readable : function.commentFailure? = none) : function.devFailure? = none := by
  obtain ⟨fields, read⟩ := failure_none_iff.mp readable
  have declared : function.undeclared? fields = none := by
    rw [undeclared?, List.find?_eq_none]
    intro name member
    obtain ⟨param, documented, rfl⟩ := List.mem_map.mp member
    simpa using own fields read param documented
  rw [devFailure?, failure_none_iff, devEntry, read]
  simp only [declared]
  exact ⟨_, rfl⟩

end FunctionDecl

open FunctionDecl

theorem documented_failure (functions : List FunctionDecl) :
    ((functions.filterMap documented?).findSome? fun item => failure? (noticeEntry item)) =
      functions.findSome? commentFailure? := by
  induction functions with
  | nil => rfl
  | cons function rest ih =>
    rw [List.filterMap_cons, List.findSome?_cons, documented?, commentFailure?]
    cases function.comment? with
    | none => exact ih
    | some comment =>
      rw [Option.map_some, List.findSome?_cons, ih, notice_entry_failure]
      rfl

theorem user_doc_failure (contract : Contract) :
    failure? contract.userDoc = contract.functions.findSome? commentFailure? := by
  rw [Contract.userDoc, user_methods_gather, gather_all, documented_failure]
  cases contract.functions.findSome? commentFailure? <;> rfl

theorem dev_doc_failure (contract : Contract) :
    failure? contract.devDoc =
      (failure? (commentAlone contract.comment? .contract)).or
        (contract.functions.findSome? devFailure?) := by
  rw [Contract.devDoc, own_fields_alone]
  cases commentAlone contract.comment? .contract with
  | error error => rfl
  | ok own =>
    have entries : devFailure? = fun function => failure? (devEntry function) := rfl
    simp only [dev_methods_gather, gather_all, entries]
    cases contract.functions.findSome? fun function => failure? (devEntry function) <;> rfl

theorem first_failure_shared {functions : List FunctionDecl} {error : OutputError}
    (failed : functions.findSome? commentFailure? = some error)
    (own : ∀ function ∈ functions.takeWhile (·.commentFailure?.isNone),
      function.DocumentsOwnParams) :
    functions.findSome? devFailure? = some error := by
  induction functions with
  | nil => cases failed
  | cons function rest ih =>
    rw [List.findSome?_cons] at failed ⊢
    cases here : function.commentFailure? with
    | some other =>
      rw [here] at failed
      rw [dev_failure_of_comment here]
      exact failed
    | none =>
      rw [List.takeWhile_cons_of_pos (by simp [here])] at own
      rw [here] at failed
      rw [dev_failure_none (own function (List.mem_cons_self ..)) here]
      exact ih failed fun later member => own later (List.mem_cons_of_mem _ member)

theorem documents_fail_alike (contract : Contract) :
    (∀ error, contract.userDoc = .error error → ∃ other, contract.devDoc = .error other) ∧
    (∀ text error, contract.userDoc = .ok text → contract.devDoc = .error error →
      commentAlone contract.comment? .contract = .error error ∨
        ∃ function ∈ contract.functions, ∃ param,
          error = .undeclaredParam param function.callSignature) ∧
    ∀ error own, contract.userDoc = .error error →
      commentAlone contract.comment? .contract = .ok own →
      (∀ function ∈ contract.functions.takeWhile (·.commentFailure?.isNone),
        function.DocumentsOwnParams) →
      contract.devDoc = .error error := by
  have user := user_doc_failure contract
  have dev := dev_doc_failure contract
  refine ⟨?_, ?_, ?_⟩
  · intro error failed
    rw [failure_some_iff.mpr failed] at user
    obtain ⟨function, member, here⟩ := List.exists_of_findSome?_eq_some user.symm
    have devFails : (contract.functions.findSome? devFailure?).isSome := by
      rw [List.findSome?_isSome_iff]
      exact ⟨function, member, by rw [dev_failure_of_comment here]; rfl⟩
    have failure : (failure? contract.devDoc).isSome := by
      rw [dev, Option.isSome_or, devFails, Bool.or_true]
    obtain ⟨other, found⟩ := Option.isSome_iff_exists.mp failure
    exact ⟨other, failure_some_iff.mp found⟩
  · intro text error finished failed
    rw [failure_some_iff.mpr failed] at dev
    rw [failure_none_iff.mpr ⟨text, finished⟩] at user
    rcases Option.or_eq_some_iff.mp dev.symm with contractFailed | ⟨_, functionFailed⟩
    · exact .inl (failure_some_iff.mp contractFailed)
    · obtain ⟨function, member, here⟩ := List.exists_of_findSome?_eq_some functionFailed
      have readable := List.findSome?_eq_none_iff.mp user.symm function member
      rcases dev_failure_cases here with commentFailed | undeclared
      · rw [readable] at commentFailed
        cases commentFailed
      · exact .inr ⟨function, member, undeclared⟩
  · intro error own failed ownRead ownParams
    rw [failure_some_iff.mpr failed] at user
    rw [ownRead] at dev
    rw [← failure_some_iff, dev, first_failure_shared user.symm ownParams]
    rfl

def described : FunctionDecl :=
  { name := "f", paramNames := ["x"], documentation := some "@param x the value" }

def misspelt : FunctionDecl := { name := "g", documentation := some "@oops x" }

def undeclared : FunctionDecl := { name := "h", documentation := some "@param y no such" }

def unreadable : Contract := { functions := [described, misspelt, undeclared] }

theorem described_comment :
    commentAlone described.comment? .function = .ok { params := [("x", "the value")] } := by
  have read : step .function "@param x the value".toList (.start "@param x the value".toList {}) =
      .next ⟨[], some .param, { params := [("x", "the value")] }⟩ := by
    rfl
  change collect "@param x the value" .function {} = _
  rw [collect, parse, run_unended _ _ _ (by decide), read]
  simp only [run_ended]

theorem misspelt_comment :
    commentAlone misspelt.comment? .function = .error (.unknownTag "oops") := by
  have halted : step .function "@oops x".toList (.start "@oops x".toList {}) =
      .fail (.unknownTag "oops") := by
    rfl
  change collect "@oops x" .function {} = _
  rw [collect, parse, run_unended _ _ _ (by decide), halted]

theorem unreadable_fails_alike :
    unreadable.userDoc = .error (.unknownTag "oops") ∧
      unreadable.devDoc = .error (.unknownTag "oops") := by
  have readable : described.commentFailure? = none := failure_none_iff.mpr ⟨_, described_comment⟩
  have failed : misspelt.commentFailure? = some (.unknownTag "oops") :=
    failure_some_iff.mpr misspelt_comment
  have user : unreadable.userDoc = .error (.unknownTag "oops") := by
    rw [← failure_some_iff, user_doc_failure, unreadable, List.findSome?_cons, readable,
      List.findSome?_cons, failed]
  refine ⟨user, (documents_fail_alike unreadable).2.2 _ {} user rfl ?_⟩
  intro function member fields read param documented
  rw [unreadable, List.takeWhile_cons_of_pos (by rw [readable]; rfl),
    List.takeWhile_cons_of_neg (by rw [failed]; simp)] at member
  obtain rfl := List.mem_singleton.mp member
  obtain rfl := Except.ok.inj (described_comment.symm.trans read)
  obtain rfl := List.mem_singleton.mp documented
  decide

end NatSpec
