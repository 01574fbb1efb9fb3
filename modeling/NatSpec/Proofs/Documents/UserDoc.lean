import NatSpec.Documents
import NatSpec.Proofs.Comment.Appending
import NatSpec.Proofs.Documents.Gather

set_option autoImplicit false

namespace NatSpec

open Comment

def FunctionDecl.documented? (function : FunctionDecl) : Option (String × String) :=
  function.comment?.map fun comment => (function.callSignature, comment)

def noticeEntry (documented : String × String) : Except OutputError (Option (String × Tree)) :=
  (collect documented.2 .function {}).map fun fields =>
    if fields.notice = "" then none
    else some (documented.1, .object [("notice", .string fields.notice)])

theorem notice_after_clear_user (base later : Fields) :
    (base.clearUser ++ later).notice = later.notice :=
  String.empty_append

theorem notice_entry_failure (documented : String × String) :
    failure? (noticeEntry documented) = failure? (collect documented.2 .function {}) := by
  unfold noticeEntry
  cases collect documented.2 .function {} <;> rfl

theorem user_methods_gather (functions : List FunctionDecl) (fields : Fields) (methods : Dict Tree) :
    userMethods functions fields methods =
      gather noticeEntry (functions.filterMap FunctionDecl.documented?) methods := by
  induction functions generalizing fields methods with
  | nil => rfl
  | cons function rest ih =>
    rw [userMethods, List.filterMap_cons, FunctionDecl.documented?]
    cases function.comment? with
    | none => exact ih fields methods
    | some comment =>
      simp only [Option.map_some, gather, noticeEntry]
      rw [collect_onto comment .function fields.clearUser]
      cases collect comment .function {} with
      | error error => rfl
      | ok own =>
        simp only [Except.map, notice_after_clear_user]
        by_cases silent : own.notice = ""
        · simp only [if_pos silent]
          exact ih _ methods
        · simp only [if_neg silent]
          exact ih _ _

theorem user_doc_reads_comments_alone (contract : Contract) :
    let documented := contract.functions.filterMap FunctionDecl.documented?
    let notices := documented.filterMap fun item => entry? (noticeEntry item)
    contract.userDoc =
      (match documented.findSome? fun item => failure? (collect item.2 .function {}) with
      | some error => .error error
      | none => .ok (Tree.object [("methods", .object (Dict.ofEntries notices))]).pretty) ∧
    (Dict.ofEntries notices).Collects notices := by
  intro documented notices
  refine ⟨?_, Dict.of_entries_collects notices⟩
  rw [Contract.userDoc, user_methods_gather, gather_all]
  simp only [notice_entry_failure]
  cases documented.findSome? fun item => failure? (collect item.2 .function {}) <;> rfl

end NatSpec
