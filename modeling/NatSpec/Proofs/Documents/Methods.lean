import NatSpec.Proofs.Contract.Overloads
import NatSpec.Proofs.Documents.Failures
import NatSpec.Proofs.Tree.History

set_option autoImplicit false

namespace NatSpec

open Comment Json

def userRecord (fields : Fields) : Dict Tree := member "notice" (textTree? fields.notice)

namespace FunctionDecl

def ownFields? (function : FunctionDecl) : Option Fields :=
  (commentAlone function.comment? .function).toOption

def method? (record : Fields → Dict Tree) (function : FunctionDecl) : Option (String × Tree) :=
  function.ownFields?.bind fun fields =>
    if (record fields).isEmpty then none
    else some (function.callSignature, .object (record fields))

theorem method_keyed {record : Fields → Dict Tree} (blank : record {} = [])
    {function : FunctionDecl} {method : String × Tree}
    (found : function.method? record = some method) :
    function.comment?.isSome ∧ method.1 = function.callSignature := by
  obtain ⟨fields, own, given⟩ := Option.bind_eq_some_iff.mp found
  rw [Option.ite_none_left_eq_some] at given
  obtain ⟨filled, same⟩ := given
  cases same
  refine ⟨?_, rfl⟩
  cases commented : function.comment? with
  | some comment => rfl
  | none =>
    rw [ownFields?, commented] at own
    cases own
    rw [blank] at filled
    exact absurd rfl filled

end FunctionDecl

open FunctionDecl

def methods (record : Fields → Dict Tree) (functions : List FunctionDecl) : List (String × Tree) :=
  functions.filterMap (method? record)

def userTree (methods : Dict Tree) : Tree := .object [("methods", .object methods)]

def devTree (own : Fields) (methods : Dict Tree) : Tree := .object (contractMembers own methods)

theorem notice_methods (functions : List FunctionDecl) :
    ((functions.filterMap documented?).filterMap fun item => entry? (noticeEntry item)) =
      methods userRecord functions := by
  rw [List.filterMap_filterMap]
  refine List.filterMap_congr fun function _ => ?_
  rw [documented?, method?, ownFields?]
  cases function.comment? with
  | none => rfl
  | some comment =>
    rw [Option.map_some, Option.bind_some, noticeEntry, commentAlone]
    cases collect comment .function {} with
    | error error => rfl
    | ok fields =>
      by_cases silent : fields.notice = "" <;>
        simp [Except.map, entry?, Except.toOption, userRecord, textTree?, member, silent]

theorem dev_method_found {function : FunctionDecl} (succeeds : function.devFailure? = none) :
    entry? (devEntry function) = function.method? devRecord := by
  unfold devFailure? devEntry at succeeds
  unfold method? ownFields? devEntry
  cases read : commentAlone function.comment? .function with
  | error error => rfl
  | ok fields =>
    cases named : function.undeclared? fields with
    | some name => simp [read, named, failure?] at succeeds
    | none =>
      simp only [named]
      rfl

theorem dev_methods {functions : List FunctionDecl}
    (succeed : ∀ function ∈ functions, function.devFailure? = none) :
    (functions.filterMap fun function => entry? (devEntry function)) =
      methods devRecord functions :=
  List.filterMap_congr fun function member => dev_method_found (succeed function member)

theorem user_doc_ok_iff (contract : Contract) (text : String) :
    contract.userDoc = .ok text ↔
      (∀ function ∈ contract.functions, function.commentFailure? = none) ∧
        text = (userTree (Dict.ofEntries (methods userRecord contract.functions))).pretty := by
  rw [← List.findSome?_eq_none_iff, Contract.userDoc, user_methods_gather, ← documented_failure,
    ← notice_methods]
  exact gathered_ok_iff noticeEntry _ (fun methods => (userTree methods).pretty) text

theorem dev_doc_ok_iff (contract : Contract) (text : String) :
    contract.devDoc = .ok text ↔ ∃ own, commentAlone contract.comment? .contract = .ok own ∧
      (∀ function ∈ contract.functions, function.devFailure? = none) ∧
        text = (devTree own (Dict.ofEntries (methods devRecord contract.functions))).pretty := by
  rw [Contract.devDoc, own_fields_alone]
  cases commentAlone contract.comment? .contract with
  | error error =>
    refine ⟨fun made => ?_, fun succeeds => ?_⟩
    · cases made
    · obtain ⟨own, read, -⟩ := succeeds
      cases read
  | ok own =>
    have gathered :=
      gathered_ok_iff devEntry contract.functions (fun methods => (devTree own methods).pretty) text
    rw [List.findSome?_eq_none_iff] at gathered
    simp only [devTree, ← contract_members_set] at gathered
    simp only [Except.ok.injEq, exists_eq_left', devTree, ← contract_members_set,
      dev_methods_gather]
    refine gathered.trans (and_congr_right fun succeed => ?_)
    rw [dev_methods succeed]

def commented (functions : List FunctionDecl) : List FunctionDecl :=
  functions.filter (·.comment?.isSome)

theorem methods_keys {record : Fields → Dict Tree} (blank : record {} = [])
    (functions : List FunctionDecl) :
    ((methods record functions).map Prod.fst).Sublist
      ((commented functions).map callSignature) := by
  induction functions with
  | nil => exact .slnil
  | cons function rest ih =>
    cases found : function.method? record with
    | none =>
      rw [methods, List.filterMap_cons_none found]
      exact ih.trans (((List.sublist_cons_self function rest).filter _).map callSignature)
    | some method =>
      obtain ⟨comment, key⟩ := method_keyed blank found
      rw [methods, List.filterMap_cons_some found, commented, List.filter_cons,
        if_pos comment, List.map_cons, List.map_cons, key]
      exact ih.cons_cons _

theorem methods_distinct {record : Fields → Dict Tree} (blank : record {} = [])
    {functions : List FunctionDecl} (distinct : ((commented functions).map callSignature).Nodup) :
    ((methods record functions).map Prod.fst).Nodup :=
  distinct.sublist (methods_keys blank functions)

structure HoldsEach (dict : Dict Tree) (records : List (String × Tree)) : Prop where
  sorted : dict.Sorted
  entries : dict.Perm records

theorem holds_each_method {record : Fields → Dict Tree} (blank : record {} = [])
    {functions : List FunctionDecl} (distinct : ((commented functions).map callSignature).Nodup) :
    HoldsEach (Dict.ofEntries (methods record functions)) (methods record functions) where
  sorted := (Dict.of_entries_collects _).1
  entries := Dict.of_entries_perm (methods_distinct blank distinct)

-- As JSON the text is an object of which `methods` has the records, each once and in order.
def ListsEach (text : String) (records : List (String × Tree)) : Prop :=
  ∃ members listed : Dict Value,
    (∀ value, Denotes text.toList value ↔ value = .object members) ∧ members.Sorted ∧
      members.get? "methods" = some (.object listed) ∧ listed.Sorted ∧
        listed.Perm (memberValues records)

theorem sorted_member_values {members : Dict Tree} (sorted : members.Sorted) :
    Dict.Sorted (memberValues members) := by
  rw [Dict.Sorted, member_values_keys]
  exact sorted

theorem pretty_lists_each {members methods : Dict Tree} {records : List (String × Tree)}
    (sorted : members.Sorted) (found : members.get? "methods" = some (.object methods))
    (each : HoldsEach methods records) : ListsEach (Tree.object members).pretty records := by
  refine ⟨memberValues members, memberValues methods, pretty_denotes _,
    sorted_member_values sorted, ?_, sorted_member_values each.sorted, ?_⟩
  · rw [member_values_get, found]
    rfl
  · rw [member_values_map, member_values_map]
    exact each.entries.map _

theorem sorted_insert_text {members : Dict Tree} (key text : String) (sorted : members.Sorted) :
    (members.insertText key text).Sorted := by
  rw [Dict.insertText]
  split
  · exact sorted
  · exact Dict.sorted_insert key _ members sorted

theorem user_lists_each {methods : Dict Tree} {records : List (String × Tree)}
    (each : HoldsEach methods records) : ListsEach (userTree methods).pretty records :=
  pretty_lists_each (List.pairwise_singleton _ _) rfl each

theorem dev_lists_each (own : Fields) {methods : Dict Tree} {records : List (String × Tree)}
    (each : HoldsEach methods records) : ListsEach (devTree own methods).pretty records := by
  rw [devTree, ← contract_members_set]
  have author := sorted_insert_text "author" own.contractAuthor Dict.sorted_empty
  have title := sorted_insert_text "title" own.title author
  exact pretty_lists_each (Dict.sorted_insert _ _ _ title) (Dict.get?_insert_self _ _ _) each

theorem overloads_all_documented (contract : Contract) (overloads : Overloads contract.functions) :
    (contract.functions.map callSignature).Nodup ∧
    (∀ text, contract.userDoc = .ok text →
      ListsEach text (methods userRecord contract.functions) ∧
        ∃ dict, text = (userTree dict).pretty ∧
          HoldsEach dict (methods userRecord contract.functions)) ∧
    ∀ text, contract.devDoc = .ok text →
      ListsEach text (methods devRecord contract.functions) ∧
        ∃ own dict, commentAlone contract.comment? .contract = .ok own ∧
          text = (devTree own dict).pretty ∧
            HoldsEach dict (methods devRecord contract.functions) := by
  have different := call_signatures_different overloads
  have distinct : ((commented contract.functions).map callSignature).Nodup :=
    different.sublist (List.filter_sublist.map callSignature)
  refine ⟨different, fun text made => ?_, fun text made => ?_⟩
  · obtain ⟨-, rfl⟩ := (user_doc_ok_iff contract text).mp made
    have each : HoldsEach _ (methods userRecord contract.functions) :=
      holds_each_method rfl distinct
    exact ⟨user_lists_each each, _, rfl, each⟩
  · obtain ⟨own, read, -, rfl⟩ := (dev_doc_ok_iff contract text).mp made
    have each : HoldsEach _ (methods devRecord contract.functions) :=
      holds_each_method rfl distinct
    exact ⟨dev_lists_each own each, own, _, read, rfl, each⟩

def transfers : Contract where
  documentation := some "@title Transfers"
  functions := [
    { name := "send", paramNames := ["to", "sum"], paramTypes := ["address", "uint256"],
      documentation := some "Sends\n@param sum the sum" },
    { name := "send", paramNames := ["pair"], paramTypes := ["(address,uint256)"],
      documentation := some "@notice Sends\na pair\n@dev unpacks it" },
    { name := "send", documentation := some "@dev sends all" }]

theorem transfers_overloads : Overloads transfers.functions where
  derived := by decide
  different := by decide
  names := by decide
  types := by decide

theorem transfers_succeed : ∀ function ∈ transfers.functions,
    function.commentFailure? = none ∧ function.devFailure? = none := by
  decide +kernel

theorem transfers_all_documented :
    Overloads transfers.functions ∧
    (∃ text dict, transfers.userDoc = .ok text ∧
      ListsEach text (methods userRecord transfers.functions) ∧
        text = (userTree dict).pretty ∧ HoldsEach dict (methods userRecord transfers.functions)) ∧
    ∃ text own dict, transfers.devDoc = .ok text ∧
      ListsEach text (methods devRecord transfers.functions) ∧
        commentAlone transfers.comment? .contract = .ok own ∧ text = (devTree own dict).pretty ∧
          HoldsEach dict (methods devRecord transfers.functions) := by
  have own : commentAlone transfers.comment? .contract = .ok { title := "Transfers" } := by
    decide +kernel
  have user := (user_doc_ok_iff transfers _).mpr
    ⟨fun function member => (transfers_succeed function member).1, rfl⟩
  have dev := (dev_doc_ok_iff transfers _).mpr
    ⟨_, own, fun function member => (transfers_succeed function member).2, rfl⟩
  obtain ⟨-, userHolds, devHolds⟩ := overloads_all_documented transfers transfers_overloads
  obtain ⟨listed, dict, laid, each⟩ := userHolds _ user
  obtain ⟨listed', own, dict', read, laid', each'⟩ := devHolds _ dev
  exact ⟨transfers_overloads, ⟨_, dict, user, listed, laid, each⟩,
    _, own, dict', dev, listed', read, laid', each'⟩

example : (methods userRecord transfers.functions).map Prod.fst =
    ["send(address,uint256)", "send((address,uint256))"] := by
  decide +kernel

theorem methods_reordered {record : Fields → Dict Tree} (blank : record {} = [])
    {functions other : List FunctionDecl} (perm : other.Perm functions)
    (distinct : ((commented functions).map callSignature).Nodup) :
    Dict.ofEntries (methods record other) = Dict.ofEntries (methods record functions) :=
  Dict.of_entries_reordered (methods_distinct blank distinct) (perm.filterMap _)

theorem function_order_untold (contract : Contract) (functions : List FunctionDecl)
    (perm : functions.Perm contract.functions)
    (distinct : ((commented contract.functions).map callSignature).Nodup) :
    (∀ text, { contract with functions }.userDoc = .ok text ↔ contract.userDoc = .ok text) ∧
    ∀ text, { contract with functions }.devDoc = .ok text ↔ contract.devDoc = .ok text := by
  have alike (holds : FunctionDecl → Prop) :
      (∀ function ∈ functions, holds function) ↔ ∀ function ∈ contract.functions, holds function :=
    forall_congr' fun function => by rw [perm.mem_iff]
  refine ⟨fun text => ?_, fun text => ?_⟩
  · rw [user_doc_ok_iff, user_doc_ok_iff, alike, methods_reordered rfl perm distinct]
  · rw [dev_doc_ok_iff, dev_doc_ok_iff, methods_reordered rfl perm distinct]
    simp only [alike]
    rfl

def ballot : Contract where
  functions := [
    { name := "vote", paramNames := ["choice"], paramTypes := ["uint256"],
      documentation := some "Votes\n@param choice the option" },
    { name := "close", documentation := some "@notice Ends the vote\n@dev only once" },
    { name := "vote", paramTypes := ["uint256"], documentation := some "" }]

theorem ballot_order_untold :
    ballot.functions.reverse.Perm ballot.functions ∧
    ((commented ballot.functions).map callSignature).Nodup ∧
    (∀ text, { ballot with functions := ballot.functions.reverse }.userDoc = .ok text ↔
      ballot.userDoc = .ok text) ∧
    ∀ text, { ballot with functions := ballot.functions.reverse }.devDoc = .ok text ↔
      ballot.devDoc = .ok text :=
  ⟨List.reverse_perm _, by decide,
    function_order_untold ballot ballot.functions.reverse (List.reverse_perm _) (by decide)⟩

end NatSpec
