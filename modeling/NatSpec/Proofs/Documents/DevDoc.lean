import NatSpec.Documents
import NatSpec.Proofs.Comment.Appending
import NatSpec.Proofs.Documents.Gather

set_option autoImplicit false

namespace NatSpec

open Comment

def commentAlone (comment? : Option String) (owner : Owner) : Except OutputError Fields :=
  match comment? with
  | none => .ok {}
  | some comment => collect comment owner {}

def member (key : String) : Option Tree → Dict Tree
  | none => []
  | some value => [(key, value)]

def textTree? (text : String) : Option Tree := if text = "" then none else some (.string text)

def paramEntries (params : List (String × String)) : List (String × Tree) :=
  params.map fun param => (param.1, .string param.2)

-- A parameter documented more than once keeps its last description.
def paramsTree? (params : List (String × String)) : Option Tree :=
  if params = [] then none else some (.object (Dict.ofEntries (paramEntries params)))

def devRecord (fields : Fields) : Dict Tree :=
  member "author" (textTree? fields.author) ++ member "details" (textTree? fields.dev) ++
    member "params" (paramsTree? fields.params) ++ member "return" (textTree? fields.returns)

def FunctionDecl.undeclared? (function : FunctionDecl) (fields : Fields) : Option String :=
  (fields.params.map Prod.fst).find? (· ∉ function.paramNames)

def devEntry (function : FunctionDecl) : Except OutputError (Option (String × Tree)) :=
  match commentAlone function.comment? .function with
  | .error error => .error error
  | .ok fields =>
    match function.undeclared? fields with
    | some name => .error (.undeclaredParam name function.callSignature)
    | none =>
      .ok (if (devRecord fields).isEmpty then none
        else some (function.callSignature, .object (devRecord fields)))

theorem param_record_all (function : FunctionDecl) (params : List (String × String))
    (record : Dict Tree) :
    paramRecord function params record =
      match (params.map Prod.fst).find? (· ∉ function.paramNames) with
      | some name => .error (.undeclaredParam name function.callSignature)
      | none => .ok (Dict.insertAll (paramEntries params) record) := by
  induction params generalizing record with
  | nil => rfl
  | cons param rest ih =>
    rcases param with ⟨name, description⟩
    rw [paramRecord, List.map_cons, List.find?_cons]
    by_cases declared : name ∈ function.paramNames
    · simp only [declared, if_true, not_true_eq_false, decide_false]
      exact ih _
    · simp only [declared, if_false, not_false_eq_true, decide_true]

def setMember (key : String) (value? : Option Tree) (record : Dict Tree) : Dict Tree :=
  match value? with
  | none => record
  | some value => record.insert key value

theorem insert_text_set (key text : String) (record : Dict Tree) :
    record.insertText key text = setMember key (textTree? text) record := by
  unfold Dict.insertText textTree?
  split <;> rfl

theorem insert_params_set (params : List (String × String)) (record : Dict Tree) :
    (if (Dict.ofEntries (paramEntries params)).isEmpty then record
      else record.insert "params" (.object (Dict.ofEntries (paramEntries params)))) =
      setMember "params" (paramsTree? params) record := by
  have same : (Dict.ofEntries (paramEntries params)).isEmpty = true ↔ params = [] := by
    rw [List.isEmpty_iff, Dict.of_entries_empty_iff, paramEntries, List.map_eq_nil_iff]
  unfold paramsTree?
  by_cases nothing : params = []
  · rw [if_pos (same.mpr nothing), if_pos nothing]
    rfl
  · rw [if_neg (mt same.mp nothing), if_neg nothing]
    rfl

theorem member_below (key : String) (value? : Option Tree) {bound : String} (less : key < bound) :
    (member key value?).Below bound := by
  intro other found
  cases value? with
  | none => cases found
  | some value =>
    rw [List.mem_singleton.mp found]
    exact less

theorem member_above (key : String) (value? : Option Tree) {bound : String} (less : bound < key) :
    (member key value?).Above bound := by
  intro other found
  cases value? with
  | none => cases found
  | some value =>
    rw [List.mem_singleton.mp found]
    exact less

theorem set_member_between (key : String) (value? : Option Tree) (before after : Dict Tree)
    (below : before.Below key) (above : after.Above key) :
    setMember key value? (before ++ after) = before ++ member key value? ++ after := by
  cases value? with
  | none => exact (congrArg (· ++ after) (List.append_nil before)).symm
  | some value =>
    rw [setMember, Dict.insert_between key value before after below above, List.append_assoc]
    rfl

theorem set_member_last (key : String) (value? : Option Tree) (before : Dict Tree)
    (below : before.Below key) :
    setMember key value? before = before ++ member key value? := by
  simpa only [List.append_nil] using set_member_between key value? before [] below nofun

theorem dev_record_set (fields : Fields) :
    (setMember "details" (textTree? fields.dev) Dict.empty |>
      setMember "author" (textTree? fields.author) |>
      setMember "params" (paramsTree? fields.params) |>
      setMember "return" (textTree? fields.returns)) = devRecord fields := by
  have author {bound : String} (less : "author" < bound) :=
    member_below "author" (textTree? fields.author) less
  have details {bound : String} (less : "details" < bound) :=
    member_below "details" (textTree? fields.dev) less
  have setDetails := set_member_last "details" (textTree? fields.dev) [] nofun
  have setAuthor := set_member_between "author" (textTree? fields.author) []
    (member "details" (textTree? fields.dev)) nofun (member_above "details" _ (by decide))
  have belowParams := Dict.below_append "params" _ _ (author (by decide)) (details (by decide))
  have setParams := set_member_last "params" (paramsTree? fields.params) _ belowParams
  have belowReturn := Dict.below_append "return" _ _
    (Dict.below_append "return" _ _ (author (by decide)) (details (by decide)))
    (member_below "params" (paramsTree? fields.params) (by decide))
  have setReturn := set_member_last "return" (textTree? fields.returns) _ belowReturn
  simp only [List.nil_append] at setDetails setAuthor
  rw [Dict.empty, setDetails, setAuthor, setParams, setReturn, devRecord]

theorem method_record_dev (function : FunctionDecl) (fields : Fields) :
    methodRecord function fields =
      match function.undeclared? fields with
      | some name => .error (.undeclaredParam name function.callSignature)
      | none => .ok (devRecord fields) := by
  rw [methodRecord, param_record_all, ← dev_record_set, ← insert_params_set, ← insert_text_set,
    ← insert_text_set, ← insert_text_set]
  unfold FunctionDecl.undeclared?
  cases (fields.params.map Prod.fst).find? (· ∉ function.paramNames) <;> rfl

theorem method_record_after_clear_dev (function : FunctionDecl) (base later : Fields) :
    methodRecord function (base.clearDev ++ later) = methodRecord function later := by
  have dev : (base.clearDev ++ later).dev = later.dev := String.empty_append
  have author : (base.clearDev ++ later).author = later.author := String.empty_append
  have returns : (base.clearDev ++ later).returns = later.returns := String.empty_append
  have params : (base.clearDev ++ later).params = later.params := List.nil_append _
  simp only [methodRecord, dev, author, returns, params]

theorem dev_methods_gather (functions : List FunctionDecl) (fields : Fields) (methods : Dict Tree) :
    devMethods functions fields methods = gather devEntry functions methods := by
  induction functions generalizing fields methods with
  | nil => rfl
  | cons function rest ih =>
    rw [devMethods, gather, devEntry]
    cases function.comment? with
    | none => exact ih fields methods
    | some comment =>
      simp only [commentAlone]
      rw [collect_onto comment .function fields.clearDev]
      cases collect comment .function {} with
      | error error => rfl
      | ok own =>
        simp only [Except.map]
        rw [method_record_after_clear_dev, method_record_dev]
        cases function.undeclared? own with
        | some name => rfl
        | none =>
          by_cases silent : (devRecord own).isEmpty
          · simp only [if_pos silent]
            exact ih _ methods
          · simp only [if_neg silent]
            exact ih _ _

theorem own_fields_alone (contract : Contract) :
    contract.ownFields = commentAlone contract.comment? .contract := by
  unfold Contract.ownFields commentAlone
  cases contract.comment? <;> rfl

def contractMembers (own : Fields) (methods : Dict Tree) : Dict Tree :=
  member "author" (textTree? own.contractAuthor) ++ [("methods", .object methods)] ++
    member "title" (textTree? own.title)

theorem contract_members_set (own : Fields) (methods : Dict Tree) :
    (Dict.empty.insertText "author" own.contractAuthor |>.insertText "title" own.title).insert
      "methods" (.object methods) = contractMembers own methods := by
  have author {bound : String} (less : "author" < bound) :=
    member_below "author" (textTree? own.contractAuthor) less
  have setAuthor := set_member_last "author" (textTree? own.contractAuthor) [] nofun
  have setTitle := set_member_last "title" (textTree? own.title) _ (author (by decide))
  have setMethods := Dict.insert_between "methods" (.object methods) _ _ (author (by decide))
    (member_above "title" (textTree? own.title) (by decide))
  rw [insert_text_set, insert_text_set, Dict.empty, setAuthor, List.nil_append, setTitle, setMethods,
    contractMembers, List.append_assoc]
  rfl

theorem dev_doc_reads_comments_alone (contract : Contract) :
    contract.devDoc =
      (match commentAlone contract.comment? .contract with
      | .error error => .error error
      | .ok own =>
        match contract.functions.findSome? fun function => failure? (devEntry function) with
        | some error => .error error
        | none =>
          let records := contract.functions.filterMap fun function => entry? (devEntry function)
          .ok (Tree.object (contractMembers own (Dict.ofEntries records))).pretty) ∧
    ∀ entries : List (String × Tree), (Dict.ofEntries entries).Collects entries := by
  refine ⟨?_, Dict.of_entries_collects⟩
  rw [Contract.devDoc, own_fields_alone]
  cases commentAlone contract.comment? .contract with
  | error error => rfl
  | ok own =>
    simp only [dev_methods_gather, gather_all, ← contract_members_set]
    cases contract.functions.findSome? fun function => failure? (devEntry function) <;> rfl

end NatSpec
