import NatSpec.Proofs.Dict
import NatSpec.Proofs.Outcome
import NatSpec.Tree

set_option autoImplicit false

namespace NatSpec

variable {α : Type}

def entry? : Except OutputError (Option (String × Tree)) → Option (String × Tree)
  | .error _ => none
  | .ok entry => entry

def gather (read : α → Except OutputError (Option (String × Tree))) :
    List α → Dict Tree → Except OutputError (Dict Tree)
  | [], records => .ok records
  | item :: rest, records =>
    match read item with
    | .error error => .error error
    | .ok none => gather read rest records
    | .ok (some (key, record)) => gather read rest (records.insert key record)

theorem gather_all (read : α → Except OutputError (Option (String × Tree))) (items : List α)
    (records : Dict Tree) :
    gather read items records =
      match items.findSome? fun item => failure? (read item) with
      | some error => .error error
      | none => .ok (Dict.insertAll (items.filterMap fun item => entry? (read item)) records) := by
  induction items generalizing records with
  | nil => rfl
  | cons item rest ih =>
    rw [gather, List.findSome?_cons, List.filterMap_cons]
    cases read item with
    | error error => rfl
    | ok entry =>
      cases entry with
      | none => exact ih records
      | some entry => exact ih _

theorem gathered_ok_iff (read : α → Except OutputError (Option (String × Tree))) (items : List α)
    (lay : Dict Tree → String) (text : String) :
    (do let records ← gather read items Dict.empty; return lay records) = .ok text ↔
      (items.findSome? fun item => failure? (read item)) = none ∧
        text = lay (Dict.ofEntries (items.filterMap fun item => entry? (read item))) := by
  rw [gather_all]
  cases items.findSome? fun item => failure? (read item) with
  | some error =>
    refine ⟨fun made => ?_, fun succeeds => ?_⟩
    · cases made
    · cases succeeds.1
  | none => exact ⟨fun made => ⟨rfl, (Except.ok.inj made).symm⟩, fun made => congrArg _ made.2.symm⟩

end NatSpec
