import NatSpec.Dict
import NatSpec.Settings.Value

set_option autoImplicit false

namespace NatSpec.Settings

def wrapperKey : String := "___figment_value_value"

def tagKey : String := "___figment_value_id"

mutual

def Value.unwrapped? : Value → Option Value
  | .list items => (unwrappedItems? items).map .list
  | .map members =>
    match unwrappedMembers? members with
    | none => none
    | some members => some ((members.lookup wrapperKey).getD (.map members))
  | value => some value

def unwrappedItems? : List Value → Option (List Value)
  | [] => some []
  | item :: rest =>
    match item.unwrapped?, unwrappedItems? rest with
    | some item, some rest => some (item :: rest)
    | _, _ => none

def unwrappedMembers? : List (String × Value) → Option (List (String × Value))
  | [] => some []
  | (key, value) :: rest =>
    match value.unwrapped?, unwrappedMembers? rest with
    | some value, some rest => if key = tagKey then none else some ((key, value) :: rest)
    | _, _ => none

end

def unwrappedFile? : Dict Value → Option (Dict Value)
  | [] => some []
  | (key, value) :: rest =>
    match value.unwrapped?, unwrappedFile? rest with
    | some value, some rest => some ((key, value) :: rest)
    | _, _ => none

end NatSpec.Settings
