import NatSpec.Settings.LoadError
import NatSpec.Settings.Variable

set_option autoImplicit false

namespace NatSpec

abbrev Environment := List (String × String)

namespace Settings

def afterPrefix? (name : String) : Option String :=
  let chars := Text.trimChars name.toList
  if variablePrefix.toLower.toList.isPrefixOf (chars.map Char.toLower) then
    some (.ofList (Text.trimChars (chars.drop variablePrefix.length)))
  else none

def dotted : List Char → List (List Char)
  | [] => [[]]
  | c :: rest =>
    match c, dotted rest with
    | '.', parts => [] :: parts
    | c, first :: others => (c :: first) :: others
    | c, [] => [[c]]

def keyPath? (name : String) : Option (List String) := do
  let key ← afterPrefix? name
  let parts := dotted key.toLower.toList
  if parts.contains [] then none else return parts.map String.ofList

def nested : List String → Value → Value
  | [], value => value
  | key :: rest, value => .map [(key, nested rest value)]

def ofEnvironment (env : Environment) : Dict Value :=
  env.foldl (fun members (name, text) =>
    match keyPath? name with
    | some (key :: rest) => members.insert key (nested rest (.ofVariable text))
    | _ => members) .empty

def environmentOf (block : String) : Environment :=
  (block.splitOn "\x00").filterMap fun entry =>
    match entry.splitOn "=" with
    | name :: value :: rest => some (name, "=".intercalate (value :: rest))
    | _ => none

end Settings

end NatSpec
