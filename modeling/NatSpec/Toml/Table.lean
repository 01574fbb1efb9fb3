import NatSpec.Settings.Value

set_option autoImplicit false

namespace NatSpec.Toml

open Settings (Value)

inductive Item where
  | value (value : Value)
  | table (isImplicit dotted : Bool) (members : List (String × Item))
  | tables (elements : List (List (String × Item)))
deriving Inhabited

abbrev Table := Dict Item

def descend {α : Type} (byDottedKey : Bool) (change : Bool → Table → Option (α × Table)) :
    List String → Bool → Table → Option (α × Table)
  | [], dotted, table => change dotted table
  | key :: path, _, table =>
    match table.get? key with
    | none =>
      (descend byDottedKey change path byDottedKey []).map fun (found, inner) =>
        (found, table.insert key (.table true byDottedKey inner))
    | some (.value _) => none
    | some (.table isImplicit dotted members) =>
      if byDottedKey && !isImplicit then none
      else
        (descend byDottedKey change path dotted members).map fun (found, inner) =>
          (found, table.insert key (.table isImplicit dotted inner))
    | some (.tables elements) =>
      match elements.getLast? with
      | none => none
      | some last =>
        (descend byDottedKey change path false last).map fun (found, inner) =>
          (found, table.insert key (.tables (elements.dropLast ++ [inner])))

def setNew? (key : String) (item : Item) (table : Table) : Option Table :=
  if (table.get? key).isSome then none else some (table.insert key item)

def setValue (keys : List String) (value : Value) (table : Table) : Option Table := do
  let key ← keys.getLast?
  let path := keys.dropLast
  let (_, table) ← descend true (fun dotted table =>
    if dotted = path.isEmpty then none
    else (setNew? key (.value value) table).map (((), ·))) path false table
  return table

mutual

def Item.toValue : Item → Value
  | .value value => value
  | .table _ _ members => .map (membersToValue members)
  | .tables elements => .list (elementsToValue elements)

def membersToValue : List (String × Item) → List (String × Value)
  | [] => []
  | (key, item) :: rest => (key, item.toValue) :: membersToValue rest

def elementsToValue : List (List (String × Item)) → List Value
  | [] => []
  | members :: rest => .map (membersToValue members) :: elementsToValue rest

end

structure Draft where
  root : Table
  header : List String
  isElement : Bool
  current : Table

def Draft.start : Draft := ⟨[], [], false, []⟩

def placeTable (key : String) (members table : Table) : Option Table :=
  setNew? key (.table false false members) table

def placeElement (key : String) (members table : Table) : Option Table :=
  match table.get? key with
  | none => some (table.insert key (.tables [members]))
  | some (.tables elements) => some (table.insert key (.tables (elements ++ [members])))
  | some _ => none

def Draft.close (draft : Draft) : Option Table :=
  match draft.header.getLast? with
  | none => some draft.current
  | some key =>
    let place := if draft.isElement then placeElement else placeTable
    (descend false (fun _ table => (place key draft.current table).map (((), ·)))
      draft.header.dropLast false draft.root).map Prod.snd

def takeOpenable (key : String) (table : Table) : Option (Table × Table) :=
  match table.get? key with
  | none => some ([], table)
  | some (.table true false members) => some (members, table.filter (·.1 ≠ key))
  | some _ => none

def Draft.openTable (header : List String) (draft : Draft) : Option Draft := do
  let root ← draft.close
  let key ← header.getLast?
  let (current, root) ← descend false (fun _ => takeOpenable key) header.dropLast false root
  return ⟨root, header, false, current⟩

def allowsElement (key : String) (table : Table) : Bool :=
  match table.get? key with
  | none | some (.tables _) => true
  | some _ => false

def Draft.openElement (header : List String) (draft : Draft) : Option Draft := do
  let root ← draft.close
  let key ← header.getLast?
  let (_, root) ← descend false (fun _ table =>
    if allowsElement key table then some ((), table) else none) header.dropLast false root
  return ⟨root, header, true, []⟩

def Draft.set (keys : List String) (value : Value) (draft : Draft) : Option Draft :=
  (setValue keys value draft.current).map fun current => { draft with current }

end NatSpec.Toml
