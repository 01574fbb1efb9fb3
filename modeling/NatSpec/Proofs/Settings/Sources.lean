import Mathlib.Data.List.Induction
import NatSpec.Settings.Environment
import NatSpec.Settings.Wrapped

set_option autoImplicit false

namespace NatSpec.Settings

mutual

def Value.tagged : Value → Bool
  | .list items => itemsTagged items
  | .map members => membersTagged members
  | _ => false

def itemsTagged : List Value → Bool
  | [] => false
  | item :: rest => item.tagged || itemsTagged rest

def membersTagged : List (String × Value) → Bool
  | [] => false
  | (key, value) :: rest => key = tagKey || value.tagged || membersTagged rest

end

-- Whether the key of a tag is in a table below the top level of the file.
def fileTagged (file : Dict Value) : Bool := file.any fun entry => entry.2.tagged

mutual

theorem unwrapped_is_none (value : Value) : value.unwrapped?.isNone = value.tagged := by
  cases value with
  | list items =>
    rw [Value.unwrapped?, Value.tagged, Option.isNone_map]
    exact unwrapped_items_is_none items
  | map members =>
    have inner := unwrapped_members_is_none members
    rw [Value.unwrapped?, Value.tagged, ← inner]
    cases unwrappedMembers? members <;> rfl
  | _ => rfl

theorem unwrapped_items_is_none (items : List Value) :
    (unwrappedItems? items).isNone = itemsTagged items := by
  cases items with
  | nil => rfl
  | cons item rest =>
    rw [unwrappedItems?, itemsTagged, ← unwrapped_is_none item, ← unwrapped_items_is_none rest]
    cases item.unwrapped? <;> cases unwrappedItems? rest <;> rfl

theorem unwrapped_members_is_none (members : List (String × Value)) :
    (unwrappedMembers? members).isNone = membersTagged members := by
  cases members with
  | nil => rfl
  | cons member rest =>
    rcases member with ⟨key, value⟩
    rw [unwrappedMembers?, membersTagged, ← unwrapped_is_none value,
      ← unwrapped_members_is_none rest]
    cases value.unwrapped? <;> cases unwrappedMembers? rest <;> by_cases tag : key = tagKey <;>
      simp [tag]

end

theorem unwrapped_file_is_none (file : Dict Value) :
    (unwrappedFile? file).isNone = fileTagged file := by
  induction file with
  | nil => rfl
  | cons entry rest ih =>
    rcases entry with ⟨key, value⟩
    rw [unwrappedFile?, fileTagged, List.any_cons, ← unwrapped_is_none value, ← fileTagged, ← ih]
    cases value.unwrapped? <;> cases unwrappedFile? rest <;> rfl

def fileValue? (key : String) (file : Dict Value) : Option Value :=
  (file.get? key).bind Value.unwrapped?

theorem unwrapped_file_get {file members : Dict Value}
    (unwrapped : unwrappedFile? file = some members) (key : String) :
    members.get? key = fileValue? key file := by
  induction file generalizing members with
  | nil =>
    obtain rfl := Option.some.inj unwrapped
    rfl
  | cons entry rest ih =>
    rcases entry with ⟨head, value⟩
    rw [unwrappedFile?] at unwrapped
    cases here : value.unwrapped? with
    | none => simp [here] at unwrapped
    | some inner =>
      cases onward : unwrappedFile? rest with
      | none => simp [here, onward] at unwrapped
      | some later =>
        simp only [here, onward, Option.some.injEq] at unwrapped
        subst unwrapped
        have tail := ih onward
        rw [fileValue?] at tail ⊢
        by_cases same : key = head
        · rw [Dict.get?, Dict.get?, if_pos same, if_pos same, Option.bind_some, here]
        · rw [Dict.get?, Dict.get?, if_neg same, if_neg same, tail]

theorem file_value_is_some {file : Dict Value} (untagged : fileTagged file = false) (key : String) :
    (fileValue? key file).isSome = (file.get? key).isSome := by
  induction file with
  | nil => rfl
  | cons entry rest ih =>
    rcases entry with ⟨head, value⟩
    rw [fileTagged, List.any_cons, Bool.or_eq_false_iff] at untagged
    have later := ih untagged.2
    rw [fileValue?] at later ⊢
    by_cases same : key = head
    · have whole : value.unwrapped?.isSome = true := by
        rw [← Option.not_isNone, unwrapped_is_none, untagged.1]
        rfl
      rw [Dict.get?, if_pos same, Option.bind_some, whole, Option.isSome_some]
    · rw [Dict.get?, if_neg same, later]

def variableKey? (name : String) : Option String := (afterPrefix? name).map String.toLower

-- The value that the last variable for the key gives to it.
def variableValue? (key : String) (env : Environment) : Option Value :=
  (env.filter fun entry => variableKey? entry.1 = some key).getLast?.map fun entry =>
    .ofVariable entry.2

theorem trimmed_mem {c : Char} {text : List Char} (member : c ∈ Text.trimChars text) :
    c ∈ text := by
  rw [Text.trimChars, Text.trimEnd, List.mem_reverse] at member
  exact (List.dropWhile_sublist _).subset
    (List.mem_reverse.mp ((List.dropWhile_sublist _).subset member))

theorem lower_dot {c : Char} (dot : c.toLower = '.') : c = '.' := by
  by_cases upper : c.val ≥ 'A'.val ∧ c.val ≤ 'Z'.val
  · have lower : c.toLower.val = c.val + ('a'.val - 'A'.val) := congrArg Char.val (dif_pos upper)
    have code := congrArg UInt32.toNat ((congrArg Char.val dot).symm.trans lower)
    have low := UInt32.le_iff_toNat_le.mp upper.1
    have high := UInt32.le_iff_toNat_le.mp upper.2
    simp at code low high
    omega
  · exact (dif_neg upper : c.toLower = c).symm.trans dot

theorem dotted_plain {text : List Char} (plain : '.' ∉ text) : dotted text = [text] := by
  induction text with
  | nil => rfl
  | cons c rest ih =>
    have different : c ≠ '.' := fun same => plain (same ▸ List.mem_cons_self ..)
    have parts := ih fun inside => plain (List.mem_cons_of_mem c inside)
    simp [dotted, parts]

theorem variable_key_plain {name key : String} (plain : '.' ∉ name.toList)
    (sets : variableKey? name = some key) : '.' ∉ key.toList := by
  obtain ⟨rest, after, rfl⟩ := Option.map_eq_some_iff.mp sets
  rw [afterPrefix?] at after
  split at after
  · obtain rfl := Option.some.inj after
    intro dot
    change '.' ∈ (String.map Char.toLower _).toList at dot
    rw [String.toList_map, String.toList_ofList] at dot
    obtain ⟨c, member, lower⟩ := List.mem_map.mp dot
    exact plain (lower_dot lower ▸ trimmed_mem (List.mem_of_mem_drop (trimmed_mem member)))
  · cases after

theorem key_path_plain {name : String}
    (plain : (variableKey? name).isSome → '.' ∉ name.toList) :
    keyPath? name = (variableKey? name).bind fun key => if key = "" then none else some [key] := by
  cases after : afterPrefix? name with
  | none => rw [keyPath?, variableKey?, after]; rfl
  | some rest =>
    have sets : variableKey? name = some rest.toLower := by rw [variableKey?, after]; rfl
    have parts := dotted_plain (variable_key_plain (plain (by rw [sets]; rfl)) sets)
    rw [sets, keyPath?, after]
    simp [parts]

def Undotted (env : Environment) : Prop :=
  ∀ entry ∈ env, (variableKey? entry.1).isSome → '.' ∉ entry.1.toList

theorem of_environment_get {key : String} (named : key ≠ "") {env : Environment}
    (plain : Undotted env) :
    (ofEnvironment env).get? key = variableValue? key env := by
  induction env using List.reverseRecOn with
  | nil => rfl
  | append_singleton earlier entry ih =>
    have before := ih fun other member => plain other (List.mem_append_left _ member)
    have path := key_path_plain (plain entry (List.mem_append_right _ (List.mem_singleton_self _)))
    rw [ofEnvironment, List.foldl_append, ← ofEnvironment, variableValue?, List.filter_append]
    rw [variableValue?] at before
    cases sets : variableKey? entry.1 with
    | none => simp [path, sets, before]
    | some other =>
      by_cases same : other = key
      · subst same
        simp [path, sets, named, Dict.get?_insert, nested]
      · by_cases empty : other = ""
        · simp [path, sets, empty, before, Ne.symm named]
        · simp [path, sets, empty, before, same, Ne.symm same, Dict.get?_insert]

end NatSpec.Settings
