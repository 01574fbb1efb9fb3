import NatSpec.Proofs.Contract.RoundTrip
import NatSpec.Proofs.Json.ChangedRecords

set_option autoImplicit false

namespace NatSpec

open Json

section suits

variable {α β γ : Type} {name name' : String} {required required' : Bool} {reader : Reader β}
  {reader' : Reader γ} {set : β → α → α} {set' : γ → α → α}

theorem fits_next {listed : List (Member α)} {change : Change} {fields : List (String × Change)}
    (ignores : Ignores reader change) (fits : Fits listed fields) :
    Fits (⟨name, required, reader.map set⟩ :: listed) ((name, change) :: fields) :=
  .cons ⟨rfl, ignores_map set ignores⟩ fits

theorem apart_sets (commutes : ∀ x y record, set x (set' y record) = set' y (set x record)) :
    Apart ⟨name, required, reader.map set⟩ ⟨name', required', reader'.map set'⟩ := by
  rintro f g ⟨_, _, read⟩ ⟨_, _, read'⟩ record
  obtain ⟨x, rfl, _⟩ := map_read read
  obtain ⟨y, rfl, _⟩ := map_read read'
  exact commutes x y record

end suits

def plainFields (names : List String) : List (String × Change) :=
  names.map fun name => (name, .none)

def FunctionDecl.fields : List (String × Change) :=
  plainFields ["name", "constant", "parameterNames", "parameterTypes", "returnParameterNames",
    "returnParameterTypes", "signature", "documentation"]

def ConstructorDecl.fields : List (String × Change) :=
  plainFields ["parameterNames", "parameterTypes"]

def EventParam.fields : List (String × Change) := plainFields ["name", "type", "indexed"]

def EventDecl.fields : List (String × Change) :=
  plainFields ["name", "anonymous"] ++ [("parameters", .list (.record EventParam.fields))]

def MemberDecl.fields : List (String × Change) := plainFields ["name", "type"]

def StructDecl.fields : List (String × Change) :=
  plainFields ["name"] ++ [("members", .list (.record MemberDecl.fields))]

def EnumDecl.fields : List (String × Change) := plainFields ["name", "values"]

def Contract.fields : List (String × Change) :=
  plainFields ["name", "isLibrary", "documentation"] ++
    [("constructor", .record ConstructorDecl.fields),
      ("functions", .list (.record FunctionDecl.fields)),
      ("events", .list (.record EventDecl.fields)),
      ("structs", .list (.record StructDecl.fields)),
      ("enums", .list (.record EnumDecl.fields))]

-- One description is the other but for the order of members, unknown members and white space.
def Restyled (text other : String) : Prop :=
  ∃ form changed, Formed text.toList form ∧ Formed other.toList changed ∧
    Perhaps (.record Contract.fields) form changed

theorem ignores_texts : Ignores (.list .string) .none := ignores_items ignores_string

theorem ignores_text? : Ignores (.nullable .string) .none :=
  ignores_nullable (fun _ _ impossible => impossible.elim) ignores_string

theorem function_suits : Suits FunctionDecl.shape FunctionDecl.fields := by
  refine ⟨?_, by decide, ?_⟩
  · apply fits_next ignores_string
    apply fits_next ignores_bool
    apply fits_next ignores_texts
    apply fits_next ignores_texts
    apply fits_next ignores_texts
    apply fits_next ignores_texts
    apply fits_next ignores_string
    apply fits_next ignores_text?
    exact .nil
  · simp only [FunctionDecl.shape, List.pairwise_cons, List.forall_mem_cons]
    and_intros
    all_goals first | exact apart_sets fun _ _ _ => rfl | exact List.forall_mem_nil _ | exact .nil

theorem constructor_suits : Suits ConstructorDecl.shape ConstructorDecl.fields := by
  refine ⟨?_, by decide, ?_⟩
  · apply fits_next ignores_texts
    apply fits_next ignores_texts
    exact .nil
  · simp only [ConstructorDecl.shape, List.pairwise_cons, List.forall_mem_cons]
    and_intros
    all_goals first | exact apart_sets fun _ _ _ => rfl | exact List.forall_mem_nil _ | exact .nil

theorem event_param_suits : Suits EventParam.shape EventParam.fields := by
  refine ⟨?_, by decide, ?_⟩
  · apply fits_next ignores_string
    apply fits_next ignores_string
    apply fits_next ignores_bool
    exact .nil
  · simp only [EventParam.shape, List.pairwise_cons, List.forall_mem_cons]
    and_intros
    all_goals first | exact apart_sets fun _ _ _ => rfl | exact List.forall_mem_nil _ | exact .nil

theorem event_suits : Suits EventDecl.shape EventDecl.fields := by
  refine ⟨?_, by decide, ?_⟩
  · apply fits_next ignores_string
    apply fits_next ignores_bool
    apply fits_next (ignores_list (ignores_record event_param_suits))
    exact .nil
  · simp only [EventDecl.shape, List.pairwise_cons, List.forall_mem_cons]
    and_intros
    all_goals first | exact apart_sets fun _ _ _ => rfl | exact List.forall_mem_nil _ | exact .nil

theorem member_suits : Suits MemberDecl.shape MemberDecl.fields := by
  refine ⟨?_, by decide, ?_⟩
  · apply fits_next ignores_string
    apply fits_next ignores_string
    exact .nil
  · simp only [MemberDecl.shape, List.pairwise_cons, List.forall_mem_cons]
    and_intros
    all_goals first | exact apart_sets fun _ _ _ => rfl | exact List.forall_mem_nil _ | exact .nil

theorem struct_suits : Suits StructDecl.shape StructDecl.fields := by
  refine ⟨?_, by decide, ?_⟩
  · apply fits_next ignores_string
    apply fits_next (ignores_list (ignores_record member_suits))
    exact .nil
  · simp only [StructDecl.shape, List.pairwise_cons, List.forall_mem_cons]
    and_intros
    all_goals first | exact apart_sets fun _ _ _ => rfl | exact List.forall_mem_nil _ | exact .nil

theorem enum_suits : Suits EnumDecl.shape EnumDecl.fields := by
  refine ⟨?_, by decide, ?_⟩
  · apply fits_next ignores_string
    apply fits_next ignores_texts
    exact .nil
  · simp only [EnumDecl.shape, List.pairwise_cons, List.forall_mem_cons]
    and_intros
    all_goals first | exact apart_sets fun _ _ _ => rfl | exact List.forall_mem_nil _ | exact .nil

theorem contract_suits : Suits Contract.shape Contract.fields := by
  refine ⟨?_, by decide, ?_⟩
  · apply fits_next ignores_string
    apply fits_next ignores_bool
    apply fits_next ignores_text?
    apply fits_next (ignores_nullable (fun _ _ => record_filled) (ignores_record constructor_suits))
    apply fits_next (ignores_list (ignores_record function_suits))
    apply fits_next (ignores_list (ignores_record event_suits))
    apply fits_next (ignores_list (ignores_record struct_suits))
    apply fits_next (ignores_list (ignores_record enum_suits))
    exact .nil
  · simp only [Contract.shape, List.pairwise_cons, List.forall_mem_cons]
    and_intros
    all_goals first | exact apart_sets fun _ _ _ => rfl | exact List.forall_mem_nil _ | exact .nil

theorem restyled_read_alike {text other : String} {contract : Contract}
    (read : Contract.ofJson text = .ok contract) (restyled : Restyled text other) :
    Contract.ofJson other = .ok contract := by
  obtain ⟨form, changed, formed, otherFormed, perhaps⟩ := restyled
  obtain ⟨rest, starts, nothing⟩ := formed_starts formed
  obtain ⟨otherRest, otherStarts, otherNothing⟩ := formed_starts otherFormed
  unfold Contract.ofJson Json.read at read
  split at read
  · cases read
  · rename_i value after _ found
    split at read
    · cases read
      have gives : Gives Contract.shape.reader form contract := ⟨_, rest, _, starts, found⟩
      obtain ⟨shorter, meant⟩ :=
        ignores_record contract_suits form changed contract perhaps gives _ _ otherStarts
      rw [Contract.ofJson, Json.read, meant]
      exact if_pos otherNothing
    · cases read

def poll : Contract := { name := "Poll", enums := [{ name := "Vote", values := ["aye"] }] }

def valuesText : List Char := "\"values\":[\"aye\"]".toList

def strangeText : List Char := "\"\\ud83d\\udcb0\":[1e999,\"\\ud800\"]".toList

def pollText : String :=
  .ofList ("\x7b\"name\":\"Poll\",\"enums\":[\x7b\"name\":\"Vote\",".toList ++
    (valuesText ++ "\x7d]\x7d".toList))

def otherPollText : String :=
  .ofList ("\x7b\"enums\":[\x7b".toList ++ (strangeText ++ (",".toList ++ (valuesText ++
    ",\"name\":\"Vote\"\x7d],\n\"name\" : \"Poll\"\x7d ".toList))))

def textMember (key text : String) : List Char × Form := (key.toList, .string text.toList)

def valuesMember : List Char × Form := ("values".toList, .array [.string "aye".toList])

def strangeMember : List Char × Form :=
  ("\\ud83d\\udcb0".toList, .array [.number "1e999".toList, .string "\\ud800".toList])

def enumsMember (enum : List (List Char × Form)) : List Char × Form :=
  ("enums".toList, .array [.object enum])

def pollForm : Form :=
  .object [textMember "name" "Poll", enumsMember [textMember "name" "Vote", valuesMember]]

def otherPollForm : Form :=
  .object [enumsMember [strangeMember, valuesMember, textMember "name" "Vote"],
    textMember "name" "Poll"]

theorem values_named (rest : List Char) :
    Named Takes (valuesText ++ rest) valuesMember rest :=
  .intro (quotable_plain rfl) rfl .none .none <| .array <|
    .first .none (.string (quotable_plain rfl) rfl) <| .closed .none

theorem strange_named (rest : List Char) :
    Named Takes (strangeText ++ rest) strangeMember rest := by
  have number : IsNumber "1e999".toList := by
    refine ⟨[], ['1'], [], ['e', '9', '9', '9'], rfl, .inl rfl, .inr ?_, .inl rfl, .inr ?_⟩
    · exact ⟨⟨List.cons_ne_nil _ _, List.all_eq_true.mp rfl⟩, by decide⟩
    · exact ⟨'e', [], ['9', '9', '9'], rfl, .inl rfl, .inl rfl, List.cons_ne_nil _ _,
        List.all_eq_true.mp rfl⟩
  exact .intro (.code rfl (.code rfl .nil)) rfl .none .none <| .array <|
    .first .none (.number number rfl) <|
    .later .none .none (.string (.code rfl .nil) rfl) <| .closed .none

theorem formed_text {chars : List Char} {form : Form} (formed : Formed chars form) :
    Formed (String.ofList chars).toList form := by
  rwa [String.toList_ofList]

theorem poll_formed : Formed pollText.toList pollForm := by
  refine formed_text ⟨_, _, .none, .object ?_, .none⟩
  exact
    .first .none (.intro (quotable_plain rfl) rfl .none .none <|
      .string (quotable_plain rfl) rfl) <|
    .later .none .none (.intro (quotable_plain rfl) rfl .none .none <| .array <|
      .first .none (.object <|
        .first .none (.intro (quotable_plain rfl) rfl .none .none <|
          .string (quotable_plain rfl) rfl) <|
        .later .none .none (values_named _) <| .closed .none) <|
      .closed .none) <|
    .closed .none

theorem other_poll_formed : Formed otherPollText.toList otherPollForm := by
  refine formed_text ⟨_, [' '], .none, .object ?_, .more rfl .none⟩
  exact
    .first .none (.intro (quotable_plain rfl) rfl .none .none <| .array <|
      .first .none (.object <|
        .first .none (strange_named _) <|
        .later .none .none (values_named _) <|
        .later .none .none (.intro (quotable_plain rfl) rfl .none .none <|
          .string (quotable_plain rfl) rfl) <| .closed .none) <|
      .closed .none) <|
    .later .none (.more rfl .none) (.intro (quotable_plain rfl) rfl (.more rfl .none)
      (.more rfl .none) <| .string (quotable_plain rfl) rfl) <|
    .closed .none

theorem strange_unknown : Unknown EnumDecl.fields strangeMember :=
  ⟨[surrogatePair 0xd83d 0xdcb0], .pair rfl rfl rfl rfl .close, by decide⟩

theorem poll_restyled : Restyled pollText otherPollText := by
  refine ⟨pollForm, otherPollForm, poll_formed, other_poll_formed, .inr ?_⟩
  have enum : Change.record EnumDecl.fields (.object [textMember "name" "Vote", valuesMember])
      (.object [strangeMember, valuesMember, textMember "name" "Vote"]) :=
    .members (List.forall₂_same.mpr fun _ _ => .kept)
      (fun _ listed => List.mem_singleton.mp listed ▸ strange_unknown)
      (List.reverse_perm [textMember "name" "Vote", valuesMember, strangeMember])
  have enums : MemberChange Contract.fields (enumsMember [textMember "name" "Vote", valuesMember])
      (enumsMember [strangeMember, valuesMember, textMember "name" "Vote"]) :=
    .changed (decodes_plain rfl)
      (List.mem_append_right _ (List.mem_of_getLast? rfl)) (.intro (.cons (.inr enum) .nil))
  exact .members (.cons .kept (.cons enums .nil)) (List.forall_mem_nil _) (List.reverse_perm
    [textMember "name" "Poll", enumsMember [strangeMember, valuesMember, textMember "name" "Vote"]])

theorem other_poll_read :
    Contract.ofJson pollText = .ok poll ∧ Restyled pollText otherPollText ∧
      Contract.ofJson otherPollText = .ok poll := by
  have read : Contract.ofJson pollText = .ok poll := by decide +kernel
  exact ⟨read, poll_restyled, restyled_read_alike read poll_restyled⟩

end NatSpec
