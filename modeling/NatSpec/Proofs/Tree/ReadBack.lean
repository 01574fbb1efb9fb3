import Mathlib.Data.List.Forall2
import NatSpec.Proofs.Dict
import NatSpec.Proofs.Json.Grammar
import NatSpec.Proofs.Json.Strings
import NatSpec.Tree.Layout

set_option autoImplicit false

namespace NatSpec

open Json

mutual

def Tree.value : Tree → Value
  | .object members => .object (memberValues members)
  | .array items => .array (itemValues items)
  | .string text => .string text
  | .bool value => .bool value

def itemValues : List Tree → List Value
  | [] => []
  | item :: rest => item.value :: itemValues rest

def memberValues : List (String × Tree) → List (String × Value)
  | [] => []
  | (key, member) :: rest => (key, member.value) :: memberValues rest

end

mutual

theorem value_injective : ∀ left right : Tree, left.value = right.value → left = right
  | .object members, .object others, same => by
    rw [member_values_injective members others (Value.object.inj same)]
  | .array items, .array others, same => by
    rw [item_values_injective items others (Value.array.inj same)]
  | .string text, .string other, same => by rw [Value.string.inj same]
  | .bool value, .bool other, same => by rw [Value.bool.inj same]

theorem item_values_injective :
    ∀ left right : List Tree, itemValues left = itemValues right → left = right
  | [], [], _ => rfl
  | item :: rest, other :: others, same => by
    obtain ⟨head, tail⟩ := List.cons.inj same
    rw [value_injective item other head, item_values_injective rest others tail]

theorem member_values_injective :
    ∀ left right : List (String × Tree), memberValues left = memberValues right → left = right
  | [], [], _ => rfl
  | (key, member) :: rest, (key', other) :: others, same => by
    obtain ⟨head, tail⟩ := List.cons.inj same
    obtain ⟨rfl, value⟩ := Prod.mk.inj head
    rw [value_injective member other value, member_values_injective rest others tail]

end

namespace Json

def Writes {α : Type} (part : List Char → α → List Char → Prop) (text : List Char) (a : α) : Prop :=
  ∀ rest, part (text ++ rest) a rest

def AllBlank (text : List Char) : Prop := ∀ c ∈ text, isBlank c = true

theorem blank_nil : AllBlank [] := fun _ absent => nomatch absent

theorem blanks_append {blank : List Char} (all : AllBlank blank) (rest : List Char) :
    Blanks (blank ++ rest) rest := by
  induction blank with
  | nil => exact .none
  | cons c tail ih =>
    have blank := all c (List.mem_cons_self ..)
    exact .more blank (ih fun d later => all d (List.mem_cons_of_mem _ later))

theorem escape_char_spelled {s text rest : List Char} (c : Char)
    (body : StringBody s text rest) : StringBody (escapeChar c ++ s) (c :: text) rest := by
  rcases escape_char_cases c with
    ⟨mark, marked, written⟩ | ⟨control, written⟩ | ⟨quote, backslash, printable, written⟩
  · rw [written]
    exact .short marked body
  · obtain ⟨notLeading, notTrailing⟩ := control_not_surrogate c.toNat control
    have coded := StringBody.code (hex_digits_value c.toNat control) notLeading notTrailing body
    rw [Char.ofNat_toNat] at coded
    rw [written]
    exact coded
  · rw [written]
    exact .plain quote backslash printable body

theorem string_body_spelled (text rest : List Char) :
    StringBody (escape text ++ '"' :: rest) text rest := by
  induction text with
  | nil => exact .close
  | cons c text ih =>
    rw [escape_cons, List.append_assoc]
    exact escape_char_spelled c ih

theorem string_writes (text : String) : Writes Spells (writtenString text) (.string text) := by
  intro rest
  have spelled := Spells.string (string_body_spelled text.toList rest)
  rw [String.ofList_toList] at spelled
  simpa only [writtenString, List.cons_append, List.append_assoc, List.nil_append] using spelled

theorem bool_writes (value : Bool) : Writes Spells (writtenBool value) (.bool value) := by
  intro rest
  cases value with
  | true => exact .yes
  | false => exact .no

theorem member_writes {blank text : List Char} {value : Value} (key : String)
    (all : AllBlank blank) (writes : Writes Spells text value) :
    Writes (Keyed Spells) (writtenString key ++ ':' :: (blank ++ text)) (key, value) := by
  intro rest
  have spelled := Keyed.intro (string_body_spelled key.toList (':' :: (blank ++ (text ++ rest))))
    .none (blanks_append all _) (writes rest)
  rw [String.ofList_toList] at spelled
  simpa only [writtenString, List.cons_append, List.append_assoc, List.nil_append] using spelled

section listed

variable {α : Type} {part : List Char → α → List Char → Prop} {closing : Char}

theorem listed_joined (closing : Char) {texts : List (List Char)} {as : List α}
    {before between after : List Char}
    (written : List.Forall₂ (Writes part) texts as) (filled : texts ≠ [])
    (blankBefore : AllBlank before) (blankBetween : AllBlank between)
    (blankAfter : AllBlank after) (rest : List Char) :
    Listed part closing
      (before ++ ((',' :: between).intercalate texts ++ (after ++ closing :: rest))) as rest := by
  induction written generalizing before with
  | nil => exact absurd rfl filled
  | @cons text a texts as writes others ih =>
    cases others with
    | nil =>
      rw [List.intercalate_singleton]
      exact .last (blanks_append blankBefore _) (writes _) (blanks_append blankAfter _)
    | cons next others =>
      rw [List.intercalate_cons_cons]
      simp only [List.append_assoc, List.cons_append]
      refine .more (blanks_append blankBefore _) (writes _) .none ?_
      exact ih (List.cons_ne_nil _ _) blankBetween

inductive Laid (closing : Char) : List (List Char) → List Char → Prop
  | closed : Laid closing [] [closing]
  | filled {texts : List (List Char)} {before between after : List Char} : texts ≠ [] →
      AllBlank before → AllBlank between → AllBlank after →
      Laid closing texts (before ++ ((',' :: between).intercalate texts ++ (after ++ [closing])))

theorem commas_laid (closing : Char) (texts : List (List Char)) :
    Laid closing texts (commas texts ++ [closing]) := by
  by_cases filled : texts = []
  · rw [filled]
    exact .closed
  · change Laid closing texts ([] ++ ([','].intercalate texts ++ ([] ++ [closing])))
    exact .filled filled blank_nil blank_nil blank_nil

theorem line_break_blank (depth : Nat) : AllBlank (lineBreak depth) := by
  intro c member
  rcases List.mem_cons.mp member with rfl | indent
  · rfl
  · rw [List.eq_of_mem_replicate indent]
    rfl

theorem bracketed_laid (opening closing : Char) (depth : Nat) (texts : List (List Char)) :
    ∃ body, bracketed opening closing depth texts = opening :: body ∧ Laid closing texts body := by
  by_cases filled : texts = []
  · rw [filled]
    exact ⟨_, rfl, .closed⟩
  · rw [bracketed, if_neg (by rwa [List.isEmpty_iff])]
    exact ⟨_, rfl, .filled filled (line_break_blank _) (line_break_blank _) (line_break_blank _)⟩

theorem array_writes {texts : List (List Char)} {body : List Char} {items : List Value}
    (laid : Laid ']' texts body) (written : List.Forall₂ (Writes Spells) texts items) :
    Writes Spells ('[' :: body) (.array items) := by
  intro rest
  cases laid with
  | closed =>
    cases written
    exact .noItems .none
  | filled filled before between after =>
    have listed := listed_joined ']' written filled before between after rest
    simpa only [List.cons_append, List.append_assoc, List.nil_append] using Spells.items listed

theorem object_writes {texts : List (List Char)} {body : List Char}
    {members : List (String × Value)} (laid : Laid '\x7d' texts body)
    (written : List.Forall₂ (Writes (Keyed Spells)) texts members) :
    Writes Spells ('\x7b' :: body) (.object members) := by
  intro rest
  cases laid with
  | closed =>
    cases written
    exact .noMembers .none
  | filled filled before between after =>
    have listed := listed_joined '\x7d' written filled before between after rest
    simpa only [List.cons_append, List.append_assoc, List.nil_append] using Spells.members listed

end listed

end Json

mutual

theorem compact_writes : ∀ tree : Tree, Writes Spells tree.compactChars tree.value
  | .object members => object_writes (commas_laid _ _) (compact_members_write members)
  | .array items => array_writes (commas_laid _ _) (compact_items_write items)
  | .string text => string_writes text
  | .bool value => bool_writes value

theorem compact_items_write :
    ∀ items : List Tree, List.Forall₂ (Writes Spells) (compactItems items) (itemValues items)
  | [] => .nil
  | item :: rest => .cons (compact_writes item) (compact_items_write rest)

theorem compact_members_write : ∀ members : List (String × Tree),
    List.Forall₂ (Writes (Keyed Spells)) (compactMembers members) (memberValues members)
  | [] => .nil
  | (key, member) :: rest => by
    have first := member_writes key blank_nil (compact_writes member)
    exact .cons first (compact_members_write rest)

end

mutual

theorem pretty_writes (depth : Nat) :
    ∀ tree : Tree, Writes Spells (tree.prettyChars depth) tree.value
  | .object members => by
    obtain ⟨body, written, laid⟩ :=
      bracketed_laid '\x7b' '\x7d' depth (prettyMembers (depth + 1) members)
    rw [Tree.prettyChars, written]
    exact object_writes laid (pretty_members_write (depth + 1) members)
  | .array items => by
    obtain ⟨body, written, laid⟩ := bracketed_laid '[' ']' depth (prettyItems (depth + 1) items)
    rw [Tree.prettyChars, written]
    exact array_writes laid (pretty_items_write (depth + 1) items)
  | .string text => string_writes text
  | .bool value => bool_writes value

theorem pretty_items_write (depth : Nat) : ∀ items : List Tree,
    List.Forall₂ (Writes Spells) (prettyItems depth items) (itemValues items)
  | [] => .nil
  | item :: rest => .cons (pretty_writes depth item) (pretty_items_write depth rest)

theorem pretty_members_write (depth : Nat) : ∀ members : List (String × Tree),
    List.Forall₂ (Writes (Keyed Spells)) (prettyMembers depth members) (memberValues members)
  | [] => .nil
  | (key, member) :: rest => by
    have space : AllBlank [' '] := fun c blank => by
      rw [List.mem_singleton.mp blank]
      rfl
    exact .cons (member_writes key space (pretty_writes depth member))
      (pretty_members_write depth rest)

end

theorem denotes_written {tree : Tree} {text : List Char} (writes : Writes Spells text tree.value)
    (value : Value) : Denotes text value ↔ value = tree.value := by
  have spelled := writes []
  rw [List.append_nil] at spelled
  have denotes : Denotes text tree.value := ⟨text, [], .none, spelled, .none⟩
  refine ⟨fun other => denotes_unique other denotes, ?_⟩
  rintro rfl
  exact denotes

theorem compact_denotes (tree : Tree) (value : Value) :
    Denotes tree.compact.toList value ↔ value = tree.value := by
  rw [Tree.compact, String.toList_ofList]
  exact denotes_written (compact_writes tree) value

theorem pretty_denotes (tree : Tree) (value : Value) :
    Denotes tree.pretty.toList value ↔ value = tree.value := by
  rw [Tree.pretty, String.toList_ofList]
  exact denotes_written (pretty_writes 0 tree) value

theorem text_tells_tree {text : Tree → String}
    (denotes : ∀ tree value, Denotes (text tree).toList value ↔ value = tree.value)
    {left right : Tree} (same : text left = text right) : left = right := by
  have read := (denotes left left.value).mpr rfl
  rw [same, denotes right] at read
  exact value_injective left right read

inductive Tree.Built : Tree → Prop
  | string (text : String) : Built (.string text)
  | bool (value : Bool) : Built (.bool value)
  | array {items : List Tree} : (∀ item ∈ items, Built item) → Built (.array items)
  | empty : Built (.object Dict.empty)
  | insert {members : Dict Tree} {member : Tree} (key : String) : Built (.object members) →
      Built member → Built (.object (members.insert key member))

inductive Json.Value.Ordered : Value → Prop
  | null : Ordered .null
  | bool (value : Bool) : Ordered (.bool value)
  | number (spelling : List Char) : Ordered (.number spelling)
  | string (text : String) : Ordered (.string text)
  | array {items : List Value} : (∀ item ∈ items, Ordered item) → Ordered (.array items)
  | object {members : Dict Value} : members.Sorted → (∀ member ∈ members, Ordered member.2) →
      Ordered (.object members)

theorem item_values_map (items : List Tree) : itemValues items = items.map Tree.value := by
  induction items with
  | nil => rfl
  | cons item rest ih => rw [itemValues, ih, List.map_cons]

theorem member_values_insert (key : String) (member : Tree) (members : Dict Tree) :
    memberValues (members.insert key member) =
      Dict.insert key member.value (memberValues members) := by
  induction members with
  | nil => rfl
  | cons entry rest ih =>
    rcases entry with ⟨head, old⟩
    rw [Dict.insert, memberValues, Dict.insert]
    by_cases same : key = head
    · rw [if_pos same, if_pos same, memberValues]
    · rw [if_neg same, if_neg same]
      by_cases less : key < head
      · rw [if_pos less, if_pos less, memberValues, memberValues]
      · rw [if_neg less, if_neg less, memberValues, ih]

theorem built_ordered {tree : Tree} (built : tree.Built) : tree.value.Ordered := by
  induction built with
  | string text => exact .string text
  | bool value => exact .bool value
  | @array items _ ih =>
    rw [Tree.value, item_values_map]
    refine .array fun value inValues => ?_
    obtain ⟨item, inItems, rfl⟩ := List.mem_map.mp inValues
    exact ih item inItems
  | empty => exact .object Dict.sorted_empty nofun
  | insert key _ _ membersOrdered memberOrdered =>
    rw [Tree.value, member_values_insert]
    cases membersOrdered with
    | object sorted ordered =>
      refine .object (Dict.sorted_insert key _ _ sorted) fun entry inserted => ?_
      rcases Dict.mem_insert inserted with rfl | before
      · exact memberOrdered
      · exact ordered entry before

structure ReadsBack (tree : Tree) : Prop where
  compact : ∀ value, Denotes tree.compact.toList value ↔ value = tree.value
  pretty : ∀ value, Denotes tree.pretty.toList value ↔ value = tree.value
  ordered : tree.value.Ordered
  alone : ∀ other : Tree, other ≠ tree → other.compact ≠ tree.compact ∧ other.pretty ≠ tree.pretty

theorem tree_texts_read_back {tree : Tree} (built : tree.Built) : ReadsBack tree := by
  refine ⟨compact_denotes tree, pretty_denotes tree, built_ordered built,
    fun other different => ⟨?_, ?_⟩⟩
  · exact fun same => different (text_tells_tree compact_denotes same)
  · exact fun same => different (text_tells_tree pretty_denotes same)

def shelfmarks : Tree :=
  .object (Dict.empty.insert "\"b\\" (.array [.bool true, .object Dict.empty, .array []])
    |>.insert "a\n" (.string "\x01\u2028")
    |>.insert "\"b\\" (.array [.object (Dict.empty.insert "" (.string ""))]))

theorem shelfmarks_read_back : shelfmarks.Built ∧ ReadsBack shelfmarks := by
  have inner : (Tree.array [.object (Dict.empty.insert "" (.string ""))]).Built := by
    refine .array fun item listed => ?_
    rw [List.mem_singleton.mp listed]
    exact .insert "" .empty (.string "")
  have outer : (Tree.array [.bool true, .object Dict.empty, .array []]).Built := by
    refine .array fun item listed => ?_
    rcases List.mem_cons.mp listed with rfl | listed
    · exact .bool true
    rcases List.mem_cons.mp listed with rfl | listed
    · exact .empty
    · rw [List.mem_singleton.mp listed]
      exact .array nofun
  have built : shelfmarks.Built :=
    .insert _ (.insert _ (.insert _ .empty outer) (.string _)) inner
  exact ⟨built, tree_texts_read_back built⟩

end NatSpec
