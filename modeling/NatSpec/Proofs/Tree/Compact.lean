import NatSpec.Proofs.Json.Strings
import NatSpec.Proofs.Text.Delimited
import NatSpec.Tree.Layout

set_option autoImplicit false

namespace NatSpec

open Json Text

theorem written_string_told_apart (left right : String) : ToldApart writtenString left right := by
  intro after after' same
  simp only [writtenString, List.cons_append, List.append_assoc, List.nil_append] at same
  have read := string_body_escape [] left.toList after
  have read' := string_body_escape [] right.toList after'
  rw [(List.cons.inj same).2, read'] at read
  simp only [List.reverse_nil, List.nil_append, Except.ok.injEq, Prod.mk.injEq] at read
  exact ⟨String.toList_inj.mp read.1.symm, read.2.symm⟩

theorem written_bool_told_apart (left right : Bool) : ToldApart writtenBool left right := by
  intro after after' same
  cases left <;> cases right <;> simp_all [writtenBool]

theorem compact_items_map (items : List Tree) :
    compactItems items = items.map Tree.compactChars := by
  induction items with
  | nil => rfl
  | cons item rest ih => rw [compactItems, ih, List.map_cons]

def compactMember (member : String × Tree) : List Char :=
  writtenString member.1 ++ ':' :: member.2.compactChars

theorem compact_members_map (members : List (String × Tree)) :
    compactMembers members = members.map compactMember := by
  induction members with
  | nil => rfl
  | cons member rest ih => rw [compactMembers, ih, List.map_cons, compactMember]

def Tree.opening : Tree → Char
  | .object _ => '\x7b'
  | .array _ => '['
  | .string _ => '"'
  | .bool true => 't'
  | .bool false => 'f'

theorem compact_opening (tree : Tree) : ∃ tail, tree.compactChars = tree.opening :: tail := by
  cases tree with
  | object members => exact ⟨_, rfl⟩
  | array items => exact ⟨_, rfl⟩
  | string text => exact ⟨_, rfl⟩
  | bool value => cases value <;> exact ⟨_, rfl⟩

theorem item_not_closing (item : Tree) (after : List Char) :
    NotAt Tree.compactChars (']' :: after) item := by
  intro tail same
  obtain ⟨rest, opened⟩ := compact_opening item
  rw [opened] at same
  have bracket : item.opening = ']' := (List.cons.inj same).1
  cases item with
  | bool value => cases value <;> simp [Tree.opening] at bracket
  | _ => simp [Tree.opening] at bracket

theorem member_not_closing (member : String × Tree) (after : List Char) :
    NotAt compactMember ('\x7d' :: after) member := by
  intro tail same
  have bracket : '"' = '\x7d' := (List.cons.inj same).1
  exact absurd bracket (by decide)

theorem member_told_apart {left right : String × Tree}
    (apart : ToldApart Tree.compactChars left.2 right.2) : ToldApart compactMember left right := by
  intro after after' same
  simp only [compactMember, List.append_assoc, List.cons_append] at same
  obtain ⟨key, rest⟩ := written_string_told_apart left.1 right.1 _ _ same
  obtain ⟨value, follows⟩ := apart _ _ (List.cons.inj rest).2
  exact ⟨Prod.ext key value, follows⟩

theorem opening_told_apart {left right : Tree} (different : left.opening ≠ right.opening) :
    ToldApart Tree.compactChars left right := by
  intro after after' same
  obtain ⟨rest, opened⟩ := compact_opening left
  obtain ⟨rest', opened'⟩ := compact_opening right
  rw [opened, opened'] at same
  exact absurd (List.cons.inj same).1 different

theorem object_told_apart {members others : List (String × Tree)}
    (apart : ∀ member ∈ members, ∀ other : Tree, ToldApart Tree.compactChars member.2 other) :
    ToldApart Tree.compactChars (.object members) (.object others) := by
  intro after after' same
  simp only [Tree.compactChars, compact_members_map, List.cons_append, List.append_assoc,
    List.nil_append] at same
  obtain ⟨equal, follows⟩ := commas_unique (by decide)
    (fun member inLeft other _ => member_told_apart (apart member inLeft other.2))
    member_not_closing (List.cons.inj same).2
  exact ⟨by rw [equal], follows⟩

theorem array_told_apart {items others : List Tree}
    (apart : ∀ item ∈ items, ∀ other : Tree, ToldApart Tree.compactChars item other) :
    ToldApart Tree.compactChars (.array items) (.array others) := by
  intro after after' same
  simp only [Tree.compactChars, compact_items_map, List.cons_append, List.append_assoc,
    List.nil_append] at same
  obtain ⟨equal, follows⟩ := commas_unique (by decide)
    (fun item inLeft other _ => apart item inLeft other) item_not_closing (List.cons.inj same).2
  exact ⟨by rw [equal], follows⟩

theorem compact_told_apart (left right : Tree) : ToldApart Tree.compactChars left right := by
  cases left with
  | object members =>
    cases right with
    | object others =>
      exact object_told_apart fun member inLeft other => compact_told_apart member.2 other
    | bool value => exact opening_told_apart (by cases value <;> simp [Tree.opening])
    | _ => exact opening_told_apart (by simp [Tree.opening])
  | array items =>
    cases right with
    | array others => exact array_told_apart fun item inLeft other => compact_told_apart item other
    | bool value => exact opening_told_apart (by cases value <;> simp [Tree.opening])
    | _ => exact opening_told_apart (by simp [Tree.opening])
  | string text =>
    cases right with
    | string other =>
      intro after after' same
      obtain ⟨equal, follows⟩ := written_string_told_apart text other after after' same
      exact ⟨by rw [equal], follows⟩
    | bool value => exact opening_told_apart (by cases value <;> simp [Tree.opening])
    | _ => exact opening_told_apart (by simp [Tree.opening])
  | bool value =>
    cases right with
    | bool other =>
      intro after after' same
      obtain ⟨equal, follows⟩ := written_bool_told_apart value other after after' same
      exact ⟨by rw [equal], follows⟩
    | _ => exact opening_told_apart (by cases value <;> simp [Tree.opening])
termination_by sizeOf left
decreasing_by
  · have smaller := List.sizeOf_lt_of_mem inLeft
    have value : sizeOf member = 1 + sizeOf member.1 + sizeOf member.2 := by cases member; rfl
    simp only [Tree.object.sizeOf_spec]
    omega
  · have smaller := List.sizeOf_lt_of_mem inLeft
    simp only [Tree.array.sizeOf_spec]
    omega

theorem compact_injective {left right : Tree} (same : left.compact = right.compact) :
    left = right := by
  have chars : left.compactChars ++ [] = right.compactChars ++ [] := by
    rw [List.append_nil, List.append_nil]
    exact String.ofList_inj.mp same
  exact (compact_told_apart left right [] [] chars).1

end NatSpec
