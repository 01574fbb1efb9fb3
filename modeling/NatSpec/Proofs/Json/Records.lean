import NatSpec.Proofs.Json.Values

set_option autoImplicit false

namespace NatSpec.Json

variable {α : Type} {shape : Shape α}

inductive Fills (shape : Shape α) : α → List (String × List Char) → α → Prop where
  | none (record : α) : Fills shape record [] record
  | next {record final : α} {key : String} {chars : List Char} {later : List (String × List Char)}
      (field : Member α) (update : α → α) (known : shape.field? key = some field)
      (reads : Reads field.update chars update) (fills : Fills shape (update record) later final) :
      Fills shape record ((key, chars) :: later) final

theorem fills_append {record middle final : α} {first second : List (String × List Char)}
    (fillsFirst : Fills shape record first middle) (fillsSecond : Fills shape middle second final) :
    Fills shape record (first ++ second) final := by
  induction fillsFirst with
  | none => exact fillsSecond
  | next field update known reads _ ih => exact .next field update known reads (ih fillsSecond)

theorem member_leaves {field : Member α} {update : α → α} {key : String}
    {s value rest : List Char} {colonShorter} (seen : List String) (record : α)
    (known : shape.field? key = some field) (fresh : key ∉ seen)
    (colon : Shape.colon s = .ok ⟨value, colonShorter⟩)
    (found : Leaves (field.update value) update rest) :
    Leaves (shape.member seen key record s) (key :: seen, update record) rest := by
  obtain ⟨shorter, found⟩ := found
  refine ⟨Nat.lt_trans shorter colonShorter, ?_⟩
  unfold Shape.member
  rw [known]
  simp only [if_neg fresh, colon, found]
  rfl

theorem members_next {seen seen' : List String} {key : String} {record record' : α} {first : Bool}
    {s start after rest : List Char} {shorter}
    (next : Shape.nextKey first s = .ok (some ⟨start, shorter⟩))
    (named : stringBody [] start = .ok (key.toList, after))
    (member : Leaves (shape.member seen key record after) (seen', record') rest) :
    shape.members first seen record s = shape.members false seen' record' rest := by
  obtain ⟨_, member⟩ := member
  rw [Shape.members, next]
  simp only
  split
  · rename_i halted
    cases named.symm.trans halted
  · rename_i found
    cases named.symm.trans found
    simp only [String.ofList_toList, member]

theorem members_end (shape : Shape α) (first : Bool) (seen : List String) (record : α)
    (rest : List Char) :
    shape.members first seen record ('\x7d' :: rest) = .ok ((seen, record), '\x7d' :: rest) := by
  rw [Shape.members]
  rfl

theorem members_written_member (first : Bool) (lead : List Char) {field : Member α}
    {update : α → α} {key : String} {chars : List Char} (seen : List String) (record : α)
    (rest : List Char)
    (next : ∀ start, ∃ shorter,
      Shape.nextKey first (lead ++ '"' :: start) = .ok (some ⟨start, shorter⟩))
    (known : shape.field? key = some field) (fresh : key ∉ seen)
    (reads : Reads field.update chars update) :
    shape.members first seen record (lead ++ writtenMember (key, chars) ++ rest) =
      shape.members false (key :: seen) (update record) rest := by
  obtain ⟨shorter, next⟩ := next (escape key.toList ++ '"' :: (':' :: (chars ++ rest)))
  have named := string_body_escape [] key.toList (':' :: (chars ++ rest))
  have colon : Shape.colon (':' :: (chars ++ rest)) = .ok ⟨chars ++ rest, Nat.lt_succ_self _⟩ := rfl
  have member := member_leaves seen record known fresh colon (reads.leaves rest)
  have text : lead ++ writtenMember (key, chars) ++ rest =
      lead ++ '"' :: (escape key.toList ++ '"' :: (':' :: (chars ++ rest))) := by
    simp [writtenMember, writtenString]
  rw [text]
  exact members_next next named member

theorem members_after_comma {record final : α} {members : List (String × List Char)}
    (fills : Fills shape record members final) (seen : List String)
    (distinct : (members.map Prod.fst).Nodup) (fresh : ∀ key ∈ members.map Prod.fst, key ∉ seen)
    (rest : List Char) :
    shape.members false seen record
        ((members.map writtenMember).flatMap (',' :: ·) ++ '\x7d' :: rest) =
      .ok (((members.map Prod.fst).reverse ++ seen, final), '\x7d' :: rest) := by
  induction fills generalizing seen with
  | none record => exact members_end shape false seen record rest
  | @next record final key chars later field update known reads _ ih =>
    rw [List.map_cons, List.nodup_cons] at distinct
    have freshLater : ∀ other ∈ later.map Prod.fst, other ∉ key :: seen := by
      intro other member inSeen
      rcases List.mem_cons.mp inSeen with same | older
      · exact distinct.1 (same ▸ member)
      · exact fresh other (List.mem_cons_of_mem _ member) older
    have here := members_written_member false [','] seen record
      ((later.map writtenMember).flatMap (',' :: ·) ++ '\x7d' :: rest)
      (fun start => ⟨Nat.lt_succ_of_lt (Nat.lt_succ_self _), rfl⟩) known
      (fresh key (List.mem_cons_self ..)) reads
    rw [List.map_cons, List.flatMap_cons, ← List.singleton_append, List.append_assoc,
      List.append_assoc, ← List.append_assoc, here, ih (key :: seen) distinct.2 freshLater]
    simp only [List.map_cons, List.reverse_cons, List.append_assoc, List.singleton_append]

theorem members_written {record final : α} {members : List (String × List Char)}
    (fills : Fills shape record members final) (distinct : (members.map Prod.fst).Nodup)
    (rest : List Char) :
    shape.members true [] record (commas (members.map writtenMember) ++ '\x7d' :: rest) =
      .ok (((members.map Prod.fst).reverse, final), '\x7d' :: rest) := by
  cases fills with
  | none record => exact members_end shape true [] record rest
  | @next _ _ key chars later field update known reads fills =>
    rw [List.map_cons, List.nodup_cons] at distinct
    have fresh : ∀ other ∈ later.map Prod.fst, other ∉ [key] := by
      intro other member inSeen
      rw [List.mem_singleton.mp inSeen] at member
      exact distinct.1 member
    have here := members_written_member true [] [] record
      ((later.map writtenMember).flatMap (',' :: ·) ++ '\x7d' :: rest)
      (fun start => ⟨Nat.lt_succ_self _, rfl⟩) known (by simp) reads
    rw [List.nil_append] at here
    rw [List.map_cons, commas_cons, List.append_assoc, here,
      members_after_comma fills [key] distinct.2 fresh]
    simp only [List.map_cons, List.reverse_cons]

theorem missing_none {names : List String}
    (complete : ∀ field ∈ shape.fields, field.required = true → field.name ∈ names) :
    shape.missing? names = none := by
  rw [Shape.missing?, Option.map_eq_none_iff, List.find?_eq_none]
  intro field member
  simp only [Bool.and_eq_true, decide_eq_true_eq, not_and, Decidable.not_not]
  exact complete field member

theorem reads_record {value : α} {members : List (String × List Char)}
    (fills : Fills shape shape.empty members value)
    (ordered : (members.map Prod.fst).Sublist (shape.fields.map Member.name))
    (distinct : (shape.fields.map Member.name).Nodup)
    (complete : ∀ field ∈ shape.fields, field.required = true → field.name ∈ members.map Prod.fst) :
    Reads shape.reader (writtenRecord members) value := by
  refine ⟨⟨'\x7b', by decide, _, rfl⟩, ?_⟩
  intro rest
  have read := members_written fills (distinct.sublist ordered) rest
  have nothing : shape.missing? (members.map Prod.fst).reverse = none :=
    missing_none fun field member required => List.mem_reverse.mpr (complete field member required)
  have object : Leaves (shape.object (commas (members.map writtenMember) ++ '\x7d' :: rest)) value
      rest := by
    unfold Shape.object
    split
    · rename_i halted
      cases read.symm.trans halted
    · rename_i found
      cases read.symm.trans found
      rw [nothing]
      exact ⟨_, rfl⟩
  obtain ⟨shorter, object⟩ := object
  rw [writtenRecord, List.cons_append, List.append_assoc, List.singleton_append]
  rw [Shape.reader_found shape rfl, if_pos rfl, object]
  exact ⟨_, rfl⟩

theorem reads_full_record {value : α} {members : List (String × List Char)}
    (fills : Fills shape shape.empty members value)
    (names : members.map Prod.fst = shape.fields.map Member.name)
    (distinct : (shape.fields.map Member.name).Nodup) :
    Reads shape.reader (writtenRecord members) value := by
  refine reads_record fills (names ▸ List.Sublist.refl _) distinct ?_
  intro field member _
  rw [names]
  exact List.mem_map_of_mem member

end NatSpec.Json
