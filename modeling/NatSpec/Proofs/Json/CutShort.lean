import NatSpec.Proofs.Json.Records

set_option autoImplicit false

namespace NatSpec.Json

def Cut (part whole : List Char) : Prop := ∃ c lost, whole = part ++ c :: lost

theorem cut_nil (part : List Char) : ¬ Cut part [] := by
  rintro ⟨c, lost, same⟩
  cases part <;> cases same

theorem cut_cons {part tail : List Char} {c : Char} (cut : Cut part (c :: tail)) :
    part = [] ∨ ∃ rest, part = c :: rest ∧ Cut rest tail := by
  obtain ⟨d, lost, same⟩ := cut
  cases part with
  | nil => exact .inl rfl
  | cons head rest =>
    obtain ⟨rfl, tail⟩ := List.cons.inj same
    exact .inr ⟨rest, rfl, d, lost, tail⟩

theorem cut_append {part first second : List Char} (cut : Cut part (first ++ second)) :
    Cut part first ∨ ∃ rest, part = first ++ rest ∧ Cut rest second := by
  induction first generalizing part with
  | nil => exact .inr ⟨part, rfl, cut⟩
  | cons c tail ih =>
    rcases cut_cons cut with rfl | ⟨later, rfl, inLater⟩
    · exact .inl ⟨c, tail, rfl⟩
    · rcases ih inLater with ⟨d, lost, same⟩ | ⟨rest, rfl, inSecond⟩
      · exact .inl ⟨d, lost, congrArg (c :: ·) same⟩
      · exact .inr ⟨rest, rfl, inSecond⟩

theorem cut_single {part : List Char} {c : Char} (cut : Cut part [c]) : part = [] := by
  rcases cut_cons cut with rfl | ⟨rest, _, cut⟩
  · rfl
  · exact absurd cut (cut_nil rest)

def EndsEarly {β : Type} (result : Except Halt β) : Prop :=
  ∃ halt, result = .error halt ∧ halt.cause.category = .eof

theorem hex_digit_size (n : Nat) : (hexDigit n).utf8Size = 1 := by
  have sizes : ∀ digit < 16, (Nat.digitChar digit).utf8Size = 1 := by decide
  exact sizes (n % 16) (Nat.mod_lt n (by decide))

theorem hex_four_cut {part : List Char} (first second : Nat)
    (cut : Cut part ['0', '0', hexDigit first, hexDigit second]) : EndsEarly (hexFour part) := by
  have size := hex_digit_size first
  rcases cut_cons cut with rfl | ⟨_, rfl, afterOne⟩
  · exact ⟨_, rfl, rfl⟩
  rcases cut_cons afterOne with rfl | ⟨_, rfl, afterTwo⟩
  · exact ⟨_, rfl, rfl⟩
  rcases cut_cons afterTwo with rfl | ⟨_, rfl, afterThree⟩
  · exact ⟨_, rfl, rfl⟩
  rw [cut_single afterThree]
  refine ⟨_, rfl, ?_⟩
  simp only [hexHalt, List.take, List.foldl, size]
  rfl

theorem code_escape_cut {part : List Char} (first second : Nat)
    (cut : Cut part ['u', '0', '0', hexDigit first, hexDigit second]) :
    EndsEarly (escaped part) := by
  rcases cut_cons cut with rfl | ⟨digits, rfl, inDigits⟩
  · exact ⟨_, rfl, rfl⟩
  · obtain ⟨halt, failed, early⟩ := hex_four_cut first second inDigits
    refine ⟨halt, ?_, early⟩
    simp only [escaped, codeEscape, failed]

theorem string_body_ends_in_escape (read rest : List Char) (ends : EndsEarly (escaped rest)) :
    EndsEarly (stringBody read ('\\' :: rest)) := by
  obtain ⟨halt, failed, early⟩ := ends
  refine ⟨halt, ?_, early⟩
  rw [stringBody, if_neg (by decide), if_pos rfl]
  split
  · rename_i halted
    rw [failed] at halted
    cases halted
    rfl
  · rename_i decoded
    rw [failed] at decoded
    cases decoded

theorem string_body_ends (read : List Char) : EndsEarly (stringBody read []) := by
  refine ⟨.atEnd .endInString, ?_, rfl⟩
  rw [stringBody]

theorem string_body_cut_in_char (read part : List Char) (c : Char) (cut : Cut part (escapeChar c)) :
    EndsEarly (stringBody read part) := by
  rcases escape_char_cases c with ⟨mark, _, written⟩ | ⟨_, written⟩ | ⟨_, _, _, written⟩
  · rw [written] at cut
    rcases cut_cons cut with rfl | ⟨rest, rfl, inMark⟩
    · exact string_body_ends read
    · rw [cut_single inMark]
      exact string_body_ends_in_escape read [] ⟨_, rfl, rfl⟩
  · rw [written] at cut
    rcases cut_cons cut with rfl | ⟨rest, rfl, inCode⟩
    · exact string_body_ends read
    · exact string_body_ends_in_escape read rest (code_escape_cut _ _ inCode)
  · rw [written] at cut
    rw [cut_single cut]
    exact string_body_ends read

theorem string_body_cut (read text part : List Char) (cut : Cut part (escape text ++ ['"'])) :
    EndsEarly (stringBody read part) := by
  induction text generalizing read part with
  | nil =>
    rw [cut_single cut]
    exact string_body_ends read
  | cons c text ih =>
    rw [escape_cons, List.append_assoc] at cut
    rcases cut_append cut with inChar | ⟨rest, rfl, inRest⟩
    · exact string_body_cut_in_char read part c inChar
    · rw [string_body_escape_char]
      exact ih (c :: read) rest inRest

variable {α β : Type}

def Needs (reader : Reader α) (chars : List Char) : Prop :=
  ∀ part, Cut part chars → EndsEarly (reader part)

theorem needs_map (f : α → β) {reader : Reader α} {chars : List Char} (needs : Needs reader chars) :
    Needs (reader.map f) chars := by
  intro part cut
  obtain ⟨halt, failed, early⟩ := needs part cut
  exact ⟨halt, by rw [Reader.map, failed], early⟩

theorem quoted_ends {s body : List Char} (shorter : body.length < s.length)
    (ends : EndsEarly (stringBody [] body)) : EndsEarly (Reader.quoted s body shorter) := by
  obtain ⟨halt, failed, early⟩ := ends
  refine ⟨halt, ?_, early⟩
  unfold Reader.quoted
  split
  · rename_i halted
    cases failed.symm.trans halted
    rfl
  · rename_i found
    cases failed.symm.trans found

theorem needs_string (text : String) : Needs .string (writtenString text) := by
  intro part cut
  rcases cut_cons cut with rfl | ⟨body, rfl, inBody⟩
  · exact ⟨_, rfl, rfl⟩
  · have ends := string_body_cut [] text.toList body inBody
    exact quoted_ends (Nat.lt_succ_self _) ends

theorem literal_cut (letters part : List Char) (cut : Cut part letters) :
    EndsEarly (literal letters part) := by
  induction letters generalizing part with
  | nil => exact absurd cut (cut_nil part)
  | cons letter letters ih =>
    rcases cut_cons cut with rfl | ⟨rest, rfl, inRest⟩
    · exact ⟨_, rfl, rfl⟩
    · rw [literal, if_pos rfl]
      exact ih rest inRest

theorem word_ends (value : α) {letters s body : List Char} (shorter : body.length < s.length)
    (ends : EndsEarly (literal letters body)) :
    EndsEarly (Reader.word value letters s body shorter) := by
  obtain ⟨halt, failed, early⟩ := ends
  refine ⟨halt, ?_, early⟩
  unfold Reader.word
  split
  · rename_i halted
    cases failed.symm.trans halted
    rfl
  · rename_i found
    cases failed.symm.trans found

theorem needs_bool (value : Bool) : Needs .bool (writtenBool value) := by
  intro part cut
  cases value with
  | true =>
    rcases cut_cons cut with rfl | ⟨body, rfl, inBody⟩
    · exact ⟨_, rfl, rfl⟩
    · exact word_ends true (Nat.lt_succ_self _) (literal_cut "rue".toList body inBody)
  | false =>
    rcases cut_cons cut with rfl | ⟨body, rfl, inBody⟩
    · exact ⟨_, rfl, rfl⟩
    · exact word_ends false (Nat.lt_succ_self _) (literal_cut "alse".toList body inBody)

theorem needs_nullable {reader : Reader α} {chars : List Char} (opens : Opens chars)
    (needs : Needs reader chars) : Needs (.nullable reader) chars := by
  intro part cut
  have ends := needs_map some needs part cut
  obtain ⟨c, opener, tail, rfl⟩ := opens
  rcases cut_cons cut with rfl | ⟨rest, rfl, _⟩
  · exact ⟨_, rfl, rfl⟩
  · have blank := opener_skip_blank opener rest
    have notNull : ∀ c ∈ openers, c ≠ 'n' := by simp [openers]
    rw [Reader.nullable_found reader blank, if_neg (notNull c opener)]
    exact ends

-- Written so that the value is read back, and not before all of it is there.
structure Whole (reader : Reader α) (chars : List Char) (value : α) : Prop extends
    Reads reader chars value where
  needs : Needs reader chars

theorem whole_map (f : α → β) {reader : Reader α} {chars : List Char} {value : α}
    (whole : Whole reader chars value) : Whole (reader.map f) chars (f value) :=
  ⟨reads_map f whole.toReads, needs_map f whole.needs⟩

theorem whole_string (text : String) : Whole .string (writtenString text) text :=
  ⟨reads_string text, needs_string text⟩

theorem whole_bool (value : Bool) : Whole .bool (writtenBool value) value :=
  ⟨reads_bool value, needs_bool value⟩

theorem whole_nullable {reader : Reader α} {chars : List Char} {value : α}
    (whole : Whole reader chars value) : Whole (.nullable reader) chars (some value) :=
  ⟨reads_nullable whole.toReads, needs_nullable whole.opens whole.needs⟩

section list

variable {item : Reader α} {first : Bool} {s : List Char}

theorem items_end_between (read : List α) (ends : EndsEarly (Reader.nextItem first s)) :
    EndsEarly (item.items first read s) := by
  obtain ⟨halt, failed, early⟩ := ends
  exact ⟨halt, by rw [Reader.items, failed], early⟩

theorem items_end_within (read : List α) {start : List Char} {bound}
    (next : Reader.nextItem first s = .ok (some ⟨start, bound⟩)) (ends : EndsEarly (item start)) :
    EndsEarly (item.items first read s) := by
  obtain ⟨halt, failed, early⟩ := ends
  refine ⟨halt, ?_, early⟩
  rw [Reader.items, next]
  simp only [failed]

theorem items_cut_item (lead : List Char) (read : List α) {chars part : List Char}
    (opens : Opens chars) (needs : Needs item chars)
    (between : ∀ part, Cut part lead ∨ part = lead → EndsEarly (Reader.nextItem first part))
    (next : ∀ c ∈ openers, ∀ tail, ∃ bound,
      Reader.nextItem first (lead ++ c :: tail) = .ok (some ⟨c :: tail, bound⟩))
    (cut : Cut part (lead ++ chars)) : EndsEarly (item.items first read part) := by
  rcases cut_append cut with inLead | ⟨rest, rfl, inItem⟩
  · exact items_end_between read (between part (.inl inLead))
  · obtain ⟨c, opener, tail, rfl⟩ := opens
    rcases cut_cons inItem with rfl | ⟨body, rfl, _⟩
    · rw [List.append_nil]
      exact items_end_between read (between lead (.inr rfl))
    · obtain ⟨bound, found⟩ := next c opener body
      exact items_end_within read found (needs _ inItem)

theorem items_cut_after_comma (written : α → List Char) (values read : List α)
    (whole : ∀ value ∈ values, Whole item (written value) value) {part : List Char}
    (cut : Cut part ((values.map written).flatMap (',' :: ·) ++ [']'])) :
    EndsEarly (item.items false read part) := by
  induction values generalizing read part with
  | nil =>
    rw [cut_single cut]
    exact items_end_between read ⟨_, rfl, rfl⟩
  | cons value values ih =>
    have here := whole value (List.mem_cons_self ..)
    rw [List.map_cons, List.flatMap_cons, ← List.singleton_append, List.append_assoc] at cut
    rcases cut_append cut with inHere | ⟨rest, rfl, inLater⟩
    · refine items_cut_item [','] read here.opens here.needs ?_ ?_ inHere
      · rintro part (inLead | rfl)
        · rw [cut_single inLead]
          exact ⟨_, rfl, rfl⟩
        · exact ⟨_, rfl, rfl⟩
      · exact fun c opener tail => ⟨_, next_item_comma opener tail⟩
    · obtain ⟨c, opener, tail, opened⟩ := here.opens
      have next := next_item_comma opener (tail ++ rest)
      rw [← List.cons_append, ← opened] at next
      rw [List.append_assoc, List.singleton_append, items_next read next (here.leaves rest)]
      exact ih (value :: read) (fun other member => whole other (List.mem_cons_of_mem _ member))
        inLater

theorem items_cut (written : α → List Char) (values : List α)
    (whole : ∀ value ∈ values, Whole item (written value) value) {part : List Char}
    (cut : Cut part (commas (values.map written) ++ [']'])) :
    EndsEarly (item.items true [] part) := by
  cases values with
  | nil =>
    rw [cut_single cut]
    exact items_end_between [] ⟨_, rfl, rfl⟩
  | cons value values =>
    have here := whole value (List.mem_cons_self ..)
    rw [List.map_cons, commas_cons, List.append_assoc] at cut
    rcases cut_append cut with inHere | ⟨rest, rfl, inLater⟩
    · refine items_cut_item [] [] here.opens here.needs ?_ ?_ inHere
      · rintro part (inLead | rfl)
        · exact absurd inLead (cut_nil part)
        · exact ⟨_, rfl, rfl⟩
      · exact fun c opener tail => ⟨_, next_item_first opener tail⟩
    · obtain ⟨c, opener, tail, opened⟩ := here.opens
      have next := next_item_first opener (tail ++ rest)
      rw [← List.cons_append, ← opened] at next
      rw [items_next [] next (here.leaves rest)]
      exact items_cut_after_comma written values [value]
        (fun other member => whole other (List.mem_cons_of_mem _ member)) inLater

theorem needs_list {written : α → List Char} (values : List α)
    (whole : ∀ value ∈ values, Whole item (written value) value) :
    Needs (.list item) (writtenArray (values.map written)) := by
  intro part cut
  rcases cut_cons cut with rfl | ⟨body, rfl, inItems⟩
  · exact ⟨_, rfl, rfl⟩
  · obtain ⟨halt, failed, early⟩ := items_cut written values whole inItems
    refine ⟨halt, ?_, early⟩
    rw [Reader.list_found item rfl, if_pos rfl]
    split
    · rename_i halted
      cases failed.symm.trans halted
      rfl
    · rename_i found
      cases failed.symm.trans found

theorem whole_list {written : α → List Char} (values : List α)
    (whole : ∀ value ∈ values, Whole item (written value) value) :
    Whole (.list item) (writtenArray (values.map written)) values :=
  ⟨reads_list values fun value member => (whole value member).toReads, needs_list values whole⟩

theorem whole_strings (texts : List String) :
    Whole (.list .string) (writtenStrings texts) texts :=
  whole_list texts fun text _ => whole_string text

end list

section record

variable {shape : Shape α} {first : Bool} {s : List Char}

theorem members_end_between (seen : List String) (record : α)
    (ends : EndsEarly (Shape.nextKey first s)) :
    EndsEarly (shape.members first seen record s) := by
  obtain ⟨halt, failed, early⟩ := ends
  exact ⟨halt, by rw [Shape.members, failed], early⟩

theorem members_end_in_key (seen : List String) (record : α) {start : List Char} {shorter}
    (next : Shape.nextKey first s = .ok (some ⟨start, shorter⟩))
    (ends : EndsEarly (stringBody [] start)) :
    EndsEarly (shape.members first seen record s) := by
  obtain ⟨halt, failed, early⟩ := ends
  refine ⟨halt, ?_, early⟩
  rw [Shape.members, next]
  simp only
  split
  · rename_i halted
    cases failed.symm.trans halted
    rfl
  · rename_i found
    cases failed.symm.trans found

theorem members_end_after_key (seen : List String) (record : α) {start after : List Char}
    {key : String} {shorter} (next : Shape.nextKey first s = .ok (some ⟨start, shorter⟩))
    (named : stringBody [] start = .ok (key.toList, after))
    (ends : EndsEarly (shape.member seen key record after)) :
    EndsEarly (shape.members first seen record s) := by
  obtain ⟨halt, failed, early⟩ := ends
  refine ⟨halt, ?_, early⟩
  rw [Shape.members, next]
  simp only
  split
  · rename_i halted
    cases named.symm.trans halted
  · rename_i found
    cases named.symm.trans found
    simp only [String.ofList_toList, failed]

theorem member_cut {field : Member α} {key : String} {chars part : List Char} (seen : List String)
    (record : α) (known : shape.field? key = some field) (fresh : key ∉ seen)
    (needs : Needs field.update chars) (cut : Cut part (':' :: chars)) :
    EndsEarly (shape.member seen key record part) := by
  unfold Shape.member
  rw [known]
  simp only [if_neg fresh]
  rcases cut_cons cut with rfl | ⟨value, rfl, inValue⟩
  · exact ⟨_, rfl, rfl⟩
  · have colon : Shape.colon (':' :: value) = .ok ⟨value, Nat.lt_succ_self _⟩ := rfl
    obtain ⟨halt, failed, early⟩ := needs value inValue
    exact ⟨halt, by simp only [colon, failed], early⟩

theorem members_cut_member (lead : List Char) {chars part : List Char} {field : Member α}
    {key : String} (seen : List String) (record : α)
    (between : ∀ part, Cut part lead ∨ part = lead → EndsEarly (Shape.nextKey first part))
    (next : ∀ start, ∃ shorter,
      Shape.nextKey first (lead ++ '"' :: start) = .ok (some ⟨start, shorter⟩))
    (known : shape.field? key = some field) (fresh : key ∉ seen)
    (needs : Needs field.update chars) (cut : Cut part (lead ++ writtenMember (key, chars))) :
    EndsEarly (shape.members first seen record part) := by
  rcases cut_append cut with inLead | ⟨rest, rfl, inMember⟩
  · exact members_end_between seen record (between part (.inl inLead))
  rw [writtenMember, writtenString, List.cons_append] at inMember
  rcases cut_cons inMember with rfl | ⟨start, rfl, afterQuote⟩
  · rw [List.append_nil]
    exact members_end_between seen record (between lead (.inr rfl))
  obtain ⟨shorter, found⟩ := next start
  rcases cut_append afterQuote with inKey | ⟨after, rfl, inValue⟩
  · exact members_end_in_key seen record found (string_body_cut [] key.toList start inKey)
  · have named := string_body_escape [] key.toList after
    rw [← List.singleton_append, ← List.append_assoc] at named
    exact members_end_after_key seen record found named
      (member_cut seen record known fresh needs inValue)

def WholeMembers (shape : Shape α) (members : List (String × List Char)) : Prop :=
  ∀ member ∈ members, ∃ field update, shape.field? member.1 = some field ∧
    Whole field.update member.2 update

theorem members_cut_after_comma {members : List (String × List Char)} (seen : List String)
    (record : α) (whole : WholeMembers shape members) (distinct : (members.map Prod.fst).Nodup)
    (fresh : ∀ key ∈ members.map Prod.fst, key ∉ seen) {part : List Char}
    (cut : Cut part ((members.map writtenMember).flatMap (',' :: ·) ++ ['\x7d'])) :
    EndsEarly (shape.members false seen record part) := by
  induction members generalizing seen record part with
  | nil =>
    rw [cut_single cut]
    exact members_end_between seen record ⟨_, rfl, rfl⟩
  | cons member later ih =>
    rcases member with ⟨key, chars⟩
    obtain ⟨field, update, known, here⟩ := whole _ (List.mem_cons_self ..)
    have freshHere := fresh key (List.mem_cons_self ..)
    have next (start : List Char) : ∃ shorter,
        Shape.nextKey false ([','] ++ '"' :: start) = .ok (some ⟨start, shorter⟩) :=
      ⟨Nat.lt_succ_of_lt (Nat.lt_succ_self _), rfl⟩
    rw [List.map_cons, List.nodup_cons] at distinct
    rw [List.map_cons, List.flatMap_cons, ← List.singleton_append, List.append_assoc] at cut
    rcases cut_append cut with inHere | ⟨rest, rfl, inLater⟩
    · refine members_cut_member [','] seen record ?_ next known freshHere here.needs inHere
      rintro part (inLead | rfl)
      · rw [cut_single inLead]
        exact ⟨_, rfl, rfl⟩
      · exact ⟨_, rfl, rfl⟩
    · rw [members_written_member false [','] seen record rest next known freshHere here.toReads]
      refine ih (key :: seen) (update record)
        (fun other listed => whole other (List.mem_cons_of_mem _ listed)) distinct.2 ?_ inLater
      intro other listed inSeen
      rcases List.mem_cons.mp inSeen with same | older
      · exact distinct.1 (same ▸ listed)
      · exact fresh other (List.mem_cons_of_mem _ listed) older

theorem members_cut {members : List (String × List Char)} (record : α)
    (whole : WholeMembers shape members) (distinct : (members.map Prod.fst).Nodup)
    {part : List Char} (cut : Cut part (commas (members.map writtenMember) ++ ['\x7d'])) :
    EndsEarly (shape.members true [] record part) := by
  cases members with
  | nil =>
    rw [cut_single cut]
    exact members_end_between [] record ⟨_, rfl, rfl⟩
  | cons member later =>
    rcases member with ⟨key, chars⟩
    obtain ⟨field, update, known, here⟩ := whole _ (List.mem_cons_self ..)
    have next (start : List Char) : ∃ shorter,
        Shape.nextKey true ([] ++ '"' :: start) = .ok (some ⟨start, shorter⟩) :=
      ⟨Nat.lt_succ_self _, rfl⟩
    rw [List.map_cons, List.nodup_cons] at distinct
    rw [List.map_cons, commas_cons, List.append_assoc] at cut
    rcases cut_append cut with inHere | ⟨rest, rfl, inLater⟩
    · refine members_cut_member [] [] record ?_ next known (by simp) here.needs inHere
      rintro part (inLead | rfl)
      · exact absurd inLead (cut_nil part)
      · exact ⟨_, rfl, rfl⟩
    · have stepped := members_written_member true [] [] record rest next known (by simp)
        here.toReads
      rw [List.nil_append] at stepped
      rw [stepped]
      refine members_cut_after_comma [key] (update record)
        (fun other listed => whole other (List.mem_cons_of_mem _ listed)) distinct.2 ?_ inLater
      intro other listed inSeen
      rw [List.mem_singleton.mp inSeen] at listed
      exact distinct.1 listed

theorem needs_record {members : List (String × List Char)} (whole : WholeMembers shape members)
    (ordered : (members.map Prod.fst).Sublist (shape.fields.map Member.name))
    (distinct : (shape.fields.map Member.name).Nodup) :
    Needs shape.reader (writtenRecord members) := by
  intro part cut
  rcases cut_cons cut with rfl | ⟨body, rfl, inMembers⟩
  · exact ⟨_, rfl, rfl⟩
  obtain ⟨halt, failed, early⟩ := members_cut shape.empty whole (distinct.sublist ordered) inMembers
  have object : shape.object body = .error halt := by
    unfold Shape.object
    split
    · rename_i halted
      cases failed.symm.trans halted
      rfl
    · rename_i found
      cases failed.symm.trans found
  exact ⟨halt, by rw [Shape.reader_found shape rfl, if_pos rfl, object], early⟩

end record

end NatSpec.Json
