import NatSpec.Json.Reader

set_option autoImplicit false

namespace NatSpec.Json

variable {α : Type} {s rest : List Char} {c : Char}

namespace Reader

theorem string_found (found : skipBlank s = c :: rest) :
    Reader.string s =
      if c = '"' then quoted s rest (shorter_of_skipBlank found)
      else .error (mismatch "a string" (c :: rest)) := by
  unfold Reader.string
  split <;> cases found.symm.trans ‹skipBlank s = _›
  rfl

theorem bool_found (found : skipBlank s = c :: rest) :
    Reader.bool s =
      if c = 't' then word true "rue".toList s rest (shorter_of_skipBlank found)
      else if c = 'f' then word false "alse".toList s rest (shorter_of_skipBlank found)
      else .error (mismatch "a boolean" (c :: rest)) := by
  unfold Reader.bool
  split <;> cases found.symm.trans ‹skipBlank s = _›
  rfl

theorem nullable_found (reader : Reader α) (found : skipBlank s = c :: rest) :
    nullable reader s =
      if c = 'n' then word none "ull".toList s rest (shorter_of_skipBlank found)
      else reader.map some s := by
  unfold nullable
  split <;> cases found.symm.trans ‹skipBlank s = _›
  rfl

theorem list_found (item : Reader α) (found : skipBlank s = c :: rest) :
    list item s =
      if c = '[' then
        match read : items item true [] rest with
        | .error halt => .error halt
        | .ok (values, after) =>
          .ok (values, ⟨after, Nat.lt_trans (length_items read) (shorter_of_skipBlank found)⟩)
      else .error (mismatch "a sequence" (c :: rest)) := by
  unfold list
  split <;> cases found.symm.trans ‹skipBlank s = _›
  rfl

theorem next_item_closed_found (first : Bool) (found : skipBlank s = ']' :: rest) :
    nextItem first s = .ok none := by
  unfold nextItem
  split <;> cases found.symm.trans ‹skipBlank s = _›
  rfl

theorem next_item_first_found (found : skipBlank s = c :: rest) (notClosing : c ≠ ']') :
    nextItem true s = .ok (some ⟨s, Nat.le_refl _⟩) := by
  unfold nextItem
  split <;> cases found.symm.trans ‹skipBlank s = _›
  rw [if_neg notClosing, if_pos rfl]

theorem next_item_later_found {after : List Char} (found : skipBlank s = ',' :: rest)
    (next : skipBlank rest = c :: after) (notClosing : c ≠ ']') :
    nextItem false s = .ok (some ⟨rest, Nat.le_of_lt (shorter_of_skipBlank found)⟩) := by
  unfold nextItem
  split <;> cases found.symm.trans ‹skipBlank s = _›
  rw [if_neg (by decide), if_neg Bool.false_ne_true, if_pos rfl, next]
  exact if_neg notClosing

theorem end_list_found (found : skipBlank s = c :: rest) :
    endList s =
      if c = ']' then .ok ⟨rest, shorter_of_skipBlank found⟩
      else if c = ',' then
        if (skipBlank rest).head? = some ']' then .error (.upon .trailingComma (skipBlank rest))
        else .error (.upon .trailingCharacters (skipBlank rest))
      else .error (.upon .trailingCharacters (c :: rest)) := by
  unfold endList
  split <;> cases found.symm.trans ‹skipBlank s = _›
  rfl

end Reader

namespace Shape

theorem next_key_closed_found (first : Bool) (found : skipBlank s = '\x7d' :: rest) :
    nextKey first s = .ok none := by
  unfold nextKey
  split <;> cases found.symm.trans ‹skipBlank s = _›
  rfl

theorem next_key_first_found (found : skipBlank s = '"' :: rest) :
    nextKey true s = .ok (some ⟨rest, shorter_of_skipBlank found⟩) := by
  unfold nextKey
  split <;> cases found.symm.trans ‹skipBlank s = _›
  rfl

theorem next_key_later_found {key : List Char} (found : skipBlank s = ',' :: rest)
    (next : skipBlank rest = '"' :: key) :
    ∃ shorter, nextKey false s = .ok (some ⟨key, shorter⟩) := by
  refine ⟨Nat.lt_trans (shorter_of_skipBlank next) (shorter_of_skipBlank found), ?_⟩
  unfold nextKey
  split <;> cases found.symm.trans ‹skipBlank s = _›
  rw [if_neg (by decide), if_neg Bool.false_ne_true, if_pos rfl]
  split <;> cases next.symm.trans ‹skipBlank rest = _›
  rfl

theorem end_object_found (found : skipBlank s = '\x7d' :: rest) :
    endObject s = .ok ⟨rest, shorter_of_skipBlank found⟩ := by
  unfold endObject
  split <;> cases found.symm.trans ‹skipBlank s = _›
  rfl

theorem colon_found (found : skipBlank s = ':' :: rest) :
    colon s = .ok ⟨rest, shorter_of_skipBlank found⟩ := by
  unfold colon
  split <;> cases found.symm.trans ‹skipBlank s = _›
  rfl

theorem reader_found (shape : Shape α) (found : skipBlank s = c :: rest) :
    shape.reader s =
      if c = '\x7b' then
        match shape.object rest with
        | .error halt => .error halt
        | .ok (record, ⟨after, shorter⟩) =>
          .ok (record, ⟨after, Nat.lt_trans shorter (shorter_of_skipBlank found)⟩)
      else if c = '[' then
        match shape.array rest with
        | .error halt => .error halt
        | .ok (record, ⟨after, shorter⟩) =>
          .ok (record, ⟨after, Nat.lt_trans shorter (shorter_of_skipBlank found)⟩)
      else .error (mismatch shape.wanted (c :: rest)) := by
  unfold reader
  split <;> cases found.symm.trans ‹skipBlank s = _›
  rfl

end Shape

end NatSpec.Json
