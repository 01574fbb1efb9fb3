import NatSpec.Proofs.Json.FirstCharacter
import NatSpec.Proofs.Json.Strings

set_option autoImplicit false

namespace NatSpec.Json

def openers : List Char := ['"', 't', 'f', '[', '\x7b']

def Opens (chars : List Char) : Prop := ∃ c ∈ openers, ∃ tail, chars = c :: tail

structure Reads {α : Type} (reader : Reader α) (chars : List Char) (value : α) : Prop where
  opens : Opens chars
  leaves : ∀ rest, Leaves (reader (chars ++ rest)) value rest

theorem opener_skip_blank {c : Char} (opener : c ∈ openers) (rest : List Char) :
    skipBlank (c :: rest) = c :: rest := by
  have notBlank : ∀ c ∈ openers, ¬ isBlank c = true := by simp [openers, isBlank]
  exact List.dropWhile_cons_of_neg (notBlank c opener)

variable {α β : Type}

theorem quoted_leaves {s body text rest : List Char} (shorter : body.length < s.length)
    (read : stringBody [] body = .ok (text, rest)) :
    Leaves (Reader.quoted s body shorter) (.ofList text) rest := by
  unfold Reader.quoted
  split
  · rename_i halted
    rw [read] at halted
    cases halted
  · rename_i found
    rw [read] at found
    cases found
    exact ⟨_, rfl⟩

theorem literal_append (letters rest : List Char) :
    literal letters (letters ++ rest) = .ok rest := by
  induction letters with
  | nil => rw [List.nil_append, literal]
  | cons letter letters ih => rw [List.cons_append, literal, if_pos rfl, ih]

theorem word_leaves (value : α) (letters s rest : List Char)
    (shorter : (letters ++ rest).length < s.length) :
    Leaves (Reader.word value letters s (letters ++ rest) shorter) value rest := by
  have read := literal_append letters rest
  unfold Reader.word
  split
  · rename_i halted
    rw [read] at halted
    cases halted
  · rename_i found
    rw [read] at found
    cases found
    exact ⟨_, rfl⟩

theorem literal_taken {letters s after : List Char} (read : literal letters s = .ok after) :
    s = letters ++ after := by
  fun_induction literal letters s with
  | case1 =>
    cases read
    rfl
  | case2 => cases read
  | case3 letter letters s ih => rw [ih read, List.cons_append]
  | case4 => cases read

theorem word_taken {value result : α} {letters s body after : List Char}
    {shorter : body.length < s.length} {afterShorter : after.length < s.length}
    (read : Reader.word value letters s body shorter = .ok (result, ⟨after, afterShorter⟩)) :
    body = letters ++ after := by
  unfold Reader.word at read
  split at read
  · cases read
  rename_i spelled
  cases read
  exact literal_taken spelled

theorem reads_map (f : α → β) {reader : Reader α} {chars : List Char} {value : α}
    (reads : Reads reader chars value) : Reads (reader.map f) chars (f value) := by
  refine ⟨reads.opens, ?_⟩
  intro rest
  obtain ⟨shorter, found⟩ := reads.leaves rest
  exact ⟨shorter, by rw [Reader.map, found]⟩

theorem read_written {reader : Reader α} {chars : List Char} {value : α}
    (reads : Reads reader chars value) : read reader (.ofList chars) = .ok value := by
  have found := reads.leaves []
  have text : chars ++ [] = (String.ofList chars).toList := by
    rw [List.append_nil, String.toList_ofList]
  rw [text] at found
  obtain ⟨shorter, found⟩ := found
  rw [read, found]
  exact if_pos rfl

theorem read_followed {reader : Reader α} {chars : List Char} {value : α}
    (reads : Reads reader chars value) (more : String) :
    read reader (.ofList chars ++ more) = if skipBlank more.toList = [] then .ok value
      else .error ((Halt.upon .trailingCharacters (skipBlank more.toList)).inText
        (String.ofList chars ++ more).toList) := by
  have found := reads.leaves more.toList
  have text : chars ++ more.toList = (String.ofList chars ++ more).toList := by
    rw [String.toList_append, String.toList_ofList]
  rw [text] at found
  obtain ⟨shorter, found⟩ := found
  rw [read, found]

theorem reads_string (text : String) : Reads .string (writtenString text) text := by
  refine ⟨⟨'"', by decide, _, rfl⟩, ?_⟩
  intro rest
  have body := string_body_escape [] text.toList rest
  have found : Leaves (Reader.string ('"' :: (escape text.toList ++ '"' :: rest)))
      (.ofList text.toList) rest := quoted_leaves (Nat.lt_succ_self _) body
  rw [String.ofList_toList] at found
  rw [writtenString, List.cons_append, List.append_assoc, List.singleton_append]
  exact found

theorem reads_bool (value : Bool) : Reads .bool (writtenBool value) value := by
  cases value with
  | true =>
    refine ⟨⟨'t', by decide, _, rfl⟩, ?_⟩
    intro rest
    exact word_leaves true "rue".toList _ rest (Nat.lt_succ_self _)
  | false =>
    refine ⟨⟨'f', by decide, _, rfl⟩, ?_⟩
    intro rest
    exact word_leaves false "alse".toList _ rest (Nat.lt_succ_self _)

theorem reads_nullable {reader : Reader α} {chars : List Char} {value : α}
    (reads : Reads reader chars value) : Reads (.nullable reader) chars (some value) := by
  refine ⟨reads.opens, ?_⟩
  intro rest
  have found := (reads_map some reads).leaves rest
  obtain ⟨c, opener, tail, rfl⟩ := reads.opens
  have blank := opener_skip_blank opener (tail ++ rest)
  have notNull : ∀ c ∈ openers, c ≠ 'n' := by simp [openers]
  rw [List.cons_append] at found ⊢
  rw [Reader.nullable_found reader blank, if_neg (notNull c opener)]
  exact found

theorem opener_not_bracket : ∀ c ∈ openers, c ≠ ']' := by
  simp [openers]

theorem next_item_first {c : Char} (opener : c ∈ openers) (tail : List Char) :
    Reader.nextItem true (c :: tail) = .ok (some ⟨c :: tail, Nat.le_refl _⟩) :=
  Reader.next_item_first_found (opener_skip_blank opener tail) (opener_not_bracket c opener)

theorem next_item_comma {c : Char} (opener : c ∈ openers) (tail : List Char) :
    Reader.nextItem false (',' :: c :: tail) = .ok (some ⟨c :: tail, Nat.le_succ _⟩) :=
  Reader.next_item_later_found rfl (opener_skip_blank opener tail) (opener_not_bracket c opener)

theorem items_next {item : Reader α} {first : Bool} {s start rest : List Char} {value : α} {bound}
    (read : List α) (next : Reader.nextItem first s = .ok (some ⟨start, bound⟩))
    (found : Leaves (item start) value rest) :
    item.items first read s = item.items false (value :: read) rest := by
  obtain ⟨shorter, found⟩ := found
  rw [Reader.items, next]
  simp only [found]

theorem items_end (item : Reader α) (first : Bool) (read : List α) (rest : List Char) :
    item.items first read (']' :: rest) = .ok (read.reverse, rest) := by
  rw [Reader.items]
  rfl

theorem items_after_comma (item : Reader α) (written : α → List Char) (values read : List α)
    (reads : ∀ value ∈ values, Reads item (written value) value) (rest : List Char) :
    item.items false read ((values.map written).flatMap (',' :: ·) ++ ']' :: rest) =
      .ok (read.reverse ++ values, rest) := by
  induction values generalizing read with
  | nil => rw [List.map_nil, List.flatMap_nil, List.nil_append, items_end, List.append_nil]
  | cons value values ih =>
    have here := reads value (List.mem_cons_self ..)
    have later := ih (value :: read) fun other member => reads other (List.mem_cons_of_mem _ member)
    obtain ⟨c, opener, tail, opened⟩ := here.opens
    rw [List.map_cons, List.flatMap_cons, List.cons_append, List.cons_append, List.append_assoc]
    have next := next_item_comma opener
      (tail ++ ((values.map written).flatMap (',' :: ·) ++ ']' :: rest))
    rw [← List.cons_append, ← opened] at next
    rw [items_next read next (here.leaves _), later, List.reverse_cons, List.append_assoc,
      List.singleton_append]

theorem items_written (item : Reader α) (written : α → List Char) (values : List α)
    (reads : ∀ value ∈ values, Reads item (written value) value) (rest : List Char) :
    item.items true [] (commas (values.map written) ++ ']' :: rest) = .ok (values, rest) := by
  cases values with
  | nil => exact items_end item true [] rest
  | cons value values =>
    have here := reads value (List.mem_cons_self ..)
    have later := items_after_comma item written values [value]
      (fun other member => reads other (List.mem_cons_of_mem _ member)) rest
    obtain ⟨c, opener, tail, opened⟩ := here.opens
    have next := next_item_first opener
      (tail ++ ((values.map written).flatMap (',' :: ·) ++ ']' :: rest))
    rw [← List.cons_append, ← opened] at next
    rw [List.map_cons, commas_cons, List.append_assoc, items_next [] next (here.leaves _), later]
    rfl

theorem reads_list {item : Reader α} {written : α → List Char} (values : List α)
    (reads : ∀ value ∈ values, Reads item (written value) value) :
    Reads (.list item) (writtenArray (values.map written)) values := by
  refine ⟨⟨'[', by decide, _, rfl⟩, ?_⟩
  intro rest
  have read := items_written item written values reads rest
  rw [writtenArray, List.cons_append, List.append_assoc, List.singleton_append]
  rw [Reader.list_found item rfl, if_pos rfl]
  split
  · rename_i halted
    cases read.symm.trans halted
  · rename_i found
    cases read.symm.trans found
    exact ⟨_, rfl⟩

theorem reads_strings (texts : List String) :
    Reads (.list .string) (writtenStrings texts) texts :=
  reads_list texts fun text _ => reads_string text

end NatSpec.Json
