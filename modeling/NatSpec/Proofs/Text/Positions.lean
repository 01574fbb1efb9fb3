import Mathlib.Data.List.TakeWhile
import Mathlib.Data.String.Basic

set_option autoImplicit false

namespace NatSpec.Text

open String

def Boundary (text : String) (position : Nat) : Prop := Pos.Raw.IsValid text ⟨position⟩

instance (text : String) (position : Nat) : Decidable (Boundary text position) :=
  inferInstanceAs (Decidable (Pos.Raw.IsValid text ⟨position⟩))

def between (text : String) (start stop : Nat) : List Char :=
  (Pos.Raw.extract text ⟨start⟩ ⟨stop⟩).toList

-- Only two boundaries of the text, the second not in front of the first, have a text between them.
def cut? (text : String) (start stop : Nat) : Option (List Char) :=
  if Boundary text start ∧ Boundary text stop ∧ start ≤ stop then some (between text start stop)
  else none

def find (text : String) (start : Nat) (c : Char) : Nat :=
  start + utf8Len ((between text start text.utf8ByteSize).takeWhile (· ≠ c))

def find? (text : String) (start : Nat) (c : Char) : Option Nat :=
  (cut? text start text.utf8ByteSize).map fun _ => find text start c

def Ascending (text : String) (positions : List Nat) : Prop :=
  positions.IsChain (· ≤ ·) ∧ ∀ position ∈ positions, Boundary text position

def place (text : String) (rest : List Char) : Nat := text.utf8ByteSize - utf8Len rest

variable {text : String} {front middle rest tail : List Char} {c : Char}

theorem place_behind (parted : text.toList = front ++ rest) : place text rest = utf8Len front := by
  have size : text.utf8ByteSize = utf8Len front + utf8Len rest := by
    rw [← utf8Len_toList, parted, utf8Len_append]
  rw [place, size, Nat.add_sub_cancel]

theorem place_nil (text : String) : place text [] = text.utf8ByteSize := rfl

theorem place_whole (text : String) : place text text.toList = 0 :=
  place_behind (List.nil_append _).symm

theorem place_boundary (ending : rest <:+ text.toList) : Boundary text (place text rest) := by
  obtain ⟨front, parted⟩ := ending
  refine Pos.Raw.isValid_iff_exists_append.mpr ⟨.ofList front, .ofList rest, ?_, ?_⟩
  · rw [← ofList_append, parted, ofList_toList]
  · rw [place_behind parted.symm, rawEndPos_ofList]

theorem boundary_place {position : Nat} (boundary : Boundary text position) :
    ∃ rest, rest <:+ text.toList ∧ position = place text rest := by
  obtain ⟨front, rest, rfl, same⟩ := Pos.Raw.isValid_iff_exists_append.mp boundary
  have parted : (front ++ rest).toList = front.toList ++ rest.toList := toList_append
  refine ⟨rest.toList, ⟨front.toList, parted.symm⟩, ?_⟩
  rw [place_behind parted, utf8Len_toList]
  exact congrArg Pos.Raw.byteIdx same

theorem place_next (ending : c :: rest <:+ text.toList) :
    place text rest = place text (c :: rest) + c.utf8Size := by
  obtain ⟨front, parted⟩ := ending
  have longer : text.toList = (front ++ [c]) ++ rest := by
    rw [← parted, List.append_assoc, List.singleton_append]
  rw [place_behind parted.symm, place_behind longer, utf8Len_append]
  simp

theorem place_le (later : tail <:+ rest) : place text rest ≤ place text tail :=
  Nat.sub_le_sub_left (utf8Len_le_of_suffix later) _

theorem place_lt (ending : rest <:+ text.toList) (later : tail <:+ rest)
    (shorter : tail.length < rest.length) : place text rest < place text tail := by
  obtain ⟨passed, rfl⟩ := later
  obtain ⟨front, parted⟩ := ending
  have longer : text.toList = (front ++ passed) ++ tail := by rw [← parted, List.append_assoc]
  have filled : utf8Len passed ≠ 0 := by
    rw [ne_eq, utf8Len_eq_zero]
    rintro rfl
    exact Nat.lt_irrefl _ shorter
  rw [place_behind parted.symm, place_behind longer, utf8Len_append]
  omega

theorem place_lt_iff (ending : rest <:+ text.toList) (other : tail <:+ text.toList) :
    place text rest < place text tail ↔ tail.length < rest.length := by
  constructor
  · intro less
    by_cases shorter : tail.length < rest.length
    · exact shorter
    · have later := List.suffix_of_suffix_length_le ending other (Nat.le_of_not_lt shorter)
      exact absurd less (Nat.not_lt.mpr (place_le later))
  · intro shorter
    exact place_lt ending (List.suffix_of_suffix_length_le other ending (Nat.le_of_lt shorter))
      shorter

theorem place_end_iff (ending : rest <:+ text.toList) :
    place text rest = text.utf8ByteSize ↔ rest = [] := by
  constructor
  · intro same
    by_cases ended : rest = []
    · exact ended
    · have less := place_lt ending (List.nil_suffix) (List.length_pos_iff.mpr ended)
      rw [place_nil, same] at less
      exact absurd less (Nat.lt_irrefl _)
  · rintro rfl
    exact place_nil text

theorem place_unended (ending : c :: rest <:+ text.toList) :
    place text (c :: rest) ≠ text.utf8ByteSize := by
  rw [ne_eq, place_end_iff ending]
  exact List.cons_ne_nil _ _

theorem place_start_iff (ending : rest <:+ text.toList) :
    place text rest = 0 ↔ rest.length = text.toList.length := by
  have least := place_lt_iff (List.suffix_refl text.toList) ending
  have bound := ending.length_le
  rw [place_whole] at least
  omega

theorem between_places (ending : middle ++ rest <:+ text.toList) :
    between text (place text (middle ++ rest)) (place text rest) = middle := by
  obtain ⟨front, parted⟩ := ending
  have longer : text.toList = (front ++ middle) ++ rest := by rw [← parted, List.append_assoc]
  have whole : text = .ofList (front ++ middle ++ rest) := by rw [← longer, ofList_toList]
  rw [between, place_behind parted.symm, place_behind longer, utf8Len_append, whole,
    extract_of_valid, toList_ofList]

theorem cut_places (ending : middle ++ rest <:+ text.toList) :
    cut? text (place text (middle ++ rest)) (place text rest) = some middle := by
  have later : rest <:+ middle ++ rest := List.suffix_append ..
  rw [cut?, if_pos ⟨place_boundary ending, place_boundary (later.trans ending), place_le later⟩,
    between_places ending]

example : cut? "é@" 0 2 = some ['é'] := by decide

example : cut? "é@" 1 3 = none := by decide

theorem cut_to_end (ending : rest <:+ text.toList) :
    cut? text (place text rest) text.utf8ByteSize = some rest := by
  have whole : rest ++ [] <:+ text.toList := by rwa [List.append_nil]
  have found := cut_places whole
  rwa [List.append_nil, place_nil] at found

theorem find_place (ending : rest <:+ text.toList) (c : Char) :
    find text (place text rest) c = place text (rest.dropWhile (· ≠ c)) := by
  have whole : rest ++ [] <:+ text.toList := by rwa [List.append_nil]
  have all := between_places whole
  rw [List.append_nil, place_nil] at all
  obtain ⟨front, parted⟩ := ending
  have split : text.toList =
      (front ++ rest.takeWhile (· ≠ c)) ++ rest.dropWhile (· ≠ c) := by
    rw [List.append_assoc, List.takeWhile_append_dropWhile, parted]
  rw [find, all, place_behind split, place_behind parted.symm, utf8Len_append]

theorem find?_place (ending : rest <:+ text.toList) (c : Char) :
    find? text (place text rest) c = some (place text (rest.dropWhile (· ≠ c))) := by
  rw [find?, cut_to_end ending, Option.map_some, find_place ending]

theorem boundary_of_find? {start position : Nat} (found : find? text start c = some position) :
    Boundary text start := by
  obtain ⟨whole, cut, _⟩ := Option.map_eq_some_iff.mp found
  by_cases possible : Boundary text start ∧ Boundary text text.utf8ByteSize ∧
      start ≤ text.utf8ByteSize
  · exact possible.1
  · rw [cut?, if_neg possible] at cut
    cases cut

theorem places_ascending {rests : List (List Char)} (ending : rest <:+ text.toList)
    (later : (rest :: rests).IsChain fun rest tail => tail <:+ rest) :
    Ascending text ((rest :: rests).map (place text)) := by
  induction rests generalizing rest with
  | nil => exact ⟨.singleton _, List.forall_mem_singleton.mpr (place_boundary ending)⟩
  | cons next rests ih =>
    obtain ⟨after, others⟩ := List.isChain_cons_cons.mp later
    obtain ⟨ordered, boundaries⟩ := ih (after.trans ending) others
    exact ⟨List.isChain_cons_cons.mpr ⟨place_le after, ordered⟩,
      List.forall_mem_cons.mpr ⟨place_boundary ending, boundaries⟩⟩

end NatSpec.Text
