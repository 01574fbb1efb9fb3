import NatSpec.Proofs.Files.Walk
import NatSpec.Settings

set_option autoImplicit false

namespace NatSpec

namespace Path

theorem segments_slash (rest : List Char) : segments ('/' :: rest) = [] :: segments rest :=
  rfl

theorem segments_cons {c : Char} {rest first : List Char} {others : List (List Char)}
    (other : c ≠ '/') (parts : segments rest = first :: others) :
    segments (c :: rest) = (c :: first) :: others := by
  rw [segments]
  · rw [parts]
  · exact other

theorem segments_clear {text : List Char} (clear : '/' ∉ text) : segments text = [text] := by
  induction text with
  | nil => rfl
  | cons c rest ih =>
    have other : c ≠ '/' := fun same => clear (same ▸ List.mem_cons_self ..)
    exact segments_cons other (ih fun later => clear (List.mem_cons_of_mem _ later))

theorem segments_append (text : List Char) :
    ∃ above last, ∀ tail, '/' ∉ tail → segments (text ++ tail) = above ++ [last ++ tail] := by
  induction text with
  | nil => exact ⟨[], [], fun tail clear => segments_clear clear⟩
  | cons c rest ih =>
    obtain ⟨above, last, parts⟩ := ih
    by_cases slash : c = '/'
    · subst c
      refine ⟨[] :: above, last, fun tail clear => ?_⟩
      rw [List.cons_append, segments_slash, parts tail clear, List.cons_append]
    · cases above with
      | nil =>
        refine ⟨[], c :: last, fun tail clear => ?_⟩
        exact segments_cons slash (parts tail clear)
      | cons first others =>
        refine ⟨(c :: first) :: others, last, fun tail clear => ?_⟩
        exact segments_cons slash (parts tail clear)

theorem is_absolute_append (path : String) {rest : String} (relative : isAbsolute rest = false) :
    isAbsolute (path ++ rest) = isAbsolute path := by
  unfold isAbsolute at relative ⊢
  rw [String.toList_append]
  cases path.toList with
  | nil => exact relative
  | cons c others => rfl

theorem join_append (base path : String) {rest : String} (relative : isAbsolute rest = false) :
    join base (path ++ rest) = join base path ++ rest := by
  unfold join
  rw [is_absolute_append path relative]
  by_cases absolute : isAbsolute path = true
  · rw [if_pos absolute, if_pos absolute]
  · rw [if_neg absolute, if_neg absolute]
    by_cases closed : base = "" ∨ base.toList.getLast? = some '/'
    · simp only [if_pos closed, String.append_assoc]
    · simp only [if_neg closed, String.append_assoc]

end Path

namespace Output

def suffix (output : Output) : String := "." ++ output.extension

theorem suffix_relative (output : Output) : Path.isAbsolute output.suffix = false := by
  cases output <;> decide

theorem suffix_clear (output : Output) : '/' ∉ output.suffix.toList := by
  cases output <;> decide

theorem suffix_injective {left right : Output} (same : left.suffix = right.suffix) :
    left = right := by
  revert same
  cases left <;> cases right <;> decide

theorem suffix_long (last : List Char) (output : Output) {short : String}
    (bound : short.length ≤ 2) : String.ofList (last ++ output.suffix.toList) ≠ short := by
  have long : 3 ≤ output.suffix.toList.length := by cases output <;> decide
  intro same
  rw [← same, ← String.length_toList, String.toList_ofList, List.length_append] at bound
  omega

end Output

theorem names_suffix (stem : String) :
    ∃ above last, ∀ output : Output,
      Path.names (stem ++ output.suffix) =
        above ++ [String.ofList (last ++ output.suffix.toList)] := by
  obtain ⟨above, last, parts⟩ := Path.segments_append stem.toList
  refine ⟨(above.map String.ofList).filter fun name => name ≠ "" && name ≠ ".", last,
    fun output => ?_⟩
  have filled : String.ofList (last ++ output.suffix.toList) ≠ "" :=
    output.suffix_long last (by decide)
  have moving : String.ofList (last ++ output.suffix.toList) ≠ "." :=
    output.suffix_long last (by decide)
  unfold Path.names
  rw [String.toList_append, parts _ output.suffix_clear, List.map_append, List.filter_append]
  congr 1
  refine List.filter_eq_self.mpr fun name listed => ?_
  rw [List.mem_singleton.mp listed, decide_eq_true filled, decide_eq_true moving]
  rfl

theorem file_path_suffix (settings : Settings) (contract : String) (output : Output) :
    settings.filePath contract output = Path.join settings.out contract ++ output.suffix := by
  rw [← Path.join_append _ _ output.suffix_relative, Output.suffix, ← String.append_assoc]
  rfl

namespace FileSystem

theorem output_places_differ {fs : FileSystem} {settings : Settings} {contract : String}
    {left right : Output} {place : Place}
    (here : fs.locate (settings.filePath contract left) = .ok place)
    (there : fs.locate (settings.filePath contract right) = .ok place) : left = right := by
  obtain ⟨above, last, named⟩ := names_suffix (Path.join settings.out contract)
  have ends (output : Output)
      (located : fs.locate (settings.filePath contract output) = .ok place) :
      ∃ directory, place = directory ++ [String.ofList (last ++ output.suffix.toList)] := by
    have walked := (locate_ok_iff.mp located).2.2
    rw [file_path_suffix, named output] at walked
    obtain ⟨directory, _, _, ended⟩ := walk_last walked (output.suffix_long last (by decide))
    exact ⟨directory, ended⟩
  obtain ⟨directory, ended⟩ := ends left here
  obtain ⟨directory', ended'⟩ := ends right there
  have same := (List.append_inj' (ended.symm.trans ended') rfl).2
  have texts := String.ofList_injective (List.cons.inj same).1
  exact Output.suffix_injective (String.toList_inj.mp (List.append_cancel_left texts))

end FileSystem

end NatSpec
