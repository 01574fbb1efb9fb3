import NatSpec.Proofs.Files.OutputPaths

set_option autoImplicit false

namespace NatSpec

namespace Path

structure ChildOf (base name path : String) : Prop where
  joined : path = join base name
  start : isAbsolute path = isAbsolute base
  names : names path = names base ++ [name]

theorem segments_filled (text : List Char) : ∃ first others, segments text = first :: others := by
  obtain ⟨above, last, split⟩ := segments_append text
  have whole := split [] nofun
  rw [List.append_nil] at whole
  rw [whole]
  exact List.exists_cons_of_ne_nil (by simp)

theorem segments_split (left right : List Char) :
    segments (left ++ '/' :: right) = segments left ++ segments right := by
  induction left with
  | nil => rfl
  | cons c rest ih =>
    by_cases slash : c = '/'
    · subst c
      rw [List.cons_append, segments_slash, segments_slash, ih, List.cons_append]
    · obtain ⟨first, others, parts⟩ := segments_filled rest
      rw [parts, List.cons_append] at ih
      rw [List.cons_append, segments_cons slash ih, segments_cons slash parts, List.cons_append]

theorem names_split (left right : String) :
    Path.names (left ++ "/" ++ right) = Path.names left ++ Path.names right := by
  have chars : (left ++ "/" ++ right).toList = left.toList ++ '/' :: right.toList := by
    rw [String.toList_append, String.toList_append, List.append_assoc]
    rfl
  rw [Path.names, chars, segments_split, List.map_append, List.filter_append]
  rfl

theorem segments_without_slash {text segment : List Char} (member : segment ∈ segments text) :
    '/' ∉ segment := by
  induction text generalizing segment with
  | nil =>
    rw [List.mem_singleton.mp member]
    exact nofun
  | cons c rest ih =>
    by_cases slash : c = '/'
    · subst c
      rw [segments_slash] at member
      rcases List.mem_cons.mp member with rfl | later
      · exact nofun
      · exact ih later
    · obtain ⟨first, others, parts⟩ := segments_filled rest
      rw [segments_cons slash parts] at member
      rw [parts] at ih
      rcases List.mem_cons.mp member with rfl | later
      · intro inside
        rcases List.mem_cons.mp inside with here | there
        · exact slash here.symm
        · exact ih (List.mem_cons_self ..) there
      · exact ih (List.mem_cons_of_mem _ later)

theorem names_without_slash {path name : String} (member : name ∈ Path.names path) :
    '/' ∉ name.toList := by
  obtain ⟨segment, inSegments, rfl⟩ := List.mem_map.mp (List.mem_filter.mp member).1
  rw [String.toList_ofList]
  exact segments_without_slash inSegments

theorem names_single {name : String} (clear : '/' ∉ name.toList) (filled : name ≠ "")
    (moving : name ≠ ".") : Path.names name = [name] := by
  rw [Path.names, segments_clear clear, List.map_singleton, String.ofList_toList]
  exact List.filter_eq_self.mpr (by simp [filled, moving])

theorem is_absolute_longer {base : String} (rest : String) (filled : base ≠ "") :
    isAbsolute (base ++ rest) = isAbsolute base := by
  rw [isAbsolute, isAbsolute, String.toList_append]
  cases opening : base.toList with
  | nil => exact absurd (String.toList_eq_nil_iff.mp opening) filled
  | cons c tail => rfl

theorem join_child {base name : String} (clear : '/' ∉ name.toList) (filled : name ≠ "")
    (moving : name ≠ ".") : ChildOf base name (join base name) := by
  have relative : ¬ isAbsolute name = true := fun absolute =>
    clear (List.mem_of_head? (of_decide_eq_true absolute))
  have single := names_single clear filled moving
  by_cases empty : base = ""
  · subst empty
    rw [join_empty]
    exact ⟨(join_empty name).symm, Bool.eq_false_iff.mpr relative, single⟩
  by_cases closed : base.toList.getLast? = some '/'
  · have joined : join base name = base ++ name := by
      rw [join, if_neg relative, if_pos (.inr closed)]
    obtain ⟨left, ends⟩ := List.getLast?_eq_some_iff.mp closed
    have split : base = String.ofList left ++ "/" ++ "" := by
      rw [← String.toList_inj, ends]
      simp
    have onward : base ++ name = String.ofList left ++ "/" ++ name := by
      rw [split, String.append_empty]
    rw [joined]
    refine ⟨joined.symm, is_absolute_longer name empty, ?_⟩
    rw [onward, names_split, single, split, names_split]
    exact congrArg (· ++ [name]) (List.append_nil _).symm
  · have joined : join base name = base ++ "/" ++ name := by
      rw [join, if_neg relative, if_neg (by simp [empty, closed])]
    rw [joined]
    refine ⟨joined.symm, ?_, by rw [names_split, single]⟩
    rw [String.append_assoc]
    exact is_absolute_longer _ empty

end Path

def Output.fileName (output : Output) (contract : String) : String :=
  contract ++ "." ++ output.extension

theorem file_name_chars (output : Output) (contract : String) :
    output.fileName contract = String.ofList (contract.toList ++ output.suffix.toList) := by
  rw [← String.toList_inj, String.toList_ofList, ← String.toList_append, Output.fileName,
    String.append_assoc]
  rfl

theorem file_path_child_iff (settings : Settings) (contract : String) (output : Output) :
    Path.ChildOf settings.out (output.fileName contract) (settings.filePath contract output) ↔
      '/' ∉ contract.toList := by
  have chars := file_name_chars output contract
  refine ⟨?_, ?_⟩
  · intro child inside
    have listed : output.fileName contract ∈ Path.names (settings.filePath contract output) := by
      rw [child.names]
      exact List.mem_append_right _ (List.mem_singleton_self _)
    apply Path.names_without_slash listed
    rw [chars, String.toList_ofList]
    exact List.mem_append_left _ inside
  · intro clear
    apply Path.join_child
    · rw [chars, String.toList_ofList]
      intro inside
      rcases List.mem_append.mp inside with inName | inSuffix
      · exact clear inName
      · exact output.suffix_clear inSuffix
    · rw [chars]
      exact output.suffix_long _ (by decide)
    · rw [chars]
      exact output.suffix_long _ (by decide)

namespace FileSystem

variable {fs : FileSystem} {base name path : String} {place : Place}

def RightBelow (fs : FileSystem) (base name : String) (place : Place) : Prop :=
  ∃ directory, fs.walk (fs.startOf base) (Path.names base) = .ok directory ∧
    fs.find? directory = some .directory ∧ place = directory ++ [name]

theorem located_right_below (child : Path.ChildOf base name path) (down : name ≠ "..")
    (located : fs.locate path = .ok place) : fs.RightBelow base name place := by
  have walked := (locate_ok_iff.mp located).2.2
  have start : fs.startOf path = fs.startOf base := by rw [startOf, startOf, child.start]
  rw [start, child.names] at walked
  exact walk_last walked down

end FileSystem

end NatSpec
