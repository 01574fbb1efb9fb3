import NatSpec.Proofs.Comment.LoopHead

set_option autoImplicit false

namespace NatSpec.Comment

inductive TagFault (owner : Owner) : OutputError → Prop where
  | malformed (text : String) : TagFault owner (.malformedTag text)
  | unknown (name : String) : TagFault owner (.unknownTag name)
  | title (misplaced : owner = .function) : TagFault owner (.illegalTag .title owner)

variable {owner : Owner} {text : List Char} {documented : Nat} {fields : Fields} {body : List Char}
  {scan : Scan} {error : OutputError}

theorem slot_fault {tag : Tag} (written : tag ≠ .param) (h : Slot.of tag owner = .error error) :
    TagFault owner error := by
  cases tag with
  | dev => cases h
  | notice => cases h
  | returns => cases h
  | author => cases owner <;> cases h
  | title =>
    cases owner with
    | contract => cases h
    | function =>
      cases h
      exact .title rfl
  | param => exact absurd rfl written

theorem take_line_fault {tag : Tag} {continues : Bool} (written : tag ≠ .param)
    (h : takeLine owner fields tag continues body = .error error) : TagFault owner error := by
  unfold takeLine at h
  cases routed : Slot.of tag owner with
  | ok slot => simp [routed] at h
  | error other =>
    simp only [routed, Except.error.injEq] at h
    subst error
    exact slot_fault written routed

theorem param_line_fault (h : paramLine fields body = .error error) : TagFault owner error := by
  unfold paramLine at h
  split at h
  · cases h
    exact .malformed _
  · cases h

theorem extend_param_opened (opened : documented < fields.params.length) :
    extendParam fields body ≠ .error error := by
  have last : fields.params.getLast? ≠ none := by
    rw [ne_eq, List.getLast?_eq_none_iff]
    exact List.length_pos_iff.mp (Nat.zero_lt_of_lt opened)
  unfold extendParam Fields.extendParam?
  cases found : fields.params.getLast? with
  | none => exact absurd found last
  | some entry => simp

theorem open_tag_fault {name : String} (h : openTag owner fields name body = .error error) :
    TagFault owner error := by
  unfold openTag at h
  split at h
  · cases h
    exact .unknown name
  · exact param_line_fault h
  · rename_i notParam named
    exact take_line_fault notParam h

theorem resume_tag_fault {tag : Tag} (head : LoopHead owner text documented scan)
    (active : scan.active = some tag) (h : resumeTag owner scan.fields tag body = .error error) :
    TagFault owner error := by
  unfold resumeTag at h
  split at h
  · exact absurd h (extend_param_opened (head.param active))
  · rename_i written
    exact take_line_fault written h

theorem at_marker_fault {marker : List Char} (head : LoopHead owner text documented scan)
    (h : atMarker owner scan marker = .error error) : TagFault owner error := by
  unfold atMarker at h
  split at h
  · cases h
    exact .malformed _
  · split at h
    · rename_i tag active
      split at h
      · exact resume_tag_fault head active h
      · exact open_tag_fault h
    · exact open_tag_fault h

theorem of_except_fail {result : Except OutputError Scan} (h : Step.ofExcept result = .fail error) :
    result = .error error := by
  cases result with
  | ok scan => cases h
  | error other =>
    cases h
    rfl

theorem step_fault (head : LoopHead owner text documented scan)
    (h : step owner text scan = .fail error) : TagFault owner error := by
  by_cases marked : '@' ∈ firstLine scan.rest
  · rw [step_marked _ _ scan marked] at h
    exact at_marker_fault head (of_except_fail h)
  · cases active : scan.active with
    | some tag =>
      rw [step_active _ _ scan marked active] at h
      exact resume_tag_fault head active (of_except_fail h)
    | none =>
      rw [step_start _ _ scan marked active (head.untouched active)] at h
      exact take_line_fault (by decide) (of_except_fail h)

theorem run_fault (scan : Scan) (head : LoopHead owner text documented scan)
    (h : (run owner text scan).error = some error) : TagFault owner error := by
  by_cases ended : scan.rest = []
  · rw [run_ended _ _ scan ended] at h
    cases h
  · rw [run_unended _ _ scan ended] at h
    cases round : step owner text scan with
    | stop =>
      rw [round] at h
      cases h
    | fail other =>
      rw [round] at h
      cases h
      exact step_fault head round
    | next later =>
      rw [round] at h
      have shorter := step_shorter ended round
      exact run_fault later (step_loop_head head round) h
termination_by scan.rest.length

theorem parse_fault {comment : String} (h : (parse comment owner fields).error = some error) :
    TagFault owner error :=
  run_fault _ (loop_head_start owner comment.toList fields) h

theorem collect_fault {comment : String} (h : collect comment owner fields = .error error) :
    TagFault owner error := by
  unfold collect at h
  cases ended : (parse comment owner fields).error with
  | none => simp [ended] at h
  | some other =>
    simp only [ended, Except.error.injEq] at h
    subst error
    exact parse_fault ended

end NatSpec.Comment
