import NatSpec.Comment.Scan

set_option autoImplicit false

namespace NatSpec.Comment

-- `documented` is the number of parameters that were there before the comment.
structure LoopHead (owner : Owner) (text : List Char) (documented : Nat) (scan : Scan) : Prop where
  untouched : scan.active = none → scan.rest = text
  kept : documented ≤ scan.fields.params.length
  param : scan.active = some .param → documented < scan.fields.params.length
  title : scan.active = some .title → owner = .contract

theorem loop_head_start (owner : Owner) (text : List Char) (fields : Fields) :
    LoopHead owner text fields.params.length (.start text fields) where
  untouched := fun _ => rfl
  kept := Nat.le_refl _
  param := by simp [Scan.start]
  title := by simp [Scan.start]

variable {owner : Owner} {text : List Char} {documented : Nat} {fields : Fields} {body : List Char}
  {scan next : Scan}

theorem take_line_loop_head {tag : Tag} {continues : Bool}
    (kept : documented ≤ fields.params.length)
    (h : takeLine owner fields tag continues body = .ok next) :
    LoopHead owner text documented next := by
  unfold takeLine at h
  split at h
  · cases h
  · rename_i slot routed
    cases h
    refine ⟨by simp, by simpa using kept, ?_, ?_⟩
    · intro active
      cases active
      cases routed
    · intro active
      cases active
      cases owner with
      | contract => rfl
      | function => cases routed

theorem param_line_loop_head (kept : documented ≤ fields.params.length)
    (h : paramLine fields body = .ok next) : LoopHead owner text documented next := by
  unfold paramLine at h
  split at h
  · cases h
  · rename_i space description found
    cases h
    have longer : documented < (fields.addParam (.ofList (body.takeWhile (· ≠ ' ')))
        (.ofList (firstLine description))).params.length := by
      simp only [Fields.addParam, List.length_append, List.length_singleton]
      exact Nat.lt_succ_of_le kept
    exact ⟨by simp, Nat.le_of_lt longer, fun _ => longer, by simp⟩

theorem extend_param_loop_head (opened : documented < fields.params.length)
    (h : extendParam fields body = .ok next) : LoopHead owner text documented next := by
  unfold extendParam Fields.extendParam? at h
  cases found : fields.params.getLast? with
  | none => simp [found] at h
  | some entry =>
    simp only [found, Except.ok.injEq] at h
    subst next
    have same : fields.params.dropLast.length + 1 = fields.params.length := by
      rw [List.length_dropLast]
      omega
    refine ⟨by simp, ?_, fun _ => ?_, by simp⟩
    · simp only [List.length_append, List.length_singleton, same]
      exact Nat.le_of_lt opened
    · simp only [List.length_append, List.length_singleton, same]
      exact opened

theorem open_tag_loop_head {name : String} (kept : documented ≤ fields.params.length)
    (h : openTag owner fields name body = .ok next) : LoopHead owner text documented next := by
  unfold openTag at h
  split at h
  · cases h
  · exact param_line_loop_head kept h
  · exact take_line_loop_head kept h

theorem resume_tag_loop_head {tag : Tag} (head : LoopHead owner text documented scan)
    (active : scan.active = some tag) (h : resumeTag owner scan.fields tag body = .ok next) :
    LoopHead owner text documented next := by
  unfold resumeTag at h
  split at h
  · exact extend_param_loop_head (head.param active) h
  · exact take_line_loop_head head.kept h

theorem at_marker_loop_head {marker : List Char} (head : LoopHead owner text documented scan)
    (h : atMarker owner scan marker = .ok next) : LoopHead owner text documented next := by
  unfold atMarker at h
  split at h
  · cases h
  · split at h
    · rename_i tag active
      split at h
      · exact resume_tag_loop_head head active h
      · exact open_tag_loop_head head.kept h
    · exact open_tag_loop_head head.kept h

theorem step_loop_head (head : LoopHead owner text documented scan)
    (h : step owner text scan = .next next) : LoopHead owner text documented next := by
  by_cases marked : '@' ∈ firstLine scan.rest
  · rw [step_marked _ _ scan marked] at h
    exact at_marker_loop_head head (of_ofExcept h)
  · cases active : scan.active with
    | some tag =>
      rw [step_active _ _ scan marked active] at h
      exact resume_tag_loop_head head active (of_ofExcept h)
    | none =>
      rw [step_start _ _ scan marked active (head.untouched active)] at h
      exact take_line_loop_head head.kept (of_ofExcept h)

end NatSpec.Comment
