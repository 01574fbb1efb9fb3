import NatSpec.Proofs.Comment.Appending
import NatSpec.Proofs.Comment.Faults

set_option autoImplicit false

namespace NatSpec.Comment

-- The scans with which the loop over `text` comes to its head.
inductive Head (owner : Owner) (text : List Char) (fields : Fields) : Scan → Prop
  | start : Head owner text fields (.start text fields)
  | round {scan next : Scan} : Head owner text fields scan → scan.rest ≠ [] →
      step owner text scan = .next next → Head owner text fields next

def plainRound (owner : Owner) (scan : Scan) : Except OutputError Scan :=
  if '@' ∈ firstLine scan.rest then atMarker owner scan (fromMarker scan.rest)
  else
    match scan.active with
    | some tag => resumeTag owner scan.fields tag scan.rest
    | none => takeLine owner scan.fields .notice false scan.rest

variable {owner : Owner} {text : List Char} {fields : Fields} {scan : Scan}

theorem step_plain {documented : Nat} (head : LoopHead owner text documented scan) :
    step owner text scan = .ofExcept (plainRound owner scan) := by
  unfold plainRound
  by_cases marked : '@' ∈ firstLine scan.rest
  · rw [if_pos marked, step_marked _ _ scan marked]
  · rw [if_neg marked]
    cases active : scan.active with
    | some tag => rw [step_active _ _ scan marked active]
    | none => rw [step_start _ _ scan marked active (head.untouched active)]

theorem head_loop_head (head : Head owner text fields scan) :
    LoopHead owner text fields.params.length scan := by
  induction head with
  | start => exact loop_head_start owner text fields
  | round _ _ taken ih => exact step_loop_head ih taken

theorem head_onto (head : Head owner text fields scan) :
    ∃ own, LoopHead owner text 0 own ∧ scan = own.onto fields := by
  induction head with
  | start =>
    refine ⟨.start text {}, loop_head_start owner text {}, ?_⟩
    simp only [Scan.start, Scan.onto, Fields.join_blank]
  | round _ _ taken ih =>
    obtain ⟨own, ownHead, rfl⟩ := ih
    rw [step_onto fields ownHead] at taken
    cases ownStep : step owner text own with
    | stop => simp [ownStep, Step.onto] at taken
    | fail error => simp [ownStep, Step.onto] at taken
    | next later =>
      simp only [ownStep, Step.onto, Step.next.injEq] at taken
      exact ⟨later, step_loop_head ownHead ownStep, taken.symm⟩

theorem head_run (head : Head owner text fields scan) :
    run owner text scan = run owner text (.start text fields) := by
  induction head with
  | start => rfl
  | round _ unended taken ih => rw [← ih, run_unended _ _ _ unended, taken]

structure HeadState (owner : Owner) (text : List Char) (fields : Fields) (scan : Scan) : Prop where
  cursor : (scan.rest = text ∧ scan.active = none) ∨ ∃ tag, scan.active = some tag
  pushed : ∃ own, scan.fields.params = fields.params ++ own ∧
    (scan.active = some .param → own ≠ [])
  title : scan.active = some .title → owner = .contract

theorem head_state (head : Head owner text fields scan) : HeadState owner text fields scan := by
  obtain ⟨own, ownHead, rfl⟩ := head_onto head
  refine ⟨?_, ⟨own.fields.params, rfl, fun active => loop_head_opened ownHead active rfl⟩, ?_⟩
  · cases active : own.active with
    | none => exact .inl ⟨ownHead.untouched active, active⟩
    | some tag => exact .inr ⟨tag, active⟩
  · exact ownHead.title

structure RoundTaken (owner : Owner) (text : List Char) (scan : Scan) : Prop where
  guarded : '@' ∈ firstLine scan.rest ∨ scan.active ≠ none ∨ scan.rest.length = text.length
  plain : step owner text scan = .ofExcept (plainRound owner scan)
  fault : ∀ error, step owner text scan = .fail error → TagFault owner error

theorem head_round (head : Head owner text fields scan) : RoundTaken owner text scan := by
  have invariant := head_loop_head head
  refine ⟨?_, step_plain invariant, fun error failed => step_fault invariant failed⟩
  rcases (head_state head).cursor with ⟨untouched, _⟩ | ⟨tag, active⟩
  · exact .inr (.inr (congrArg List.length untouched))
  · exact .inr (.inl (by simp [active]))

theorem fault_not_internal {error : OutputError} (fault : TagFault owner error) (message : String) :
    error ≠ .internal message := by
  rintro rfl
  cases fault

structure ScanInvariant (comment : String) (owner : Owner) (fields : Fields) : Prop where
  states : ∀ scan, Head owner comment.toList fields scan →
    HeadState owner comment.toList fields scan
  rounds : ∀ scan, Head owner comment.toList fields scan → RoundTaken owner comment.toList scan
  passed : ∀ scan, Head owner comment.toList fields scan →
    run owner comment.toList scan = parse comment owner fields
  faults : ∀ error, (parse comment owner fields).error = some error → TagFault owner error
  notInternal : ∀ message, (parse comment owner fields).error ≠ some (.internal message)

theorem scan_invariant (comment : String) (owner : Owner) (fields : Fields) :
    ScanInvariant comment owner fields where
  states _ := head_state
  rounds _ := head_round
  passed _ := head_run
  faults _ := parse_fault
  notInternal message failed := fault_not_internal (parse_fault failed) message rfl

end NatSpec.Comment
