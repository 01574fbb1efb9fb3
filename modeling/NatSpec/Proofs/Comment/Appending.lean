import NatSpec.Proofs.Comment.Join
import NatSpec.Proofs.Comment.LoopHead

set_option autoImplicit false

namespace NatSpec.Comment

def Scan.onto (base : Fields) (scan : Scan) : Scan := { scan with fields := base ++ scan.fields }

def Step.onto (base : Fields) : Step → Step
  | .stop => .stop
  | .fail error => .fail error
  | .next scan => .next (scan.onto base)

def Parsed.onto (base : Fields) (parsed : Parsed) : Parsed := ⟨base ++ parsed.fields, parsed.error⟩

theorem of_except_onto (base : Fields) (result : Except OutputError Scan) :
    Step.ofExcept (result.map (Scan.onto base)) = (Step.ofExcept result).onto base := by
  cases result <;> rfl

theorem take_line_onto (owner : Owner) (base fields : Fields) (tag : Tag) (continues : Bool)
    (body : List Char) :
    takeLine owner (base ++ fields) tag continues body =
      (takeLine owner fields tag continues body).map (Scan.onto base) := by
  unfold takeLine
  cases Slot.of tag owner with
  | error error => rfl
  | ok slot => simp only [Fields.append_join, Except.map, Scan.onto]

theorem param_line_onto (base fields : Fields) (body : List Char) :
    paramLine (base ++ fields) body = (paramLine fields body).map (Scan.onto base) := by
  unfold paramLine
  cases body.dropWhile (· ≠ ' ') with
  | nil => rfl
  | cons space description => simp only [Fields.add_param_join, Except.map, Scan.onto]

theorem extend_param_onto (base fields : Fields) (body : List Char) (opened : fields.params ≠ []) :
    extendParam (base ++ fields) body = (extendParam fields body).map (Scan.onto base) := by
  unfold extendParam
  rw [Fields.extend_param_join _ _ _ opened]
  cases fields.extendParam? (.ofList (continuedPiece body)) <;> rfl

theorem open_tag_onto (owner : Owner) (base fields : Fields) (name : String) (body : List Char) :
    openTag owner (base ++ fields) name body =
      (openTag owner fields name body).map (Scan.onto base) := by
  unfold openTag
  split
  · rfl
  · exact param_line_onto base fields body
  · exact take_line_onto owner base fields _ false body

theorem resume_tag_onto (owner : Owner) (base fields : Fields) (tag : Tag) (body : List Char)
    (opened : tag = .param → fields.params ≠ []) :
    resumeTag owner (base ++ fields) tag body =
      (resumeTag owner fields tag body).map (Scan.onto base) := by
  unfold resumeTag
  split
  · exact extend_param_onto base fields body (opened rfl)
  · exact take_line_onto owner base fields _ true body

variable {owner : Owner} {text : List Char} {scan : Scan}

theorem loop_head_opened (head : LoopHead owner text 0 scan) {tag : Tag}
    (active : scan.active = some tag) : tag = .param → scan.fields.params ≠ [] := by
  intro same
  subst tag
  exact List.length_pos_iff.mp (head.param active)

theorem at_marker_onto (base : Fields) (marker : List Char) (head : LoopHead owner text 0 scan) :
    atMarker owner (scan.onto base) marker = (atMarker owner scan marker).map (Scan.onto base) := by
  unfold atMarker Scan.onto
  cases marker.dropWhile (!endsTagName ·) with
  | nil => rfl
  | cons ending body =>
    cases active : scan.active with
    | none => exact open_tag_onto owner base scan.fields _ body
    | some tag =>
      by_cases bare : tagName marker = []
      · simp only [if_pos bare]
        exact resume_tag_onto owner base scan.fields tag body (loop_head_opened head active)
      · simp only [if_neg bare]
        exact open_tag_onto owner base scan.fields _ body

theorem step_onto (base : Fields) (head : LoopHead owner text 0 scan) :
    step owner text (scan.onto base) = (step owner text scan).onto base := by
  by_cases marked : '@' ∈ firstLine scan.rest
  · rw [step_marked _ _ scan marked, step_marked _ _ (scan.onto base) marked, ← of_except_onto,
      ← at_marker_onto base _ head]
    rfl
  · cases active : scan.active with
    | some tag =>
      have resumed := resume_tag_onto owner base scan.fields tag scan.rest
        (loop_head_opened head active)
      rw [step_active _ _ scan marked active, step_active _ _ (scan.onto base) marked active,
        ← of_except_onto, ← resumed]
      rfl
    | none =>
      have untouched := head.untouched active
      rw [step_start _ _ scan marked active untouched,
        step_start _ _ (scan.onto base) marked active untouched, ← of_except_onto,
        ← take_line_onto]
      rfl

theorem run_onto (base : Fields) (scan : Scan) (head : LoopHead owner text 0 scan) :
    run owner text (scan.onto base) = (run owner text scan).onto base := by
  by_cases ended : scan.rest = []
  · rw [run_ended _ _ scan ended, run_ended _ _ (scan.onto base) ended]
    rfl
  · rw [run_unended _ _ scan ended, run_unended _ _ (scan.onto base) ended, step_onto base head]
    cases round : step owner text scan with
    | stop => rfl
    | fail error => rfl
    | next later =>
      have shorter := step_shorter ended round
      exact run_onto base later (step_loop_head head round)
termination_by scan.rest.length

theorem parse_onto (comment : String) (owner : Owner) (base : Fields) :
    parse comment owner base = (parse comment owner {}).onto base := by
  have same := run_onto base _ (loop_head_start owner comment.toList {})
  simpa only [parse, Scan.start, Scan.onto, Fields.join_blank] using same

theorem collect_onto (comment : String) (owner : Owner) (base : Fields) :
    collect comment owner base = (collect comment owner {}).map (base ++ ·) := by
  simp only [collect, parse_onto comment owner base, Parsed.onto]
  cases (parse comment owner {}).error <;> rfl

def parseAll (calls : List (String × Owner)) (base : Fields) : Fields :=
  calls.foldl (fun fields call => (parse call.1 call.2 fields).fields) base

theorem parse_all_text (calls : List (String × Owner)) (base : Fields) (slot : Slot) :
    (parseAll calls base).text slot = base.text slot ++
      String.join (calls.map fun call => (parse call.1 call.2 {}).fields.text slot) := by
  induction calls generalizing base with
  | nil => simp [parseAll]
  | cons call rest ih =>
    simp only [parseAll, List.foldl_cons, List.map_cons, String.join_cons] at ih ⊢
    rw [ih, parse_onto call.1 call.2 base]
    simp only [Parsed.onto, Fields.text_join, String.append_assoc]

theorem parse_all_params (calls : List (String × Owner)) (base : Fields) :
    (parseAll calls base).params =
      base.params ++ calls.flatMap fun call => (parse call.1 call.2 {}).fields.params := by
  induction calls generalizing base with
  | nil => simp [parseAll]
  | cons call rest ih =>
    simp only [parseAll, List.foldl_cons, List.flatMap_cons] at ih ⊢
    rw [ih, parse_onto call.1 call.2 base]
    simp only [Parsed.onto, Fields.params_join, List.append_assoc]

theorem parse_only_appends (comment : String) (owner : Owner) (base : Fields)
    (calls : List (String × Owner)) :
    (parse comment owner base).error = (parse comment owner {}).error ∧
    (∀ slot, (parse comment owner base).fields.text slot =
      base.text slot ++ (parse comment owner {}).fields.text slot) ∧
    (parse comment owner base).fields.params =
      base.params ++ (parse comment owner {}).fields.params ∧
    (∀ slot, (parseAll calls base).text slot = base.text slot ++
      String.join (calls.map fun call => (parse call.1 call.2 {}).fields.text slot)) ∧
    (parseAll calls base).params =
      base.params ++ calls.flatMap fun call => (parse call.1 call.2 {}).fields.params := by
  rw [parse_onto comment owner base]
  refine ⟨rfl, ?_, rfl, parse_all_text calls base, parse_all_params calls base⟩
  intro slot
  exact Fields.text_join slot base _

end NatSpec.Comment
