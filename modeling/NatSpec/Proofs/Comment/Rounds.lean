import NatSpec.Proofs.Comment.Blocks
import NatSpec.Proofs.Comment.Heads

set_option autoImplicit false

namespace NatSpec.Comment

def LeftAfter (lines text rest : List Char) : Prop :=
  text = lines ++ '\n' :: rest ∨ (text = lines ∧ rest = [])

-- The reading takes some lines of `text`, and would do the same in front of any other text.
def ReadsLines (read : List Char → Except OutputError Scan) (text : List Char) (next : Scan) :
    Prop :=
  ∃ lines, LeftAfter lines text next.rest ∧
    ∀ other, read (lines ++ '\n' :: other) = .ok { next with rest := other }

-- A bare `@` at the very end has no line to go on with. In front of more text it would have one.
def EndsBare (text : List Char) : Prop :=
  ∃ front ending, endsTagName ending = true ∧ text = front ++ ['@', ending]

theorem search_found {passes : Char → Bool} {text rest : List Char} {stop : Char}
    (found : text.dropWhile passes = stop :: rest) :
    text = text.takeWhile passes ++ stop :: rest ∧ passes stop = false := by
  have stopped := List.head?_dropWhile_not passes text
  rw [found] at stopped
  exact ⟨found ▸ List.takeWhile_append_dropWhile.symm, stopped⟩

theorem ending_found {text body : List Char} {ending : Char}
    (found : text.dropWhile (!endsTagName ·) = ending :: body) :
    ∃ name, text = name ++ ending :: body ∧ (∀ c ∈ name, endsTagName c = false) ∧
      endsTagName ending = true := by
  obtain ⟨parted, stopped⟩ := search_found found
  refine ⟨_, parted, fun c member => ?_, by simpa using stopped⟩
  simpa using List.mem_takeWhile_imp member

theorem stop_found {stop c : Char} {text rest : List Char}
    (found : text.dropWhile (· ≠ stop) = c :: rest) :
    ∃ front, text = front ++ stop :: rest ∧ stop ∉ front := by
  obtain ⟨parted, stopped⟩ := search_found found
  have same : c = stop := by simpa using stopped
  subst same
  refine ⟨_, parted, fun member => ?_⟩
  simpa using List.mem_takeWhile_imp member

theorem first_line_left (text : List Char) : LeftAfter (firstLine text) text (otherLines text) := by
  cases found : text.dropWhile (· ≠ '\n') with
  | nil =>
    have unbroken : firstLine text = text :=
      List.takeWhile_eq_self_iff.mpr (List.dropWhile_eq_nil_iff.mp found)
    rw [unbroken, otherLines, found]
    exact .inr ⟨rfl, rfl⟩
  | cons c rest =>
    obtain ⟨line, rfl, unbroken⟩ := stop_found found
    rw [other_lines_ended unbroken, first_line_ended, first_line_whole unbroken]
    exact .inl rfl

theorem left_after_front {lines text rest : List Char} (front : List Char)
    (left : LeftAfter lines text rest) : LeftAfter (front ++ lines) (front ++ text) rest := by
  rcases left with rfl | ⟨rfl, ended⟩
  · exact .inl (List.append_assoc ..).symm
  · exact .inr ⟨rfl, ended⟩

theorem left_after_first_line {lines text rest : List Char} (left : LeftAfter lines text rest) :
    firstLine text = firstLine lines := by
  rcases left with rfl | ⟨rfl, _⟩
  · exact first_line_ended lines rest
  · rfl

variable {owner : Owner} {text : List Char} {fields : Fields} {scan next : Scan}
  {read inner : List Char → Except OutputError Scan}

theorem line_reads {body : List Char} (rest : next.rest = otherLines body)
    (alike : ∀ other, read (firstLine body ++ '\n' :: other) =
      .ok { next with rest := otherLines (firstLine body ++ '\n' :: other) }) :
    ReadsLines read body next := by
  refine ⟨firstLine body, rest ▸ first_line_left body, fun other => ?_⟩
  rw [alike, other_lines_ended (first_line_unbroken body)]

theorem reads_lines_front (front : List Char) {body : List Char}
    (same : ∀ text, read (front ++ text) = inner text) (reads : ReadsLines inner body next) :
    ReadsLines read (front ++ body) next := by
  obtain ⟨lines, left, alike⟩ := reads
  refine ⟨front ++ lines, left_after_front front left, fun other => ?_⟩
  rw [List.append_assoc, same, alike]

theorem reads_lines_within {body : List Char}
    (same : ∀ text, firstLine text = firstLine body → read text = inner text)
    (reads : ReadsLines inner body next) : ReadsLines read body next := by
  obtain ⟨lines, left, alike⟩ := reads
  refine ⟨lines, left, fun other => ?_⟩
  rw [same _ (by rw [first_line_ended, left_after_first_line left]), alike]

theorem first_line_again (text : List Char) : firstLine (firstLine text) = firstLine text :=
  first_line_whole (first_line_unbroken text)

theorem continued_piece_ended {body : List Char} (follows : body ≠ []) (other : List Char) :
    continuedPiece (firstLine body ++ '\n' :: other) = continuedPiece body := by
  rw [continuedPiece, continuedPiece, if_neg follows, if_neg (by simp), first_line_ended,
    first_line_again]

theorem take_line_reads {tag : Tag} {continues : Bool} {body : List Char}
    (taken : takeLine owner fields tag continues body = .ok next)
    (follows : continues = true → body ≠ []) :
    ReadsLines (takeLine owner fields tag continues) body next := by
  unfold takeLine at taken
  cases routed : Slot.of tag owner with
  | error error => simp [routed] at taken
  | ok slot =>
    simp only [routed, Except.ok.injEq] at taken
    subst next
    refine line_reads rfl fun other => ?_
    cases continues with
    | false =>
      simp only [takeLine, routed, Bool.false_eq_true, if_false, first_line_ended, first_line_again]
    | true => simp only [takeLine, routed, if_true, continued_piece_ended (follows rfl)]

theorem extend_param_reads {body : List Char} (taken : extendParam fields body = .ok next)
    (follows : body ≠ []) : ReadsLines (extendParam fields) body next := by
  unfold extendParam at taken
  cases extended : fields.extendParam? (.ofList (continuedPiece body)) with
  | none => simp [extended] at taken
  | some fields =>
    simp only [extended, Except.ok.injEq] at taken
    subst next
    refine line_reads rfl fun other => ?_
    simp only [extendParam, continued_piece_ended follows, extended]

theorem param_line_reads {body : List Char} (taken : paramLine fields body = .ok next) :
    ReadsLines (paramLine fields) body next := by
  cases found : body.dropWhile (· ≠ ' ') with
  | nil =>
    rw [paramLine, found] at taken
    cases taken
  | cons space description =>
    obtain ⟨name, rfl, spaceless⟩ := stop_found found
    rw [param_line_writes fields name description spaceless] at taken
    cases taken
    have described : ReadsLines (fun text => .ok ⟨otherLines text, some .param,
        fields.addParam (.ofList name) (.ofList (firstLine text))⟩) description
        ⟨otherLines description, some .param,
          fields.addParam (.ofList name) (.ofList (firstLine description))⟩ :=
      line_reads rfl fun other => by rw [first_line_ended, first_line_again]
    rw [List.append_cons]
    refine reads_lines_front (name ++ [' ']) (fun text => ?_) described
    rw [← List.append_cons, param_line_writes fields name text spaceless]

theorem open_tag_reads {name : String} {body : List Char}
    (taken : openTag owner fields name body = .ok next) :
    ReadsLines (openTag owner fields name) body next := by
  unfold openTag at taken ⊢
  split at taken
  · cases taken
  · exact param_line_reads taken
  · exact take_line_reads taken nofun

theorem resume_tag_reads {tag : Tag} {body : List Char}
    (taken : resumeTag owner fields tag body = .ok next) (follows : body ≠ []) :
    ReadsLines (resumeTag owner fields tag) body next := by
  unfold resumeTag at taken ⊢
  split at taken
  · exact extend_param_reads taken follows
  · exact take_line_reads taken fun _ => follows

theorem ends_bare_front (front : List Char) {text : List Char} (bare : EndsBare text) :
    EndsBare (front ++ text) := by
  obtain ⟨before, ending, ended, rfl⟩ := bare
  exact ⟨front ++ before, ending, ended, (List.append_assoc ..).symm⟩

theorem after_name_reads {name body : List Char}
    (taken : afterName owner scan name body = .ok next) (follows : name = [] → body ≠ []) :
    ReadsLines (afterName owner scan name) body next := by
  by_cases bare : name = []
  · cases active : scan.active with
    | some tag =>
      have resumed (text : List Char) :
          afterName owner scan name text = resumeTag owner scan.fields tag text := by
        rw [afterName, active]
        exact if_pos bare
      rw [resumed] at taken
      exact reads_lines_within (fun text _ => resumed text) (resume_tag_reads taken (follows bare))
    | none =>
      have opened (text : List Char) :
          afterName owner scan name text = openTag owner scan.fields (.ofList name) text := by
        rw [afterName, active]
      rw [opened] at taken
      exact reads_lines_within (fun text _ => opened text) (open_tag_reads taken)
  · rw [after_name_filled scan bare] at taken
    exact reads_lines_within (fun text _ => after_name_filled scan bare text) (open_tag_reads taken)

theorem rest_after_nothing {name : List Char} (taken : afterName owner scan name [] = .ok next) :
    next.rest = [] := by
  have opened {name : String} (taken : openTag owner scan.fields name [] = .ok next) :
      next.rest = [] := List.length_eq_zero_iff.mp (Nat.le_zero.mp (length_openTag taken))
  unfold afterName at taken
  split at taken
  · split at taken
    · exact rest_resumeTag taken
    · exact opened taken
  · exact opened taken

theorem at_marker_reads {marker : List Char}
    (taken : atMarker owner scan ('@' :: marker) = .ok next)
    (follows : next.rest ≠ [] ∨ ¬ EndsBare ('@' :: marker)) :
    ReadsLines (fun marker => atMarker owner scan ('@' :: marker)) marker next := by
  cases found : marker.dropWhile (!endsTagName ·) with
  | nil =>
    have unended : ('@' :: marker).dropWhile (!endsTagName ·) = [] := found
    rw [atMarker, unended] at taken
    cases taken
  | cons ending body =>
    obtain ⟨name, rfl, unended, ended⟩ := ending_found found
    rw [at_marker_ended scan name body ending unended ended] at taken
    have reads : ReadsLines (afterName owner scan name) body next := by
      refine after_name_reads taken fun bare nothing => ?_
      subst name body
      rcases follows with left | notBare
      · exact left (rest_after_nothing taken)
      · exact notBare ⟨[], ending, ended, rfl⟩
    rw [List.append_cons]
    refine reads_lines_front (name ++ [ending]) (fun text => ?_) reads
    rw [← List.append_cons, at_marker_ended scan name text ending unended ended]

theorem from_marker_after {front : List Char} (clear : '@' ∉ front) (after : List Char) :
    fromMarker (front ++ '@' :: after) = '@' :: after := by
  rw [fromMarker, List.dropWhile_append_of_pos (before_stop clear)]
  simp

theorem marker_found {text : List Char} (marked : '@' ∈ firstLine text) :
    ∃ front marker, text = front ++ '@' :: marker ∧ '@' ∉ front := by
  have inText : '@' ∈ text := (List.takeWhile_prefix _).subset marked
  cases found : text.dropWhile (· ≠ '@') with
  | nil =>
    have clear := List.dropWhile_eq_nil_iff.mp found '@' inText
    exact absurd rfl (of_decide_eq_true clear)
  | cons c marker =>
    obtain ⟨front, parted, clear⟩ := stop_found found
    exact ⟨front, marker, parted, clear⟩

theorem marked_round_reads (taken : atMarker owner scan (fromMarker scan.rest) = .ok next)
    (marked : '@' ∈ firstLine scan.rest) (follows : next.rest ≠ [] ∨ ¬ EndsBare scan.rest) :
    ReadsLines (fun rest => atMarker owner scan (fromMarker rest)) scan.rest next := by
  obtain ⟨front, marker, parted, clear⟩ := marker_found marked
  rw [parted] at follows taken ⊢
  rw [from_marker_after clear] at taken
  have reads := at_marker_reads taken (follows.imp_right (mt (ends_bare_front front)))
  rw [List.append_cons]
  refine reads_lines_front (front ++ ['@']) (fun text => ?_) reads
  rw [← List.append_cons, from_marker_after clear]

theorem unmarked_round_resumes {tag : Tag} (unmarked : '@' ∉ firstLine scan.rest)
    (active : scan.active = some tag) :
    plainRound owner scan = resumeTag owner scan.fields tag scan.rest := by
  rw [plainRound, if_neg unmarked, active]

theorem unmarked_round_starts (unmarked : '@' ∉ firstLine scan.rest)
    (idle : scan.active = none) :
    plainRound owner scan = takeLine owner scan.fields .notice false scan.rest := by
  rw [plainRound, if_neg unmarked, idle]

theorem plain_round_reads (taken : plainRound owner scan = .ok next) (unended : scan.rest ≠ [])
    (follows : next.rest ≠ [] ∨ ¬ EndsBare scan.rest) :
    ReadsLines (fun rest => plainRound owner { scan with rest }) scan.rest next := by
  by_cases marked : '@' ∈ firstLine scan.rest
  · rw [plainRound, if_pos marked] at taken
    refine reads_lines_within (fun text same => ?_) (marked_round_reads taken marked follows)
    rw [plainRound, same, if_pos marked]
    rfl
  · have unmarked {text : List Char} (same : firstLine text = firstLine scan.rest) :
        '@' ∉ firstLine text := same ▸ marked
    cases active : scan.active with
    | some tag =>
      rw [unmarked_round_resumes marked active] at taken
      exact reads_lines_within (fun _ same => unmarked_round_resumes (unmarked same) rfl)
        (resume_tag_reads taken unended)
    | none =>
      rw [unmarked_round_starts marked active] at taken
      exact reads_lines_within (fun _ same => unmarked_round_starts (unmarked same) rfl)
        (take_line_reads taken nofun)

theorem head_round_plain (head : Head owner text fields scan)
    (taken : step owner text scan = .next next) : plainRound owner scan = .ok next := by
  rw [step_plain (head_loop_head head)] at taken
  exact of_ofExcept taken

theorem head_after_round (head : Head owner text fields scan) (unended : scan.rest ≠ [])
    (taken : plainRound owner scan = .ok next) : Head owner text fields next := by
  refine .round head unended ?_
  rw [step_plain (head_loop_head head), taken]
  rfl

theorem head_before (head : Head owner text fields scan) (unended : scan.rest ≠ []) :
    ∃ before, text = before ++ scan.rest ∧ (before = [] ∨ before.getLast? = some '\n') ∧
      ∀ rest, Head owner (before ++ rest) fields { scan with rest } := by
  induction head with
  | start => exact ⟨[], rfl, .inl rfl, fun rest => .start⟩
  | round head left taken ih =>
    obtain ⟨before, parted, -, alike⟩ := ih left
    obtain ⟨lines, broken | ⟨-, ended⟩, reads⟩ :=
      plain_round_reads (head_round_plain head taken) left (.inl unended)
    · refine ⟨before ++ (lines ++ ['\n']), ?_, .inr ?_, fun rest => ?_⟩
      · rw [parted, broken, List.append_assoc, List.append_cons]
      · rw [← List.append_assoc]
        exact List.getLast?_concat
      · have later := head_after_round (alike (lines ++ '\n' :: rest)) (by simp) (reads rest)
        rwa [List.append_assoc, ← List.append_cons]
    · exact absurd ended unended

end NatSpec.Comment
