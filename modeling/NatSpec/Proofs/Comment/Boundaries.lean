import NatSpec.Proofs.Comment.Rounds

set_option autoImplicit false

namespace NatSpec.Comment

variable {owner : Owner} {text other : List Char} {fields : Fields} {scan : Scan}

-- How the loop over a comment ends: at a head with nothing left, or in the round after a head.
inductive Ends (owner : Owner) (text : List Char) (fields : Fields) : Parsed → Prop
  | finished {scan : Scan} : Head owner text fields scan → scan.rest = [] →
      Ends owner text fields ⟨scan.fields, none⟩
  | failed {scan : Scan} {error : OutputError} : Head owner text fields scan → scan.rest ≠ [] →
      plainRound owner scan = .error error → Ends owner text fields ⟨scan.fields, some error⟩

theorem head_ends (scan : Scan) (head : Head owner text fields scan) :
    Ends owner text fields (run owner text scan) := by
  by_cases ended : scan.rest = []
  · rw [run_ended _ _ scan ended]
    exact .finished head ended
  · rw [run_unended _ _ scan ended]
    have plain := step_plain (head_loop_head head)
    cases taken : plainRound owner scan with
    | error error =>
      rw [plain, taken]
      exact .failed head ended taken
    | ok next =>
      have round : step owner text scan = .next next := by
        rw [plain, taken]
        rfl
      have shorter := step_shorter ended round
      rw [round]
      exact head_ends next (.round head ended round)
termination_by scan.rest.length

theorem parse_ends (comment : String) (owner : Owner) (fields : Fields) :
    Ends owner comment.toList fields (parse comment owner fields) :=
  head_ends _ .start

theorem resume_tag_succeeds {documented : Nat} (head : LoopHead owner text documented scan)
    {tag : Tag} (active : scan.active = some tag) (body : List Char) (error : OutputError) :
    resumeTag owner scan.fields tag body ≠ .error error := by
  cases tag with
  | param => exact extend_param_opened (head.param active)
  | title =>
    rw [head.title active]
    nofun
  | author => cases owner <;> nofun
  | _ => nofun

theorem failing_round_marked {error : OutputError} (head : Head owner text fields scan)
    (failed : plainRound owner scan = .error error) :
    '@' ∈ firstLine scan.rest ∧ atMarker owner scan (fromMarker scan.rest) = .error error := by
  unfold plainRound at failed
  split at failed
  · rename_i marked
    exact ⟨marked, failed⟩
  · split at failed
    · rename_i tag active
      exact absurd failed (resume_tag_succeeds (head_loop_head head) active _ _)
    · cases failed

structure StopsAt (comment : String) (owner : Owner) (fields : Fields) (error : OutputError)
    (before after : List Char) : Prop where
  parts : comment.toList = before ++ after
  lineEnd : before = [] ∨ before.getLast? = some '\n'
  marked : '@' ∈ firstLine after
  kept : parse (.ofList before) owner fields = ⟨(parse comment owner fields).fields, none⟩
  handling : ∃ active, Head owner comment.toList fields
      ⟨after, active, (parse comment owner fields).fields⟩ ∧
    atMarker owner ⟨after, active, (parse comment owner fields).fields⟩ (fromMarker after) =
      .error error

theorem failure_keeps_lines_before (comment : String) (owner : Owner) (fields : Fields)
    (error : OutputError) (failed : (parse comment owner fields).error = some error) :
    ∃ before after, StopsAt comment owner fields error before after := by
  have ends := parse_ends comment owner fields
  generalize result : parse comment owner fields = parsed at ends failed
  cases ends with
  | finished head ended => cases failed
  | @failed scan fault head unended taken =>
    cases failed
    obtain ⟨before, parted, lineEnd, alike⟩ := head_before head unended
    obtain ⟨marked, handling⟩ := failing_round_marked head taken
    have cut := alike []
    rw [List.append_nil] at cut
    refine ⟨before, scan.rest, parted, lineEnd, marked, ?_, scan.active, ?_⟩
    · have read := head_run cut
      rw [run_ended _ _ _ rfl] at read
      rw [parse, String.toList_ofList, ← read, result]
    · rw [result]
      exact ⟨head, handling⟩

def strayTag : String := "@param x\ny one\nmore\nsee @oops z\n@dev later"

theorem stray_tag_keeps_param :
    (parse strayTag .function { notice := "kept" }).error = some (.unknownTag "oops") ∧
      ∃ before after,
        StopsAt strayTag .function { notice := "kept" } (.unknownTag "oops") before after := by
  have failed : (parse strayTag .function { notice := "kept" }).error =
      some (.unknownTag "oops") := by decide +kernel
  exact ⟨failed, failure_keeps_lines_before strayTag .function _ _ failed⟩

theorem not_ends_bare (unbroken : text.getLast? ≠ some '\n') (unbare : ¬ ['@', ' '] <:+ text) :
    ¬ EndsBare text := by
  rintro ⟨front, ending, ended, rfl⟩
  rcases Bool.or_eq_true_iff.mp ended with space | lineBreak
  · exact unbare ⟨front, by rw [of_decide_eq_true space]⟩
  · exact unbroken (by simp [of_decide_eq_true lineBreak])

theorem blank_line_round (owner : Owner) (fields : Fields) (after : List Char) :
    plainRound owner (.start ('\n' :: after) fields) = .ok ⟨after, some .notice, fields⟩ := by
  have unchanged : fields.append .notice "" = fields := by
    apply Fields.ext_slots
    · intro slot
      simp
    · simp
  have round : plainRound owner (.start ('\n' :: after) fields) =
      .ok ⟨after, some .notice, fields.append .notice ""⟩ := rfl
  rw [round, unchanged]

theorem head_joined (head : Head owner text fields scan) (ended : scan.rest = [])
    (unbroken : text.getLast? ≠ some '\n') (unbare : ¬ ['@', ' '] <:+ text) (after : List Char) :
    ∃ active, Head owner (text ++ '\n' :: after) fields ⟨after, active, scan.fields⟩ := by
  cases head with
  | start =>
    have nothing : text = [] := ended
    rw [nothing]
    exact ⟨some .notice, head_after_round .start (List.cons_ne_nil _ _)
      (blank_line_round owner fields after)⟩
  | @round last _ head left taken =>
    obtain ⟨before, parted, -, alike⟩ := head_before head left
    have notBare : ¬ EndsBare last.rest := fun bare =>
      not_ends_bare unbroken unbare (parted ▸ ends_bare_front before bare)
    obtain ⟨lines, broken | ⟨whole, -⟩, reads⟩ :=
      plain_round_reads (head_round_plain head taken) left (.inr notBare)
    · rw [parted, broken, ended] at unbroken
      exact absurd (by simp) unbroken
    · have later := head_after_round (alike (lines ++ '\n' :: after)) (by simp) (reads after)
      rw [← List.append_assoc, ← whole, ← parted] at later
      exact ⟨_, later⟩

theorem run_alike {documented documented' : Nat} (scan scan' : Scan)
    (head : LoopHead owner text documented scan) (head' : LoopHead owner other documented' scan')
    (rest : scan.rest = scan'.rest) (fields : scan.fields = scan'.fields)
    (same : plainRound owner scan = plainRound owner scan') :
    run owner text scan = run owner other scan' := by
  by_cases ended : scan.rest = []
  · rw [run_ended _ _ scan ended, run_ended _ _ scan' (rest ▸ ended), fields]
  · have plain := step_plain head
    have plain' := step_plain head'
    rw [← same] at plain'
    rw [run_unended _ _ scan ended, run_unended _ _ scan' (rest ▸ ended), plain, plain', fields]
    cases taken : plainRound owner scan with
    | error error => rfl
    | ok next =>
      rw [taken] at plain plain'
      have shorter := step_shorter ended plain
      exact run_alike next next (step_loop_head head plain) (step_loop_head head' plain') rfl rfl
        rfl
termination_by scan.rest.length

theorem named_marker (owner : Owner) (fields : Fields) {c : Char} (unended : endsTagName c = false)
    (body : List Char) (active : Option Tag) (rest : List Char) :
    atMarker owner ⟨rest, active, fields⟩ ('@' :: c :: body) =
      atMarker owner ⟨rest, none, fields⟩ ('@' :: c :: body) := by
  cases found : (c :: body).dropWhile (!endsTagName ·) with
  | nil =>
    have noEnd : ('@' :: c :: body).dropWhile (!endsTagName ·) = [] := found
    rw [atMarker, atMarker, noEnd]
  | cons ending after =>
    obtain ⟨name, parted, clear, ended⟩ := ending_found found
    have named : name ≠ [] := by
      rintro rfl
      have same : c = ending := (List.cons.inj parted).1
      rw [same, ended] at unended
      cases unended
    rw [parted, at_marker_ended _ name after ending clear ended,
      at_marker_ended _ name after ending clear ended, after_name_filled _ named,
      after_name_filled _ named]

theorem named_tag_round (owner : Owner) (fields : Fields) {c : Char}
    (unended : endsTagName c = false) (body : List Char) (active : Option Tag) :
    plainRound owner ⟨'@' :: c :: body, active, fields⟩ =
      plainRound owner ⟨'@' :: c :: body, none, fields⟩ := by
  have marked : '@' ∈ firstLine ('@' :: c :: body) := by
    simp [firstLine]
  have atStart : fromMarker ('@' :: c :: body) = '@' :: c :: body :=
    from_marker_after List.not_mem_nil _
  rw [plainRound, plainRound, if_pos marked, if_pos marked, atStart]
  exact named_marker owner fields unended body active _

theorem comments_join_at_tags (first second : String) (owner : Owner) (fields : Fields)
    (read : (parse first owner fields).error = none)
    (unbroken : first.toList.getLast? ≠ some '\n') (unbare : ¬ ['@', ' '] <:+ first.toList)
    (c : Char) (body : List Char) (opened : second.toList = '@' :: c :: body) (notSpace : c ≠ ' ')
    (notBreak : c ≠ '\n') :
    parse (first ++ "\n" ++ second) owner fields =
      parse second owner (parse first owner fields).fields := by
  have ends := parse_ends first owner fields
  generalize parse first owner fields = parsed at ends read
  cases ends with
  | failed head unended taken => cases read
  | @finished scan head ended =>
    obtain ⟨active, later⟩ := head_joined head ended unbroken unbare second.toList
    have text : (first ++ "\n" ++ second).toList = first.toList ++ '\n' :: second.toList := by
      simp
    have unended : endsTagName c = false := by
      simp [endsTagName, notSpace, notBreak]
    have same := named_tag_round owner scan.fields unended body active
    rw [← opened] at same
    rw [parse, text, ← head_run later]
    exact run_alike _ _ (head_loop_head later) (loop_head_start owner second.toList scan.fields)
      rfl rfl same

def bareLines : String := "seen\n@dev one\n@ two"

def endless : String := "@notice three\n@title"

theorem bare_lines_join_endless :
    (parse bareLines .contract {}).error = none ∧ bareLines.toList.getLast? ≠ some '\n' ∧
      ¬ ['@', ' '] <:+ bareLines.toList ∧
      endless.toList = '@' :: 'n' :: "otice three\n@title".toList ∧
      parse (bareLines ++ "\n" ++ endless) .contract {} =
        parse endless .contract (parse bareLines .contract {}).fields := by
  have read : (parse bareLines .contract {}).error = none := by decide +kernel
  have unbroken : bareLines.toList.getLast? ≠ some '\n' := by decide
  have unbare : ¬ ['@', ' '] <:+ bareLines.toList := by decide
  have opened : endless.toList = '@' :: 'n' :: "otice three\n@title".toList := by decide
  exact ⟨read, unbroken, unbare, opened, comments_join_at_tags bareLines endless .contract {} read
    unbroken unbare 'n' _ opened (by decide) (by decide)⟩

end NatSpec.Comment
