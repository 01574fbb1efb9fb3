import NatSpec.Proofs.Comment.Cursor

set_option autoImplicit false

namespace NatSpec.Comment

open Text

variable {owner : Owner} {text : String} {whole body rest : List Char} {fields : Fields}
  {scan next : Scan}

theorem other_lines_suffix (text : List Char) : otherLines text <:+ text :=
  (List.drop_suffix 1 _).trans (List.dropWhile_suffix _)

theorem param_line_suffix (taken : paramLine fields body = .ok next) : next.rest <:+ body := by
  cases found : body.dropWhile (· ≠ ' ') with
  | nil =>
    rw [paramLine, found] at taken
    cases taken
  | cons c description =>
    rw [paramLine, found] at taken
    cases taken
    have left : c :: description <:+ body := found ▸ List.dropWhile_suffix _
    exact (other_lines_suffix _).trans ((List.suffix_cons _ _).trans left)

theorem open_tag_suffix {name : String} (taken : openTag owner fields name body = .ok next) :
    next.rest <:+ body := by
  unfold openTag at taken
  split at taken
  · cases taken
  · exact param_line_suffix taken
  · exact rest_takeLine taken ▸ other_lines_suffix body

theorem after_name_suffix {name : List Char} (taken : afterName owner scan name body = .ok next) :
    next.rest <:+ body := by
  unfold afterName at taken
  split at taken
  · split at taken
    · exact rest_resumeTag taken ▸ other_lines_suffix body
    · exact open_tag_suffix taken
  · exact open_tag_suffix taken

theorem at_marker_suffix {marker : List Char} (taken : atMarker owner scan marker = .ok next) :
    next.rest <:+ marker := by
  unfold atMarker at taken
  split at taken
  · cases taken
  · rename_i ending body found
    have after : afterName owner scan (tagName marker) body = .ok next := taken
    have left : ending :: body <:+ marker := found ▸ List.dropWhile_suffix _
    exact (after_name_suffix after).trans ((List.suffix_cons _ _).trans left)

theorem step_suffix (taken : step owner whole scan = .next next) : next.rest <:+ scan.rest := by
  unfold step at taken
  split at taken
  · exact (at_marker_suffix (of_ofExcept taken)).trans (List.dropWhile_suffix _)
  · split at taken
    · exact rest_resumeTag (of_ofExcept taken) ▸ other_lines_suffix _
    · split at taken
      · exact rest_takeLine (of_ofExcept taken) ▸ other_lines_suffix _
      · split at taken
        · cases taken
          exact other_lines_suffix _
        · cases taken

theorem of_step_next {taken : Step} {cursor : Cursor}
    (same : Turn.next cursor = .ofStep text taken) :
    ∃ scan, taken = .next scan ∧ cursor = .at text scan := by
  cases taken with
  | stop => cases same
  | fail error => cases same
  | next scan =>
    cases same
    exact ⟨scan, rfl, rfl⟩

theorem round_next {cursor later : Cursor}
    (taken : roundAt owner text cursor = some (.next later)) :
    ∃ scan next, scan.rest <:+ text.toList ∧ cursor = .at text scan ∧
      step owner text.toList scan = .next next ∧ later = .at text next := by
  obtain ⟨tagPos, found, _⟩ := Option.bind_eq_some_iff.mp taken
  obtain ⟨rest, ending, same⟩ := boundary_place (boundary_of_find? found)
  have here : cursor = .at text ⟨rest, cursor.active, cursor.fields⟩ := by
    rw [Cursor.at, ← same]
  rw [here, round_at owner _ ending] at taken
  obtain ⟨next, went, there⟩ := of_step_next (Option.some.inj taken).symm
  exact ⟨_, next, ending, here, went, there⟩

theorem round_forward {cursor later : Cursor} (unended : cursor.pos ≠ text.utf8ByteSize)
    (taken : roundAt owner text cursor = some (.next later)) :
    cursor.pos < later.pos ∧ later.pos ≤ text.utf8ByteSize := by
  obtain ⟨scan, next, ending, rfl, went, rfl⟩ := round_next taken
  have unread : scan.rest ≠ [] := mt (place_end_iff ending).mpr unended
  exact ⟨place_lt ending (step_suffix went) (step_shorter unread went), Nat.sub_le _ _⟩

def scanFrom (owner : Owner) (text : String) (cursor : Cursor) : Option Parsed :=
  if _ended : cursor.pos = text.utf8ByteSize then some ⟨cursor.fields, none⟩
  else
    match _taken : roundAt owner text cursor with
    | none => none
    | some .stop => some ⟨cursor.fields, none⟩
    | some (.fail error) => some ⟨cursor.fields, some error⟩
    | some (.next next) => scanFrom owner text next
termination_by text.utf8ByteSize - cursor.pos
decreasing_by
  have forward := round_forward _ended _taken
  omega

theorem scan_from (owner : Owner) (text : String) (scan : Scan)
    (ending : scan.rest <:+ text.toList) :
    scanFrom owner text (.at text scan) = some (run owner text.toList scan) := by
  by_cases ended : scan.rest = []
  · have atEnd : (Cursor.at text scan).pos = text.utf8ByteSize := (place_end_iff ending).mpr ended
    rw [scanFrom, dif_pos atEnd, run_ended _ _ scan ended]
    rfl
  · have unended : (Cursor.at text scan).pos ≠ text.utf8ByteSize :=
      mt (place_end_iff ending).mp ended
    have round := round_at owner scan ending
    rw [run_unended _ _ scan ended, scanFrom, dif_neg unended]
    cases went : step owner text.toList scan with
    | stop =>
      rw [went] at round
      split <;> cases round.symm.trans ‹roundAt owner text _ = _›
      rfl
    | fail error =>
      rw [went] at round
      split <;> cases round.symm.trans ‹roundAt owner text _ = _›
      rfl
    | next later =>
      rw [went] at round
      have shorter := step_shorter ended went
      split <;> cases round.symm.trans ‹roundAt owner text _ = _›
      exact scan_from owner text later ((step_suffix went).trans ending)
termination_by scan.rest.length

inductive CursorHead (owner : Owner) (text : String) (fields : Fields) : Cursor → Prop
  | start : CursorHead owner text fields ⟨0, none, fields⟩
  | round {cursor later : Cursor} : CursorHead owner text fields cursor →
      cursor.pos ≠ text.utf8ByteSize → roundAt owner text cursor = some (.next later) →
      CursorHead owner text fields later

theorem start_place (text : String) (fields : Fields) :
    (⟨0, none, fields⟩ : Cursor) = .at text (.start text.toList fields) := by
  rw [Cursor.at, Scan.start, place_whole]

theorem head_suffix (head : Head owner text.toList fields scan) : scan.rest <:+ text.toList := by
  induction head with
  | start => exact List.suffix_refl _
  | round _ _ taken ih => exact (step_suffix taken).trans ih

theorem cursor_head_iff (cursor : Cursor) :
    CursorHead owner text fields cursor ↔
      ∃ scan, Head owner text.toList fields scan ∧ cursor = .at text scan := by
  constructor
  · intro head
    induction head with
    | start => exact ⟨_, .start, start_place text fields⟩
    | round _ unended taken ih =>
      obtain ⟨scan, reached, rfl⟩ := ih
      have ending := head_suffix reached
      have unread : scan.rest ≠ [] := mt (place_end_iff ending).mpr unended
      rw [round_at owner scan ending] at taken
      obtain ⟨next, went, rfl⟩ := of_step_next (Option.some.inj taken).symm
      exact ⟨next, .round reached unread went, rfl⟩
  · rintro ⟨scan, head, rfl⟩
    induction head with
    | start =>
      rw [← start_place]
      exact .start
    | round reached unread went ih =>
      have ending := head_suffix reached
      have round := round_at owner _ ending
      rw [went] at round
      exact .round ih (mt (place_end_iff ending).mp unread) round

def nameEnd (text : String) (pos : Nat) : Nat :=
  min (find text (find text pos '@') ' ') (find text pos '\n')

-- The positions at which what starts at `body` is cut: up to the end of its line, or as a name in
-- front of the rest of the line it ends on.
structure BodyInBounds (text : String) (body : Nat) : Prop where
  line : Ascending text [body, find text body '\n', text.utf8ByteSize]
  unnamed : Ascending text [body, find text body ' ', text.utf8ByteSize]
  named : find text body ' ' ≠ text.utf8ByteSize →
    Ascending text [body, find text body ' ', find text body ' ' + 1,
      find text (find text body ' ' + 1) '\n', text.utf8ByteSize]

structure TagInBounds (text : String) (pos : Nat) : Prop where
  name : Ascending text [pos, find text pos '@', find text pos '@' + 1, nameEnd text pos,
    text.utf8ByteSize]
  body : nameEnd text pos ≠ text.utf8ByteSize →
    Ascending text [nameEnd text pos, nameEnd text pos + 1] ∧
      BodyInBounds text (nameEnd text pos + 1)

theorem search_in_bounds (ending : body <:+ text.toList) (stop : Char) :
    Ascending text [place text body, find text (place text body) stop, text.utf8ByteSize] := by
  have listed : Ascending text ([body, body.dropWhile (· ≠ stop), []].map (place text)) :=
    places_ascending ending (.cons_cons (List.dropWhile_suffix _)
      (.cons_cons List.nil_suffix (.singleton _)))
  rw [find_place ending]
  exact listed

theorem body_in_bounds (ending : body <:+ text.toList) : BodyInBounds text (place text body) where
  line := search_in_bounds ending '\n'
  unnamed := search_in_bounds ending ' '
  named more := by
    have toEnd : body.dropWhile (· ≠ ' ') <:+ text.toList :=
      (List.dropWhile_suffix _).trans ending
    rw [find_place ending] at more ⊢
    obtain ⟨c, after, found⟩ := List.exists_cons_of_ne_nil (mt (place_end_iff toEnd).mpr more)
    have left : body.dropWhile (· ≠ ' ') <:+ body := List.dropWhile_suffix _
    rw [found, search_stop found] at left toEnd
    have next : place text (' ' :: after) + 1 = place text after := (place_next toEnd).symm
    have behind : after <:+ ' ' :: after := List.suffix_cons _ _
    rw [found, search_stop found, next, find_place (behind.trans toEnd)]
    have listed : Ascending text
        ([body, ' ' :: after, after, after.dropWhile (· ≠ '\n'), []].map (place text)) :=
      places_ascending ending (.cons_cons left (.cons_cons behind
        (.cons_cons (List.dropWhile_suffix _) (.cons_cons List.nil_suffix (.singleton _)))))
    exact listed

theorem tag_in_bounds (ending : rest <:+ text.toList)
    (first : find text (place text rest) '@' < find text (place text rest) '\n') :
    TagInBounds text (place text rest) := by
  have tagPos : find text (place text rest) '@' = place text (fromMarker rest) :=
    find_place ending '@'
  rw [tagPos, find_place ending] at first
  have marked := (marked_iff_first ending).mp first
  obtain ⟨front, after, parted, clear⟩ := marker_found marked
  have atMark : fromMarker rest = '@' :: after := by rw [parted, from_marker_after clear]
  have left : '@' :: after <:+ rest := atMark ▸ List.dropWhile_suffix _
  have next : place text ('@' :: after) + 1 = place text after :=
    (place_next (left.trans ending)).symm
  have passed : ('@' :: after).dropWhile (!endsTagName ·) = after.dropWhile (!endsTagName ·) := rfl
  have stops : nameEnd text (place text rest) = place text (after.dropWhile (!endsTagName ·)) := by
    rw [nameEnd, tagPos, find_place ending, line_end_behind_marker marked, atMark,
      find_place (left.trans ending), name_end_place, passed]
  have behind : after <:+ '@' :: after := List.suffix_cons _ _
  refine ⟨?_, fun more => ?_⟩
  · rw [stops, tagPos, atMark, next]
    have listed : Ascending text
        ([rest, '@' :: after, after, after.dropWhile (!endsTagName ·), []].map (place text)) :=
      places_ascending ending (.cons_cons left (.cons_cons behind
        (.cons_cons (List.dropWhile_suffix _) (.cons_cons List.nil_suffix (.singleton _)))))
    exact listed
  · rw [stops] at more ⊢
    have toEnd : after.dropWhile (!endsTagName ·) <:+ text.toList :=
      (List.dropWhile_suffix _).trans (behind.trans (left.trans ending))
    obtain ⟨c, body, found⟩ := List.exists_cons_of_ne_nil (mt (place_end_iff toEnd).mpr more)
    obtain ⟨name, _, _, ended⟩ := ending_found found
    rw [found] at toEnd
    have next : place text (c :: body) + 1 = place text body := by
      rw [place_next toEnd, ends_tag_name_byte ended]
    have further : body <:+ c :: body := List.suffix_cons _ _
    have listed : Ascending text ([c :: body, body].map (place text)) :=
      places_ascending toEnd (.cons_cons further (.singleton _))
    rw [found, next]
    exact ⟨listed, body_in_bounds (further.trans toEnd)⟩

structure RoundInBounds (owner : Owner) (text : String) (cursor : Cursor) : Prop where
  taken : ∃ turn, roundAt owner text cursor = some turn
  forward : ∀ later, roundAt owner text cursor = some (.next later) →
    cursor.pos < later.pos ∧ later.pos ≤ text.utf8ByteSize
  line : BodyInBounds text cursor.pos
  tag : find text cursor.pos '@' < find text cursor.pos '\n' → TagInBounds text cursor.pos

theorem round_in_bounds (owner : Owner) (scan : Scan) (ending : scan.rest <:+ text.toList)
    (unended : place text scan.rest ≠ text.utf8ByteSize) :
    RoundInBounds owner text (.at text scan) where
  taken := ⟨_, round_at owner scan ending⟩
  forward _ taken := round_forward unended taken
  line := body_in_bounds ending
  tag first := tag_in_bounds ending first

structure ScanInBounds (comment : String) (owner : Owner) (fields : Fields) : Prop where
  rounds : ∀ cursor, CursorHead owner comment fields cursor →
    cursor.pos ≠ comment.utf8ByteSize → RoundInBounds owner comment cursor
  heads : ∀ cursor, CursorHead owner comment fields cursor ↔
    ∃ scan, Head owner comment.toList fields scan ∧ cursor = .at comment scan
  ends : scanFrom owner comment ⟨0, none, fields⟩ = some (parse comment owner fields)

theorem scan_in_bounds (comment : String) (owner : Owner) (fields : Fields) :
    ScanInBounds comment owner fields where
  rounds cursor head unended := by
    obtain ⟨scan, reached, rfl⟩ := (cursor_head_iff cursor).mp head
    exact round_in_bounds owner scan (head_suffix reached) unended
  heads := cursor_head_iff
  ends := by
    rw [start_place]
    exact scan_from owner comment _ (List.suffix_refl _)

end NatSpec.Comment
