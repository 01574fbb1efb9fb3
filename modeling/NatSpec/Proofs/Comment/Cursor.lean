import NatSpec.Proofs.Comment.Rounds
import NatSpec.Proofs.Text.Positions

set_option autoImplicit false

namespace NatSpec.Comment

open Text

structure Cursor where
  pos : Nat
  active : Option Tag
  fields : Fields

inductive Turn where
  | stop
  | fail (error : OutputError)
  | next (cursor : Cursor)

def afterBreak (text : String) (lineEnd : Nat) : Nat :=
  if lineEnd = text.utf8ByteSize then lineEnd else lineEnd + 1

def pieceAt (text : String) (continues : Bool) (body : Nat) (line : List Char) : List Char :=
  if continues ∧ body < text.utf8ByteSize then continuation line else line

def takeLineAt (owner : Owner) (text : String) (fields : Fields) (tag : Tag) (continues : Bool)
    (body : Nat) : Option Turn := do
  let lineEnd ← find? text body '\n'
  match Slot.of tag owner with
  | .error error => return .fail error
  | .ok slot =>
    let line ← cut? text body lineEnd
    return .next ⟨afterBreak text lineEnd, some tag,
      fields.append slot (.ofList (pieceAt text continues body line))⟩

def paramLineAt (text : String) (fields : Fields) (body : Nat) : Option Turn := do
  let nameEnd ← find? text body ' '
  if nameEnd = text.utf8ByteSize then
    let rest ← cut? text body text.utf8ByteSize
    return .fail (.unendedParamName rest)
  else
    let lineEnd ← find? text (nameEnd + 1) '\n'
    let name ← cut? text body nameEnd
    let description ← cut? text (nameEnd + 1) lineEnd
    return .next ⟨afterBreak text lineEnd, some .param,
      fields.addParam (.ofList name) (.ofList description)⟩

def extendParamAt (text : String) (fields : Fields) (body : Nat) : Option Turn := do
  let lineEnd ← find? text body '\n'
  let line ← cut? text body lineEnd
  match fields.extendParam? (.ofList (pieceAt text true body line)) with
  | none => return .fail (.internal "tried to append to an empty parameter list")
  | some fields => return .next ⟨afterBreak text lineEnd, some .param, fields⟩

def openTagAt (owner : Owner) (text : String) (fields : Fields) (name : String) (body : Nat) :
    Option Turn :=
  match Tag.ofName? name with
  | none => some (.fail (.unknownTag name))
  | some .param => paramLineAt text fields body
  | some tag => takeLineAt owner text fields tag false body

def resumeTagAt (owner : Owner) (text : String) (fields : Fields) (tag : Tag) (body : Nat) :
    Option Turn :=
  match tag with
  | .param => extendParamAt text fields body
  | tag => takeLineAt owner text fields tag true body

def afterNameAt (owner : Owner) (text : String) (cursor : Cursor) (name : List Char) (body : Nat) :
    Option Turn :=
  match cursor.active with
  | some tag =>
    if name = [] then resumeTagAt owner text cursor.fields tag body
    else openTagAt owner text cursor.fields (.ofList name) body
  | none => openTagAt owner text cursor.fields (.ofList name) body

def atMarkerAt (owner : Owner) (text : String) (cursor : Cursor) (tagPos lineEnd : Nat) :
    Option Turn := do
  let space ← find? text tagPos ' '
  let nameEnd := min space lineEnd
  if nameEnd = text.utf8ByteSize then
    let marker ← cut? text tagPos text.utf8ByteSize
    return .fail (.unendedTag marker)
  else
    let name ← cut? text (tagPos + 1) nameEnd
    afterNameAt owner text cursor name (nameEnd + 1)

def roundAt (owner : Owner) (text : String) (cursor : Cursor) : Option Turn := do
  let tagPos ← find? text cursor.pos '@'
  let lineEnd ← find? text cursor.pos '\n'
  if tagPos < lineEnd then atMarkerAt owner text cursor tagPos lineEnd
  else
    match cursor.active with
    | some tag => resumeTagAt owner text cursor.fields tag cursor.pos
    | none =>
      if cursor.pos = 0 then takeLineAt owner text cursor.fields .notice false cursor.pos
      else if lineEnd = text.utf8ByteSize then return .stop
      else return .next { cursor with pos := lineEnd + 1 }

def Cursor.at (text : String) (scan : Scan) : Cursor :=
  ⟨place text scan.rest, scan.active, scan.fields⟩

def Turn.ofStep (text : String) : Step → Turn
  | .stop => .stop
  | .fail error => .fail error
  | .next scan => .next (.at text scan)

variable {owner : Owner} {text : String} {fields : Fields} {tag : Tag} {name body rest : List Char}
  {scan : Scan}

theorem ends_tag_name_byte {c : Char} (ended : endsTagName c = true) : c.utf8Size = 1 := by
  rcases Bool.or_eq_true_iff.mp ended with space | lineBreak
  · rw [of_decide_eq_true space]
    rfl
  · rw [of_decide_eq_true lineBreak]
    rfl

theorem cut_until (passes : Char → Bool) (ending : body <:+ text.toList) :
    cut? text (place text body) (place text (body.dropWhile passes)) =
      some (body.takeWhile passes) := by
  have whole : body.takeWhile passes ++ body.dropWhile passes = body :=
    List.takeWhile_append_dropWhile
  have found := cut_places (whole.symm ▸ ending)
  rwa [whole] at found

theorem cut_line (ending : body <:+ text.toList) :
    cut? text (place text body) (place text (body.dropWhile (· ≠ '\n'))) =
      some (firstLine body) :=
  cut_until _ ending

theorem search_stop {stop c : Char} {after : List Char}
    (found : body.dropWhile (· ≠ stop) = c :: after) : c = stop := by
  simpa using (search_found found).2

theorem after_break_place (ending : body <:+ text.toList) :
    afterBreak text (place text (body.dropWhile (· ≠ '\n'))) = place text (otherLines body) := by
  have left : body.dropWhile (· ≠ '\n') <:+ text.toList :=
    (List.dropWhile_suffix _).trans ending
  rw [otherLines]
  cases found : body.dropWhile (· ≠ '\n') with
  | nil => exact if_pos rfl
  | cons c after =>
    rw [found, search_stop found] at left
    rw [search_stop found, afterBreak, if_neg (place_unended left)]
    exact (place_next left).symm

theorem piece_at_place (continues : Bool) (ending : body <:+ text.toList) :
    pieceAt text continues (place text body) (firstLine body) =
      if continues then continuedPiece body else firstLine body := by
  by_cases ended : body = []
  · subst ended
    have nothing : ¬ (continues ∧ place text [] < text.utf8ByteSize) :=
      fun both => Nat.lt_irrefl _ both.2
    rw [pieceAt, if_neg nothing, continuedPiece, if_pos rfl]
    exact (ite_self _).symm
  · have before := place_lt ending List.nil_suffix (List.length_pos_iff.mpr ended)
    rw [place_nil] at before
    rw [pieceAt, continuedPiece, if_neg ended]
    cases continues with
    | false => rfl
    | true => exact (if_pos ⟨rfl, before⟩).trans (if_pos rfl).symm

theorem take_line_at (owner : Owner) (fields : Fields) (tag : Tag) (continues : Bool)
    (ending : body <:+ text.toList) :
    takeLineAt owner text fields tag continues (place text body) =
      some (.ofStep text (.ofExcept (takeLine owner fields tag continues body))) := by
  rw [takeLineAt, takeLine, find?_place ending]
  cases Slot.of tag owner with
  | error error => rfl
  | ok slot =>
    dsimp only [Option.bind_eq_bind, Option.bind_some]
    rw [cut_line ending]
    dsimp only [Option.bind_some]
    rw [piece_at_place continues ending, after_break_place ending]
    rfl

theorem param_line_at (ending : body <:+ text.toList) :
    paramLineAt text fields (place text body) =
      some (.ofStep text (.ofExcept (paramLine fields body))) := by
  have left : body.dropWhile (· ≠ ' ') <:+ text.toList := (List.dropWhile_suffix _).trans ending
  have name := cut_until (· ≠ ' ') ending
  rw [paramLineAt, paramLine, find?_place ending]
  dsimp only [Option.bind_eq_bind, Option.bind_some]
  cases found : body.dropWhile (· ≠ ' ') with
  | nil =>
    rw [if_pos (place_nil text), cut_to_end ending]
    rfl
  | cons c description =>
    rw [found, search_stop found] at left name
    rw [search_stop found]
    have next : place text (' ' :: description) + 1 = place text description :=
      (place_next left).symm
    have after : description <:+ text.toList := (List.suffix_cons _ _).trans left
    rw [if_neg (place_unended left), next, find?_place after, name, Option.bind_some,
      Option.bind_some, cut_line after, Option.bind_some, after_break_place after]
    rfl

theorem extend_param_at (ending : body <:+ text.toList) :
    extendParamAt text fields (place text body) =
      some (.ofStep text (.ofExcept (extendParam fields body))) := by
  rw [extendParamAt, extendParam, find?_place ending]
  dsimp only [Option.bind_eq_bind, Option.bind_some]
  rw [cut_line ending]
  dsimp only [Option.bind_some]
  rw [piece_at_place true ending, if_pos rfl, after_break_place ending]
  cases fields.extendParam? (.ofList (continuedPiece body)) with
  | none => rfl
  | some extended => rfl

theorem open_tag_at (name : String) (ending : body <:+ text.toList) :
    openTagAt owner text fields name (place text body) =
      some (.ofStep text (.ofExcept (openTag owner fields name body))) := by
  rw [openTagAt, openTag]
  cases Tag.ofName? name with
  | none => rfl
  | some tag =>
    cases tag with
    | param => exact param_line_at ending
    | _ => exact take_line_at _ _ _ false ending

theorem resume_tag_at (tag : Tag) (ending : body <:+ text.toList) :
    resumeTagAt owner text fields tag (place text body) =
      some (.ofStep text (.ofExcept (resumeTag owner fields tag body))) := by
  cases tag with
  | param => exact extend_param_at ending
  | dev => exact take_line_at owner fields .dev true ending
  | notice => exact take_line_at owner fields .notice true ending
  | returns => exact take_line_at owner fields .returns true ending
  | author => exact take_line_at owner fields .author true ending
  | title => exact take_line_at owner fields .title true ending

theorem search_passes {c stop : Char} (other : c ≠ stop) (rest : List Char) :
    (c :: rest).dropWhile (· ≠ stop) = rest.dropWhile (· ≠ stop) :=
  List.dropWhile_cons_of_pos (decide_eq_true other)

theorem search_stops (stop : Char) (rest : List Char) :
    (stop :: rest).dropWhile (· ≠ stop) = stop :: rest :=
  List.dropWhile_cons_of_neg (by simp)

theorem name_end_place (text : String) (rest : List Char) :
    min (place text (rest.dropWhile (· ≠ ' '))) (place text (rest.dropWhile (· ≠ '\n'))) =
      place text (rest.dropWhile (!endsTagName ·)) := by
  induction rest with
  | nil => exact Nat.min_self _
  | cons c rest ih =>
    by_cases space : c = ' '
    · have stops : (' ' :: rest).dropWhile (!endsTagName ·) = ' ' :: rest := rfl
      rw [space, search_stops, stops]
      exact Nat.min_eq_left (place_le (List.dropWhile_suffix _))
    · by_cases lineBreak : c = '\n'
      · have stops : ('\n' :: rest).dropWhile (!endsTagName ·) = '\n' :: rest := rfl
        rw [lineBreak, search_stops, stops]
        exact Nat.min_eq_right (place_le (List.dropWhile_suffix _))
      · have unended : (!endsTagName c) = true := by simp [endsTagName, space, lineBreak]
        have passes : (c :: rest).dropWhile (!endsTagName ·) = rest.dropWhile (!endsTagName ·) :=
          List.dropWhile_cons_of_pos unended
        rw [search_passes space, search_passes lineBreak, passes, ih]

theorem first_line_passes {c : Char} (other : c ≠ '\n') (rest : List Char) :
    firstLine (c :: rest) = c :: firstLine rest :=
  List.takeWhile_cons_of_pos (decide_eq_true other)

theorem line_end_behind_marker (marked : '@' ∈ firstLine rest) :
    rest.dropWhile (· ≠ '\n') = (fromMarker rest).dropWhile (· ≠ '\n') := by
  induction rest with
  | nil => rfl
  | cons c rest ih =>
    by_cases marker : c = '@'
    · rw [marker, fromMarker, search_stops]
    · by_cases lineBreak : c = '\n'
      · subst lineBreak
        cases marked
      · rw [first_line_passes lineBreak] at marked
        rw [fromMarker, search_passes marker, search_passes lineBreak]
        exact ih ((List.mem_cons.mp marked).resolve_left (Ne.symm marker))

theorem marked_iff_before (rest : List Char) :
    '@' ∈ firstLine rest ↔ (rest.dropWhile (· ≠ '\n')).length < (fromMarker rest).length := by
  induction rest with
  | nil => simp [firstLine, fromMarker]
  | cons c rest ih =>
    by_cases marker : c = '@'
    · have bound := length_dropWhile_le (· ≠ '\n') rest
      rw [marker, fromMarker, search_stops, search_passes (by decide),
        first_line_passes (by decide), List.length_cons]
      exact ⟨fun _ => Nat.lt_succ_of_le bound, fun _ => List.mem_cons_self ..⟩
    · by_cases lineBreak : c = '\n'
      · have bound := length_dropWhile_le (· ≠ '@') ('\n' :: rest)
        have unmarked : '@' ∉ firstLine ('\n' :: rest) := List.not_mem_nil
        rw [lineBreak, fromMarker, search_stops]
        exact ⟨fun marked => absurd marked unmarked, fun less => absurd less (Nat.not_lt.mpr bound)⟩
      · rw [first_line_passes lineBreak, fromMarker, search_passes marker,
          search_passes lineBreak, List.mem_cons]
        exact (or_iff_right (Ne.symm marker)).trans ih

theorem marked_iff_first (ending : rest <:+ text.toList) :
    place text (fromMarker rest) < place text (rest.dropWhile (· ≠ '\n')) ↔
      '@' ∈ firstLine rest := by
  have toMarker : fromMarker rest <:+ text.toList := (List.dropWhile_suffix _).trans ending
  have toBreak : rest.dropWhile (· ≠ '\n') <:+ text.toList :=
    (List.dropWhile_suffix _).trans ending
  rw [place_lt_iff toMarker toBreak, marked_iff_before]

theorem after_name_at (name body : List Char) (scan : Scan) (ending : body <:+ text.toList) :
    afterNameAt owner text (.at text scan) name (place text body) =
      some (.ofStep text (.ofExcept (afterName owner scan name body))) := by
  have same : (Cursor.at text scan).active = scan.active := rfl
  rw [afterNameAt, afterName, same]
  cases scan.active with
  | none => exact open_tag_at _ ending
  | some tag =>
    dsimp only
    by_cases bare : name = []
    · rw [if_pos bare, if_pos bare]
      exact resume_tag_at tag ending
    · rw [if_neg bare, if_neg bare]
      exact open_tag_at _ ending

theorem at_marker_at (scan : Scan) {after : List Char} (ending : '@' :: after <:+ text.toList) :
    atMarkerAt owner text (.at text scan) (place text ('@' :: after))
        (place text (('@' :: after).dropWhile (· ≠ '\n'))) =
      some (.ofStep text (.ofExcept (atMarker owner scan ('@' :: after)))) := by
  have passed : ('@' :: after).dropWhile (!endsTagName ·) = after.dropWhile (!endsTagName ·) := rfl
  rw [atMarkerAt, find?_place ending]
  dsimp only [Option.bind_eq_bind, Option.bind_some]
  rw [name_end_place, passed]
  cases found : after.dropWhile (!endsTagName ·) with
  | nil =>
    rw [if_pos (place_nil text), cut_to_end ending, atMarker, passed, found]
    rfl
  | cons c body =>
    obtain ⟨name, parted, clear, ended⟩ := ending_found found
    have left : c :: body <:+ text.toList :=
      found ▸ (List.dropWhile_suffix _).trans ((List.suffix_cons _ _).trans ending)
    have behind : place text ('@' :: after) + 1 = place text after := (place_next ending).symm
    have next : place text (c :: body) + 1 = place text body := by
      rw [place_next left, ends_tag_name_byte ended]
    have cut : cut? text (place text after) (place text (c :: body)) = some name := by
      have whole := (List.suffix_cons '@' after).trans ending
      rw [parted] at whole ⊢
      exact cut_places whole
    rw [if_neg (place_unended left), behind, cut, Option.bind_some, next,
      after_name_at name body scan ((List.suffix_cons _ _).trans left), parted,
      at_marker_ended scan name body c clear ended]

theorem unbroken_iff_last (ending : rest <:+ text.toList) :
    place text (rest.dropWhile (· ≠ '\n')) = text.utf8ByteSize ↔ '\n' ∉ rest := by
  rw [place_end_iff ((List.dropWhile_suffix _).trans ending), List.dropWhile_eq_nil_iff]
  constructor
  · intro passed member
    exact absurd rfl (of_decide_eq_true (passed _ member))
  · exact before_stop

theorem round_at (owner : Owner) (scan : Scan) (ending : scan.rest <:+ text.toList) :
    roundAt owner text (.at text scan) = some (.ofStep text (step owner text.toList scan)) := by
  have pos : (Cursor.at text scan).pos = place text scan.rest := rfl
  have active : (Cursor.at text scan).active = scan.active := rfl
  have tagPos : find? text (place text scan.rest) '@' = some (place text (fromMarker scan.rest)) :=
    find?_place ending '@'
  rw [roundAt, pos, active, tagPos, find?_place ending]
  dsimp only [Option.bind_eq_bind, Option.bind_some]
  by_cases marked : '@' ∈ firstLine scan.rest
  · obtain ⟨front, after, parted, clear⟩ := marker_found marked
    have atMark : fromMarker scan.rest = '@' :: after := by rw [parted, from_marker_after clear]
    have toMarker : '@' :: after <:+ text.toList :=
      atMark ▸ (List.dropWhile_suffix _).trans ending
    rw [if_pos ((marked_iff_first ending).mpr marked), step_marked _ _ scan marked,
      line_end_behind_marker marked, atMark]
    exact at_marker_at scan toMarker
  · rw [if_neg (mt (marked_iff_first ending).mp marked), step, if_neg marked]
    cases scan.active with
    | some tag => exact resume_tag_at tag ending
    | none =>
      dsimp only
      by_cases untouched : scan.rest.length = text.toList.length
      · rw [if_pos untouched, if_pos ((place_start_iff ending).mpr untouched)]
        exact take_line_at owner scan.fields .notice false ending
      · rw [if_neg untouched, if_neg (mt (place_start_iff ending).mp untouched)]
        by_cases last : '\n' ∈ scan.rest
        · have more := mt (unbroken_iff_last ending).mp (not_not_intro last)
          have next := after_break_place ending
          rw [afterBreak, if_neg more] at next
          rw [if_pos last, if_neg more, next]
          rfl
        · rw [if_neg last, if_pos ((unbroken_iff_last ending).mpr last)]
          rfl

end NatSpec.Comment
