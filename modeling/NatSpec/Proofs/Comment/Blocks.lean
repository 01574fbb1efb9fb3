import NatSpec.Proofs.Comment.Join
import NatSpec.Proofs.Comment.Lines

set_option autoImplicit false

namespace NatSpec.Comment

structure Plain where
  chars : List Char
  unmarked : '@' ∉ chars
  unbroken : '\n' ∉ chars

inductive Opening (owner : Owner) where
  | tagged (tag : Tag) (slot : Slot) (legal : Slot.of tag owner = .ok slot) (body : List Char)
      (unbroken : '\n' ∉ body)
  | param (name description : List Char) (spaceless : ' ' ∉ name) (unbroken : '\n' ∉ description)

structure Block (owner : Owner) where
  opening : Opening owner
  more : List Plain

structure BlockComment (owner : Owner) where
  lead : List Plain
  blocks : List (Block owner)

inductive Target where
  | text (slot : Slot)
  | param (name : List Char)
deriving DecidableEq

-- Where a block writes, its first line, and the lines that continue it.
structure Entry where
  target : Target
  first : List Char
  more : List (List Char)

def Opening.line {owner : Owner} : Opening owner → List Char
  | .tagged tag _ _ body _ => '@' :: (tag.name.toList ++ ' ' :: body)
  | .param name description _ _ => '@' :: (Tag.param.name.toList ++ ' ' :: (name ++ ' ' :: description))

def Opening.tag {owner : Owner} : Opening owner → Tag
  | .tagged tag _ _ _ _ => tag
  | .param _ _ _ _ => .param

def Opening.target {owner : Owner} : Opening owner → Target
  | .tagged _ slot _ _ _ => .text slot
  | .param name _ _ _ => .param name

def Opening.first {owner : Owner} : Opening owner → List Char
  | .tagged _ _ _ body _ => body
  | .param _ description _ _ => description

def Block.lines {owner : Owner} (block : Block owner) : List (List Char) :=
  block.opening.line :: block.more.map Plain.chars

def Block.entry {owner : Owner} (block : Block owner) : Entry :=
  ⟨block.opening.target, block.opening.first, block.more.map Plain.chars⟩

def BlockComment.text {owner : Owner} (comment : BlockComment owner) : String :=
  .ofList (joined (comment.lead.map Plain.chars ++ comment.blocks.flatMap Block.lines))

def leadEntries : List Plain → List Entry
  | [] => []
  | first :: more => [⟨.text .notice, first.chars, more.map Plain.chars⟩]

def settleLines (lines : List (List Char)) : List (List Char) :=
  if lines.getLast? = some [] then lines.dropLast else lines

def settled : List Entry → List Entry
  | [] => []
  | [last] => [{ last with more := settleLines last.more }]
  | entry :: next :: rest => entry :: settled (next :: rest)

def BlockComment.entries {owner : Owner} (comment : BlockComment owner) : List Entry :=
  settled (leadEntries comment.lead ++ comment.blocks.map Block.entry)

def Entry.text (entry : Entry) : List Char := entry.first ++ entry.more.flatMap continuation

def Entry.textFor (slot : Slot) (entry : Entry) : List Char :=
  if entry.target = .text slot then entry.text else []

def Entry.param? (entry : Entry) : Option (String × String) :=
  match entry.target with
  | .text _ => none
  | .param name => some (.ofList name, .ofList entry.text)

def Target.write (target : Target) (text : List Char) (fields : Fields) : Fields :=
  match target with
  | .text slot => fields.append slot (.ofList text)
  | .param name => fields.addParam (.ofList name) (.ofList text)

def Entry.write (fields : Fields) (entry : Entry) : Fields := entry.target.write entry.text fields

def Leads (owner : Owner) (tag : Tag) : Target → Prop
  | .text slot => Slot.of tag owner = .ok slot
  | .param _ => tag = .param

theorem opening_leads {owner : Owner} (opening : Opening owner) :
    Leads owner opening.tag opening.target := by
  cases opening with
  | tagged tag slot legal body unbroken => exact legal
  | param name description spaceless unbroken => rfl

theorem resume_tag_writes (owner : Owner) (tag : Tag) (target : Target) (leads : Leads owner tag target)
    (fields : Fields) (text body : List Char) :
    resumeTag owner (target.write text fields) tag body =
      .ok ⟨otherLines body, some tag, target.write (text ++ continuedPiece body) fields⟩ := by
  cases target with
  | text slot =>
    have routed : Slot.of tag owner = .ok slot := leads
    have different : tag ≠ .param := by
      intro same
      subst tag
      cases routed
    have resumed : resumeTag owner (fields.append slot (.ofList text)) tag body =
        takeLine owner (fields.append slot (.ofList text)) tag true body := by
      unfold resumeTag
      split
      · exact absurd rfl different
      · rfl
    simp only [Target.write, resumed, takeLine, routed, if_true, Fields.append_append,
      String.ofList_append]
  | param name =>
    have same : tag = .param := leads
    subst tag
    simp only [Target.write, resumeTag, extendParam, Fields.extendParam?_addParam,
      String.ofList_append]

variable {owner : Owner} {text : List Char}

theorem run_plain_line (tag : Tag) (target : Target) (leads : Leads owner tag target)
    (fields : Fields) (held : List Char) (line : Plain) (lines : List (List Char))
    (some_left : joined (line.chars :: lines) ≠ []) :
    run owner text ⟨joined (line.chars :: lines), some tag, target.write held fields⟩ =
      run owner text ⟨joined lines, some tag,
        target.write (held ++ continuation line.chars) fields⟩ := by
  have first := first_line_joined line.chars lines line.unbroken
  have unmarked : '@' ∉ firstLine (joined (line.chars :: lines)) := by
    rw [first]
    exact line.unmarked
  rw [run_unended _ _ _ some_left, step_active _ _ _ unmarked rfl,
    resume_tag_writes owner tag target leads, continuedPiece, if_neg some_left, first,
    other_lines_joined line.chars lines line.unbroken]
  rfl

theorem run_plain_lines (tag : Tag) (target : Target) (leads : Leads owner tag target)
    (fields : Fields) (held : List Char) (more : List Plain) (after : List (List Char))
    (follows : after ≠ []) :
    run owner text ⟨joined (more.map Plain.chars ++ after), some tag, target.write held fields⟩ =
      run owner text ⟨joined after, some tag,
        target.write (held ++ (more.map Plain.chars).flatMap continuation) fields⟩ := by
  induction more generalizing held with
  | nil => simp
  | cons line rest ih =>
    have left : joined (line.chars :: (rest.map Plain.chars ++ after)) ≠ [] :=
      joined_ne_nil _ _ (List.append_ne_nil_of_right_ne_nil _ follows)
    rw [List.map_cons, List.cons_append, run_plain_line tag target leads fields held line _ left, ih,
      List.flatMap_cons, List.append_assoc]

theorem run_last_lines (tag : Tag) (target : Target) (leads : Leads owner tag target)
    (fields : Fields) (held : List Char) (more : List Plain) :
    run owner text ⟨joined (more.map Plain.chars), some tag, target.write held fields⟩ =
      ⟨target.write (held ++ (settleLines (more.map Plain.chars)).flatMap continuation) fields,
        none⟩ := by
  rcases List.eq_nil_or_concat more with nothing | ⟨before, last, split⟩
  · subst more
    rw [run_ended _ _ _ rfl]
    simp [settleLines]
  · have lines : more.map Plain.chars = before.map Plain.chars ++ [last.chars] := by
      simp [split]
    rw [lines, run_plain_lines tag target leads fields held before [last.chars] (by simp)]
    by_cases blank : last.chars = []
    · rw [blank, run_ended _ _ _ rfl]
      simp [settleLines]
    · have left : joined [last.chars] ≠ [] := by
        rwa [joined_single]
      rw [run_plain_line tag target leads fields _ last [] left, run_ended _ _ _ rfl]
      simp [settleLines, blank]

def afterName (owner : Owner) (scan : Scan) (name body : List Char) : Except OutputError Scan :=
  match scan.active with
  | some tag =>
    if name = [] then resumeTag owner scan.fields tag body
    else openTag owner scan.fields (.ofList name) body
  | none => openTag owner scan.fields (.ofList name) body

theorem after_name_filled (scan : Scan) {name : List Char} (named : name ≠ []) (body : List Char) :
    afterName owner scan name body = openTag owner scan.fields (.ofList name) body := by
  unfold afterName
  cases scan.active with
  | none => rfl
  | some tag => exact if_neg named

theorem at_marker_ended (scan : Scan) (name body : List Char) (ending : Char)
    (unended : ∀ c ∈ name, endsTagName c = false) (ended : endsTagName ending = true) :
    atMarker owner scan ('@' :: (name ++ ending :: body)) = afterName owner scan name body := by
  have inside : ∀ c ∈ '@' :: name, (!endsTagName c) = true := by
    intro c member
    rcases List.mem_cons.mp member with same | inName
    · rw [same]
      rfl
    · rw [unended c inName]
      rfl
  have found : tagName ('@' :: name ++ ending :: body) = name := by
    rw [tagName, List.takeWhile_append_of_pos inside]
    simp [ended]
  have left : ('@' :: name ++ ending :: body).dropWhile (!endsTagName ·) = ending :: body := by
    rw [List.dropWhile_append_of_pos inside]
    simp [ended]
  rw [← List.cons_append, atMarker, left, found]
  rfl

theorem at_marker_named (scan : Scan) (name body : List Char)
    (unended : ∀ c ∈ name, endsTagName c = false) (named : name ≠ []) :
    atMarker owner scan ('@' :: (name ++ ' ' :: body)) =
      openTag owner scan.fields (.ofList name) body := by
  rw [at_marker_ended scan name body ' ' unended rfl, after_name_filled scan named]

theorem tag_name_unended (tag : Tag) : ∀ c ∈ tag.name.toList, endsTagName c = false := by
  cases tag <;> simp [Tag.name, endsTagName]

theorem tag_name_ne_nil (tag : Tag) : tag.name.toList ≠ [] := by
  cases tag <;> decide

theorem open_tag_writes (tag : Tag) (slot : Slot) (legal : Slot.of tag owner = .ok slot)
    (fields : Fields) (body : List Char) :
    openTag owner fields tag.name body =
      .ok ⟨otherLines body, some tag, fields.append slot (.ofList (firstLine body))⟩ := by
  have opened : openTag owner fields tag.name body = takeLine owner fields tag false body := by
    rw [openTag, Tag.ofName?_name]
    split
    · contradiction
    · rename_i same
      cases same
      cases legal
    · rename_i same
      cases same
      rfl
  rw [opened, takeLine, legal]
  rfl

theorem param_line_writes (fields : Fields) (name rest : List Char) (spaceless : ' ' ∉ name) :
    paramLine fields (name ++ ' ' :: rest) =
      .ok ⟨otherLines rest, some .param, fields.addParam (.ofList name) (.ofList (firstLine rest))⟩ := by
  rw [paramLine, List.dropWhile_append_of_pos (before_stop spaceless),
    List.takeWhile_append_of_pos (before_stop spaceless)]
  simp

theorem open_tag_opening (opening : Opening owner) (fields : Fields) (lines : List (List Char)) :
    ∃ body, joined (opening.line :: lines) = '@' :: (opening.tag.name.toList ++ ' ' :: body) ∧
      openTag owner fields opening.tag.name body =
        .ok ⟨joined lines, some opening.tag, opening.target.write opening.first fields⟩ := by
  cases opening with
  | tagged tag slot legal body unbroken =>
    refine ⟨joined (body :: lines), ?_, ?_⟩
    · have front := joined_prefix ('@' :: (tag.name.toList ++ [' '])) body lines
      simpa [Opening.line, Opening.tag] using front
    · rw [Opening.tag, open_tag_writes tag slot legal, first_line_joined body lines unbroken,
        other_lines_joined body lines unbroken]
      rfl
  | param name description spaceless unbroken =>
    refine ⟨name ++ ' ' :: joined (description :: lines), ?_, ?_⟩
    · have front := joined_prefix ('@' :: (Tag.param.name.toList ++ ' ' :: (name ++ [' '])))
        description lines
      simpa [Opening.line, Opening.tag] using front
    · have opened := param_line_writes fields name (joined (description :: lines)) spaceless
      rw [first_line_joined description lines unbroken,
        other_lines_joined description lines unbroken] at opened
      exact opened

theorem run_opening (opening : Opening owner) (lines : List (List Char)) (active : Option Tag)
    (fields : Fields) :
    run owner text ⟨joined (opening.line :: lines), active, fields⟩ =
      run owner text ⟨joined lines, some opening.tag, opening.target.write opening.first fields⟩ := by
  obtain ⟨body, marker, opened⟩ := open_tag_opening opening fields lines
  have marked : '@' ∈ firstLine (joined (opening.line :: lines)) := by
    simp [marker, firstLine]
  have atStart : fromMarker (joined (opening.line :: lines)) = joined (opening.line :: lines) := by
    simp [marker, fromMarker]
  have left : joined (opening.line :: lines) ≠ [] := by
    simp [marker]
  rw [run_unended _ _ _ left, step_marked _ _ _ marked, atStart, marker,
    at_marker_named _ _ _ (tag_name_unended _) (tag_name_ne_nil _), String.ofList_toList, opened]
  rfl

theorem run_entry (blocks : List (Block owner)) (tag : Tag) (target : Target)
    (leads : Leads owner tag target) (first : List Char) (more : List Plain) (fields : Fields) :
    run owner text ⟨joined (more.map Plain.chars ++ blocks.flatMap Block.lines), some tag,
        target.write first fields⟩ =
      ⟨(settled (⟨target, first, more.map Plain.chars⟩ :: blocks.map Block.entry)).foldl
        Entry.write fields, none⟩ := by
  induction blocks generalizing tag target first more fields with
  | nil =>
    rw [List.flatMap_nil, List.append_nil, run_last_lines tag target leads]
    rfl
  | cons block rest ih =>
    have follows : (block :: rest).flatMap Block.lines ≠ [] := by
      simp [Block.lines]
    rw [run_plain_lines tag target leads fields first more _ follows, List.flatMap_cons, Block.lines,
      List.cons_append, run_opening, ih _ _ (opening_leads block.opening)]
    rfl

theorem run_blocks (blocks : List (Block owner)) (active : Option Tag) (fields : Fields) :
    run owner text ⟨joined (blocks.flatMap Block.lines), active, fields⟩ =
      ⟨(settled (blocks.map Block.entry)).foldl Entry.write fields, none⟩ := by
  cases blocks with
  | nil => exact run_ended _ _ _ rfl
  | cons block rest =>
    rw [List.flatMap_cons, Block.lines, List.cons_append, run_opening,
      run_entry rest _ _ (opening_leads block.opening)]
    rfl

theorem run_lead (first : Plain) (more : List Plain) (blocks : List (Block owner)) (fields : Fields)
    (start : text = joined (first.chars :: (more.map Plain.chars ++ blocks.flatMap Block.lines)))
    (left : text ≠ []) :
    run owner text ⟨text, none, fields⟩ =
      ⟨(settled (⟨.text .notice, first.chars, more.map Plain.chars⟩ ::
        blocks.map Block.entry)).foldl Entry.write fields, none⟩ := by
  have line : firstLine text = first.chars := by
    rw [start, first_line_joined first.chars _ first.unbroken]
  have rest : otherLines text = joined (more.map Plain.chars ++ blocks.flatMap Block.lines) := by
    rw [start, other_lines_joined first.chars _ first.unbroken]
  have unmarked : '@' ∉ firstLine text := by
    rw [line]
    exact first.unmarked
  have taken : step owner text ⟨text, none, fields⟩ =
      .next ⟨joined (more.map Plain.chars ++ blocks.flatMap Block.lines), some .notice,
        Target.write (.text .notice) first.chars fields⟩ := by
    rw [step_start owner text ⟨text, none, fields⟩ unmarked rfl rfl, ← rest, ← line]
    rfl
  rw [run_unended _ _ _ left, taken]
  exact run_entry blocks .notice (.text .notice) rfl first.chars more fields

theorem run_block_comment (comment : BlockComment owner) (fields : Fields) :
    run owner comment.text.toList ⟨comment.text.toList, none, fields⟩ =
      ⟨comment.entries.foldl Entry.write fields, none⟩ := by
  rcases comment with ⟨lead, blocks⟩
  rw [BlockComment.text, String.toList_ofList]
  cases lead with
  | nil => exact run_blocks blocks none fields
  | cons first more =>
    by_cases blank : joined (first.chars :: (more.map Plain.chars ++ blocks.flatMap Block.lines)) = []
    · have alone : more.map Plain.chars ++ blocks.flatMap Block.lines = [] :=
        Decidable.byContradiction fun follows => joined_ne_nil _ _ follows blank
      obtain ⟨noMore, noLines⟩ := List.append_eq_nil_iff.mp alone
      cases blocks with
      | cons block rest => simp [Block.lines] at noLines
      | nil =>
        rw [alone, joined_single] at blank
        rw [List.map_cons, List.cons_append, alone, joined_single, blank, run_ended _ _ _ rfl]
        simp [BlockComment.entries, leadEntries, settled, settleLines, Entry.write, Entry.text,
          Target.write, noMore, blank, Fields.append]
    · exact run_lead first more blocks fields rfl blank

theorem text_entries (entries : List Entry) (fields : Fields) (slot : Slot) :
    (entries.foldl Entry.write fields).text slot =
      fields.text slot ++ .ofList (entries.flatMap (Entry.textFor slot)) := by
  induction entries generalizing fields with
  | nil => simp
  | cons entry rest ih =>
    rw [List.foldl_cons, ih, List.flatMap_cons, String.ofList_append, ← String.append_assoc]
    congr 1
    rcases entry with ⟨target, first, more⟩
    cases target with
    | text other =>
      by_cases same : slot = other
      · simp [Entry.write, Target.write, Entry.textFor, same]
      · simp [Entry.write, Target.write, Entry.textFor, same, Ne.symm same]
    | param name => simp [Entry.write, Target.write, Entry.textFor]

theorem params_entries (entries : List Entry) (fields : Fields) :
    (entries.foldl Entry.write fields).params =
      fields.params ++ entries.filterMap Entry.param? := by
  induction entries generalizing fields with
  | nil => simp
  | cons entry rest ih =>
    rw [List.foldl_cons, ih]
    rcases entry with ⟨target, first, more⟩
    cases target with
    | text slot =>
      have skipped : Entry.param? ⟨.text slot, first, more⟩ = none := rfl
      simp [Entry.write, Target.write, skipped]
    | param name =>
      have documented : Entry.param? ⟨.param name, first, more⟩ =
          some (.ofList name, .ofList (Entry.text ⟨.param name, first, more⟩)) := rfl
      simp [Entry.write, Target.write, documented, Fields.addParam]

theorem parse_block_comment (owner : Owner) (comment : BlockComment owner) (base : Fields) :
    (parse comment.text owner base).error = none ∧
    (∀ slot, (parse comment.text owner base).fields.text slot =
      base.text slot ++ .ofList (comment.entries.flatMap (Entry.textFor slot))) ∧
    (parse comment.text owner base).fields.params =
      base.params ++ comment.entries.filterMap Entry.param? := by
  have parsed : parse comment.text owner base =
      ⟨comment.entries.foldl Entry.write base, none⟩ := run_block_comment comment base
  rw [parsed]
  exact ⟨rfl, text_entries comment.entries base, params_entries comment.entries base⟩

example :
    let wrapped : Plain := ⟨" wrapped".toList, by decide, by decide⟩
    let last : Plain := ⟨[], by decide, by decide⟩
    let comment : BlockComment .function :=
      ⟨[wrapped], [⟨.param "x\ny".toList "a @ b".toList (by decide) (by decide), [wrapped, last]⟩]⟩
    comment.text = " wrapped\n@param x\ny a @ b\n wrapped\n" ∧
      comment.entries.flatMap (Entry.textFor .notice) = " wrapped".toList ∧
      comment.entries.filterMap Entry.param? = [("x\ny", "a @ b wrapped")] := by
  decide

end NatSpec.Comment
