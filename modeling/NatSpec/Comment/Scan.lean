import NatSpec.Comment.Fields

set_option autoImplicit false

namespace NatSpec.Comment

def firstLine (text : List Char) : List Char := text.takeWhile (· ≠ '\n')

def otherLines (text : List Char) : List Char := (text.dropWhile (· ≠ '\n')).drop 1

def fromMarker (text : List Char) : List Char := text.dropWhile (· ≠ '@')

def endsTagName (c : Char) : Bool := c = ' ' || c = '\n'

def continuation (line : List Char) : List Char :=
  if line.head? = some ' ' then line else ' ' :: line

def continuedPiece (body : List Char) : List Char :=
  if body = [] then [] else continuation (firstLine body)

structure Scan where
  rest : List Char
  active : Option Tag
  fields : Fields

def Scan.start (text : List Char) (fields : Fields) : Scan := ⟨text, none, fields⟩

def takeLine (owner : Owner) (fields : Fields) (tag : Tag) (continues : Bool) (body : List Char) :
    Except OutputError Scan :=
  match Slot.of tag owner with
  | .error error => .error error
  | .ok slot =>
    .ok ⟨otherLines body, some tag,
      fields.append slot (.ofList (if continues then continuedPiece body else firstLine body))⟩

-- Reads `name description`. The name runs to the next space, past line breaks if need be; the
-- description is the rest of the line that space is on.
def paramLine (fields : Fields) (body : List Char) : Except OutputError Scan :=
  match body.dropWhile (· ≠ ' ') with
  | [] => .error (.unendedParamName body)
  | _ :: description =>
    .ok ⟨otherLines description, some .param,
      fields.addParam (.ofList (body.takeWhile (· ≠ ' '))) (.ofList (firstLine description))⟩

def extendParam (fields : Fields) (body : List Char) : Except OutputError Scan :=
  match fields.extendParam? (.ofList (continuedPiece body)) with
  | none => .error (.internal "tried to append to an empty parameter list")
  | some fields => .ok ⟨otherLines body, some .param, fields⟩

def openTag (owner : Owner) (fields : Fields) (name : String) (body : List Char) :
    Except OutputError Scan :=
  match Tag.ofName? name with
  | none => .error (.unknownTag name)
  | some .param => paramLine fields body
  | some tag => takeLine owner fields tag false body

def resumeTag (owner : Owner) (fields : Fields) (tag : Tag) (body : List Char) :
    Except OutputError Scan :=
  match tag with
  | .param => extendParam fields body
  | tag => takeLine owner fields tag true body

def tagName (marker : List Char) : List Char := (marker.takeWhile (!endsTagName ·)).drop 1

def atMarker (owner : Owner) (scan : Scan) (marker : List Char) : Except OutputError Scan :=
  match marker.dropWhile (!endsTagName ·) with
  | [] => .error (.unendedTag marker)
  | _ :: body =>
    match scan.active with
    | some tag =>
      if tagName marker = [] then resumeTag owner scan.fields tag body
      else openTag owner scan.fields (.ofList (tagName marker)) body
    | none => openTag owner scan.fields (.ofList (tagName marker)) body

inductive Step where
  | stop
  | fail (error : OutputError)
  | next (scan : Scan)

def Step.ofExcept : Except OutputError Scan → Step
  | .ok scan => .next scan
  | .error error => .fail error

def step (owner : Owner) (text : List Char) (scan : Scan) : Step :=
  if '@' ∈ firstLine scan.rest then
    .ofExcept (atMarker owner scan (fromMarker scan.rest))
  else
    match scan.active with
    | some tag => .ofExcept (resumeTag owner scan.fields tag scan.rest)
    | none =>
      if scan.rest.length = text.length then
        .ofExcept (takeLine owner scan.fields .notice false scan.rest)
      else if '\n' ∈ scan.rest then .next { scan with rest := otherLines scan.rest }
      else .stop

theorem step_marked (owner : Owner) (text : List Char) (scan : Scan)
    (marked : '@' ∈ firstLine scan.rest) :
    step owner text scan = .ofExcept (atMarker owner scan (fromMarker scan.rest)) := by
  rw [step, if_pos marked]

theorem step_active (owner : Owner) (text : List Char) (scan : Scan) {tag : Tag}
    (unmarked : '@' ∉ firstLine scan.rest) (active : scan.active = some tag) :
    step owner text scan = .ofExcept (resumeTag owner scan.fields tag scan.rest) := by
  rw [step, if_neg unmarked, active]

theorem step_start (owner : Owner) (text : List Char) (scan : Scan)
    (unmarked : '@' ∉ firstLine scan.rest) (inactive : scan.active = none)
    (untouched : scan.rest = text) :
    step owner text scan = .ofExcept (takeLine owner scan.fields .notice false scan.rest) := by
  rw [step, if_neg unmarked, inactive]
  exact if_pos (congrArg List.length untouched)

theorem length_dropWhile_le (p : Char → Bool) (text : List Char) :
    (text.dropWhile p).length ≤ text.length :=
  (List.dropWhile_sublist p).length_le

theorem length_otherLines_le (text : List Char) : (otherLines text).length ≤ text.length := by
  have := length_dropWhile_le (· ≠ '\n') text
  simp only [otherLines, List.length_drop]
  omega

theorem length_otherLines_lt {text : List Char} (h : text ≠ []) :
    (otherLines text).length < text.length := by
  have bound := length_dropWhile_le (· ≠ '\n') text
  have positive : 0 < text.length := List.length_pos_iff.2 h
  simp only [otherLines, List.length_drop]
  omega

theorem rest_takeLine {owner : Owner} {fields : Fields} {tag : Tag} {continues : Bool}
    {body : List Char} {scan : Scan} (h : takeLine owner fields tag continues body = .ok scan) :
    scan.rest = otherLines body := by
  unfold takeLine at h
  split at h
  · exact absurd h (by simp)
  · cases h
    rfl

theorem length_paramLine {fields : Fields} {body : List Char} {scan : Scan}
    (h : paramLine fields body = .ok scan) : scan.rest.length ≤ body.length := by
  unfold paramLine at h
  split at h
  · exact absurd h (by simp)
  · rename_i space description found
    have bound := length_dropWhile_le (· ≠ ' ') body
    have tail := length_otherLines_le description
    rw [found] at bound
    cases h
    simp only [List.length_cons] at bound ⊢
    omega

theorem length_openTag {owner : Owner} {fields : Fields} {name : String} {body : List Char}
    {scan : Scan} (h : openTag owner fields name body = .ok scan) :
    scan.rest.length ≤ body.length := by
  unfold openTag at h
  split at h
  · exact absurd h (by simp)
  · exact length_paramLine h
  · rw [rest_takeLine h]
    exact length_otherLines_le body

theorem rest_resumeTag {owner : Owner} {fields : Fields} {tag : Tag} {body : List Char}
    {scan : Scan} (h : resumeTag owner fields tag body = .ok scan) :
    scan.rest = otherLines body := by
  unfold resumeTag at h
  split at h
  · unfold extendParam at h
    split at h
    · exact absurd h (by simp)
    · cases h
      rfl
  · exact rest_takeLine h

theorem length_atMarker {owner : Owner} {scan next : Scan} {marker : List Char}
    (h : atMarker owner scan marker = .ok next) : next.rest.length < marker.length := by
  unfold atMarker at h
  split at h
  · exact absurd h (by simp)
  · rename_i ending body found
    have bound := length_dropWhile_le (!endsTagName ·) marker
    rw [found, List.length_cons] at bound
    have continued {tag : Tag} (h : resumeTag owner scan.fields tag body = .ok next) :
        next.rest.length ≤ body.length := by
      rw [rest_resumeTag h]
      exact length_otherLines_le body
    split at h
    · split at h
      · have := continued h
        omega
      · have := length_openTag h
        omega
    · have := length_openTag h
      omega

theorem of_ofExcept {result : Except OutputError Scan} {next : Scan}
    (h : Step.ofExcept result = .next next) : result = .ok next := by
  cases result <;> simp_all [Step.ofExcept]

theorem step_shorter {owner : Owner} {text : List Char} {scan next : Scan} (rest : scan.rest ≠ [])
    (h : step owner text scan = .next next) : next.rest.length < scan.rest.length := by
  unfold step at h
  split at h
  · have shorter := length_atMarker (of_ofExcept h)
    have bound := length_dropWhile_le (· ≠ '@') scan.rest
    simp only [fromMarker] at shorter
    omega
  · have line := length_otherLines_lt rest
    split at h
    · rw [rest_resumeTag (of_ofExcept h)]
      exact line
    · split at h
      · rw [rest_takeLine (of_ofExcept h)]
        exact line
      · split at h
        · cases h
          exact line
        · exact absurd h (by simp)

structure Parsed where
  fields : Fields
  error : Option OutputError
deriving DecidableEq, Repr

def run (owner : Owner) (text : List Char) (scan : Scan) : Parsed :=
  if _ended : scan.rest = [] then ⟨scan.fields, none⟩
  else
    match _continues : step owner text scan with
    | .stop => ⟨scan.fields, none⟩
    | .fail error => ⟨scan.fields, some error⟩
    | .next next => run owner text next
termination_by scan.rest.length
decreasing_by exact step_shorter _ended _continues

theorem run_ended (owner : Owner) (text : List Char) (scan : Scan) (ended : scan.rest = []) :
    run owner text scan = ⟨scan.fields, none⟩ := by
  rw [run, dif_pos ended]

theorem run_unended (owner : Owner) (text : List Char) (scan : Scan) (unended : scan.rest ≠ []) :
    run owner text scan =
      match step owner text scan with
      | .stop => ⟨scan.fields, none⟩
      | .fail error => ⟨scan.fields, some error⟩
      | .next next => run owner text next := by
  rw [run, dif_neg unended]
  split <;> simp_all

def parse (comment : String) (owner : Owner) (fields : Fields) : Parsed :=
  run owner comment.toList (.start comment.toList fields)

def collect (comment : String) (owner : Owner) (fields : Fields) : Except OutputError Fields :=
  let parsed := parse comment owner fields
  match parsed.error with
  | some error => .error error
  | none => .ok parsed.fields

end NatSpec.Comment
