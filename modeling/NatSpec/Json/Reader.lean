import NatSpec.Json.Skip

set_option autoImplicit false

namespace NatSpec.Json

abbrev Reader (α : Type) := (s : List Char) → Except Halt (α × Rest s)

namespace Reader

variable {α β : Type}

def map (f : α → β) (reader : Reader α) : Reader β := fun s =>
  match reader s with
  | .error halt => .error halt
  | .ok (value, rest) => .ok (f value, rest)

def quoted (s body : List Char) (shorter : body.length < s.length) :
    Except Halt (String × Rest s) :=
  match read : stringBody [] body with
  | .error halt => .error halt
  | .ok (text, rest) =>
    .ok (.ofList text, ⟨rest, Nat.lt_trans (length_stringBody read) shorter⟩)

def string : Reader String := fun s =>
  match found : skipBlank s with
  | [] => .error (.atEnd .endInValue)
  | c :: body =>
    if c = '"' then quoted s body (shorter_of_skipBlank found)
    else .error (mismatch "a string" (c :: body))

def word (value : α) (letters s body : List Char) (shorter : body.length < s.length) :
    Except Halt (α × Rest s) :=
  match read : literal letters body with
  | .error halt => .error halt
  | .ok rest => .ok (value, ⟨rest, Nat.lt_of_le_of_lt (length_literal read) shorter⟩)

def bool : Reader Bool := fun s =>
  match found : skipBlank s with
  | [] => .error (.atEnd .endInValue)
  | c :: body =>
    if c = 't' then word true "rue".toList s body (shorter_of_skipBlank found)
    else if c = 'f' then word false "alse".toList s body (shorter_of_skipBlank found)
    else .error (mismatch "a boolean" (c :: body))

def nullable (reader : Reader α) : Reader (Option α) := fun s =>
  match found : skipBlank s with
  | [] => .error (.atEnd .endInValue)
  | c :: body =>
    if c = 'n' then word none "ull".toList s body (shorter_of_skipBlank found)
    else reader.map some s

def nextItem (first : Bool) (s : List Char) :
    Except Halt (Option { r : List Char // r.length ≤ s.length }) :=
  match found : skipBlank s with
  | [] => .error (.atEnd .endInList)
  | c :: rest =>
    if c = ']' then .ok none
    else if first then .ok (some ⟨s, Nat.le_refl _⟩)
    else if c = ',' then
      match skipBlank rest with
      | [] => .error (.atEnd .endInValue)
      | c :: after =>
        if c = ']' then .error (.upon .trailingComma (c :: after))
        else .ok (some ⟨rest, Nat.le_of_lt (shorter_of_skipBlank found)⟩)
    else .error (.upon .noListComma (c :: rest))

def endList (s : List Char) : Except Halt (Rest s) :=
  match found : skipBlank s with
  | [] => .error (.atEnd .endInList)
  | c :: rest =>
    if c = ']' then .ok ⟨rest, shorter_of_skipBlank found⟩
    else if c = ',' then
      if (skipBlank rest).head? = some ']' then .error (.upon .trailingComma (skipBlank rest))
      else .error (.upon .trailingCharacters (skipBlank rest))
    else .error (.upon .trailingCharacters (c :: rest))

def items (item : Reader α) (first : Bool) (read : List α) (s : List Char) :
    Except Halt (List α × List Char) :=
  match nextItem first s with
  | .error halt => .error halt
  | .ok none =>
    match endList s with
    | .error halt => .error halt
    | .ok ⟨rest, _⟩ => .ok (read.reverse, rest)
  | .ok (some ⟨start, _⟩) =>
    match item start with
    | .error halt => .error halt
    | .ok (value, ⟨rest, _⟩) => items item false (value :: read) rest
termination_by s.length
decreasing_by omega

theorem length_items {item : Reader α} {first : Bool} {read values : List α} {s rest : List Char}
    (h : items item first read s = .ok (values, rest)) : rest.length < s.length := by
  fun_induction items item first read s with
  | case1 => exact absurd h (by simp)
  | case2 => exact absurd h (by simp)
  | case3 first read s _ tail shorter _ =>
    cases h
    exact shorter
  | case4 => exact absurd h (by simp)
  | case5 first read s start bound _ value tail shorter _ ih =>
    have := ih h
    omega

def list (item : Reader α) : Reader (List α) := fun s =>
  match found : skipBlank s with
  | [] => .error (.atEnd .endInValue)
  | c :: body =>
    if c = '[' then
      match read : items item true [] body with
      | .error halt => .error halt
      | .ok (values, rest) =>
        .ok (values, ⟨rest, Nat.lt_trans (length_items read) (shorter_of_skipBlank found)⟩)
    else .error (mismatch "a sequence" (c :: body))

end Reader

structure Member (α : Type) where
  name : String
  required : Bool
  update : Reader (α → α)

structure Shape (α : Type) where
  name : String
  empty : α
  fields : List (Member α)

namespace Shape

variable {α : Type}

def field? (shape : Shape α) (name : String) : Option (Member α) :=
  shape.fields.find? (·.name = name)

def wanted (shape : Shape α) : String := "struct " ++ shape.name

def wantedLength (shape : Shape α) : String :=
  shape.wanted ++ " with " ++ toString shape.fields.length ++ " elements"

def nextKey (first : Bool) (s : List Char) : Except Halt (Option (Rest s)) :=
  match found : skipBlank s with
  | [] => .error (.atEnd .endInObject)
  | c :: rest =>
    if c = '\x7d' then .ok none
    else if first then
      if c = '"' then .ok (some ⟨rest, shorter_of_skipBlank found⟩)
      else .error (.upon .keyNotString (c :: rest))
    else if c = ',' then
      match next : skipBlank rest with
      | [] => .error (.atEnd .endInValue)
      | c :: key =>
        if c = '"' then
          .ok (some ⟨key, Nat.lt_trans (shorter_of_skipBlank next) (shorter_of_skipBlank found)⟩)
        else if c = '\x7d' then .error (.upon .trailingComma (c :: key))
        else .error (.upon .keyNotString (c :: key))
    else .error (.upon .noObjectComma (c :: rest))

def endObject (s : List Char) : Except Halt (Rest s) :=
  match found : skipBlank s with
  | [] => .error (.atEnd .endInObject)
  | c :: rest =>
    if c = '\x7d' then .ok ⟨rest, shorter_of_skipBlank found⟩
    else if c = ',' then .error (.upon .trailingComma (c :: rest))
    else .error (.upon .trailingCharacters (c :: rest))

def colon (s : List Char) : Except Halt (Rest s) :=
  match found : skipBlank s with
  | [] => .error (.atEnd .endInObject)
  | c :: rest =>
    if c = ':' then .ok ⟨rest, shorter_of_skipBlank found⟩
    else .error (.upon .noColon (c :: rest))

-- A record that is refused is read on to its closing bracket if nothing else is left of it.
def afterBracket (bracket : Char) (s : List Char) : List Char :=
  if (skipBlank s).head? = some bracket then (skipBlank s).drop 1 else skipBlank s

def member (shape : Shape α) (seen : List String) (key : String) (record : α) (s : List Char) :
    Except Halt ((List String × α) × Rest s) :=
  match shape.field? key with
  | some field =>
    if key ∈ seen then .error (.before (.duplicateField key) (afterBracket '\x7d' s))
    else
      match colon s with
      | .error halt => .error halt
      | .ok ⟨value, shorter⟩ =>
        match field.update value with
        | .error halt => .error halt
        | .ok (update, rest) => .ok ((key :: seen, update record), rest.within shorter)
  | none =>
    match colon s with
    | .error halt => .error halt
    | .ok ⟨value, shorter⟩ =>
      match skipped : skipValue value with
      | .error halt => .error halt
      | .ok rest =>
        .ok ((seen, record), ⟨rest, Nat.lt_of_le_of_lt (length_skipValue skipped) shorter⟩)

def members (shape : Shape α) (first : Bool) (seen : List String) (record : α) (s : List Char) :
    Except Halt ((List String × α) × List Char) :=
  match nextKey first s with
  | .error halt => .error halt
  | .ok none => .ok ((seen, record), s)
  | .ok (some ⟨start, _⟩) =>
    match _read : stringBody [] start with
    | .error halt => .error halt
    | .ok (key, after) =>
      match shape.member seen (.ofList key) record after with
      | .error halt => .error halt
      | .ok ((seen, record), ⟨rest, _⟩) => members shape false seen record rest
termination_by s.length
decreasing_by
  have := length_stringBody _read
  omega

theorem length_members {shape : Shape α} {first : Bool} {seen : List String} {record : α}
    {s rest : List Char} {result : List String × α}
    (h : shape.members first seen record s = .ok (result, rest)) : rest.length ≤ s.length := by
  fun_induction members shape first seen record s with
  | case1 => exact absurd h (by simp)
  | case2 =>
    cases h
    exact Nat.le_refl _
  | case3 => exact absurd h (by simp)
  | case4 => exact absurd h (by simp)
  | case5 first seen record s start shorter _ key after read _ _ tail tailShorter _ ih =>
    have := ih h
    have := length_stringBody read
    omega

def missing? (shape : Shape α) (seen : List String) : Option String :=
  (shape.fields.find? fun field => field.required && field.name ∉ seen).map Member.name

def object (shape : Shape α) (s : List Char) : Except Halt (α × Rest s) :=
  match read : shape.members true [] shape.empty s with
  | .error halt => .error halt
  | .ok ((seen, record), after) =>
    match shape.missing? seen with
    | some name => .error (.before (.missingField name) (afterBracket '\x7d' after))
    | none =>
      match endObject after with
      | .error halt => .error halt
      | .ok ⟨rest, shorter⟩ =>
        .ok (record, ⟨rest, Nat.lt_of_lt_of_le shorter (length_members read)⟩)

def elements (shape : Shape α) : List (Member α) → Nat → α → (s : List Char) →
    Except Halt (α × { r : List Char // r.length ≤ s.length })
  | [], _, record, s => .ok (record, ⟨s, Nat.le_refl _⟩)
  | field :: fields, count, record, s =>
    match Reader.nextItem (count = 0) s with
    | .error halt => .error halt
    | .ok none =>
      if field.required then
        .error (.before (.wrongLength count shape.wantedLength) (afterBracket ']' s))
      else shape.elements fields count record s
    | .ok (some ⟨start, startBound⟩) =>
      match field.update start with
      | .error halt => .error halt
      | .ok (update, ⟨rest, shorter⟩) =>
        match shape.elements fields (count + 1) (update record) rest with
        | .error halt => .error halt
        | .ok (record, ⟨after, afterBound⟩) => .ok (record, ⟨after, by omega⟩)

def array (shape : Shape α) (s : List Char) : Except Halt (α × Rest s) :=
  match shape.elements shape.fields 0 shape.empty s with
  | .error halt => .error halt
  | .ok (record, ⟨after, bound⟩) =>
    match Reader.endList after with
    | .error halt => .error halt
    | .ok ⟨rest, shorter⟩ => .ok (record, ⟨rest, Nat.lt_of_lt_of_le shorter bound⟩)

def reader (shape : Shape α) : Reader α := fun s =>
  match found : skipBlank s with
  | [] => .error (.atEnd .endInValue)
  | c :: body =>
    if c = '\x7b' then
      match shape.object body with
      | .error halt => .error halt
      | .ok (record, ⟨rest, shorter⟩) =>
        .ok (record, ⟨rest, Nat.lt_trans shorter (shorter_of_skipBlank found)⟩)
    else if c = '[' then
      match shape.array body with
      | .error halt => .error halt
      | .ok (record, ⟨rest, shorter⟩) =>
        .ok (record, ⟨rest, Nat.lt_trans shorter (shorter_of_skipBlank found)⟩)
    else .error (mismatch shape.wanted (c :: body))

end Shape

def read {α : Type} (reader : Reader α) (text : String) : Except ReadFailure α :=
  match reader text.toList with
  | .error halt => .error (halt.inText text.toList)
  | .ok (value, ⟨rest, _⟩) =>
    if skipBlank rest = [] then .ok value
    else .error ((Halt.upon .trailingCharacters (skipBlank rest)).inText text.toList)

end NatSpec.Json
