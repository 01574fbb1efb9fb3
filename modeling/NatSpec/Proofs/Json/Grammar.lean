import NatSpec.Json.Token

set_option autoImplicit false

namespace NatSpec.Json

inductive Value where
  | null
  | bool (value : Bool)
  | number (spelling : List Char)
  | string (text : String)
  | array (items : List Value)
  | object (members : List (String × Value))

inductive Blanks : List Char → List Char → Prop
  | none {s : List Char} : Blanks s s
  | more {c : Char} {s rest : List Char} : isBlank c = true → Blanks s rest → Blanks (c :: s) rest

-- A string after its opening quote. A surrogate counts only with its partner.
inductive StringBody : List Char → List Char → List Char → Prop
  | close {rest : List Char} : StringBody ('"' :: rest) [] rest
  | plain {c : Char} {s text rest : List Char} : c ≠ '"' → c ≠ '\\' → 0x20 ≤ c.toNat →
      StringBody s text rest → StringBody (c :: s) (c :: text) rest
  | short {mark c : Char} {s text rest : List Char} : shortEscape? mark = some c →
      StringBody s text rest → StringBody ('\\' :: mark :: s) (c :: text) rest
  | code {a b c d : Char} {unit : Nat} {s text rest : List Char} :
      hexValues? [a, b, c, d] = some unit → isLeading unit = false → isTrailing unit = false →
      StringBody s text rest →
      StringBody ('\\' :: 'u' :: a :: b :: c :: d :: s) (Char.ofNat unit :: text) rest
  | pair {a b c d e f g h : Char} {leading trailing : Nat} {s text rest : List Char} :
      hexValues? [a, b, c, d] = some leading → isLeading leading = true →
      hexValues? [e, f, g, h] = some trailing → isTrailing trailing = true →
      StringBody s text rest →
      StringBody ('\\' :: 'u' :: a :: b :: c :: d :: '\\' :: 'u' :: e :: f :: g :: h :: s)
        (surrogatePair leading trailing :: text) rest

def IsDigits (s : List Char) : Prop := s ≠ [] ∧ ∀ c ∈ s, c.isDigit = true

def IsWhole (s : List Char) : Prop := s = ['0'] ∨ (IsDigits s ∧ s.head? ≠ some '0')

def IsFraction (s : List Char) : Prop := s = [] ∨ ∃ digits, s = '.' :: digits ∧ IsDigits digits

def IsExponent (s : List Char) : Prop :=
  s = [] ∨ ∃ mark sign digits, s = mark :: (sign ++ digits) ∧ (mark = 'e' ∨ mark = 'E') ∧
    (sign = [] ∨ sign = ['+'] ∨ sign = ['-']) ∧ IsDigits digits

def IsNumber (s : List Char) : Prop :=
  ∃ sign whole fraction exponent, s = sign ++ (whole ++ (fraction ++ exponent)) ∧
    (sign = [] ∨ sign = ['-']) ∧ IsWhole whole ∧ IsFraction fraction ∧ IsExponent exponent

section listed

variable {α : Type}

inductive Listed (part : List Char → α → List Char → Prop) (closing : Char) :
    List Char → List α → List Char → Prop
  | last {s t u rest : List Char} {a : α} : Blanks s t → part t a u →
      Blanks u (closing :: rest) → Listed part closing s [a] rest
  | more {s t u v rest : List Char} {a : α} {as : List α} : Blanks s t → part t a u →
      Blanks u (',' :: v) → Listed part closing v as rest → Listed part closing s (a :: as) rest

inductive Keyed (part : List Char → α → List Char → Prop) :
    List Char → String × α → List Char → Prop
  | intro {s t u v key rest : List Char} {a : α} : StringBody s key t → Blanks t (':' :: u) →
      Blanks u v → part v a rest → Keyed part ('"' :: s) (String.ofList key, a) rest

end listed

inductive Spells : List Char → Value → List Char → Prop
  | null {rest : List Char} : Spells ('n' :: 'u' :: 'l' :: 'l' :: rest) .null rest
  | yes {rest : List Char} : Spells ('t' :: 'r' :: 'u' :: 'e' :: rest) (.bool true) rest
  | no {rest : List Char} : Spells ('f' :: 'a' :: 'l' :: 's' :: 'e' :: rest) (.bool false) rest
  | number {spelling s rest : List Char} : IsNumber spelling → s = spelling ++ rest →
      Spells s (.number spelling) rest
  | string {s text rest : List Char} : StringBody s text rest →
      Spells ('"' :: s) (.string (String.ofList text)) rest
  | noItems {s rest : List Char} : Blanks s (']' :: rest) → Spells ('[' :: s) (.array []) rest
  | items {s rest : List Char} {items : List Value} : Listed Spells ']' s items rest →
      Spells ('[' :: s) (.array items) rest
  | noMembers {s rest : List Char} : Blanks s ('\x7d' :: rest) →
      Spells ('\x7b' :: s) (.object []) rest
  | members {s rest : List Char} {members : List (String × Value)} :
      Listed (Keyed Spells) '\x7d' s members rest → Spells ('\x7b' :: s) (.object members) rest

def Denotes (text : List Char) (value : Value) : Prop :=
  ∃ s rest, Blanks text s ∧ Spells s value rest ∧ Blanks rest []

theorem string_body_unique {s text text' rest rest' : List Char} (one : StringBody s text rest)
    (two : StringBody s text' rest') : text = text' ∧ rest = rest' := by
  induction one generalizing text' rest' with
  | close =>
    cases two with
    | close => exact ⟨rfl, rfl⟩
    | plain notQuote => exact absurd rfl notQuote
  | plain notQuote notBackslash printable body ih =>
    cases two with
    | close => exact absurd rfl notQuote
    | plain _ _ _ body' =>
      obtain ⟨rfl, rfl⟩ := ih body'
      exact ⟨rfl, rfl⟩
    | short => exact absurd rfl notBackslash
    | code => exact absurd rfl notBackslash
    | pair => exact absurd rfl notBackslash
  | short marked body ih =>
    cases two with
    | plain _ notBackslash => exact absurd rfl notBackslash
    | short marked' body' =>
      cases marked.symm.trans marked'
      obtain ⟨rfl, rfl⟩ := ih body'
      exact ⟨rfl, rfl⟩
    | code => cases marked
    | pair => cases marked
  | code value notLeading notTrailing body ih =>
    cases two with
    | plain _ notBackslash => exact absurd rfl notBackslash
    | short marked => cases marked
    | code value' _ _ body' =>
      cases value.symm.trans value'
      obtain ⟨rfl, rfl⟩ := ih body'
      exact ⟨rfl, rfl⟩
    | pair value' leading =>
      cases value.symm.trans value'
      rw [leading] at notLeading
      cases notLeading
  | pair value leading value' trailing body ih =>
    cases two with
    | plain _ notBackslash => exact absurd rfl notBackslash
    | short marked => cases marked
    | code other notLeading =>
      cases value.symm.trans other
      rw [leading] at notLeading
      cases notLeading
    | pair other _ other' _ body' =>
      cases value.symm.trans other
      cases value'.symm.trans other'
      obtain ⟨rfl, rfl⟩ := ih body'
      exact ⟨rfl, rfl⟩

def isNumeric (c : Char) : Bool :=
  c.isDigit || c = '-' || c = '+' || c = '.' || c = 'e' || c = 'E'

def Ended (rest : List Char) : Prop := ∀ c tail, rest = c :: tail → isNumeric c = false

theorem digits_numeric (s : List Char) (digits : IsDigits s) : ∀ c ∈ s, isNumeric c = true := by
  intro c member
  rw [isNumeric, digits.2 c member]
  rfl

theorem whole_numeric (s : List Char) (whole : IsWhole s) : ∀ c ∈ s, isNumeric c = true := by
  rcases whole with rfl | ⟨digits, _⟩
  · intro c member
    rw [List.mem_singleton.mp member]
    rfl
  · exact digits_numeric s digits

theorem fraction_numeric (s : List Char) (fraction : IsFraction s) :
    ∀ c ∈ s, isNumeric c = true := by
  rcases fraction with rfl | ⟨digits, rfl, isDigits⟩
  · exact nofun
  · intro c member
    rcases List.mem_cons.mp member with rfl | later
    · rfl
    · exact digits_numeric digits isDigits c later

theorem exponent_numeric (s : List Char) (exponent : IsExponent s) :
    ∀ c ∈ s, isNumeric c = true := by
  rcases exponent with rfl | ⟨mark, sign, digits, rfl, marked, signed, isDigits⟩
  · exact nofun
  · intro c member
    rcases List.mem_cons.mp member with rfl | later
    · rcases marked with rfl | rfl <;> rfl
    · rcases List.mem_append.mp later with inSign | inDigits
      · rcases signed with rfl | rfl | rfl
        · cases inSign
        · rw [List.mem_singleton.mp inSign]
          rfl
        · rw [List.mem_singleton.mp inSign]
          rfl
      · exact digits_numeric digits isDigits c inDigits

theorem number_numeric (s : List Char) (number : IsNumber s) : ∀ c ∈ s, isNumeric c = true := by
  obtain ⟨sign, whole, fraction, exponent, rfl, signed, isWhole, isFraction, isExponent⟩ := number
  intro c member
  rcases List.mem_append.mp member with inSign | afterSign
  · rcases signed with rfl | rfl
    · cases inSign
    · rw [List.mem_singleton.mp inSign]
      rfl
  · rcases List.mem_append.mp afterSign with inWhole | afterWhole
    · exact whole_numeric whole isWhole c inWhole
    · rcases List.mem_append.mp afterWhole with inFraction | inExponent
      · exact fraction_numeric fraction isFraction c inFraction
      · exact exponent_numeric exponent isExponent c inExponent

theorem number_opening (s : List Char) (number : IsNumber s) :
    ∃ c tail, s = c :: tail ∧ (c = '-' ∨ c.isDigit = true) := by
  obtain ⟨sign, whole, fraction, exponent, rfl, signed, isWhole, _, _⟩ := number
  rcases signed with rfl | rfl
  · rcases isWhole with rfl | ⟨⟨filled, digits⟩, _⟩
    · exact ⟨'0', _, rfl, .inr rfl⟩
    · obtain ⟨c, tail, rfl⟩ := List.exists_cons_of_ne_nil filled
      exact ⟨c, _, rfl, .inr (digits c (List.mem_cons_self ..))⟩
  · exact ⟨'-', _, rfl, .inl rfl⟩

theorem number_unique {one two rest rest' : List Char} (number : IsNumber one)
    (number' : IsNumber two) (ended : Ended rest) (ended' : Ended rest')
    (same : one ++ rest = two ++ rest') : one = two ∧ rest = rest' := by
  have taken (spelling rest : List Char) (number : IsNumber spelling) (ended : Ended rest) :
      (spelling ++ rest).takeWhile isNumeric = spelling := by
    rw [List.takeWhile_append_of_pos (number_numeric spelling number)]
    cases rest with
    | nil => rw [List.takeWhile_nil, List.append_nil]
    | cons c tail =>
      rw [List.takeWhile_cons_of_neg (by simp [ended c tail rfl]), List.append_nil]
  have spelling : one = two := by
    rw [← taken one rest number ended, same, taken two rest' number' ended']
  subst spelling
  exact ⟨rfl, List.append_cancel_left same⟩

theorem blanks_unique {s t u : List Char} {c d : Char} (one : Blanks s (c :: t))
    (two : Blanks s (d :: u)) (visible : isBlank c = false) (visible' : isBlank d = false) :
    c = d ∧ t = u := by
  generalize stop : c :: t = left at one
  induction one with
  | none =>
    subst stop
    cases two with
    | none => exact ⟨rfl, rfl⟩
    | more blank =>
      rw [blank] at visible
      cases visible
  | more blank further ih =>
    cases two with
    | none =>
      rw [blank] at visible'
      cases visible'
    | more _ further' => exact ih further' stop

theorem blank_not_numeric (c : Char) (blank : isBlank c = true) : isNumeric c = false := by
  simp only [isBlank, Bool.or_eq_true, decide_eq_true_eq] at blank
  rcases blank with ((rfl | rfl) | rfl) | rfl <;> rfl

theorem ended_before_blanks {s rest : List Char} (blanks : Blanks s rest) (ended : Ended rest) :
    Ended s := by
  cases blanks with
  | none => exact ended
  | more blank further =>
    intro c tail same
    obtain ⟨rfl, _⟩ := List.cons.inj same
    exact blank_not_numeric _ blank

theorem ended_at (c : Char) (rest : List Char) (other : isNumeric c = false) :
    Ended (c :: rest) := by
  intro d tail same
  rw [← (List.cons.inj same).1]
  exact other

def Begins (s : List Char) : Prop :=
  ∃ c tail, s = c :: tail ∧ isBlank c = false ∧ c ≠ ']' ∧ c ≠ '\x7d'

theorem digit_begins (c : Char) (tail : List Char) (digit : c.isDigit = true) :
    Begins (c :: tail) := by
  refine ⟨c, tail, rfl, ?_, ?_, ?_⟩
  · by_cases blank : isBlank c = true
    · simp only [isBlank, Bool.or_eq_true, decide_eq_true_eq] at blank
      rcases blank with ((rfl | rfl) | rfl) | rfl <;> cases digit
    · exact Bool.eq_false_iff.mpr blank
  · rintro rfl
    cases digit
  · rintro rfl
    cases digit

theorem spells_begins (s : List Char) (value : Value) (rest : List Char)
    (spelled : Spells s value rest) : Begins s := by
  cases spelled with
  | number number same =>
    obtain ⟨c, tail, opened, sign | digit⟩ := number_opening _ number
    · subst same opened sign
      exact ⟨'-', _, rfl, rfl, by decide, by decide⟩
    · subst same opened
      exact digit_begins c _ digit
  | null => exact ⟨_, _, rfl, rfl, by decide, by decide⟩
  | yes => exact ⟨_, _, rfl, rfl, by decide, by decide⟩
  | no => exact ⟨_, _, rfl, rfl, by decide, by decide⟩
  | string => exact ⟨_, _, rfl, rfl, by decide, by decide⟩
  | noItems => exact ⟨_, _, rfl, rfl, by decide, by decide⟩
  | items => exact ⟨_, _, rfl, rfl, by decide, by decide⟩
  | noMembers => exact ⟨_, _, rfl, rfl, by decide, by decide⟩
  | members => exact ⟨_, _, rfl, rfl, by decide, by decide⟩

theorem spells_numeric {s rest spelling after : List Char} {value : Value}
    (spelled : Spells s value rest) (number : IsNumber spelling) (same : s = spelling ++ after) :
    ∃ other, value = .number other ∧ IsNumber other ∧ s = other ++ rest := by
  obtain ⟨c, tail, rfl, opened⟩ := number_opening _ number
  cases spelled with
  | number number' same' => exact ⟨_, rfl, number', same'⟩
  | _ =>
    rw [← (List.cons.inj same).1] at opened
    exact absurd opened (by decide)

section unique

variable {α : Type}

def Unique (part : List Char → α → List Char → Prop) (a : α) : Prop :=
  ∀ s b rest rest', part s a rest → part s b rest' → Ended rest → Ended rest' →
    a = b ∧ rest = rest'

theorem listed_unique {part : List Char → α → List Char → Prop} {closing : Char}
    {s rest rest' : List Char} {as bs : List α} (unique : ∀ a ∈ as, Unique part a)
    (begins : ∀ s a rest, part s a rest → Begins s) (visible : isBlank closing = false)
    (ends : isNumeric closing = false) (notComma : closing ≠ ',')
    (one : Listed part closing s as rest) (two : Listed part closing s bs rest') :
    as = bs ∧ rest = rest' := by
  have first {s t t' u u' v v' : List Char} {a b : α} {c d : Char} (known : Unique part a)
      (blanks : Blanks s t) (starts : part t a u) (stops : Blanks u (c :: v))
      (blanks' : Blanks s t') (starts' : part t' b u') (stops' : Blanks u' (d :: v'))
      (stop : c = closing ∨ c = ',') (stop' : d = closing ∨ d = ',') :
      a = b ∧ c = d ∧ v = v' := by
    obtain ⟨x, tail, rfl, seen, _⟩ := begins _ _ _ starts
    obtain ⟨x', tail', rfl, seen', _⟩ := begins _ _ _ starts'
    obtain ⟨rfl, rfl⟩ := blanks_unique blanks blanks' seen seen'
    have mark (d : Char) (stop : d = closing ∨ d = ',') :
        isBlank d = false ∧ isNumeric d = false := by
      rcases stop with rfl | rfl
      · exact ⟨visible, ends⟩
      · exact ⟨rfl, rfl⟩
    have ended := ended_before_blanks stops (ended_at c v (mark c stop).2)
    have ended' := ended_before_blanks stops' (ended_at d v' (mark d stop').2)
    obtain ⟨rfl, rfl⟩ := known _ _ _ _ starts starts' ended ended'
    exact ⟨rfl, blanks_unique stops stops' (mark c stop).1 (mark d stop').1⟩
  induction one generalizing bs rest' with
  | last blanks starts stops =>
    have known := unique _ (List.mem_cons_self ..)
    cases two with
    | last blanks' starts' stops' =>
      obtain ⟨rfl, _, rfl⟩ :=
        first known blanks starts stops blanks' starts' stops' (.inl rfl) (.inl rfl)
      exact ⟨rfl, rfl⟩
    | more blanks' starts' stops' =>
      obtain ⟨_, comma, _⟩ :=
        first known blanks starts stops blanks' starts' stops' (.inl rfl) (.inr rfl)
      exact absurd comma notComma
  | more blanks starts stops further ih =>
    have known := unique _ (List.mem_cons_self ..)
    cases two with
    | last blanks' starts' stops' =>
      obtain ⟨_, comma, _⟩ :=
        first known blanks starts stops blanks' starts' stops' (.inr rfl) (.inl rfl)
      exact absurd comma.symm notComma
    | more blanks' starts' stops' further' =>
      obtain ⟨rfl, _, rfl⟩ :=
        first known blanks starts stops blanks' starts' stops' (.inr rfl) (.inr rfl)
      obtain ⟨rfl, rfl⟩ := ih (fun a later => unique a (List.mem_cons_of_mem _ later)) further'
      exact ⟨rfl, rfl⟩

theorem listed_begins {part : List Char → α → List Char → Prop} {closing c : Char}
    {s rest rest' : List Char} {as : List α} (begins : ∀ s a rest, part s a rest → Begins s)
    (listed : Listed part closing s as rest) (closed : Blanks s (c :: rest'))
    (visible : isBlank c = false) : c ≠ ']' ∧ c ≠ '\x7d' := by
  cases listed with
  | last blanks starts =>
    obtain ⟨x, tail, rfl, seen, others⟩ := begins _ _ _ starts
    rw [(blanks_unique closed blanks visible seen).1]
    exact others
  | more blanks starts =>
    obtain ⟨x, tail, rfl, seen, others⟩ := begins _ _ _ starts
    rw [(blanks_unique closed blanks visible seen).1]
    exact others

theorem member_begins {part : List Char → α → List Char → Prop} (s : List Char)
    (member : String × α) (rest : List Char) (spelled : Keyed part s member rest) :
    Begins s := by
  cases spelled
  exact ⟨'"', _, rfl, rfl, by decide, by decide⟩

theorem member_unique {part : List Char → α → List Char → Prop} {member : String × α}
    (unique : Unique part member.2) (begins : ∀ s a rest, part s a rest → Begins s) :
    Unique (Keyed part) member := by
  intro s other rest rest' one two ended ended'
  cases one with
  | intro body colon blanks starts =>
    cases two with
    | intro body' colon' blanks' starts' =>
      obtain ⟨rfl, rfl⟩ := string_body_unique body body'
      obtain ⟨_, rfl⟩ := blanks_unique colon colon' rfl rfl
      obtain ⟨x, tail, rfl, seen, _⟩ := begins _ _ _ starts
      obtain ⟨x', tail', rfl, seen', _⟩ := begins _ _ _ starts'
      obtain ⟨rfl, rfl⟩ := blanks_unique blanks blanks' seen seen'
      obtain ⟨rfl, rfl⟩ := unique _ _ _ _ starts starts' ended ended'
      exact ⟨rfl, rfl⟩

end unique

theorem word_unique {s rest rest' : List Char} {value other : Value} (one : Spells s value rest)
    (two : Spells s other rest')
    (word : value = .null ∨ value = .bool true ∨ value = .bool false) :
    value = other ∧ rest = rest' := by
  by_cases numeric : ∃ spelling, other = .number spelling
  · obtain ⟨spelling, rfl⟩ := numeric
    cases two with
    | number number same =>
      obtain ⟨_, impossible, _⟩ := spells_numeric one number same
      rcases word with rfl | rfl | rfl <;> cases impossible
  · rcases word with rfl | rfl | rfl
    · cases one
      cases two with
      | null => exact ⟨rfl, rfl⟩
      | number => exact absurd ⟨_, rfl⟩ numeric
    · cases one
      cases two with
      | yes => exact ⟨rfl, rfl⟩
      | number => exact absurd ⟨_, rfl⟩ numeric
    · cases one
      cases two with
      | no => exact ⟨rfl, rfl⟩
      | number => exact absurd ⟨_, rfl⟩ numeric

theorem number_value_unique (spelling : List Char) : Unique Spells (.number spelling) := by
  intro s other rest rest' one two ended ended'
  cases one with
  | number number same =>
    obtain ⟨spelling', rfl, number', same'⟩ := spells_numeric two number same
    obtain ⟨rfl, rfl⟩ := number_unique number number' ended ended' (same.symm.trans same')
    exact ⟨rfl, rfl⟩

theorem string_unique (text : String) : Unique Spells (.string text) := by
  intro s other rest rest' one two _ _
  cases one with
  | string body =>
    cases two with
    | string body' =>
      obtain ⟨rfl, rfl⟩ := string_body_unique body body'
      exact ⟨rfl, rfl⟩
    | number number same =>
      obtain ⟨_, impossible, _⟩ := spells_numeric (.string body) number same
      cases impossible

theorem array_unique {items : List Value} (unique : ∀ item ∈ items, Unique Spells item) :
    Unique Spells (.array items) := by
  intro s other rest rest' one two _ _
  cases two with
  | number number same =>
    obtain ⟨_, impossible, _⟩ := spells_numeric one number same
    cases impossible
  | noItems closed' =>
    cases one with
    | noItems closed =>
      obtain ⟨_, rfl⟩ := blanks_unique closed closed' rfl rfl
      exact ⟨rfl, rfl⟩
    | items listed => exact absurd rfl (listed_begins spells_begins listed closed' rfl).1
  | items listed' =>
    cases one with
    | noItems closed => exact absurd rfl (listed_begins spells_begins listed' closed rfl).1
    | items listed =>
      obtain ⟨rfl, rfl⟩ := listed_unique unique spells_begins rfl rfl (by decide) listed listed'
      exact ⟨rfl, rfl⟩
  | _ => cases one

theorem object_unique {members : List (String × Value)}
    (unique : ∀ member ∈ members, Unique Spells member.2) : Unique Spells (.object members) := by
  intro s other rest rest' one two _ _
  cases two with
  | number number same =>
    obtain ⟨_, impossible, _⟩ := spells_numeric one number same
    cases impossible
  | noMembers closed' =>
    cases one with
    | noMembers closed =>
      obtain ⟨_, rfl⟩ := blanks_unique closed closed' rfl rfl
      exact ⟨rfl, rfl⟩
    | members listed => exact absurd rfl (listed_begins member_begins listed closed' rfl).2
  | members listed' =>
    cases one with
    | noMembers closed => exact absurd rfl (listed_begins member_begins listed' closed rfl).2
    | members listed =>
      have known (member : String × Value) (inMembers : member ∈ members) :
          Unique (Keyed Spells) member :=
        member_unique (unique member inMembers) spells_begins
      obtain ⟨rfl, rfl⟩ := listed_unique known member_begins rfl rfl (by decide) listed listed'
      exact ⟨rfl, rfl⟩
  | _ => cases one

theorem spells_unique (value : Value) : Unique Spells value := by
  cases value with
  | null => exact fun _ _ _ _ one two _ _ => word_unique one two (.inl rfl)
  | bool value =>
    exact fun _ _ _ _ one two _ _ => word_unique one two (.inr (by cases value <;> simp))
  | number spelling => exact number_value_unique spelling
  | string text => exact string_unique text
  | array items => exact array_unique fun item inItems => spells_unique item
  | object members => exact object_unique fun member inMembers => spells_unique member.2
termination_by sizeOf value
decreasing_by
  · have smaller := List.sizeOf_lt_of_mem inItems
    simp only [Value.array.sizeOf_spec]
    omega
  · have smaller := List.sizeOf_lt_of_mem inMembers
    have value : sizeOf member = 1 + sizeOf member.1 + sizeOf member.2 := by cases member; rfl
    simp only [Value.object.sizeOf_spec]
    omega

theorem denotes_unique {text : List Char} {value other : Value} (one : Denotes text value)
    (two : Denotes text other) : value = other := by
  obtain ⟨s, rest, blanks, spelled, after⟩ := one
  obtain ⟨s', rest', blanks', spelled', after'⟩ := two
  obtain ⟨c, tail, rfl, seen, _⟩ := spells_begins _ _ _ spelled
  obtain ⟨c', tail', rfl, seen', _⟩ := spells_begins _ _ _ spelled'
  obtain ⟨rfl, rfl⟩ := blanks_unique blanks blanks' seen seen'
  have ended := ended_before_blanks after nofun
  have ended' := ended_before_blanks after' nofun
  exact (spells_unique value _ _ _ _ spelled spelled' ended ended').1

end NatSpec.Json
