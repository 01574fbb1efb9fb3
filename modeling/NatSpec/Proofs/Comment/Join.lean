import NatSpec.Comment.Fields

set_option autoImplicit false

namespace NatSpec.Fields

def join (base later : Fields) : Fields where
  notice := base.notice ++ later.notice
  dev := base.dev ++ later.dev
  author := base.author ++ later.author
  contractAuthor := base.contractAuthor ++ later.contractAuthor
  title := base.title ++ later.title
  returns := base.returns ++ later.returns
  params := base.params ++ later.params

instance : Append Fields := ⟨join⟩

@[simp] theorem text_join (slot : Slot) (base later : Fields) :
    text slot (base ++ later) = text slot base ++ text slot later := by
  cases slot <;> rfl

@[simp] theorem params_join (base later : Fields) :
    (base ++ later).params = base.params ++ later.params := rfl

@[simp] theorem text_blank (slot : Slot) : text slot {} = "" := by
  cases slot <;> rfl

@[simp] theorem join_blank (fields : Fields) : fields ++ ({} : Fields) = fields := by
  apply ext_slots
  · intro slot
    simp
  · simp

theorem append_append (slot : Slot) (first second : String) (fields : Fields) :
    append slot second (append slot first fields) = append slot (first ++ second) fields := by
  apply ext_slots
  · intro other
    by_cases same : other = slot
    · simp [same, String.append_assoc]
    · simp [same]
  · simp

theorem append_join (slot : Slot) (piece : String) (base later : Fields) :
    append slot piece (base ++ later) = base ++ append slot piece later := by
  apply ext_slots
  · intro other
    by_cases same : other = slot
    · simp [same, String.append_assoc]
    · simp [same]
  · simp

theorem add_param_join (name description : String) (base later : Fields) :
    addParam name description (base ++ later) = base ++ addParam name description later := by
  apply ext_slots
  · intro slot
    simp
  · simp [addParam, List.append_assoc]

theorem extend_param_join (piece : String) (base later : Fields) (documented : later.params ≠ []) :
    (base ++ later).extendParam? piece = (later.extendParam? piece).map (base ++ ·) := by
  cases found : later.params.getLast? with
  | none => exact absurd (List.getLast?_eq_none_iff.mp found) documented
  | some entry =>
    have last : (base ++ later).params.getLast? = some entry := by
      rw [params_join, List.getLast?_append, found, Option.some_or]
    simp only [extendParam?, last, found, Option.map_some, Option.some.injEq]
    apply ext_slots
    · intro slot
      cases slot <;> rfl
    · simp only [params_join, List.dropLast_append_of_ne_nil documented, List.append_assoc]

end NatSpec.Fields
