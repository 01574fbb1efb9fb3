import NatSpec.OutputError

set_option autoImplicit false

namespace NatSpec

variable {α β γ ε : Type}

theorem bind_ok {first : Except ε α} {next : α → Except ε β} {result : β}
    (done : (first >>= next) = .ok result) :
    ∃ value, first = .ok value ∧ next value = .ok result := by
  cases first with
  | error error => cases done
  | ok value => exact ⟨value, rfl, done⟩

theorem bind_of_ok {first : Except ε α} {value : α} (done : first = .ok value)
    (next : α → Except ε β) : (first >>= next) = next value := by
  rw [done]
  rfl

theorem ok_of_to_option {result : Except ε α} {value : α}
    (found : result.toOption = some value) : result = .ok value := by
  cases result with
  | error error => cases found
  | ok other => exact congrArg Except.ok (Option.some.inj found)

theorem error_of_not_ok {result : Except ε α} (failed : result.isOk = false) :
    ∃ error, result = .error error := by
  cases result with
  | error error => exact ⟨error, rfl⟩
  | ok value => cases failed

theorem map_m_ok {render : α → Except OutputError β} {items : List α} {results : List β}
    (rendered : items.mapM render = .ok results) : items.map render = results.map .ok := by
  induction items generalizing results with
  | nil =>
    cases rendered
    rfl
  | cons item rest ih =>
    rw [List.mapM_cons] at rendered
    obtain ⟨result, first, later⟩ := bind_ok rendered
    obtain ⟨others, rest, same⟩ := bind_ok later
    cases same
    rw [List.map_cons, List.map_cons, first, ih rest]

theorem map_m_length {render : α → Except OutputError β} {items : List α} {results : List β}
    (rendered : items.mapM render = .ok results) : results.length = items.length := by
  rw [← List.length_map (f := render), map_m_ok rendered, List.length_map]

-- What tells two items from each other by their results tells two lists from each other by theirs.
theorem map_told {render : α → Except OutputError β} {view : α → γ} {left right : List α}
    {results : List β} (here : left.map render = results.map .ok)
    (there : right.map render = results.map .ok)
    (told : ∀ a b result, render a = .ok result → render b = .ok result → view a = view b) :
    left.map view = right.map view := by
  induction results generalizing left right with
  | nil => rw [List.map_eq_nil_iff.mp here, List.map_eq_nil_iff.mp there]
  | cons result results ih =>
    obtain ⟨a, left, rfl, first, later⟩ := List.map_eq_cons_iff.mp here
    obtain ⟨b, right, rfl, first', later'⟩ := List.map_eq_cons_iff.mp there
    rw [List.map_cons, List.map_cons, told a b result first first', ih later later']

def failure? : Except OutputError α → Option OutputError
  | .error error => some error
  | .ok _ => none

theorem failure_some_iff {result : Except OutputError α} {error : OutputError} :
    failure? result = some error ↔ result = .error error := by
  cases result <;> simp [failure?]

theorem failure_none_iff {result : Except OutputError α} :
    failure? result = none ↔ ∃ value, result = .ok value := by
  cases result <;> simp [failure?]

theorem failure_bind {first : Except OutputError α} {next : α → Except OutputError β}
    {later : Option OutputError} (same : ∀ value, failure? (next value) = later) :
    failure? (first >>= next) = (failure? first).or later := by
  cases first with
  | error error => rfl
  | ok value => exact same value

theorem failure_bind_total {first : Except OutputError α} {next : α → Except OutputError β}
    (total : ∀ value, failure? (next value) = none) :
    failure? (first >>= next) = failure? first := by
  rw [failure_bind total, Option.or_none]

theorem failure_map_m (render : α → Except OutputError β) (items : List α) :
    failure? (items.mapM render) = items.findSome? fun item => failure? (render item) := by
  induction items with
  | nil => rfl
  | cons item rest ih =>
    have others (result : β) :
        failure? (rest.mapM render >>= fun results => pure (result :: results)) =
          rest.findSome? fun item => failure? (render item) := by
      rw [← ih]
      exact failure_bind_total fun _ => rfl
    rw [List.mapM_cons, failure_bind others, List.findSome?_cons]
    cases failure? (render item) <;> rfl

theorem failure_fold_m {step : β → α → Except OutputError β} {check : α → Option OutputError}
    (same : ∀ state item, failure? (step state item) = check item) (items : List α) (state : β) :
    failure? (items.foldlM step state) = items.findSome? check := by
  induction items generalizing state with
  | nil => rfl
  | cons item rest ih =>
    rw [List.foldlM_cons, failure_bind ih, same, List.findSome?_cons]
    cases check item <;> rfl

end NatSpec
