import NatSpec.Json.Written

set_option autoImplicit false

namespace NatSpec.Text

variable {α : Type}

theorem split_unique {stop : Char} {left right after after' : List Char} (clear : stop ∉ left)
    (clear' : stop ∉ right) (same : left ++ stop :: after = right ++ stop :: after') :
    left = right ∧ after = after' := by
  induction left generalizing right with
  | nil =>
    cases right with
    | nil => exact ⟨rfl, (List.cons.inj same).2⟩
    | cons c right =>
      have head : stop = c := (List.cons.inj same).1
      exact absurd (head ▸ List.mem_cons_self ..) clear'
  | cons c left ih =>
    cases right with
    | nil =>
      have head : c = stop := (List.cons.inj same).1
      exact absurd (head ▸ List.mem_cons_self ..) clear
    | cons d right =>
      obtain ⟨head, tail⟩ := List.cons.inj same
      obtain ⟨equal, rest⟩ := ih (List.not_mem_of_not_mem_cons clear)
        (List.not_mem_of_not_mem_cons clear') tail
      exact ⟨by rw [head, equal], rest⟩

-- Whatever follows, the pieces of `left` and `right` are not mistaken for each other.
def ToldApart (piece : α → List Char) (left right : α) : Prop :=
  ∀ after after', piece left ++ after = piece right ++ after' → left = right ∧ after = after'

def NotAt (piece : α → List Char) (text : List Char) (item : α) : Prop :=
  ∀ after, piece item ++ after ≠ text

theorem pieces_unique {piece : α → List Char} {left right : List α} {after after' : List Char}
    (apart : ∀ item ∈ left, ∀ other ∈ right, ToldApart piece item other)
    (ended : ∀ item ∈ right, NotAt piece after item)
    (ended' : ∀ item ∈ left, NotAt piece after' item)
    (same : left.flatMap piece ++ after = right.flatMap piece ++ after') :
    left = right ∧ after = after' := by
  induction left generalizing right with
  | nil =>
    cases right with
    | nil => exact ⟨rfl, same⟩
    | cons other right =>
      rw [List.flatMap_cons, List.append_assoc] at same
      exact absurd same.symm (ended other (List.mem_cons_self ..) _)
  | cons item left ih =>
    cases right with
    | nil =>
      rw [List.flatMap_cons, List.append_assoc] at same
      exact absurd same (ended' item (List.mem_cons_self ..) _)
    | cons other right =>
      rw [List.flatMap_cons, List.flatMap_cons, List.append_assoc, List.append_assoc] at same
      obtain ⟨equal, rest⟩ :=
        apart item (List.mem_cons_self ..) other (List.mem_cons_self ..) _ _ same
      obtain ⟨equals, follows⟩ := ih
        (fun a inLeft b inRight =>
          apart a (List.mem_cons_of_mem _ inLeft) b (List.mem_cons_of_mem _ inRight))
        (fun b inRight => ended b (List.mem_cons_of_mem _ inRight))
        (fun a inLeft => ended' a (List.mem_cons_of_mem _ inLeft)) rest
      exact ⟨by rw [equal, equals], follows⟩

theorem told_apart_cons (c : Char) {piece : α → List Char} {left right : α}
    (apart : ToldApart piece left right) : ToldApart (fun item => c :: piece item) left right := by
  intro after after' same
  exact apart after after' (List.cons.inj same).2

theorem commas_unique {piece : α → List Char} {left right : List α} {closing : Char}
    {after after' : List Char} (notComma : closing ≠ ',')
    (apart : ∀ item ∈ left, ∀ other ∈ right, ToldApart piece item other)
    (closed : ∀ item after, NotAt piece (closing :: after) item)
    (same : Json.commas (left.map piece) ++ closing :: after =
      Json.commas (right.map piece) ++ closing :: after') :
    left = right ∧ after = after' := by
  cases left with
  | nil =>
    cases right with
    | nil => exact ⟨rfl, (List.cons.inj same).2⟩
    | cons other right =>
      rw [List.map_cons, Json.commas_cons, List.append_assoc] at same
      exact absurd same.symm (closed other _ _)
  | cons item left =>
    cases right with
    | nil =>
      rw [List.map_cons, Json.commas_cons, List.append_assoc] at same
      exact absurd same (closed item _ _)
    | cons other right =>
      rw [List.map_cons, List.map_cons, Json.commas_cons, Json.commas_cons, List.append_assoc,
        List.append_assoc] at same
      obtain ⟨equal, rest⟩ :=
        apart item (List.mem_cons_self ..) other (List.mem_cons_self ..) _ _ same
      have notAt (tail : List Char) (item : α) :
          NotAt (fun item => ',' :: piece item) (closing :: tail) item := by
        intro after same
        exact notComma (List.cons.inj same).1.symm
      rw [List.flatMap_map, List.flatMap_map] at rest
      obtain ⟨equals, follows⟩ := pieces_unique
        (fun a inLeft b inRight => told_apart_cons ','
          (apart a (List.mem_cons_of_mem _ inLeft) b (List.mem_cons_of_mem _ inRight)))
        (fun b _ => notAt after b) (fun a _ => notAt after' a) rest
      exact ⟨by rw [equal, equals], (List.cons.inj follows).2⟩

theorem comma_parts_empty {parts : List (List Char)} (clear : ∀ part ∈ parts, ',' ∉ part)
    (filled : [] ∉ parts) (empty : [','].intercalate parts = []) : parts = [] := by
  cases parts with
  | nil => rfl
  | cons part rest =>
    have split := List.splitOn_intercalate ',' clear (List.cons_ne_nil part rest)
    rw [empty, List.splitOn_nil] at split
    exact absurd (split ▸ List.mem_singleton_self _) filled

theorem comma_parts_unique {left right : List (List Char)} (clear : ∀ part ∈ left, ',' ∉ part)
    (clear' : ∀ part ∈ right, ',' ∉ part) (filled : [] ∉ left) (filled' : [] ∉ right)
    (same : [','].intercalate left = [','].intercalate right) : left = right := by
  by_cases nothing : left = []
  · subst left
    exact (comma_parts_empty clear' filled' same.symm).symm
  · by_cases nothing' : right = []
    · subst right
      exact comma_parts_empty clear filled same
    · rw [← List.splitOn_intercalate ',' clear nothing, same,
        List.splitOn_intercalate ',' clear' nothing']

theorem outside_comma_parts {stop : Char} {parts : List (List Char)} (notComma : stop ≠ ',')
    (clear : ∀ part ∈ parts, stop ∉ part) : stop ∉ [','].intercalate parts := by
  induction parts with
  | nil => exact List.not_mem_nil
  | cons part rest ih =>
    obtain ⟨first, later⟩ := List.forall_mem_cons.mp clear
    by_cases last : rest = []
    · rw [last, List.intercalate_singleton]
      exact first
    · rw [List.intercalate_cons_of_ne_nil last, List.append_assoc]
      simp only [List.mem_append, List.mem_singleton, not_or]
      exact ⟨first, notComma, ih later⟩

theorem comma_parts_told_apart {left right : List (List Char)} {stop : Char}
    {after after' : List Char} (notComma : stop ≠ ',')
    (clear : ∀ part ∈ left, ',' ∉ part ∧ stop ∉ part)
    (clear' : ∀ part ∈ right, ',' ∉ part ∧ stop ∉ part) (filled : [] ∉ left) (filled' : [] ∉ right)
    (same : [','].intercalate left ++ stop :: after = [','].intercalate right ++ stop :: after') :
    left = right ∧ after = after' := by
  obtain ⟨inner, rest⟩ := split_unique
    (outside_comma_parts notComma fun part member => (clear part member).2)
    (outside_comma_parts notComma fun part member => (clear' part member).2) same
  exact ⟨comma_parts_unique (fun part member => (clear part member).1)
    (fun part member => (clear' part member).1) filled filled' inner, rest⟩

theorem map_unique {β : Type} {view : α → β} {left right : List α}
    (apart : ∀ item ∈ left, ∀ other ∈ right, view item = view other → item = other)
    (same : left.map view = right.map view) : left = right := by
  induction left generalizing right with
  | nil => exact (List.map_eq_nil_iff.mp same.symm).symm
  | cons item left ih =>
    obtain ⟨other, rest, rfl, first, later⟩ := List.map_eq_cons_iff.mp same.symm
    rw [apart item (List.mem_cons_self ..) other (List.mem_cons_self ..) first.symm,
      ih (fun a inLeft b inRight => apart a (List.mem_cons_of_mem _ inLeft) b
        (List.mem_cons_of_mem _ inRight)) later.symm]

end NatSpec.Text
