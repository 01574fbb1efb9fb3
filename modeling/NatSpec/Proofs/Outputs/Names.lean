import NatSpec.Output.Json
import NatSpec.Proofs.Json.Decoding
import NatSpec.Proofs.Json.Grammar
import NatSpec.Proofs.Json.Values

set_option autoImplicit false

namespace NatSpec.Output

open Json

theorem variants_named : ∀ entry ∈ variants, ofName? entry.1 = some entry.2 := by
  decide

theorem of_variant_of_name (name : String) : ofVariant? name = ofName? name := by
  cases found : ofVariant? name with
  | some output =>
    obtain ⟨before, after, listed, _⟩ := List.lookup_eq_some_iff.mp found
    have member : (name, output) ∈ variants := by
      rw [listed]
      simp
    exact (variants_named _ member).symm
  | none =>
    unfold ofName?
    split
    case h_12 => rfl
    all_goals cases found

def NamedBy (output : Output) (value : Value) : Prop :=
  ∃ name, ofName? name = some output ∧ (value = .string name ∨ value = .object [(name, .null)])

section soundness

variable {s after body : List Char} {output : Output}

theorem quoted_taken {text : String} {shorter : body.length < s.length}
    {afterShorter : after.length < s.length}
    (read : Reader.quoted s body shorter = .ok (text, ⟨after, afterShorter⟩)) :
    ∃ chars, text = .ofList chars ∧ StringBody body chars after := by
  unfold Reader.quoted at read
  split at read
  · cases read
  · rename_i found
    cases read
    obtain ⟨_, rfl, spelled⟩ := string_body_taken found
    exact ⟨_, rfl, spelled⟩

theorem name_taken {shorter : after.length < s.length}
    (read : readName s = .ok (output, ⟨after, shorter⟩)) :
    ∃ t chars, Blanks s ('"' :: t) ∧ StringBody t chars after ∧
      ofName? (.ofList chars) = some output := by
  unfold readName at read
  split at read
  · cases read
  rename_i c body found
  by_cases opens : c = '"'
  · subst opens
    rw [if_pos rfl] at read
    split at read
    · cases read
    rename_i taken
    split at read
    · cases read
    rename_i named
    cases read
    obtain ⟨chars, rfl, spelled⟩ := quoted_taken taken
    rw [of_variant_of_name] at named
    exact ⟨body, chars, blanks_before found, spelled, named⟩
  · rw [if_neg opens] at read
    split at read <;> cases read

theorem null_taken {shorter : after.length < s.length} (read : readNull s = .ok ⟨after, shorter⟩) :
    Blanks s ('n' :: 'u' :: 'l' :: 'l' :: after) := by
  unfold readNull at read
  split at read
  · cases read
  rename_i c body found
  by_cases opens : c = 'n'
  · subst opens
    rw [if_pos rfl] at read
    split at read
    · cases read
    rename_i taken
    cases read
    rw [word_taken taken] at found
    exact blanks_before found
  · rw [if_neg opens] at read
    cases read

theorem closing_taken {shorter : after.length < s.length}
    (read : readClosing s = .ok ⟨after, shorter⟩) : Blanks s ('\x7d' :: after) := by
  unfold readClosing at read
  split at read
  · cases read
  rename_i c body found
  by_cases closes : c = '\x7d'
  · subst closes
    rw [if_pos rfl] at read
    cases read
    exact blanks_before found
  · rw [if_neg closes] at read
    cases read

theorem colon_taken {shorter : after.length < s.length}
    (read : Shape.colon s = .ok ⟨after, shorter⟩) : Blanks s (':' :: after) := by
  unfold Shape.colon at read
  split at read
  · cases read
  rename_i c body found
  by_cases separates : c = ':'
  · subst separates
    rw [if_pos rfl] at read
    cases read
    exact blanks_before found
  · rw [if_neg separates] at read
    cases read

theorem reader_taken {shorter : after.length < s.length}
    (read : reader s = .ok (output, ⟨after, shorter⟩)) :
    ∃ t value, Blanks s t ∧ Spells t value after ∧ NamedBy output value := by
  unfold reader at read
  split at read
  · cases read
  rename_i c body found
  by_cases brace : c = '\x7b'
  · subst brace
    rw [if_pos rfl] at read
    split at read
    · cases read
    rename_i key
    split at read
    · cases read
    rename_i separator
    split at read
    · cases read
    rename_i nothing
    split at read
    · cases read
    rename_i closing
    cases read
    obtain ⟨_, chars, blanks, spelled, named⟩ := name_taken key
    have member := Keyed.intro spelled (colon_taken separator) (null_taken nothing) Spells.null
    have listed := Listed.last blanks member (closing_taken closing)
    exact ⟨_, _, blanks_before found, .members listed, _, named, .inr rfl⟩
  · rw [if_neg brace] at read
    by_cases quote : c = '"'
    · rw [if_pos quote] at read
      obtain ⟨_, chars, blanks, spelled, named⟩ := name_taken read
      exact ⟨_, _, blanks, .string spelled, _, named, .inl rfl⟩
    · rw [if_neg quote] at read
      cases read

end soundness

section completeness

variable {s t rest chars : List Char} {output : Output}

theorem name_read (blanks : Blanks s ('"' :: t)) (spelled : StringBody t chars rest)
    (named : ofName? (.ofList chars) = some output) : Leaves (readName s) output rest := by
  have found := skip_blank_blanks blanks rfl
  obtain ⟨shorter, read⟩ := quoted_leaves (shorter_of_skipBlank found) (string_body_read spelled [])
  rw [← of_variant_of_name] at named
  unfold readName
  split <;> cases found.symm.trans ‹skipBlank s = _›
  rw [if_pos rfl, read]
  exact ⟨shorter, by simp only [List.reverse_nil, List.nil_append, named]⟩

theorem null_read (blanks : Blanks s ('n' :: 'u' :: 'l' :: 'l' :: rest)) :
    ∃ shorter, readNull s = .ok ⟨rest, shorter⟩ := by
  have found := skip_blank_blanks blanks rfl
  have word : Leaves (Reader.word () "ull".toList s ('u' :: 'l' :: 'l' :: rest)
      (shorter_of_skipBlank found)) () rest := word_leaves () "ull".toList s rest _
  obtain ⟨shorter, read⟩ := word
  unfold readNull
  split <;> cases found.symm.trans ‹skipBlank s = _›
  rw [if_pos rfl, read]
  exact ⟨shorter, rfl⟩

theorem closing_read (blanks : Blanks s ('\x7d' :: rest)) :
    ∃ shorter, readClosing s = .ok ⟨rest, shorter⟩ := by
  have found := skip_blank_blanks blanks rfl
  unfold readClosing
  split <;> cases found.symm.trans ‹skipBlank s = _›
  exact ⟨shorter_of_skipBlank found, if_pos rfl⟩

theorem string_named_read {name : String} (blanks : Blanks s t)
    (spelled : Spells t (.string name) rest) (named : ofName? name = some output) :
    Leaves (reader s) output rest := by
  cases spelled with
  | string body =>
    have found := skip_blank_blanks blanks rfl
    obtain ⟨shorter, read⟩ := name_read blanks body named
    unfold reader
    split <;> cases found.symm.trans ‹skipBlank s = _›
    rw [if_neg (by decide), if_pos rfl]
    exact ⟨shorter, read⟩

theorem object_named_read {name : String} (blanks : Blanks s t)
    (spelled : Spells t (.object [(name, .null)]) rest) (named : ofName? name = some output) :
    Leaves (reader s) output rest := by
  cases spelled with
  | members listed =>
    cases listed with
    | more _ _ _ others => cases others
    | last before member closes =>
      cases member with
      | intro body separates further nothing =>
        cases nothing
        have found := skip_blank_blanks blanks rfl
        obtain ⟨_, key⟩ := name_read before body named
        have colon := Shape.colon_found (skip_blank_blanks separates rfl)
        obtain ⟨_, null⟩ := null_read further
        obtain ⟨_, closing⟩ := closing_read closes
        unfold reader
        split <;> cases found.symm.trans ‹skipBlank s = _›
        simp only [if_pos, key, colon, null, closing]
        exact ⟨_, rfl⟩

theorem reader_leaves_iff :
    Leaves (reader s) output rest ↔
      ∃ t value, Blanks s t ∧ Spells t value rest ∧ NamedBy output value := by
  constructor
  · rintro ⟨shorter, read⟩
    exact reader_taken read
  · rintro ⟨t, value, blanks, spelled, name, named, rfl | rfl⟩
    · exact string_named_read blanks spelled named
    · exact object_named_read blanks spelled named

end completeness

theorem of_json_iff_named (text : String) (output : Output) :
    ofJson text = .ok output ↔ ∃ value, Denotes text.toList value ∧ NamedBy output value := by
  constructor
  · intro read
    unfold ofJson Json.read at read
    split at read
    · cases read
    rename_i value rest shorter taken
    by_cases ended : skipBlank rest = []
    · rw [if_pos ended] at read
      cases read
      obtain ⟨t, value, blanks, spelled, named⟩ := reader_taken taken
      exact ⟨value, ⟨t, rest, blanks, spelled, ended ▸ blanks_skipped rest⟩, named⟩
    · rw [if_neg ended] at read
      cases read
  · rintro ⟨value, ⟨t, rest, blanks, spelled, after⟩, named⟩
    obtain ⟨_, read⟩ := reader_leaves_iff.mpr ⟨t, value, blanks, spelled, named⟩
    rw [ofJson, Json.read, read]
    exact if_pos (skip_blank_all after)

end NatSpec.Output
