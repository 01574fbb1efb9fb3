import Mathlib.Data.List.DropRight
import NatSpec.Report

set_option autoImplicit false

namespace NatSpec

namespace Text

theorem trim_end_prefix (text : List Char) : trimEnd text <+: text := List.rdropWhile_prefix ..

theorem drop_blank_trimmed (text : List Char) :
    (trimChars text).dropWhile isBlank = trimChars text := by
  have front : trimChars text <+: text.dropWhile isBlank := trim_end_prefix _
  rw [List.dropWhile_eq_self_iff]
  intro filled
  rw [front.getElem filled]
  exact List.dropWhile_get_zero_not isBlank text (Nat.lt_of_lt_of_le filled front.length_le)

theorem trim_trim (text : String) : trim (trim text) = trim text := by
  have ending : trimEnd (trimChars text.toList) = trimChars text.toList :=
    List.rdropWhile_idempotent ..
  rw [trim, trim, String.toList_ofList, trimChars, drop_blank_trimmed, ending]

end Text

namespace Report

def Within (message kept : String) : Prop := message.toList <:+: kept.toList

instance (message kept : String) : Decidable (Within message kept) :=
  decidable_of_iff _ (Text.holds_iff message.toList kept.toList)

structure Run where
  kept : String
  covered : List String
  within : ∀ message ∈ covered, Within message kept

def Run.messages (run : Run) : List String := run.kept :: run.covered

-- Each message is in the chain or is contained in the last message of the chain before it, and what
-- is in the chain is not contained in the message before it there.
structure Condenses (messages chain : List String) : Prop where
  runs : ∃ runs : List Run, messages = runs.flatMap Run.messages ∧ chain = runs.map Run.kept
  news : chain.IsChain fun kept next => ¬Within next kept

theorem keep_new_within {message last : String} (within : Within message last)
    (rest : List String) : keepNew last (message :: rest) = keepNew last rest := by
  rw [keepNew, if_pos ((Text.holds_iff ..).mpr within)]

theorem keep_new_news {message last : String} (news : ¬Within message last) (rest : List String) :
    keepNew last (message :: rest) = message :: keepNew message rest := by
  rw [keepNew, if_neg fun found => news ((Text.holds_iff ..).mp found)]

theorem keep_new_covered {covered : List String} {last : String}
    (within : ∀ message ∈ covered, Within message last) (rest : List String) :
    keepNew last (covered ++ rest) = keepNew last rest := by
  induction covered with
  | nil => rfl
  | cons message others ih =>
    obtain ⟨first, later⟩ := List.forall_mem_cons.mp within
    rw [List.cons_append, keep_new_within first, ih later]

theorem keep_new_runs {last : String} {runs : List Run}
    (news : (last :: runs.map Run.kept).IsChain fun kept next => ¬Within next kept) :
    keepNew last (runs.flatMap Run.messages) = runs.map Run.kept := by
  induction runs generalizing last with
  | nil => rfl
  | cons run rest ih =>
    obtain ⟨first, later⟩ := List.isChain_cons_cons.mp news
    rw [List.flatMap_cons, Run.messages, List.cons_append, keep_new_news first,
      keep_new_covered run.within, ih later, List.map_cons]

theorem runs_after (last : String) (rest : List String) :
    ∃ covered, ∃ runs : List Run, (∀ message ∈ covered, Within message last) ∧
      rest = covered ++ runs.flatMap Run.messages ∧
        (last :: runs.map Run.kept).IsChain fun kept next => ¬Within next kept := by
  induction rest generalizing last with
  | nil => exact ⟨[], [], nofun, rfl, List.IsChain.singleton last⟩
  | cons message rest ih =>
    by_cases within : Within message last
    · obtain ⟨covered, runs, all, rfl, news⟩ := ih last
      exact ⟨message :: covered, runs, List.forall_mem_cons.mpr ⟨within, all⟩, rfl, news⟩
    · obtain ⟨covered, runs, all, rfl, news⟩ := ih message
      exact ⟨[], ⟨message, covered, all⟩ :: runs, nofun, rfl,
        List.isChain_cons_cons.mpr ⟨within, news⟩⟩

theorem condensed_exists (messages : List String) : ∃ chain, Condenses messages chain := by
  cases messages with
  | nil => exact ⟨[], ⟨[], rfl, rfl⟩, List.IsChain.nil⟩
  | cons first rest =>
    obtain ⟨covered, runs, all, rfl, news⟩ := runs_after first rest
    exact ⟨_, ⟨⟨first, covered, all⟩ :: runs, rfl, rfl⟩, news⟩

theorem dedup_of_condenses {messages chain : List String} (condensed : Condenses messages chain) :
    dedup messages = chain := by
  obtain ⟨⟨runs, rfl, rfl⟩, news⟩ := condensed
  cases runs with
  | nil => rfl
  | cons run rest =>
    rw [List.flatMap_cons, Run.messages, List.cons_append, dedup, keep_new_covered run.within,
      keep_new_runs news, List.map_cons]

theorem dedup_condenses (messages : List String) : Condenses messages (dedup messages) := by
  obtain ⟨chain, condensed⟩ := condensed_exists messages
  rwa [dedup_of_condenses condensed]

theorem condensed_sublist {messages chain : List String} (condensed : Condenses messages chain) :
    chain.Sublist messages := by
  obtain ⟨⟨runs, rfl, rfl⟩, -⟩ := condensed
  induction runs with
  | nil => exact .slnil
  | cons run rest ih =>
    rw [List.map_cons, List.flatMap_cons, Run.messages, List.cons_append]
    exact (ih.trans (List.sublist_append_right run.covered _)).cons_cons run.kept

theorem condensed_first {messages chain : List String} (condensed : Condenses messages chain) :
    chain.head? = messages.head? := by
  obtain ⟨⟨runs, rfl, rfl⟩, _⟩ := condensed
  cases runs with
  | nil => rfl
  | cons run rest => rfl

theorem condenses_itself {chain : List String}
    (news : chain.IsChain fun kept next => ¬Within next kept) : Condenses chain chain := by
  refine ⟨⟨chain.map fun message => ⟨message, [], nofun⟩, ?_, ?_⟩, news⟩
  · rw [List.flatMap_map]
    exact (List.flatMap_singleton' chain).symm
  · rw [List.map_map]
    exact (List.map_id chain).symm

theorem chain_condenses (report : Report) :
    Condenses (report.messages.map Text.trim) report.chain :=
  dedup_condenses _

theorem chain_trimmed (report : Report) : report.chain.map Text.trim = report.chain := by
  have kept := condensed_sublist report.chain_condenses
  refine (List.map_congr_left fun message member => ?_).trans (List.map_id _)
  obtain ⟨raw, _, rfl⟩ := List.mem_map.mp (kept.subset member)
  exact Text.trim_trim raw

theorem chain_of_chain (report : Report) : Report.chain ⟨report.chain⟩ = report.chain := by
  have again : Report.chain ⟨report.chain⟩ = dedup (report.chain.map Text.trim) := rfl
  rw [again, chain_trimmed]
  exact dedup_of_condenses (condenses_itself report.chain_condenses.news)

theorem chain_keeps_what_is_new (report : Report) :
    report.chain.Sublist (report.messages.map Text.trim) ∧
      report.chain.head? = report.messages.head?.map Text.trim ∧
        (∀ chain, Condenses (report.messages.map Text.trim) chain ↔ chain = report.chain) ∧
          Report.chain ⟨report.chain⟩ = report.chain := by
  have condensed := report.chain_condenses
  refine ⟨condensed_sublist condensed, ?_, fun chain => ⟨?_, ?_⟩, report.chain_of_chain⟩
  · rw [condensed_first condensed, List.head?_map]
  · intro other
    exact (dedup_of_condenses other).symm
  · rintro rfl
    exact condensed

example : Report.chain ⟨["no abc ", "b", "", "c", "d", "c"]⟩ = ["no abc", "d", "c"] := by
  decide +kernel

end Report

end NatSpec
