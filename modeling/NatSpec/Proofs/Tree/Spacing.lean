import Mathlib.Data.List.Forall2
import NatSpec.Abi
import NatSpec.Proofs.Json.Strings
import NatSpec.Proofs.Outcome
import NatSpec.Text.Blank

set_option autoImplicit false

namespace NatSpec

open Json

-- Where a character of a JSON text stands: between string literals, in one, or in one after a
-- backslash. Quotes are read where they are met, the opening one between literals.
inductive Zone where
  | outside
  | literal
  | escape
deriving DecidableEq, Repr

namespace Zone

def next : Zone → Char → Zone
  | .outside, c => if c = '"' then .literal else .outside
  | .literal, c => if c = '"' then .outside else if c = '\\' then .escape else .literal
  | .escape, _ => .literal

def after (zone : Zone) (text : List Char) : Zone := text.foldl next zone

def marked : Zone → List Char → List (Zone × Char)
  | _, [] => []
  | zone, c :: rest => (zone, c) :: marked (zone.next c) rest

def isSpacing (zone : Zone) (c : Char) : Bool := zone = .outside && (c = ' ' || c = '\n')

def unspaced : Zone → List Char → List Char
  | _, [] => []
  | zone, c :: rest =>
    if zone.isSpacing c then unspaced (zone.next c) rest else c :: unspaced (zone.next c) rest

theorem after_append (zone : Zone) (first second : List Char) :
    zone.after (first ++ second) = (zone.after first).after second :=
  List.foldl_append ..

theorem marked_append (zone : Zone) (first second : List Char) :
    marked zone (first ++ second) = marked zone first ++ marked (zone.after first) second := by
  induction first generalizing zone with
  | nil => rfl
  | cons c rest ih =>
    rw [List.cons_append, marked, ih, marked, List.cons_append]
    rfl

theorem unspaced_append (zone : Zone) (first second : List Char) :
    unspaced zone (first ++ second) =
      unspaced zone first ++ unspaced (zone.after first) second := by
  induction first generalizing zone with
  | nil => rfl
  | cons c rest ih =>
    rw [List.cons_append, unspaced, unspaced, ih]
    by_cases spacing : zone.isSpacing c = true
    · rw [if_pos spacing, if_pos spacing]
      rfl
    · rw [if_neg spacing, if_neg spacing]
      rfl

theorem next_spacing (zone : Zone) (c : Char) (spacing : zone.isSpacing c = true) :
    zone.next c = zone := by
  simp only [isSpacing, Bool.and_eq_true, Bool.or_eq_true, decide_eq_true_eq] at spacing
  obtain ⟨rfl, rfl | rfl⟩ := spacing <;> rfl

theorem marked_unspaced (zone : Zone) (text : List Char) :
    marked zone (unspaced zone text) =
      (marked zone text).filter fun mark => !mark.1.isSpacing mark.2 := by
  induction text generalizing zone with
  | nil => rfl
  | cons c rest ih =>
    rw [unspaced, marked]
    by_cases spacing : zone.isSpacing c = true
    · rw [if_pos spacing, List.filter_cons_of_neg (by simp [spacing]),
        next_spacing zone c spacing, ih]
    · rw [if_neg spacing, List.filter_cons_of_pos (by simp [spacing]), marked, ih]

theorem mem_marked (zone : Zone) {text : List Char} {c : Char} (member : c ∈ text) :
    ∃ there, (there, c) ∈ marked zone text := by
  induction text generalizing zone with
  | nil => cases member
  | cons d rest ih =>
    rcases List.mem_cons.mp member with rfl | later
    · exact ⟨zone, List.mem_cons_self ..⟩
    · obtain ⟨there, marks⟩ := ih (zone.next d) later
      exact ⟨there, List.mem_cons_of_mem _ marks⟩

def Tidy : Zone → Char → Prop
  | .outside, c => c = ' ' ∨ c = '\n' ∨ (Text.isBlank c = false ∧ 0x20 ≤ c.toNat)
  | _, c => 0x20 ≤ c.toNat

end Zone

open Zone

structure LaidOut (zone : Zone) (laid plain : List Char) : Prop where
  closed : zone.after laid = zone
  tidy : ∀ mark ∈ marked zone laid, mark.1.Tidy mark.2
  unspaced : unspaced zone laid = plain

theorem laid_out_nil (zone : Zone) : LaidOut zone [] [] := ⟨rfl, nofun, rfl⟩

theorem laid_out_append {zone : Zone} {laid plain laid' plain' : List Char}
    (first : LaidOut zone laid plain) (second : LaidOut zone laid' plain') :
    LaidOut zone (laid ++ laid') (plain ++ plain') where
  closed := by rw [after_append, first.closed, second.closed]
  tidy := by
    intro mark member
    rw [marked_append, first.closed] at member
    rcases List.mem_append.mp member with here | there
    · exact first.tidy mark here
    · exact second.tidy mark there
  unspaced := by rw [unspaced_append, first.closed, first.unspaced, second.unspaced]

theorem laid_out_space (c : Char) (spacing : c = ' ' ∨ c = '\n') : LaidOut .outside [c] [] where
  closed := by rcases spacing with rfl | rfl <;> rfl
  tidy := by
    intro mark member
    rw [List.mem_singleton.mp member]
    exact spacing.imp_right .inl
  unspaced := by rcases spacing with rfl | rfl <;> rfl

theorem laid_out_line_break (depth : Nat) : LaidOut .outside (lineBreak depth) [] := by
  have spaces (count : Nat) : LaidOut .outside (List.replicate count ' ') [] := by
    induction count with
    | zero => exact laid_out_nil .outside
    | succ count ih => exact laid_out_append (laid_out_space ' ' (.inl rfl)) ih
  exact laid_out_append (laid_out_space '\n' (.inr rfl)) (spaces _)

theorem laid_out_mark (c : Char) (notQuote : c ≠ '"') (visible : Text.isBlank c = false)
    (printable : 0x20 ≤ c.toNat) : LaidOut .outside [c] [c] where
  closed := if_neg notQuote
  tidy := by
    intro mark member
    rw [List.mem_singleton.mp member]
    exact .inr (.inr ⟨visible, printable⟩)
  unspaced := by
    have notSpacing : Zone.outside.isSpacing c = false := by
      simp only [isSpacing, decide_true, Bool.true_and, Bool.or_eq_false_iff,
        decide_eq_false_iff_not]
      refine ⟨?_, ?_⟩ <;> rintro rfl <;> cases visible
    rw [Zone.unspaced, notSpacing]
    rfl

theorem laid_out_bool (value : Bool) :
    LaidOut .outside (writtenBool value) (writtenBool value) := by
  have word (letters : List Char) (plain : letters.all (fun c =>
      c ≠ '"' && !Text.isBlank c && 0x20 ≤ c.toNat) = true) : LaidOut .outside letters letters := by
    induction letters with
    | nil => exact laid_out_nil .outside
    | cons c rest ih =>
      simp only [List.all_cons, Bool.and_eq_true, decide_eq_true_eq, Bool.not_eq_true'] at plain
      obtain ⟨⟨⟨notQuote, visible⟩, printable⟩, later⟩ := plain
      exact laid_out_append (laid_out_mark c notQuote visible printable) (ih later)
  cases value with
  | true => exact word _ rfl
  | false => exact word _ rfl

theorem quoted_plain (c : Char) (notQuote : c ≠ '"') (notBackslash : c ≠ '\\')
    (printable : 0x20 ≤ c.toNat) : LaidOut .literal [c] [c] where
  closed := by
    change Zone.literal.next c = .literal
    rw [next, if_neg notQuote, if_neg notBackslash]
  tidy := by
    intro mark member
    rw [List.mem_singleton.mp member]
    exact printable
  unspaced := rfl

theorem quoted_escape (mark : Char) (printable : 0x20 ≤ mark.toNat) :
    LaidOut .literal ['\\', mark] ['\\', mark] where
  closed := rfl
  tidy := by
    intro pair member
    rcases List.mem_cons.mp member with rfl | later
    · exact Nat.le_of_ble_eq_true rfl
    · rw [List.mem_singleton.mp later]
      exact printable
  unspaced := rfl

theorem short_mark_printable (mark c : Char) (marked : shortEscape? mark = some c) :
    0x20 ≤ mark.toNat := by
  rw [shortEscape?.eq_def] at marked
  split at marked <;> first | decide | cases marked

theorem hex_digit_plain (n : Nat) :
    hexDigit n ≠ '"' ∧ hexDigit n ≠ '\\' ∧ 0x20 ≤ (hexDigit n).toNat := by
  have all : ∀ digit < 16, Nat.digitChar digit ≠ '"' ∧ Nat.digitChar digit ≠ '\\' ∧
      0x20 ≤ (Nat.digitChar digit).toNat := by decide
  exact all (n % 16) (Nat.mod_lt n (by decide))

theorem quoted_escape_char (c : Char) : LaidOut .literal (escapeChar c) (escapeChar c) := by
  rcases escape_char_cases c with
    ⟨mark, marked, written⟩ | ⟨_, written⟩ | ⟨quote, backslash, printable, written⟩
  · rw [written]
    exact quoted_escape mark (short_mark_printable mark c marked)
  · have digit (n : Nat) : LaidOut .literal [hexDigit n] [hexDigit n] :=
      quoted_plain _ (hex_digit_plain n).1 (hex_digit_plain n).2.1 (hex_digit_plain n).2.2
    have zero : LaidOut .literal ['0'] ['0'] := digit 0
    rw [written]
    exact laid_out_append (quoted_escape 'u' (by decide))
      (laid_out_append zero (laid_out_append zero (laid_out_append (digit _) (digit _))))
  · rw [written]
    exact quoted_plain c quote backslash printable

theorem quoted_escaped (text : List Char) : LaidOut .literal (escape text) (escape text) := by
  induction text with
  | nil => exact laid_out_nil .literal
  | cons c text ih => exact laid_out_append (quoted_escape_char c) ih

theorem laid_out_string (text : String) :
    LaidOut .outside (writtenString text) (writtenString text) := by
  have body := quoted_escaped text.toList
  refine ⟨?_, ?_, ?_⟩
  · change Zone.literal.after (escape text.toList ++ ['"']) = .outside
    rw [after_append, body.closed]
    rfl
  · intro mark member
    rcases List.mem_cons.mp member with rfl | later
    · exact .inr (.inr ⟨rfl, by decide⟩)
    · change mark ∈ Zone.literal.marked (escape text.toList ++ ['"']) at later
      rw [marked_append, body.closed] at later
      rcases List.mem_append.mp later with inside | closing
      · exact body.tidy mark inside
      · rw [List.mem_singleton.mp closing]
        exact Nat.le_of_ble_eq_true rfl
  · change '"' :: Zone.literal.unspaced (escape text.toList ++ ['"']) = writtenString text
    rw [unspaced_append, body.closed, body.unspaced]
    rfl

theorem laid_out_joined {laid plain : List (List Char)} (depth : Nat)
    (parts : List.Forall₂ (LaidOut .outside) laid plain) :
    LaidOut .outside ((',' :: lineBreak depth).intercalate laid) (commas plain) := by
  induction parts with
  | nil => exact laid_out_nil .outside
  | @cons text written texts others first rest ih =>
    cases rest with
    | nil =>
      rw [List.intercalate_singleton, commas_singleton]
      exact first
    | cons second rest =>
      have comma := laid_out_append (laid_out_mark ',' (by decide) rfl (by decide))
        (laid_out_line_break depth)
      rw [List.intercalate_cons_cons, List.append_assoc, commas_cons_cons]
      exact laid_out_append first (laid_out_append comma ih)

theorem laid_out_bracketed {opening closing : Char} {laid plain : List (List Char)} (depth : Nat)
    (opens : LaidOut .outside [opening] [opening]) (closes : LaidOut .outside [closing] [closing])
    (parts : List.Forall₂ (LaidOut .outside) laid plain) :
    LaidOut .outside (bracketed opening closing depth laid)
      (opening :: (commas plain ++ [closing])) := by
  by_cases none : laid = []
  · subst none
    cases parts
    exact laid_out_append opens closes
  · rw [bracketed, if_neg (by rwa [List.isEmpty_iff])]
    exact laid_out_append opens (laid_out_append (laid_out_line_break _)
      (laid_out_append (laid_out_joined _ parts)
        (laid_out_append (laid_out_line_break depth) closes)))

theorem laid_out_member {laid plain : List Char} (key : String)
    (member : LaidOut .outside laid plain) :
    LaidOut .outside (writtenString key ++ ':' :: ' ' :: laid)
      (writtenString key ++ ':' :: plain) := by
  have colon := laid_out_append (laid_out_mark ':' (by decide) rfl (by decide))
    (laid_out_space ' ' (.inl rfl))
  exact laid_out_append (laid_out_string key) (laid_out_append colon member)

mutual

theorem pretty_laid_out (depth : Nat) :
    ∀ tree : Tree, LaidOut .outside (tree.prettyChars depth) tree.compactChars
  | .object members =>
    laid_out_bracketed depth (laid_out_mark '\x7b' (by decide) rfl (by decide))
      (laid_out_mark '\x7d' (by decide) rfl (by decide))
      (pretty_members_laid_out (depth + 1) members)
  | .array items =>
    laid_out_bracketed depth (laid_out_mark '[' (by decide) rfl (by decide))
      (laid_out_mark ']' (by decide) rfl (by decide)) (pretty_items_laid_out (depth + 1) items)
  | .string text => laid_out_string text
  | .bool value => laid_out_bool value

theorem pretty_items_laid_out (depth : Nat) : ∀ items : List Tree,
    List.Forall₂ (LaidOut .outside) (prettyItems depth items) (compactItems items)
  | [] => .nil
  | item :: rest => .cons (pretty_laid_out depth item) (pretty_items_laid_out depth rest)

theorem pretty_members_laid_out (depth : Nat) : ∀ members : List (String × Tree),
    List.Forall₂ (LaidOut .outside) (prettyMembers depth members) (compactMembers members)
  | [] => .nil
  | (key, member) :: rest =>
    .cons (laid_out_member key (pretty_laid_out depth member)) (pretty_members_laid_out depth rest)

end

theorem bracketed_last (opening closing : Char) (depth : Nat) (parts : List (List Char)) :
    (bracketed opening closing depth parts).getLast? = some closing := by
  by_cases none : parts = []
  · rw [none]
    rfl
  · rw [bracketed, if_neg (by rwa [List.isEmpty_iff])]
    simp only [← List.append_assoc, ← List.cons_append, List.getLast?_concat]

theorem pretty_last (depth : Nat) (tree : Tree) :
    (tree.prettyChars depth).getLast? ≠ some '\n' := by
  cases tree with
  | object members =>
    rw [Tree.prettyChars, bracketed_last]
    decide
  | array items =>
    rw [Tree.prettyChars, bracketed_last]
    decide
  | string text =>
    rw [Tree.prettyChars, writtenString, ← List.cons_append, List.getLast?_concat]
    decide
  | bool value =>
    rw [Tree.prettyChars]
    cases value <;> decide

structure SpacedOnly (tree : Tree) : Prop where
  unspaced : Zone.outside.unspaced tree.pretty.toList = tree.compact.toList
  compact_visible : ∀ c, (Zone.outside, c) ∈ Zone.outside.marked tree.compact.toList →
    Text.isBlank c = false
  compact_printable : ∀ c ∈ tree.compact.toList, 0x20 ≤ c.toNat
  pretty_control : ∀ c ∈ tree.pretty.toList, c.toNat < 0x20 → c = '\n'
  line_feed_outside : ∀ zone, (zone, '\n') ∈ Zone.outside.marked tree.pretty.toList →
    zone = .outside
  pretty_last : tree.pretty.toList.getLast? ≠ some '\n'

theorem tidy_printable {zone : Zone} {c : Char} (tidy : zone.Tidy c) :
    0x20 ≤ c.toNat ∨ (zone = .outside ∧ c = '\n') := by
  cases zone with
  | outside =>
    rcases tidy with rfl | rfl | ⟨_, printable⟩
    · exact .inl (by decide)
    · exact .inr ⟨rfl, rfl⟩
    · exact .inl printable
  | literal => exact .inl tidy
  | escape => exact .inl tidy

theorem tree_spaced_only (tree : Tree) : SpacedOnly tree := by
  have laid := pretty_laid_out 0 tree
  have marks := marked_unspaced .outside (tree.prettyChars 0)
  rw [laid.unspaced] at marks
  have kept (zone : Zone) (c : Char) (member : (zone, c) ∈ Zone.outside.marked tree.compactChars) :
      zone.Tidy c ∧ zone.isSpacing c = false := by
    rw [marks, List.mem_filter, Bool.not_eq_true'] at member
    exact ⟨laid.tidy _ member.1, member.2⟩
  have pretty : tree.pretty.toList = tree.prettyChars 0 := String.toList_ofList
  have compact : tree.compact.toList = tree.compactChars := String.toList_ofList
  refine ⟨?_, ?_, ?_, ?_, ?_, ?_⟩
  · rw [pretty, compact, laid.unspaced]
  · intro c member
    rw [compact] at member
    obtain ⟨rfl | rfl | visible, notSpacing⟩ := kept _ _ member
    · cases notSpacing
    · cases notSpacing
    · exact visible.1
  · intro c member
    rw [compact] at member
    obtain ⟨zone, marked⟩ := mem_marked .outside member
    obtain ⟨tidy, notSpacing⟩ := kept _ _ marked
    rcases tidy_printable tidy with printable | ⟨rfl, rfl⟩
    · exact printable
    · cases notSpacing
  · intro c member control
    rw [pretty] at member
    obtain ⟨zone, marked⟩ := mem_marked .outside member
    rcases tidy_printable (laid.tidy _ marked) with printable | ⟨_, lineFeed⟩
    · exact absurd control (Nat.not_lt.mpr printable)
    · exact lineFeed
  · intro zone member
    rw [pretty] at member
    rcases tidy_printable (laid.tidy _ member) with printable | ⟨outside, _⟩
    · have control : '\n'.toNat < 0x20 := by decide
      exact absurd control (Nat.not_lt.mpr printable)
    · exact outside
  · rw [pretty]
    exact NatSpec.pretty_last 0 tree

theorem layouts_differ_in_spacing (tree : Tree) (contract : Contract) :
    SpacedOnly tree ∧
      ∀ text, contract.abi = .ok text → ∀ c ∈ text.toList, 0x20 ≤ c.toNat := by
  refine ⟨tree_spaced_only tree, fun text rendered => ?_⟩
  obtain ⟨entries, _, written⟩ := bind_ok rendered
  obtain rfl := Except.ok.inj written
  exact (tree_spaced_only (.array entries)).compact_printable

def broken : EventDecl := { name := "Mo\n\t\"ved" }

theorem broken_abi_spacing :
    SpacedOnly broken.abiItem ∧
      ({ events := [broken] } : Contract).abi = .ok (Tree.array [broken.abiItem]).compact ∧
        ∀ c ∈ (Tree.array [broken.abiItem]).compact.toList, 0x20 ≤ c.toNat := by
  have rendered : ({ events := [broken] } : Contract).abi =
      .ok (Tree.array [broken.abiItem]).compact := rfl
  obtain ⟨spaced, printable⟩ := layouts_differ_in_spacing broken.abiItem { events := [broken] }
  exact ⟨spaced, rendered, printable _ rendered⟩

end NatSpec
