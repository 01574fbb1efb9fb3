set_option autoImplicit false

namespace NatSpec.Text

def holds (needle : List Char) : List Char → Bool
  | [] => needle.isEmpty
  | c :: rest => needle.isPrefixOf (c :: rest) || holds needle rest

theorem holds_iff (needle text : List Char) : holds needle text = true ↔ needle <:+: text := by
  induction text with
  | nil => simp [holds, List.infix_nil]
  | cons c rest ih => simp [holds, List.infix_cons_iff, ih]

end NatSpec.Text
