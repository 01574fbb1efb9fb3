set_option autoImplicit false

namespace NatSpec.Text

def firstLine (text : String) : String :=
  let line := text.toList.takeWhile (· ≠ '\n')
  .ofList (if text.toList.contains '\n' && line.getLast? = some '\r' then line.dropLast else line)

end NatSpec.Text
