set_option autoImplicit false

namespace NatSpec.Text

def fillFrom (width : Nat) (line : String) : List String → List String
  | [] => [line]
  | word :: rest =>
    if line.length + 1 + word.length ≤ width then fillFrom width (line ++ " " ++ word) rest
    else line :: fillFrom width word rest

def fill (width : Nat) : List String → List String
  | [] => []
  | word :: rest => fillFrom width word rest

def filled (width : Nat) (text : String) : String :=
  "\n".intercalate (fill width (text.splitOn " "))

end NatSpec.Text
