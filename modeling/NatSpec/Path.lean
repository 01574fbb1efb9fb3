set_option autoImplicit false

namespace NatSpec.Path

def isAbsolute (path : String) : Bool := path.toList.head? = some '/'

def segments : List Char → List (List Char)
  | [] => [[]]
  | '/' :: rest => [] :: segments rest
  | c :: rest =>
    match segments rest with
    | [] => [[c]]
    | first :: others => (c :: first) :: others

def names (path : String) : List String :=
  ((segments path.toList).map String.ofList).filter fun name => name ≠ "" && name ≠ "."

def endsInDirectory (path : String) : Bool :=
  match (segments path.toList).getLast? with
  | some last => last = [] || last = ['.']
  | none => false

def endsInDot (path : String) : Bool :=
  ((segments path.toList).filter (· ≠ [])).getLast? = some ['.']

def join (base path : String) : String :=
  if isAbsolute path then path
  else if base = "" ∨ base.toList.getLast? = some '/' then base ++ path
  else base ++ "/" ++ path

def parts (path : String) : Bool × Bool × List String :=
  (isAbsolute path, (segments path.toList).head? = some ['.'], names path)

def relative : List String → List String → List String
  | target, [] => target
  | [], _ :: base => ".." :: relative [] base
  | name :: target, step :: base =>
    if name = step then relative target base
    else (step :: base).map (fun _ => "..") ++ name :: target

theorem join_absolute (base path : String) (h : isAbsolute path = true) :
    join base path = path := by
  simp [join, h]

theorem join_empty (path : String) : join "" path = path := by
  unfold join
  split <;> simp

end NatSpec.Path
