set_option autoImplicit false

namespace NatSpec

inductive Tag where
  | dev
  | notice
  | returns
  | author
  | title
  | param
deriving DecidableEq, Repr

namespace Tag

def name : Tag → String
  | .dev => "dev"
  | .notice => "notice"
  | .returns => "return"
  | .author => "author"
  | .title => "title"
  | .param => "param"

def ofName? : String → Option Tag
  | "dev" => some .dev
  | "notice" => some .notice
  | "return" => some .returns
  | "author" => some .author
  | "title" => some .title
  | "param" => some .param
  | _ => none

theorem ofName?_name (tag : Tag) : ofName? tag.name = some tag := by
  cases tag <;> rfl

end Tag

inductive Owner where
  | contract
  | function
deriving DecidableEq, Repr

def Owner.name : Owner → String
  | .contract => "contract"
  | .function => "function"

end NatSpec
