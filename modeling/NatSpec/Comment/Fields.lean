import NatSpec.OutputError

set_option autoImplicit false

namespace NatSpec

structure Fields where
  notice : String := ""
  dev : String := ""
  author : String := ""
  contractAuthor : String := ""
  title : String := ""
  returns : String := ""
  params : List (String × String) := []
deriving DecidableEq, Repr, Inhabited

inductive Slot where
  | notice
  | dev
  | author
  | contractAuthor
  | title
  | returns
deriving DecidableEq, Repr

def Slot.of : Tag → Owner → Except OutputError Slot
  | .dev, _ => .ok .dev
  | .notice, _ => .ok .notice
  | .returns, _ => .ok .returns
  | .author, .contract => .ok .contractAuthor
  | .author, .function => .ok .author
  | .title, .contract => .ok .title
  | .title, .function => .error (.illegalTag .title .function)
  | .param, _ => .error (.internal "@param has no single text buffer")

namespace Fields

def text : Slot → Fields → String
  | .notice, fields => fields.notice
  | .dev, fields => fields.dev
  | .author, fields => fields.author
  | .contractAuthor, fields => fields.contractAuthor
  | .title, fields => fields.title
  | .returns, fields => fields.returns

def append (slot : Slot) (piece : String) (fields : Fields) : Fields :=
  match slot with
  | .notice => { fields with notice := fields.notice ++ piece }
  | .dev => { fields with dev := fields.dev ++ piece }
  | .author => { fields with author := fields.author ++ piece }
  | .contractAuthor => { fields with contractAuthor := fields.contractAuthor ++ piece }
  | .title => { fields with title := fields.title ++ piece }
  | .returns => { fields with returns := fields.returns ++ piece }

def addParam (name description : String) (fields : Fields) : Fields :=
  { fields with params := fields.params ++ [(name, description)] }

def extendParam? (piece : String) (fields : Fields) : Option Fields :=
  match fields.params.getLast? with
  | none => none
  | some (name, description) =>
    some { fields with params := fields.params.dropLast ++ [(name, description ++ piece)] }

def param? (name : String) (fields : Fields) : Option String :=
  (fields.params.find? (·.1 = name)).map Prod.snd

def clearUser (fields : Fields) : Fields := { fields with notice := "" }

def clearDev (fields : Fields) : Fields :=
  { fields with dev := "", author := "", returns := "", params := [] }

def clearContract (fields : Fields) : Fields := { fields with contractAuthor := "", title := "" }

@[simp] theorem text_append (slot other : Slot) (piece : String) (fields : Fields) :
    text other (append slot piece fields) =
      if other = slot then text other fields ++ piece else text other fields := by
  cases slot <;> cases other <;> rfl

@[simp] theorem params_append (slot : Slot) (piece : String) (fields : Fields) :
    (append slot piece fields).params = fields.params := by
  cases slot <;> rfl

@[simp] theorem text_addParam (slot : Slot) (name description : String) (fields : Fields) :
    text slot (addParam name description fields) = text slot fields := by
  cases slot <;> rfl

theorem extendParam?_addParam (name description piece : String) (fields : Fields) :
    (addParam name description fields).extendParam? piece =
      some (addParam name (description ++ piece) fields) := by
  simp [extendParam?, addParam]

theorem ext_slots {a b : Fields} (texts : ∀ slot, a.text slot = b.text slot)
    (params : a.params = b.params) : a = b := by
  cases a
  cases b
  simp only [Fields.mk.injEq]
  exact ⟨texts .notice, texts .dev, texts .author, texts .contractAuthor, texts .title,
    texts .returns, params⟩

end Fields

end NatSpec
