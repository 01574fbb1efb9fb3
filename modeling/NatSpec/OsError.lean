set_option autoImplicit false

namespace NatSpec

inductive OsError where
  | notFound
  | permissionDenied
  | fileExists
  | notDirectory
  | isDirectory
  | nameTooLong
  | nulInName
  | invalidText
  | other (text : String)
deriving DecidableEq, Repr

namespace OsError

def message : OsError → String
  | .notFound => "No such file or directory (os error 2)"
  | .permissionDenied => "Permission denied (os error 13)"
  | .fileExists => "File exists (os error 17)"
  | .notDirectory => "Not a directory (os error 20)"
  | .isDirectory => "Is a directory (os error 21)"
  | .nameTooLong => "File name too long (os error 36)"
  | .nulInName => "file name contained an unexpected NUL byte"
  | .invalidText => "stream did not contain valid UTF-8"
  | .other text => text

def ofCode? : Nat → Option OsError
  | 2 => some .notFound
  | 13 => some .permissionDenied
  | 17 => some .fileExists
  | 20 => some .notDirectory
  | 21 => some .isDirectory
  | 36 => some .nameTooLong
  | _ => none

end OsError

end NatSpec
