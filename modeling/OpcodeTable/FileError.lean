/-!
# File errors

The ways reading or writing a file can fail that the library reports: each has the name of its
kind and the text the operating system gives for it.
-/

namespace OpcodeTable

/-- Why a file could not be read or written. -/
inductive FileError where
  /-- The path, or a directory on it, does not exist. -/
  | notFound
  /-- The path names a directory. -/
  | isDirectory
  /-- A component of the path before the last is a file. -/
  | notDirectory
  /-- The contents are not UTF-8 text. -/
  | notText
  /-- The device has no room left. -/
  | noSpace
  /-- The path, or a name on it, is longer than the system allows. -/
  | nameTooLong
  /-- Another failure the operating system reports, with its description and number. -/
  | other (description : String) (code : Nat)
deriving Repr, DecidableEq

namespace FileError

/-- The name of the kind of failure. -/
def kind : FileError → String
  | notFound => "NotFound"
  | isDirectory => "IsADirectory"
  | notDirectory => "NotADirectory"
  | notText => "InvalidData"
  | noSpace => "StorageFull"
  | nameTooLong => "InvalidFilename"
  | other _ _ => "Uncategorized"

/-- The text of the failure. -/
def message : FileError → String
  | notFound => "No such file or directory (os error 2)"
  | isDirectory => "Is a directory (os error 21)"
  | notDirectory => "Not a directory (os error 20)"
  | notText => "stream did not contain valid UTF-8"
  | noSpace => "No space left on device (os error 28)"
  | nameTooLong => "File name too long (os error 36)"
  | other description code => description ++ " (os error " ++ toString code ++ ")"

end FileError

end OpcodeTable
