namespace LayeredSql

inductive FileError where
  | notFound
  | alreadyExists
  | notDirectory
  | isDirectory
  /-- Any other refusal of the operating system, with its number. -/
  | system (reason : String) (number : Nat)
  /-- The bytes are not UTF-8. -/
  | notText
deriving DecidableEq

namespace FileError

def numbered (reason : String) (number : Nat) : String :=
  String.join [reason, " (os error ", toString number, ")"]

def message : FileError → String
  | .notFound => numbered "No such file or directory" 2
  | .alreadyExists => numbered "File exists" 17
  | .notDirectory => numbered "Not a directory" 20
  | .isDirectory => numbered "Is a directory" 21
  | .system reason number => numbered reason number
  | .notText => "stream did not contain valid UTF-8"

end FileError
end LayeredSql
