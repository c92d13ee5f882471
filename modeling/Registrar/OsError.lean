/-!
# Refusals of the operating system

The reasons for which reading or writing a file fails, with their texts and numbers.
-/

namespace Registrar

/-- Why an operation on a file failed. -/
inductive OsError where
  /-- nothing is there -/
  | notFound
  /-- something is there already -/
  | alreadyExists
  /-- a file stands where a directory is needed -/
  | notDirectory
  /-- a directory stands where a file is needed -/
  | isDirectory
  /-- a name or a whole path is too long -/
  | nameTooLong
  /-- the path holds a NUL -/
  | nulByte
  /-- any other reason, in words -/
  | other (text : String)
  deriving DecidableEq, Repr

/-- The reason in words. -/
def OsError.message : OsError → String
  | .notFound => "No such file or directory (os error 2)"
  | .alreadyExists => "File exists (os error 17)"
  | .notDirectory => "Not a directory (os error 20)"
  | .isDirectory => "Is a directory (os error 21)"
  | .nameTooLong => "File name too long (os error 36)"
  | .nulByte => "file name contained an unexpected NUL byte"
  | .other text => text

end Registrar
