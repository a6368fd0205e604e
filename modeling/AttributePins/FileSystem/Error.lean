/-! Why the operating system refuses a request, in its own words and numbers. -/
namespace AttributePins

inductive OsError where
  | notFound
  | notPermitted
  | alreadyExists
  | notDirectory
  | isDirectory
  | nameTooLong
  | linkLoop
  /-- A path may hold no NUL character. -/
  | nulInPath
deriving DecidableEq, Repr

def OsError.message : OsError → String
  | .notFound => "No such file or directory (os error 2)"
  | .notPermitted => "Permission denied (os error 13)"
  | .alreadyExists => "File exists (os error 17)"
  | .notDirectory => "Not a directory (os error 20)"
  | .isDirectory => "Is a directory (os error 21)"
  | .nameTooLong => "File name too long (os error 36)"
  | .linkLoop => "Too many levels of symbolic links (os error 40)"
  | .nulInPath => "file name contained an unexpected NUL byte"

inductive ReadError where
  | os (error : OsError)
  | notUtf8
deriving DecidableEq, Repr

def ReadError.message : ReadError → String
  | .os error => error.message
  | .notUtf8 => "stream did not contain valid UTF-8"

end AttributePins
