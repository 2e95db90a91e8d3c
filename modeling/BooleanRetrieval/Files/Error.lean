import BooleanRetrieval.Text.Quoted

/-!
# Errors of the file tree
-/

set_option autoImplicit false

namespace BooleanRetrieval

/-- Why the file tree refuses an operation. -/
inductive FileFault where
  | notFound
  | exists
  | notDirectory
  | isDirectory
  /-- A component of the path has too many bytes, or the whole path has. -/
  | nameTooLong
  /-- A directory on the way may not be entered, or what is asked for may not be changed. -/
  | denied
  /-- The path holds a character that no path may hold. -/
  | invalidPath
  deriving DecidableEq, Repr

/-- Whether a fault means that there is nothing at the path. Whoever asks whether something is there takes
these faults for an answer, and no other. -/
def FileFault.meansAbsent : FileFault → Bool
  | notFound | notDirectory | invalidPath => true
  | _ => false

/-- A refused operation and the path it was asked for, as it was written. -/
structure FileError where
  fault : FileFault
  path : String
  deriving DecidableEq, Repr

/-- The text of a refused operation. -/
def FileError.message (e : FileError) : String :=
  match e.fault with
  | .notFound => "[Errno 2] No such file or directory: " ++ Text.quoted e.path
  | .exists => "[Errno 17] File exists: " ++ Text.quoted e.path
  | .notDirectory => "[Errno 20] Not a directory: " ++ Text.quoted e.path
  | .isDirectory => "[Errno 21] Is a directory: " ++ Text.quoted e.path
  | .nameTooLong => "[Errno 36] File name too long: " ++ Text.quoted e.path
  | .denied => "[Errno 13] Permission denied: " ++ Text.quoted e.path
  | .invalidPath => "embedded null byte"

/-- The name of the kind of a refused operation. -/
def FileError.kind (e : FileError) : String :=
  match e.fault with
  | .notFound => "FileNotFoundError"
  | .exists => "FileExistsError"
  | .notDirectory => "NotADirectoryError"
  | .isDirectory => "IsADirectoryError"
  | .nameTooLong => "OSError"
  | .denied => "PermissionError"
  | .invalidPath => "ValueError"

end BooleanRetrieval
