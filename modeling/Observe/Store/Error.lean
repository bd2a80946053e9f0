namespace Observe

/-- Why a file cannot be read or written. -/
inductive FileError where
  | missing
  | exists
  | notDirectory
  | isDirectory
  | tooLong
  | holdsNul
  | other (text : String)
  deriving DecidableEq, Repr

def FileError.message : FileError → String
  | missing => "No such file or directory (os error 2)"
  | «exists» => "File exists (os error 17)"
  | notDirectory => "Not a directory (os error 20)"
  | isDirectory => "Is a directory (os error 21)"
  | tooLong => "File name too long (os error 36)"
  | holdsNul => "file name contained an unexpected NUL byte"
  | other text => text

end Observe
