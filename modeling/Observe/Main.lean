import Observe.Command.Run

namespace Observe

def fileErrorOf (error : IO.Error) : FileError :=
  match error with
  | .noFileOrDirectory _ _ _ => .missing
  | .inappropriateType _ 20 _ => .notDirectory
  | .inappropriateType _ 21 _ => .isDirectory
  | .invalidArgument _ 36 _ => .tooLong
  | _ => .other (toString error)

def readFile (path : String) : IO (Except FileError ByteArray) := do
  try
    return .ok (← IO.FS.readBinFile path)
  catch error =>
    return .error (fileErrorOf error)

partial def readInput (input : IO.FS.Stream) (content : ByteArray) : IO ByteArray := do
  let more ← input.read 65536
  if more.isEmpty then return content else readInput input (content ++ more)

def exitCode : Command.Status → UInt32
  | .success => 0
  | .failure => 1
  | .misuse => 2
  | .aborted => 101

/-- What stands here in place of the words of a reader of TOML. -/
def tomlError (_ : String) : String := "the text is not that of a file with settings"

/-- What stands here in place of the words of a reader of arguments. -/
def usageError : String :=
  "error: the arguments cannot be understood\n\nFor more information, try '--help'.\n"

def homeDirectory : IO (Option String) := do
  return (← IO.getEnv "HOME").filter (· ≠ "")

/-- Hands arguments, files and input to a run. -/
def outcomeOf (arguments : List String) : IO Command.Outcome := do
  match Command.Request.ofArguments arguments with
  | .error interruption => return Command.interrupted usageError interruption
  | .ok request =>
      let usualPlace := (← homeDirectory).map Settings.usualPlace
      let file ← match request.config.or usualPlace with
        | some path => readFile path
        | none => pure (.error .missing)
      let stdin ← IO.getStdin
      let input ← if request.expressions.isEmpty then readInput stdin .empty else pure .empty
      return Command.perform request ⟨usualPlace, file, input, ← stdin.isTty, tomlError⟩

end Observe

def main (arguments : List String) : IO UInt32 := do
  let outcome ← Observe.outcomeOf arguments
  IO.print outcome.stdout
  IO.eprint outcome.stderr
  return Observe.exitCode outcome.status
