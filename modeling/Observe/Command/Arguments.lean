import Observe.Format
import Observe.Log

namespace Observe.Command

/-- What the arguments ask for. -/
structure Request where
  expressions : List String := []
  format : Option Format := none
  config : Option String := none
  failFast : Bool := false
  verbosity : Nat := 0
  quiet : Bool := false
  deriving DecidableEq, Repr

/-- What ends the reading early: a mistake, or a question that is answered at once. -/
inductive Interruption where
  | misuse
  | shortHelp
  | longHelp
  | version
  deriving DecidableEq, Repr

inductive Flag where
  | failFast
  | verbose
  | quiet
  | shortHelp
  | longHelp
  | version
  deriving DecidableEq, Repr

/-- An option that takes a value. -/
inductive Setting where
  | format
  | config
  deriving DecidableEq, Repr

inductive Named where
  | flag (flag : Flag)
  | setting (setting : Setting)
  deriving DecidableEq, Repr

def Named.ofLetter? : Char → Option Named
  | 'f' => some (.setting .format)
  | 'c' => some (.setting .config)
  | 'v' => some (.flag .verbose)
  | 'q' => some (.flag .quiet)
  | 'h' => some (.flag .shortHelp)
  | 'V' => some (.flag .version)
  | _ => none

def Named.ofWord? : String → Option Named
  | "format" => some (.setting .format)
  | "config" => some (.setting .config)
  | "fail-fast" => some (.flag .failFast)
  | "verbose" => some (.flag .verbose)
  | "quiet" => some (.flag .quiet)
  | "help" => some (.flag .longHelp)
  | "version" => some (.flag .version)
  | _ => none

namespace Request

/-- How much the run tells about itself. -/
def level (request : Request) : Log.Level :=
  if request.quiet then .error
  else
    match request.verbosity with
    | 0 => .warn
    | 1 => .debug
    | _ => .trace

/-- Only the flag for more records may come twice. -/
def raise (request : Request) : Flag → Except Interruption Request
  | .failFast =>
      if request.failFast then .error .misuse
      else .ok { request with failFast := true }
  | .verbose => .ok { request with verbosity := request.verbosity + 1 }
  | .quiet => if request.quiet then .error .misuse else .ok { request with quiet := true }
  | .shortHelp => .error .shortHelp
  | .longHelp => .error .longHelp
  | .version => .error .version

def assign (request : Request) : Setting → String → Except Interruption Request
  | .format, value =>
      match request.format, Format.ofName? value with
      | none, some format => .ok { request with format := some format }
      | _, _ => .error .misuse
  | .config, value =>
      if request.config.isSome ∨ value = "" then .error .misuse
      else .ok { request with config := some value }

/-- Reads the letters behind one dash. What follows a letter that takes a value is the value. -/
def readLetters (request : Request) : List Char → Except Interruption (Request × Option Setting)
  | [] => .ok (request, none)
  | letter :: rest =>
      match Named.ofLetter? letter with
      | none => .error .misuse
      | some (.flag flag) =>
          match request.raise flag with
          | .error interruption => .error interruption
          | .ok request => readLetters request rest
      | some (.setting setting) =>
          match rest with
          | [] => .ok (request, some setting)
          | '=' :: value => (request.assign setting (String.ofList value)).map (·, none)
          | value => (request.assign setting (String.ofList value)).map (·, none)

/-- Reads the word behind two dashes, with the value that is joined to it. -/
def readWord (request : Request) (chars : List Char) :
    Except Interruption (Request × Option Setting) :=
  let word := String.ofList (chars.takeWhile (· ≠ '='))
  match Named.ofWord? word, chars.dropWhile (· ≠ '=') with
  | some (.flag flag), [] => (request.raise flag).map (·, none)
  | some (.setting setting), [] => .ok (request, some setting)
  | some (.setting setting), _ :: value =>
      (request.assign setting (String.ofList value)).map (·, none)
  | _, _ => .error .misuse

/-- An argument that is not taken for options. A dash alone is one. -/
def isPlain (argument : String) : Bool :=
  match argument.toList with
  | '-' :: _ :: _ => false
  | _ => true

/-- Reads an argument, and tells which option wants the next one as its value. -/
def readArgument (request : Request) (argument : String) :
    Except Interruption (Request × Option Setting) :=
  match argument.toList with
  | '-' :: '-' :: word => request.readWord word
  | '-' :: letter :: letters => request.readLetters (letter :: letters)
  | _ => .ok ({ request with expressions := request.expressions ++ [argument] }, none)

def readAll (request : Request) : List String → Except Interruption Request
  | [] => .ok request
  | argument :: rest =>
      if argument = "--" then .ok { request with expressions := request.expressions ++ rest }
      else
        match request.readArgument argument with
        | .error interruption => .error interruption
        | .ok (request, none) => readAll request rest
        | .ok (request, some setting) =>
            match rest with
            | [] => .error .misuse
            | value :: rest =>
                if isPlain value then
                  match request.assign setting value with
                  | .error interruption => .error interruption
                  | .ok request => readAll request rest
                else .error .misuse

/-- The arguments that are read for options. A mistake stands among them. -/
def optionsAmong (arguments : List String) : List String := arguments.takeWhile (· ≠ "--")

end Request

/-- Everything after two dashes alone is an expression. -/
def Request.ofArguments (arguments : List String) : Except Interruption Request :=
  Request.readAll {} arguments

end Observe.Command
