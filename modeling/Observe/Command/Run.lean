import Observe.Command.Arguments
import Observe.Command.Help
import Observe.Command.Input
import Observe.Diagnostic
import Observe.Expression.Record
import Observe.Settings

namespace Observe.Command

open Log

inductive Status where
  | success
  | failure
  /-- The arguments cannot be understood. -/
  | misuse
  /-- The run broke off because a line would have been padded too far. The message of the runtime
  about that is no part of an outcome. -/
  | aborted
  deriving DecidableEq, Repr

/-- What a run prints and tells, and how it ends. -/
structure Outcome where
  stdout : String
  stderr : String
  status : Status
  deriving DecidableEq, Repr

/-- The lines printed and told while expressions are handled. -/
structure Progress where
  printed : List String
  told : List String
  invalid : Nat
  aborted : Bool
  deriving DecidableEq, Repr

/-- How expressions are handled: the options, which win, and the settings together. -/
structure Manner where
  format : Format
  indent : UInt64
  failFast : Bool
  level : Level
  deriving DecidableEq, Repr

def Manner.of (request : Request) (settings : Settings) : Manner where
  format := request.format.getD settings.format
  indent := settings.indent
  failFast := request.failFast || settings.failFast
  level := request.level

def tell (level : Level) (records : List Record) : List String :=
  (records.filter (·.shownAt level)).map Record.render

/-- Handles one expression. -/
def handle (manner : Manner) (text : String) : Progress :=
  let told := tell manner.level (Expression.records text)
  match Expression.parse text with
  | .ok expression =>
      match manner.format.render? manner.indent expression with
      | some shown => ⟨[shown], told, 0, false⟩
      | none => ⟨[], told, 0, true⟩
  | .error error =>
      match Diagnostic.render? text error with
      | some shown => ⟨[], told ++ [shown], 1, false⟩
      | none => ⟨[], told, 0, true⟩

/-- Handles expressions in order, up to one that breaks the run off, or, if so wanted, to the first
that is invalid. -/
def handleAll (manner : Manner) : List String → Progress
  | [] => ⟨[], [], 0, false⟩
  | text :: rest =>
      let first := handle manner text
      if first.aborted ∨ (manner.failFast ∧ first.invalid ≠ 0) then first
      else
        let others := handleAll manner rest
        ⟨first.printed ++ others.printed, first.told ++ others.told,
          first.invalid + others.invalid, others.aborted⟩

def joinLines (texts : List String) : String := String.join (texts.map (· ++ "\n"))

def countRecord (count invalid : Nat) : Record :=
  ⟨.info, "observe_expr",
    toString count ++ " expression(s) processed, " ++ toString invalid ++ " invalid"⟩

/-- The outcome of a run that handles expressions, after what it has told before. -/
def conclude (manner : Manner) (told : List String) (expressions : List String) : Outcome :=
  let progress := handleAll manner expressions
  if progress.aborted then
    ⟨joinLines progress.printed, joinLines (told ++ progress.told), .aborted⟩
  else
    let ended := tell manner.level [countRecord expressions.length progress.invalid]
    ⟨joinLines progress.printed, joinLines (told ++ progress.told ++ ended),
      if progress.invalid = 0 then .success else .failure⟩

/-- What begins behind a newline is moved to the right. -/
def withMargins (chars : List Char) : List Char :=
  chars.flatMap fun c => if c = '\n' then ['\n', ' ', ' ', ' ', ' '] else [c]

/-- Each line of a text is moved to the right. -/
def indented (text : String) : String := "    " ++ String.ofList (withMargins text.toList)

/-- The outcome of a run that cannot begin, with the reason. -/
def giveUp (told : List String) (message cause : String) : Outcome :=
  ⟨"", joinLines (told ++ ["Error: " ++ message, "", "Caused by:", indented cause]), .failure⟩

/-- What a run finds when its arguments are understood. -/
structure Findings where
  /-- The path of the file below the home directory, if there is one. -/
  usualPlace : Option String
  /-- The file that an option names, or else the one at the usual place. -/
  file : Except FileError ByteArray
  input : ByteArray
  /-- Whether the input is typed at a terminal. -/
  terminal : Bool
  /-- What the reader of TOML says against the text of a file. -/
  tomlError : String → String

/-- The settings for a run. A file that an option names has to be good. -/
def settingsFor (request : Request) (findings : Findings) :
    Except (String × Settings.LoadError) (Settings × List Record) :=
  match request.config with
  | some shown =>
      match Settings.ofFile findings.tomlError findings.file with
      | .ok settings => .ok (settings, [Settings.loadedRecord shown])
      | .error error => .error (shown, error)
  | none =>
      match findings.usualPlace with
      | some shown => .ok (Settings.ofUsualFile findings.tomlError shown findings.file)
      | none => .ok ({}, [])

def promptRecord : Record :=
  ⟨.warn, "observe_expr", "no expressions given, reading from terminal (Ctrl-D to finish)"⟩

/-- Who is to type the expressions is told so. -/
def promptsFor (request : Request) (terminal : Bool) : List Record :=
  if request.expressions.isEmpty && terminal then [promptRecord] else []

/-- The expressions for a run. Input that is not text gives none. -/
def expressionsFor? (request : Request) (input : ByteArray) : Option (List String) :=
  if request.expressions.isEmpty then (String.fromUTF8? input).map expressionsOf
  else some request.expressions

/-- The run that a request asks for. -/
def perform (request : Request) (findings : Findings) : Outcome :=
  match settingsFor request findings with
  | .error (shown, error) => giveUp [] (error.message shown) error.cause
  | .ok (settings, records) =>
      let told := tell request.level (records ++ promptsFor request findings.terminal)
      match expressionsFor? request findings.input with
      | none =>
          giveUp told "Failed to read expressions from stdin" "stream did not contain valid UTF-8"
      | some expressions => conclude (.of request settings) told expressions

/-- The outcome where the arguments ask for no run. What is said of arguments that cannot be
understood is given. -/
def interrupted (usageError : String) : Interruption → Outcome
  | .misuse => ⟨"", usageError, .misuse⟩
  | .shortHelp => ⟨Help.short, "", .success⟩
  | .longHelp => ⟨Help.long, "", .success⟩
  | .version => ⟨Help.version, "", .success⟩

/-- What is around a run. Paths lead into the store, which the run does not change. The libraries
that read TOML and arguments word their errors in ways that are not told here. -/
structure Surroundings where
  home : Option String
  /-- The names of the directory where the run takes place. -/
  directory : List String
  store : Store
  input : ByteArray
  /-- Whether the input is typed at a terminal. -/
  terminal : Bool := false
  tomlError : String → String
  /-- What is said of arguments, up to two dashes alone, in which there is a mistake. -/
  usageError : List String → String

namespace Surroundings

/-- The file that a path leads to from where the run takes place. -/
def read (surroundings : Surroundings) (path : String) : Except FileError ByteArray :=
  surroundings.store.read (.ofText surroundings.directory path)

def usualPlace (surroundings : Surroundings) : Option String :=
  surroundings.home.map Settings.usualPlace

/-- The path of the file with the settings: the one that an option names, or else the usual one. -/
def place? (surroundings : Surroundings) (request : Request) : Option String :=
  request.config.or surroundings.usualPlace

def fileFor (surroundings : Surroundings) (request : Request) : Except FileError ByteArray :=
  match surroundings.place? request with
  | some path => surroundings.read path
  | none => .error .missing

def findings (surroundings : Surroundings) (request : Request) : Findings where
  usualPlace := surroundings.usualPlace
  file := surroundings.fileFor request
  input := surroundings.input
  terminal := surroundings.terminal
  tomlError := surroundings.tomlError

end Surroundings

def run (arguments : List String) (surroundings : Surroundings) : Outcome :=
  match Request.ofArguments arguments with
  | .error interruption =>
      interrupted (surroundings.usageError (Request.optionsAmong arguments)) interruption
  | .ok request => perform request (surroundings.findings request)

end Observe.Command
