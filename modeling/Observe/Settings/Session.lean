import Observe.Settings

namespace Observe.Settings

open Log

/-- Where a file may be, and how that is shown. -/
structure File where
  shown : String
  location : Location
  deriving DecidableEq, Repr

/-- What is around the steps: the file at the usual place, unless there is no home directory, and
what the reader of TOML says against a text. -/
structure Session where
  usual : Option File
  tomlError : String → String

/-- What can be done with files and settings. -/
inductive Step where
  | write (file : File) (content : ByteArray)
  | remove (file : File)
  | save (settings : Settings)
  | saveTo (file : File) (settings : Settings)
  | load
  | loadFrom (file : File)

inductive Answer where
  | done
  | saved
  | unsaved (error : SaveError)
  | loaded (settings : Settings) (records : List Record)
  | unloaded (error : LoadError)
  deriving DecidableEq, Repr

def answerSave (settings : Settings) (file : File) (store : Store) : Store × Answer :=
  match settings.save file.location store with
  | (made, .ok ()) => (made, .saved)
  | (made, .error error) => (made, .unsaved error)

def answerLoadFrom (tomlError : String → String) (file : File)
    (found : Except FileError ByteArray) : Answer :=
  match ofFile tomlError found with
  | .ok settings => .loaded settings [loadedRecord file.shown]
  | .error error => .unloaded error

namespace Session

/-- Without a usual place there is nowhere to save settings. -/
def save (session : Session) (settings : Settings) (store : Store) : Store × Answer :=
  match session.usual with
  | none => (store, .unsaved .placeless)
  | some file => answerSave settings file store

/-- Without a usual place the settings are the defaults. -/
def load (session : Session) (store : Store) : Answer :=
  match session.usual with
  | none => .loaded {} []
  | some file =>
      match ofUsualFile session.tomlError file.shown (store.read file.location) with
      | (settings, records) => .loaded settings records

end Session

/-- The store after a step, and its answer. A step that fails to write or remove says nothing. -/
def Step.perform (session : Session) (store : Store) : Step → Store × Answer
  | write file content => ((store.place file.location content).1, .done)
  | remove file => ((store.remove file.location).toOption.getD store, .done)
  | save settings => session.save settings store
  | saveTo file settings => answerSave settings file store
  | load => (store, session.load store)
  | loadFrom file => (store, answerLoadFrom session.tomlError file (store.read file.location))

def storeAfter (session : Session) (store : Store) (steps : List Step) : Store :=
  steps.foldl (fun store step => (step.perform session store).1) store

def answers (session : Session) (store : Store) : List Step → List Answer
  | [] => []
  | step :: rest =>
      match step.perform session store with
      | (made, answer) => answer :: answers session made rest

namespace Step

/-- The file that a step saves settings in. -/
def saves? (session : Session) : Step → Option (File × Settings)
  | save settings => session.usual.map (·, settings)
  | saveTo file settings => some (file, settings)
  | _ => none

/-- The file that a step loads settings from. -/
def loads? (session : Session) : Step → Option File
  | load => session.usual
  | loadFrom file => some file
  | _ => none

/-- The file that a step writes, saves or removes. -/
def changes? (session : Session) : Step → Option File
  | write file _ | remove file | saveTo file _ => some file
  | save _ => session.usual
  | load | loadFrom _ => none

end Step

end Observe.Settings
