import Observe.Format
import Observe.Log
import Observe.Store
import Observe.Text.Utf8
import Observe.Toml.Reader

namespace Observe

open Log

/-- The settings of the program. A file may leave out any of them. -/
structure Settings where
  format : Format := .text
  /-- Columns for a level of a tree. -/
  indent : UInt64 := 2
  /-- Whether a run stops at the first invalid expression. -/
  failFast : Bool := false
  deriving DecidableEq, Repr

namespace Settings

def isEmptyValue : Toml.Value → Bool
  | .array items => items.isEmpty
  | .table table => table.entries.isEmpty
  | _ => false

/-- A format is its name, or a table in which its name stands for nothing more. -/
def formatOf? : Toml.Value → Option Format
  | .string name => Format.ofName? name
  | .table table =>
      match table.entries with
      | [(name, value)] => if isEmptyValue value then Format.ofName? name else none
      | _ => none
  | _ => none

def indentOf? : Toml.Value → Option UInt64
  | .integer (.ofNat value) => some (.ofNat value)
  | _ => none

def failFastOf? : Toml.Value → Option Bool
  | .boolean value => some value
  | _ => none

/-- The value that an entry stands for, or the default if there is no such entry. -/
def entryOr? (table : Toml.Table) (name : String) (read? : Toml.Value → Option α)
    (default : α) : Option α :=
  match table.find? name with
  | some value => read? value
  | none => some default

/-- Entries with other names are passed over. -/
def ofTable? (table : Toml.Table) : Option Settings :=
  let defaults : Settings := {}
  match entryOr? table "format" formatOf? defaults.format,
      entryOr? table "indent_size" indentOf? defaults.indent,
      entryOr? table "fail_fast" failFastOf? defaults.failFast with
  | some format, some indent, some failFast => some ⟨format, indent, failFast⟩
  | _, _, _ => none

def parse? (text : String) : Option Settings := (Toml.parse? text).bind ofTable?

/-- The widest indent that can be written: the greatest integer of TOML. -/
def widestIndent : Nat := 9223372036854775807

/-- The text of a file with these settings, if their indent can be written. -/
def text? (settings : Settings) : Option String :=
  if settings.indent.toNat ≤ widestIndent then
    some ("format = \"" ++ settings.format.name ++ "\"\nindent_size = " ++
      toString settings.indent.toNat ++ "\nfail_fast = " ++
        (if settings.failFast then "true" else "false") ++ "\n")
  else none

inductive LoadError where
  | unreadable (error : FileError)
  | notUtf8
  /-- The text is not that of a file with settings, for a reason told by the reader of TOML. -/
  | invalid (reason : String)
  deriving DecidableEq, Repr

namespace LoadError

def message (shown : String) : LoadError → String
  | invalid _ => "Invalid config file " ++ shown
  | _ => "Failed to read config file " ++ shown

def cause : LoadError → String
  | unreadable error => error.message
  | notUtf8 => "stream did not contain valid UTF-8"
  | invalid reason => reason

end LoadError

/-- The settings in a file that was read, or the reason why there are none. How the reader of TOML
words a reason is not told here: it is given as a function of the text that is refused. -/
def ofFile (tomlError : String → String) (found : Except FileError ByteArray) :
    Except LoadError Settings :=
  match found with
  | .error error => .error (.unreadable error)
  | .ok content =>
      match String.fromUTF8? content with
      | none => .error .notUtf8
      | some text =>
          match parse? text with
          | none => .error (.invalid (tomlError text))
          | some settings => .ok settings

theorem ofFile_toUTF8 (tomlError : String → String) (text : String) :
    ofFile tomlError (.ok text.toUTF8) =
      match parse? text with
      | none => .error (.invalid (tomlError text))
      | some settings => .ok settings := by
  simp only [ofFile, Text.text_of_bytes]

def record (level : Level) (text : String) : Record := ⟨level, "observe_expr::config", text⟩

def loadedRecord (shown : String) : Record := record .debug ("loaded config from " ++ shown)

def ignoredRecord (shown : String) (error : LoadError) : Record :=
  record .warn ("ignoring config file: " ++ error.message shown ++ ": " ++ error.cause)

/-- No file is there, so that none is to be read. -/
def isAbsent : Except FileError ByteArray → Bool
  | .error .missing | .error .notDirectory | .error .tooLong | .error .holdsNul => true
  | _ => false

/-- The settings in the file at the usual place. A bad file is told and otherwise passed over. -/
def ofUsualFile (tomlError : String → String) (shown : String)
    (found : Except FileError ByteArray) : Settings × List Record :=
  if isAbsent found then ({}, [])
  else
    match ofFile tomlError found with
    | .ok settings => (settings, [loadedRecord shown])
    | .error error => ({}, [ignoredRecord shown error])

inductive SaveError where
  | unwritable (error : FileError)
  | unwritableIndent
  /-- There is no home directory, and so no usual place. -/
  | placeless
  deriving DecidableEq, Repr

/-- How the writer of TOML words its refusal of an indent is not told here. -/
def SaveError.message? : SaveError → Option String
  | unwritable error => some error.message
  | unwritableIndent => none
  | placeless => some "Could not determine config directory"

/-- Writes the file, into directories that are made if they are missing. -/
def save (settings : Settings) (location : Location) (store : Store) :
    Store × Except SaveError Unit :=
  match store.makeDirectories location.parent with
  | (store, .error error) => (store, .error (.unwritable error))
  | (store, .ok ()) =>
      match settings.text? with
      | none => (store, .error .unwritableIndent)
      | some text =>
          match store.write location text.toUTF8 with
          | .ok store => (store, .ok ())
          | .error error => (store, .error (.unwritable error))

/-- Where the file is below the home directory. -/
def usualPath : String := ".config/observe-expr/config.toml"

/-- A slash goes in between, unless the home directory ends in one or has no text. -/
def usualPlace (home : String) : String :=
  match home.toList.getLast? with
  | none | some '/' => home ++ usualPath
  | some _ => home ++ "/" ++ usualPath

end Settings

end Observe
