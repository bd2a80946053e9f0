import Observe.Store.Error

namespace Observe

/-- A part of a path, with the bytes that the text of the path takes up to its end. -/
structure Part where
  name : String
  reach : Nat
  deriving DecidableEq, Repr

/-- The names between the slashes of a path, and the directory from which they lead on. -/
structure Location where
  /-- The names of the directory where the path begins. -/
  start : List String
  parts : List Part
  /-- The bytes of the text. -/
  length : Nat
  endsInSlash : Bool := false
  deriving DecidableEq, Repr

namespace Location

/-- The runs of characters between the slashes, empty ones too. -/
def splitSlashes (chars : List Char) : List (List Char) :=
  chars.foldr
    (fun c runs =>
      if c = '/' then [] :: runs
      else
        match runs with
        | [] => [[c]]
        | first :: others => (c :: first) :: others)
    [[]]

/-- The runs that are not empty, as parts of a text that has some bytes before them. -/
def partsFrom (before : Nat) : List (List Char) → List Part
  | [] => []
  | run :: rest =>
      let name := String.ofList run
      let reach := before + name.utf8ByteSize
      if run.isEmpty then partsFrom (reach + 1) rest
      else ⟨name, reach⟩ :: partsFrom (reach + 1) rest

def isAbsolute (text : String) : Bool := text.toList.head? = some '/'

/-- A path that begins with a slash leads from the top, and any other from the given directory. -/
def ofText (directory : List String) (text : String) : Location where
  start := if isAbsolute text then [] else directory
  parts := partsFrom 0 (splitSlashes text.toList)
  length := text.utf8ByteSize
  endsInSlash := text.toList.getLast? = some '/'

def names (location : Location) : List String := location.parts.map (·.name)

/-- The path that consists of some of the parts. -/
def along (location : Location) (parts : List Part) : Location where
  start := location.start
  parts := parts
  length := (parts.getLast?.map (·.reach)).getD 0

/-- The path to the directory that holds the last part. A dot names no part of its own. -/
def parent (location : Location) : Location :=
  location.along (location.parts.filter (·.name ≠ ".")).dropLast

/-- Whether a path ends in the name of something in a directory. -/
def isNamed (location : Location) : Bool :=
  match location.names.getLast? with
  | none => false
  | some name => name ≠ "." ∧ name ≠ ".."

/-- The bytes that a path may take. -/
def longestPath : Nat := 4095

/-- The bytes that a name in a directory may take. -/
def longestName : Nat := 255

/-- A path whose text is empty, which leads nowhere. -/
def isEmpty (location : Location) : Bool := location.parts.isEmpty && location.length == 0

/-- Why a path is refused before it is followed. -/
def refusal? (location : Location) : Option FileError :=
  if location.isEmpty then some .missing
  else if location.names.any (·.toList.contains '\x00') then some .holdsNul
  else if longestPath < location.length then some .tooLong
  else none

end Location

end Observe
