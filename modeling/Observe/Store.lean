import Observe.Store.Entry
import Observe.Store.Location

namespace Observe

/-- The files and directories that a program sees through paths. -/
structure Store where
  root : Entry

namespace Store

def empty : Store := ⟨.directory []⟩

def find? (store : Store) (names : List String) : Option Entry := store.root.find? names

def put (store : Store) (names : List String) (entry : Entry) : Store :=
  ⟨store.root.put names entry⟩

def drop (store : Store) (names : List String) : Store := ⟨store.root.drop names⟩

/-- Where a path has led to: the names of the place, the last one first, and what is there. -/
structure Place where
  trail : List String
  entry : Entry

def Place.names (place : Place) : List String := place.trail.reverse

def placeOf (store : Store) (names : List String) : Except FileError Place :=
  match store.find? names with
  | some entry => .ok ⟨names.reverse, entry⟩
  | none => .error .missing

/-- Follows one name of a path. The top is above itself. -/
def step (store : Store) (place : Place) (name : String) : Except FileError Place :=
  match place.entry with
  | .file _ => .error .notDirectory
  | .directory entries =>
      if name = "." then .ok place
      else if name = ".." then store.placeOf place.trail.tail.reverse
      else if Location.longestName < name.utf8ByteSize then .error .tooLong
      else
        match entries.lookup name with
        | some entry => .ok ⟨name :: place.trail, entry⟩
        | none => .error .missing

def walk (store : Store) (place : Place) : List String → Except FileError Place
  | [] => .ok place
  | name :: rest =>
      match store.step place name with
      | .error error => .error error
      | .ok next => walk store next rest

/-- Follows names from where a path begins. -/
def follow (store : Store) (location : Location) (names : List String) : Except FileError Place :=
  match location.refusal? with
  | some error => .error error
  | none =>
      match store.placeOf location.start with
      | .error error => .error error
      | .ok place => store.walk place names

def locate (store : Store) (location : Location) : Except FileError Place :=
  store.follow location location.names

/-- The place that should hold what the path leads to. -/
def approach (store : Store) (location : Location) : Except FileError Place :=
  store.follow location location.names.dropLast

def read (store : Store) (location : Location) : Except FileError ByteArray :=
  match store.locate location with
  | .error error => .error error
  | .ok ⟨_, .directory _⟩ => .error .isDirectory
  | .ok ⟨_, .file content⟩ => if location.endsInSlash then .error .notDirectory else .ok content

/-- Puts something new below a place that has no such name. -/
def add (store : Store) (place : Place) (name : String) (entry : Entry) : Store :=
  store.put (place.names ++ [name]) entry

/-- Writes a file, which may be there already, into a directory that has to be there. -/
def write (store : Store) (location : Location) (content : ByteArray) : Except FileError Store :=
  match store.approach location, location.names.getLast? with
  | .error error, _ => .error error
  | .ok _, none => .error .isDirectory
  | .ok place, some name =>
      if location.endsInSlash then
        .error (if place.entry.isDirectory then .isDirectory else .notDirectory)
      else
        match store.step place name with
        | .ok ⟨_, .directory _⟩ => .error .isDirectory
        | .ok ⟨trail, .file _⟩ => .ok (store.put trail.reverse (.file content))
        | .error .missing => .ok (store.add place name (.file content))
        | .error error => .error error

/-- Makes a directory in one that has to be there. -/
def makeDirectory (store : Store) (location : Location) : Except FileError Store :=
  match store.approach location, location.names.getLast? with
  | .error error, _ => .error error
  | .ok _, none => .error .exists
  | .ok place, some name =>
      match store.step place name with
      | .ok _ => .error .exists
      | .error .missing => .ok (store.add place name (.directory []))
      | .error error => .error error

def leadsToDirectory (store : Store) (location : Location) : Bool :=
  match store.locate location with
  | .ok place => place.entry.isDirectory
  | .error _ => false

/-- Makes the directories along a path whose parts are given from the last one. -/
def makeAlong (store : Store) (location : Location) : List Part → Store × Except FileError Unit
  | [] => (store, .ok ())
  | last :: above =>
      let here := location.along (last :: above).reverse
      match store.makeDirectory here with
      | .ok made => (made, .ok ())
      | .error .missing =>
          match makeAlong store location above with
          | (store, .error error) => (store, .error error)
          | (store, .ok ()) =>
              match store.makeDirectory here with
              | .ok made => (made, .ok ())
              | .error error => (store, if store.leadsToDirectory here then .ok () else .error error)
      | .error error => (store, if store.leadsToDirectory here then .ok () else .error error)

/-- Makes a directory and those above it that are missing. A failure may leave new directories
behind. -/
def makeDirectories (store : Store) (location : Location) : Store × Except FileError Unit :=
  store.makeAlong location location.parts.reverse

/-- Drops a file, or everything in a directory and then the directory if the path ends in its
name. -/
def remove (store : Store) (location : Location) : Except FileError Store :=
  match store.locate location with
  | .error error => .error error
  | .ok ⟨trail, .file _⟩ =>
      if location.endsInSlash then .error .notDirectory else .ok (store.drop trail.reverse)
  | .ok ⟨trail, .directory _⟩ =>
      if location.isNamed then .ok (store.drop trail.reverse)
      else .ok (store.put trail.reverse (.directory []))

/-- Puts a file where a path leads, or a directory if the path ends in a slash, and makes the
directories above it. -/
def place (store : Store) (location : Location) (content : ByteArray) :
    Store × Except FileError Unit :=
  if location.endsInSlash then store.makeDirectories location
  else
    match store.makeDirectories location.parent with
    | (store, .error error) => (store, .error error)
    | (store, .ok ()) =>
        match store.write location content with
        | .ok written => (written, .ok ())
        | .error error => (store, .error error)

end Store

end Observe
