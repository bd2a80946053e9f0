import Observe.Toml.Value

namespace Observe.Toml

namespace Table

def empty (origin : Origin) : Table := ⟨origin, []⟩

def find? (table : Table) (name : String) : Option Value := table.entries.lookup name

/-- Replaces the value of a name, or adds the name at the end. -/
def putEntry (name : String) (value : Value) : List (String × Value) → List (String × Value)
  | [] => [(name, value)]
  | (key, old) :: rest =>
      if key = name then (key, value) :: rest else (key, old) :: putEntry name value rest

def put (table : Table) (name : String) (value : Value) : Table where
  origin := table.origin
  entries := putEntry name value table.entries

/-- Changes the last item of a list. -/
def changeLast? (change : Table → Option Table) : List Table → Option (List Table)
  | [] => none
  | [last] => (change last).map ([·])
  | first :: rest => (changeLast? change rest).map (first :: ·)

/-- Changes the table at the end of a path, making the tables on the way that are missing. A path
that meets an array of tables goes on in the last of them. The path of a dotted key may not lead
through a table that a header names. -/
def change? (dotted : Bool) (change : Table → Option Table) :
    List String → Table → Option Table
  | [], table => change table
  | name :: path, table =>
      match table.find? name with
      | none =>
          let origin := if dotted then Origin.dotted else .implied
          (change? dotted change path (empty origin)).map fun child => table.put name (.table child)
      | some (.table child) =>
          if child.origin = .inline ∨ (dotted ∧ child.origin = .header) then none
          else (change? dotted change path child).map fun child => table.put name (.table child)
      | some (.tables items) =>
          (changeLast? (change? dotted change path) items).map fun items =>
            table.put name (.tables items)
      | some _ => none

/-- Gives a key of the table a value. A key without dots cannot end in a table that dots made, and
a key with dots only in such a one. -/
def define? (key : Key) (value : Value) (table : Table) : Option Table :=
  change? true
    (fun target =>
      if (target.origin = .dotted ↔ key.parents = []) ∨ (target.find? key.name).isSome then none
      else some (target.put key.name value))
    key.parents table

def addHeader? (key : Key) (root : Table) : Option Table :=
  change? false
    (fun parent =>
      match parent.find? key.name with
      | none => some (parent.put key.name (.table (empty .header)))
      | some (.table ⟨.implied, entries⟩) =>
          some (parent.put key.name (.table ⟨.header, entries⟩))
      | some _ => none)
    key.parents root

def addArrayHeader? (key : Key) (root : Table) : Option Table :=
  change? false
    (fun parent =>
      match parent.find? key.name with
      | none => some (parent.put key.name (.tables [empty .header]))
      | some (.tables items) => some (parent.put key.name (.tables (items ++ [empty .header])))
      | some _ => none)
    key.parents root

end Table

/-- The root table, and the path to the table that the last header names. -/
structure Document where
  root : Table
  current : List String

namespace Document

def empty : Document := ⟨.empty .header, []⟩

def add? (document : Document) : Statement → Option Document
  | .header key =>
      (document.root.addHeader? key).map fun root => ⟨root, key.parents ++ [key.name]⟩
  | .arrayHeader key =>
      (document.root.addArrayHeader? key).map fun root => ⟨root, key.parents ++ [key.name]⟩
  | .pair key value =>
      (Table.change? false (Table.define? key value) document.current document.root).map
        fun root => ⟨root, document.current⟩

def ofStatements? (statements : List Statement) : Option Document :=
  statements.foldlM add? empty

end Document

end Observe.Toml
