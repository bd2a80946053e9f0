import Observe.Toml.Key
import Observe.Toml.Scalar
import Observe.Toml.Table

namespace Observe.Toml

/-- Reads the comma behind an item, or the bracket behind the last one. -/
def itemEnd? (cs : List Char) : Option (Bool × List Char) :=
  match skipGap? cs with
  | some (',' :: rest) => some (false, rest)
  | some (']' :: rest) => some (true, rest)
  | _ => none

/-- Reads the items of an array from behind its bracket. The last one may have a comma. -/
def items? (value : List Char → Option (Value × List Char)) (cs : List Char) :
    Option (List Value × List Char) :=
  match skipGap? cs with
  | none => none
  | some (']' :: rest) => some ([], rest)
  | some start =>
      match value start with
      | none => none
      | some (first, rest) =>
          match progress? cs (itemEnd? rest) with
          | none => none
          | some (true, ⟨rest, _⟩) => some ([first], rest)
          | some (false, ⟨rest, _⟩) =>
              (items? value rest).map fun (others, rest) => (first :: others, rest)
termination_by cs.length

/-- Reads a key, the sign between, and a value. -/
def pair? (value : List Char → Option (Value × List Char)) (cs : List Char) :
    Option ((Key × Value) × List Char) :=
  match key? cs with
  | some (key, '=' :: rest) =>
      (value (rest.dropWhile isBlank)).map fun (value, rest) => ((key, value), rest)
  | _ => none

/-- Reads the comma behind a pair, or the brace behind the last one. -/
def pairEnd? (cs : List Char) : Option (Bool × List Char) :=
  match cs.dropWhile isBlank with
  | ',' :: rest => some (false, rest)
  | '\x7d' :: rest => some (true, rest)
  | _ => none

/-- Reads the pairs of an inline table that has one at least, on one line. -/
def pairs? (value : List Char → Option (Value × List Char)) (cs : List Char) :
    Option (List (Key × Value) × List Char) :=
  match pair? value cs with
  | none => none
  | some (first, rest) =>
      match progress? cs (pairEnd? rest) with
      | none => none
      | some (true, ⟨rest, _⟩) => some ([first], rest)
      | some (false, ⟨rest, _⟩) =>
          (pairs? value rest).map fun (others, rest) => (first :: others, rest)
termination_by cs.length

def inlineTable? (value : List Char → Option (Value × List Char)) (cs : List Char) :
    Option (Value × List Char) :=
  match cs.dropWhile isBlank with
  | '\x7d' :: rest => some (.table (.empty .inline), rest)
  | start => do
      let (pairs, rest) ← pairs? value start
      let table ← pairs.foldlM (fun table (key, value) => table.define? key value) (.empty .inline)
      some (.table table, rest)

/-- Reads a value in which arrays and inline tables may nest so deep. -/
def value? : Nat → List Char → Option (Value × List Char)
  | depth + 1, '[' :: rest =>
      (items? (value? depth) rest).map fun (items, rest) => (.array items, rest)
  | depth + 1, '\x7b' :: rest => inlineTable? (value? depth) rest
  | _, cs => scalar? cs
termination_by structural depth => depth

/-- Reads the rest of a statement's line. -/
def ended? (statement : Statement) (cs : List Char) : Option (Statement × List Char) :=
  (lineEnd? cs).map (statement, ·)

def statement? (cs : List Char) : Option (Statement × List Char) :=
  match cs with
  | '[' :: '[' :: rest =>
      match key? rest with
      | some (key, ']' :: ']' :: rest) => ended? (.arrayHeader key) rest
      | _ => none
  | '[' :: rest =>
      match key? rest with
      | some (key, ']' :: rest) => ended? (.header key) rest
      | _ => none
  | _ =>
      match pair? (value? (limit - 1)) cs with
      | some ((key, value), rest) => ended? (.pair key value) rest
      | none => none

/-- Reads a line. One that is blank but for a comment makes no statement. -/
def line? (cs : List Char) : Option (List Statement × List Char) :=
  match cs.dropWhile isBlank with
  | [] => some ([], [])
  | '\n' :: rest => some ([], rest)
  | '#' :: rest => (lineEnd? ('#' :: rest)).map ([], ·)
  | start => (statement? start).map fun (statement, rest) => ([statement], rest)

def statements? (cs : List Char) : Option (List Statement) :=
  if cs.isEmpty then some []
  else
    match progress? cs (line? cs) with
    | none => none
    | some (statements, ⟨rest, _⟩) => (statements? rest).map (statements ++ ·)
termination_by cs.length

/-- A mark of the byte order may stand before the text. -/
def dropMark : List Char → List Char
  | '\uFEFF' :: rest => rest
  | cs => cs

/-- Reads a whole text as its root table. -/
def parse? (text : String) : Option Table := do
  let cs ← unifyLines? (dropMark text.toList)
  let document ← Document.ofStatements? (← statements? cs)
  some document.root

end Observe.Toml
