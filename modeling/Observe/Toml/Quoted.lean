import Observe.Text.Digits

namespace Observe.Toml

open Observe.Text

/-- A character that can stand in a string or a comment as it is. -/
def isPlain (c : Char) : Bool := c = '\t' || (0x20 ≤ c.toNat && c.toNat ≠ 0x7F)

def isBlank (c : Char) : Bool := c = ' ' || c = '\t'

def isGap (c : Char) : Bool := isBlank c || c = '\n'

def charOf? (digits : List Char) : Option Char :=
  let value := valueIn 16 digits
  if digits.all (isDigitIn 16) ∧ value.isValidChar then some (Char.ofNat value) else none

/-- The character that a backslash and this one stand for. -/
def escaped? : Char → Option Char
  | '"' => some '"'
  | '\\' => some '\\'
  | 'b' => some '\x08'
  | 'f' => some '\x0c'
  | 'n' => some '\n'
  | 'r' => some '\r'
  | 't' => some '\t'
  | _ => none

/-- Reads an escape from behind its backslash. -/
def escape? : List Char → Option (Char × List Char)
  | 'u' :: a :: b :: c :: d :: rest => (charOf? [a, b, c, d]).map (·, rest)
  | 'U' :: a :: b :: c :: d :: e :: f :: g :: h :: rest =>
      (charOf? [a, b, c, d, e, f, g, h]).map (·, rest)
  | c :: rest => (escaped? c).map (·, rest)
  | [] => none

theorem escape?_shorter {cs rest : List Char} {c : Char} (found : escape? cs = some (c, rest)) :
    rest.length < cs.length := by
  unfold escape? at found
  split at found
  all_goals try
    obtain ⟨_, _, same⟩ := Option.map_eq_some_iff.mp found
    cases same
    simp only [List.length_cons]
    omega
  simp at found

def basic? (cs : List Char) : Option (List Char × List Char) :=
  match cs with
  | [] => none
  | '"' :: rest => some ([], rest)
  | '\\' :: rest =>
      match _found : escape? rest with
      | some (c, rest) => (basic? rest).map fun (text, rest) => (c :: text, rest)
      | none => none
  | c :: rest =>
      if isPlain c then (basic? rest).map fun (text, rest) => (c :: text, rest) else none
termination_by cs.length
decreasing_by
  · have := escape?_shorter ‹_›
    simp only [List.length_cons]
    omega
  · simp

def literalString? : List Char → Option (List Char × List Char)
  | [] => none
  | c :: rest =>
      if c = '\x27' then some ([], rest)
      else if isPlain c then (literalString? rest).map fun (text, rest) => (c :: text, rest)
      else none

/-- Up to two quotes belong to the text that they end. A backslash at the end of a line drops the
gap up to the next character. -/
def multilineBasic? (cs : List Char) : Option (List Char × List Char) :=
  match cs with
  | [] => none
  | '"' :: '"' :: '"' :: '"' :: '"' :: rest => some (['"', '"'], rest)
  | '"' :: '"' :: '"' :: '"' :: rest => some (['"'], rest)
  | '"' :: '"' :: '"' :: rest => some ([], rest)
  | '\\' :: rest =>
      match _dropped : rest.dropWhile isBlank with
      | '\n' :: more => multilineBasic? (more.dropWhile isGap)
      | _ =>
          match _found : escape? rest with
          | some (c, rest) => (multilineBasic? rest).map fun (text, rest) => (c :: text, rest)
          | none => none
  | c :: rest =>
      if isPlain c ∨ c = '\n' then
        (multilineBasic? rest).map fun (text, rest) => (c :: text, rest)
      else none
termination_by cs.length
decreasing_by
  · have blanks := (List.dropWhile_suffix isBlank (l := rest)).length_le
    have gap := (List.dropWhile_suffix isGap (l := more)).length_le
    rw [‹rest.dropWhile isBlank = _›] at blanks
    simp only [List.length_cons] at blanks ⊢
    omega
  · have := escape?_shorter ‹_›
    simp only [List.length_cons]
    omega
  · simp

def multilineLiteral? : List Char → Option (List Char × List Char)
  | [] => none
  | '\x27' :: '\x27' :: '\x27' :: '\x27' :: '\x27' :: rest => some (['\x27', '\x27'], rest)
  | '\x27' :: '\x27' :: '\x27' :: '\x27' :: rest => some (['\x27'], rest)
  | '\x27' :: '\x27' :: '\x27' :: rest => some ([], rest)
  | c :: rest =>
      if isPlain c ∨ c = '\n' then
        (multilineLiteral? rest).map fun (text, rest) => (c :: text, rest)
      else none

/-- A newline just behind the opening quotes is no part of the text. -/
def dropNewline : List Char → List Char
  | '\n' :: rest => rest
  | cs => cs

/-- What is read of a string from behind its opening quotes. -/
def body? : List Char → Option (List Char × List Char)
  | '"' :: '"' :: '"' :: rest => multilineBasic? (dropNewline rest)
  | '"' :: rest => basic? rest
  | '\x27' :: '\x27' :: '\x27' :: rest => multilineLiteral? (dropNewline rest)
  | '\x27' :: rest => literalString? rest
  | _ => none

/-- Reads a string of any kind with its quotes. -/
def string? (cs : List Char) : Option (String × List Char) :=
  (body? cs).map fun (text, rest) => (String.ofList text, rest)

end Observe.Toml
