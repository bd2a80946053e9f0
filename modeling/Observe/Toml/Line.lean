import Observe.Toml.Quoted

namespace Observe.Toml

/-- Makes each line end in a newline alone. A carriage return in another place is refused. -/
def unifyLines? : List Char → Option (List Char)
  | [] => some []
  | '\r' :: '\n' :: rest => (unifyLines? rest).map ('\n' :: ·)
  | c :: rest => if c = '\r' then none else (unifyLines? rest).map (c :: ·)

/-- Reads blanks and a comment up to the end of the line or of the text. -/
def lineEnd? (cs : List Char) : Option (List Char) :=
  let rest := cs.dropWhile isBlank
  let rest := if rest.head? = some '#' then rest.dropWhile isPlain else rest
  match rest with
  | [] => some []
  | '\n' :: rest => some rest
  | _ => none

/-- Skips blanks, newlines and comments. -/
def skipGap? (cs : List Char) : Option (List Char) :=
  match _skipped : cs.dropWhile isGap with
  | '#' :: rest =>
      match _comment : rest.dropWhile isPlain with
      | '\n' :: more => skipGap? more
      | _ => none
  | rest => some rest
termination_by cs.length
decreasing_by
  have gap := (List.dropWhile_suffix isGap (l := cs)).length_le
  have comment := (List.dropWhile_suffix isPlain (l := rest)).length_le
  rw [‹cs.dropWhile isGap = _›] at gap
  rw [‹rest.dropWhile isPlain = _›] at comment
  simp only [List.length_cons] at gap comment
  omega

/-- A reading that has to use up some of the text. -/
def progress? (given : List Char) (read : Option (α × List Char)) :
    Option (α × { rest : List Char // rest.length < given.length }) :=
  match read with
  | none => none
  | some (value, rest) =>
      if shorter : rest.length < given.length then some (value, ⟨rest, shorter⟩) else none

end Observe.Toml
