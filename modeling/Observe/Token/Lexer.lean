import Observe.Error
import Observe.Text.Blank
import Observe.Text.Utf8

namespace Observe.Token

open Observe.Text

/-- What is left of a text, and the number of bytes before it. -/
structure Cursor where
  rest : List Char
  position : Nat
  deriving DecidableEq, Repr

inductive Reading where
  | token (token : Token)
  | finished
  | rejected (error : LexicalError)
  deriving DecidableEq, Repr

namespace Cursor

def start (text : String) : Cursor := ⟨text.toList, 0⟩

/-- Moves over the longest run of characters that satisfy the test. -/
def skip (test : Char → Bool) (cursor : Cursor) : Cursor where
  rest := cursor.rest.dropWhile test
  position := cursor.position + byteLength (cursor.rest.takeWhile test)

/-- Reads the token that begins here, if one does. -/
def read (here : Cursor) : Reading × Cursor :=
  match here.rest with
  | [] => (.finished, here)
  | c :: rest =>
      match TokenKind.ofPunctuation? c with
      | some kind => (.token ⟨kind, here.position⟩, ⟨rest, here.position + c.utf8Size⟩)
      | none =>
          if isNameStart c then
            (.token ⟨.ofWord (String.ofList (here.rest.takeWhile isNamePart)), here.position⟩,
              here.skip isNamePart)
          else (.rejected ⟨c, here.position⟩, here)

def next (cursor : Cursor) : Reading × Cursor := (cursor.skip isBlank).read

theorem skip_length_le (test : Char → Bool) (cursor : Cursor) :
    (cursor.skip test).rest.length ≤ cursor.rest.length :=
  (List.dropWhile_suffix test).length_le

theorem read_shorter {here after : Cursor} {token : Token}
    (found : here.read = (.token token, after)) : after.rest.length < here.rest.length := by
  unfold read at found
  split at found
  · simp at found
  · rename_i c rest remaining
    rw [remaining]
    split at found
    · cases found
      simp
    · split at found
      · rename_i starts
        cases found
        have word := skip_length_le isNamePart ⟨rest, here.position⟩
        simp only [skip, remaining, isNamePart_of_isNameStart starts, List.dropWhile_cons_of_pos,
          List.length_cons] at word ⊢
        omega
      · simp at found

theorem next_shorter {cursor after : Cursor} {token : Token}
    (found : cursor.next = (.token token, after)) :
    after.rest.length < cursor.rest.length :=
  Nat.lt_of_lt_of_le (read_shorter found) (cursor.skip_length_le isBlank)

/-- The tokens that can be read before the end or the first error. -/
def scan (cursor : Cursor) : List Token × Option LexicalError :=
  match _found : cursor.next with
  | (.token token, after) =>
      let (tokens, error) := scan after
      (token :: tokens, error)
  | (.finished, _) => ([], none)
  | (.rejected error, _) => ([], some error)
termination_by cursor.rest.length
decreasing_by exact next_shorter ‹_›

/-- The answers to a number of readings, one after the other. -/
def readings : Nat → Cursor → List Reading
  | 0, _ => []
  | count + 1, cursor => cursor.next.1 :: readings count cursor.next.2

end Cursor

def tokenize (text : String) : Except LexicalError (List Token) :=
  match (Cursor.start text).scan with
  | (tokens, none) => .ok tokens
  | (_, some error) => .error error

end Observe.Token
