import Observe.Json

namespace Observe.Json

/-- A value that was read, and the tokens after it, which are fewer than were given. -/
structure Front (α : Type) (given : Nat) where
  value : α
  rest : List Token
  shorter : rest.length < given

mutual

def value? : (tokens : List Token) → Option (Front Json tokens.length)
  | .null :: rest => some ⟨.null, rest, by simp⟩
  | .boolean value :: rest => some ⟨.boolean value, rest, by simp⟩
  | .number literal :: rest => some ⟨.number literal, rest, by simp⟩
  | .string text :: rest => some ⟨.string text, rest, by simp⟩
  | .openArray :: .closeArray :: rest =>
      some ⟨.array [], rest, by simp only [List.length_cons]; omega⟩
  | .openObject :: .closeObject :: rest =>
      some ⟨.object [], rest, by simp only [List.length_cons]; omega⟩
  | .openArray :: rest =>
      match items? rest with
      | some ⟨items, rest, shorter⟩ =>
          some ⟨.array items, rest, by simp only [List.length_cons]; omega⟩
      | none => none
  | .openObject :: rest =>
      match members? rest with
      | some ⟨members, rest, shorter⟩ =>
          some ⟨.object members, rest, by simp only [List.length_cons]; omega⟩
      | none => none
  | _ => none
termination_by tokens => (tokens.length, 0)

/-- The items of an array that has one at least, and the bracket after them. -/
def items? (tokens : List Token) : Option (Front (List Json) tokens.length) :=
  match value? tokens with
  | some ⟨first, .closeArray :: rest, shorter⟩ =>
      some ⟨[first], rest, by simp only [List.length_cons] at shorter; omega⟩
  | some ⟨first, .comma :: rest, shorter⟩ =>
      match items? rest with
      | some ⟨others, rest, less⟩ =>
          some ⟨first :: others, rest, by simp only [List.length_cons] at shorter; omega⟩
      | none => none
  | _ => none
termination_by (tokens.length, 1)
decreasing_by
  · exact Prod.Lex.right _ (by decide)
  · apply Prod.Lex.left
    simp only [List.length_cons] at shorter
    omega

def members? : (tokens : List Token) → Option (Front (List (Option String × Json)) tokens.length)
  | .string name :: .colon :: tokens =>
      match value? tokens with
      | some ⟨first, .closeObject :: rest, shorter⟩ =>
          some ⟨[(name, first)], rest, by simp only [List.length_cons] at shorter ⊢; omega⟩
      | some ⟨first, .comma :: rest, shorter⟩ =>
          match members? rest with
          | some ⟨others, rest, less⟩ =>
              some ⟨(name, first) :: others, rest,
                by simp only [List.length_cons] at shorter ⊢; omega⟩
          | none => none
      | _ => none
  | _ => none
termination_by tokens => (tokens.length, 1)
decreasing_by
  · apply Prod.Lex.left
    simp only [List.length_cons]
    omega
  · apply Prod.Lex.left
    simp only [List.length_cons] at shorter ⊢
    omega

end

/-- Reads a text that holds one value and blanks. -/
def parse? (text : String) : Option Json :=
  match Token.readAll? text.toList with
  | none => none
  | some tokens =>
      match value? tokens with
      | some ⟨json, [], _⟩ => some json
      | _ => none

end Observe.Json
