import Observe.Expression
import Observe.Token.Lexer

namespace Observe

/-- The tokens that are still to be read, and the number of groups entered and not left. -/
structure Parser where
  remaining : List Token
  depth : Nat
  deriving DecidableEq, Repr

namespace Parser

/-- How deep the groups of a text may nest. -/
def maximalDepth : Nat := 256

/-- A reading that succeeds has used up a token. One that fails says where it stopped. -/
inductive Outcome (α : Type) (given : Nat) where
  | read (value : α) (after : Parser) (shorter : after.remaining.length < given)
  | failed (error : SyntaxError) (after : Parser)

mutual

def element (limit finish : Nat) : (parser : Parser) → Outcome Element parser.remaining.length
  | ⟨[], depth⟩ => .failed (.unexpectedEnd finish elementWanted) ⟨[], depth⟩
  | ⟨⟨.name text, _⟩ :: rest, depth⟩ => .read (.trait text) ⟨rest, depth⟩ (by simp)
  | ⟨⟨.items, _⟩ :: rest, depth⟩ => .read .items ⟨rest, depth⟩ (by simp)
  | ⟨⟨.plus, _⟩ :: rest, depth⟩ =>
      match rest with
      | [] => .failed (.unexpectedEnd finish metadataNameWanted) ⟨[], depth⟩
      | ⟨.name text, _⟩ :: rest =>
          .read (.metadata text) ⟨rest, depth⟩ (by simp only [List.length_cons]; omega)
      | ⟨found, position⟩ :: rest =>
          .failed (.unexpectedToken position found metadataNameWanted) ⟨rest, depth⟩
  | ⟨⟨.openBracket, position⟩ :: rest, depth⟩ =>
      if limit ≤ depth then
        .failed (.nestingTooDeep position limit) ⟨rest, depth⟩
      else
        match branches limit finish ⟨rest, depth + 1⟩ with
        | .failed error after => .failed error after
        | .read _ ⟨[], depth⟩ _ =>
            .failed (.unexpectedEnd finish closeBracketWanted) ⟨[], depth - 1⟩
        | .read inner ⟨⟨found, position⟩ :: rest, depth⟩ shorter =>
            if found = .closeBracket then
              .read (.group inner) ⟨rest, depth - 1⟩
                (by simp only [List.length_cons] at shorter ⊢; omega)
            else
              .failed (.unexpectedToken position found closeBracketWanted) ⟨rest, depth - 1⟩
  | ⟨⟨found, position⟩ :: rest, depth⟩ =>
      .failed (.unexpectedToken position found elementWanted) ⟨rest, depth⟩
termination_by parser => (parser.remaining.length, 0)

def series (limit finish : Nat) (parser : Parser) : Outcome Series parser.remaining.length :=
  match element limit finish parser with
  | .failed error after => .failed error after
  | .read first ⟨[], depth⟩ shorter => .read [⟨first, false⟩] ⟨[], depth⟩ shorter
  | .read first ⟨token :: rest, depth⟩ shorter =>
      match token.kind.notify? with
      | none => .read [⟨first, false⟩] ⟨token :: rest, depth⟩ shorter
      | some notify =>
          match series limit finish ⟨rest, depth⟩ with
          | .failed error after => .failed error after
          | .read others after less =>
              .read (⟨first, notify⟩ :: others) after
                (by simp only [List.length_cons] at shorter less; omega)
termination_by (parser.remaining.length, 1)
decreasing_by
  · exact Prod.Lex.right _ (by decide)
  · apply Prod.Lex.left
    simp only [List.length_cons] at shorter ⊢
    omega

def branches (limit finish : Nat) (parser : Parser) : Outcome Expression parser.remaining.length :=
  match series limit finish parser with
  | .failed error after => .failed error after
  | .read first ⟨[], depth⟩ shorter => .read [first] ⟨[], depth⟩ shorter
  | .read first ⟨token :: rest, depth⟩ shorter =>
      if token.kind = .comma then
        match branches limit finish ⟨rest, depth⟩ with
        | .failed error after => .failed error after
        | .read others after less =>
            .read (first :: others) after (by simp only [List.length_cons] at shorter less; omega)
      else .read [first] ⟨token :: rest, depth⟩ shorter
termination_by (parser.remaining.length, 2)
decreasing_by
  · exact Prod.Lex.right _ (by decide)
  · apply Prod.Lex.left
    simp only [List.length_cons] at shorter ⊢
    omega

end

/-- Reads an expression, after which no token may remain. -/
def expression (limit finish : Nat) (parser : Parser) : Except SyntaxError Expression × Parser :=
  match branches limit finish parser with
  | .failed error after => (.error error, after)
  | .read value ⟨[], depth⟩ _ => (.ok value, ⟨[], depth⟩)
  | .read _ ⟨⟨found, position⟩ :: rest, depth⟩ _ =>
      (.error (.unexpectedToken position found commaOrEndWanted),
        ⟨⟨found, position⟩ :: rest, depth⟩)

def start (tokens : List Token) : Parser := ⟨tokens, 0⟩

/-- The results of a number of readings, each of which begins where the one before stopped. -/
def expressions (limit finish : Nat) : Nat → Parser → List (Except SyntaxError Expression)
  | 0, _ => []
  | count + 1, parser =>
      let (result, after) := expression limit finish parser
      result :: expressions limit finish count after

end Parser

/-- Reads a text whose tokens begin at positions up to its length in bytes. -/
def Expression.parse (text : String) : Except ExpressionError Expression :=
  match Token.tokenize text with
  | .error error => .error (.lexical error)
  | .ok tokens =>
      let finish := Text.byteLength text.toList
      match Parser.expression Parser.maximalDepth finish (.start tokens) with
      | (.error error, _) => .error (.syntactic error)
      | (.ok expression, _) => .ok expression

end Observe
