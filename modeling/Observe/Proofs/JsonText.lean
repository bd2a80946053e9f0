import Observe.Json.Parser

namespace Observe.Json

/-- A part that adds a character to whatever the parts after it stand for. -/
def Part.Spells (part : Part) (c : Char) : Prop :=
  ∀ parts, textOf? (part :: parts) = (textOf? parts).map (c :: ·)

theorem Part.char_spells (c : Char) : (Part.char c).Spells c := fun _ => rfl

theorem Part.unit_spells {c : Char} (small : c.toNat < 0xD800) : (Part.unit c.toNat).Spells c := by
  intro parts
  have noLead : isLead c.toNat = false := by simp [isLead]; omega
  have noTrail : isTrail c.toNat = false := by simp [isTrail]; omega
  rw [textOf?.eq_def]
  simp [noLead, noTrail, Char.ofNat_toNat]

theorem unit?_control :
    ∀ n < 0x20, unit? '0' '0' (Nat.digitChar (n / 16)) (Nat.digitChar (n % 16)) = some n := by
  decide

def before (part : Part) : List Part × List Char → List Part × List Char
  | (parts, rest) => (part :: parts, rest)

theorem parts?_escaped {c shown : Char} {after : List Char} (notUnit : shown ≠ 'u')
    (found : escaped? shown = some c) :
    parts? ('\\' :: shown :: after) = (parts? after).map (before (.char c)) := by
  rw [parts?]
  · rw [found]
    cases parts? after <;> rfl
  · rintro _ _ _ _ _ rfl
    exact absurd rfl notUnit

theorem parts?_unit {a b c d : Char} {value : Nat} {after : List Char}
    (found : unit? a b c d = some value) :
    parts? ('\\' :: 'u' :: a :: b :: c :: d :: after) =
      (parts? after).map (before (.unit value)) := by
  rw [parts?, found]
  cases parts? after <;> rfl

theorem parts?_plain {c : Char} {after : List Char} (noQuote : c ≠ '"') (noSlash : c ≠ '\\')
    (visible : 0x20 ≤ c.toNat) :
    parts? (c :: after) = (parts? after).map (before (.char c)) := by
  rw [parts?]
  · rw [if_neg (Nat.not_lt.mpr visible)]
    cases parts? after <;> rfl
  · rintro rfl
    exact noQuote rfl
  · rintro _ _ _ _ _ rfl
    exact absurd rfl noSlash
  · rintro _ _ rfl
    exact absurd rfl noSlash

theorem parts?_escape (c : Char) : ∃ part : Part, part.Spells c ∧
    ∀ after, parts? (escape c ++ after) = (parts? after).map (before part) := by
  -- Seven characters have an escape of their own. Other control characters are written by number.
  by_cases short : c = '"' ∨ c = '\\' ∨ c = '\x08' ∨ c = '\x0c' ∨ c = '\n' ∨ c = '\r' ∨ c = '\t'
  · refine ⟨.char c, Part.char_spells c, fun after => ?_⟩
    rcases short with rfl | rfl | rfl | rfl | rfl | rfl | rfl <;>
      exact parts?_escaped (by decide) rfl
  · obtain ⟨quote, slash, backspace, feed, line, carriage, tab⟩ := by simpa using short
    by_cases control : c.toNat < 0x20
    · refine ⟨.unit c.toNat, Part.unit_spells (by omega), fun after => ?_⟩
      have escaped : escape c = ['\\', 'u', '0', '0', Nat.digitChar (c.toNat / 16),
          Nat.digitChar (c.toNat % 16)] := by
        simp [escape, quote, slash, backspace, feed, line, carriage, tab, control]
      rw [escaped]
      exact parts?_unit (unit?_control c.toNat control)
    · refine ⟨.char c, Part.char_spells c, fun after => ?_⟩
      have escaped : escape c = [c] := by
        simp [escape, quote, slash, backspace, feed, line, carriage, tab, control]
      rw [escaped]
      exact parts?_plain quote slash (Nat.not_lt.mp control)

/-- The characters of a string are read up to its closing quote, whatever they are. -/
theorem parts?_flatMap_escape (text rest : List Char) :
    ∃ parts, parts? (text.flatMap escape ++ '"' :: rest) = some (parts, rest) ∧
      textOf? parts = some text := by
  induction text with
  | nil => exact ⟨[], by rw [List.flatMap_nil, List.nil_append, parts?], rfl⟩
  | cons c text ih =>
      obtain ⟨parts, read, stands⟩ := ih
      obtain ⟨part, spells, readOne⟩ := parts?_escape c
      refine ⟨part :: parts, ?_, ?_⟩
      · rw [List.flatMap_cons, List.append_assoc, readOne, read]
        rfl
      · rw [spells, stands]
        rfl

namespace Token

def isNumber : Token → Bool
  | number _ => true
  | _ => false

theorem read?_quote (text rest : List Char) :
    read? (quote text ++ rest) = some (string (some (String.ofList text)), rest) := by
  obtain ⟨parts, read, stands⟩ := parts?_flatMap_escape text rest
  have written : quote text ++ rest = '"' :: (text.flatMap escape ++ '"' :: rest) := by
    simp [quote]
  rw [written, read?, read]
  simp [stands]

/-- A token ends where it ends, unless it is a number, which more digits would go on with. -/
theorem read?_chars {token : Token} (noNumber : token.isNumber = false) (rest : List Char) :
    read? (token.chars ++ rest) = some (token, rest) := by
  cases token with
  | string text =>
      cases text with
      | none =>
          -- A string without a text is written as a lone surrogate.
          have unpaired : unit? 'd' '8' '0' '0' = some 0xD800 := by decide
          have read : parts? ('\\' :: 'u' :: 'd' :: '8' :: '0' :: '0' :: '"' :: rest) =
              some ([.unit 0xD800], rest) := by
            rw [parts?_unit unpaired, parts?]
            rfl
          change read? ('"' :: '\\' :: 'u' :: 'd' :: '8' :: '0' :: '0' :: '"' :: rest) = _
          rw [read?, read]
          rfl
      | some text => rw [chars, read?_quote, String.ofList_toList]
  | number literal => cases noNumber
  | boolean value => cases value <;> rfl
  | _ => rfl

theorem chars_eq_cons {token : Token} (noNumber : token.isNumber = false) :
    ∃ c rest, token.chars = c :: rest ∧ isBlank c = false := by
  cases token with
  | string text => cases text <;> exact ⟨_, _, rfl, rfl⟩
  | number literal => cases noNumber
  | boolean value => cases value <;> exact ⟨_, _, rfl, rfl⟩
  | _ => exact ⟨_, _, rfl, rfl⟩

theorem readAll?_eq (cs : List Char) :
    readAll? cs =
      match cs.dropWhile isBlank with
      | [] => some []
      | c :: rest =>
          match read? (c :: rest) with
          | none => none
          | some (token, after) => (readAll? after).map (token :: ·) := by
  rw [readAll?.eq_def]
  split <;> rename_i front
  · rw [front]
  · rw [front]
    dsimp only
    split <;> rename_i found
    · rw [found]
    · rw [found]

theorem readAll?_gap {gap : List Char} (blank : ∀ c ∈ gap, isBlank c = true) (cs : List Char) :
    readAll? (gap ++ cs) = readAll? cs := by
  rw [readAll?_eq, readAll?_eq cs, List.dropWhile_append_of_pos blank]

theorem readAll?_chars {token : Token} (noNumber : token.isNumber = false) (cs : List Char) :
    readAll? (token.chars ++ cs) = (readAll? cs).map (token :: ·) := by
  obtain ⟨c, rest, front, visible⟩ := chars_eq_cons noNumber
  have read := read?_chars noNumber cs
  rw [front, List.cons_append] at read ⊢
  rw [readAll?_eq, List.dropWhile_cons_of_neg (by simp [visible])]
  dsimp only
  rw [read]

end Token

namespace Piece

open Token (isBlank readAll? readAll?_gap readAll?_chars)

def token? : Piece → Option Token
  | token lexeme => some lexeme
  | _ => none

/-- The layout of the gaps does not matter, as long as they are blank or empty. -/
theorem readAll?_layout {layout : Piece → List Char} {pieces : List Piece}
    (tokens : ∀ lexeme, layout (token lexeme) = lexeme.chars)
    (gaps : ∀ piece, piece.token? = none → ∀ c ∈ layout piece, isBlank c = true)
    (noNumber : ∀ lexeme, token lexeme ∈ pieces → lexeme.isNumber = false) :
    readAll? (pieces.flatMap layout) = some (pieces.filterMap token?) := by
  induction pieces with
  | nil => rw [List.flatMap_nil, Token.readAll?_eq]; rfl
  | cons piece rest ih =>
      have read := ih fun lexeme member => noNumber lexeme (List.mem_cons_of_mem _ member)
      rw [List.flatMap_cons]
      cases piece with
      | token lexeme =>
          rw [tokens, readAll?_chars (noNumber lexeme List.mem_cons_self), read]
          rfl
      | space => rw [readAll?_gap (gaps space rfl), read]; rfl
      | newline level => rw [readAll?_gap (gaps (newline level) rfl), read]; rfl

variable {pieces : List Piece}

theorem readAll?_chars_eq (noNumber : ∀ lexeme, token lexeme ∈ pieces → lexeme.isNumber = false) :
    readAll? (pieces.flatMap chars) = some (pieces.filterMap token?) := by
  refine readAll?_layout (fun _ => rfl) (fun piece noToken c member => ?_) noNumber
  cases piece with
  | token lexeme => cases noToken
  | space => rw [List.mem_singleton.mp member]; rfl
  | newline level =>
      rcases List.mem_cons.mp member with rfl | padding
      · rfl
      · rw [List.eq_of_mem_replicate padding]; rfl

theorem readAll?_compactChars_eq
    (noNumber : ∀ lexeme, token lexeme ∈ pieces → lexeme.isNumber = false) :
    readAll? (pieces.flatMap compactChars) = some (pieces.filterMap token?) := by
  refine readAll?_layout (fun _ => rfl) (fun piece noToken c member => ?_) noNumber
  cases piece with
  | token lexeme => cases noToken
  | _ => cases member

end Piece

end Observe.Json
