import Observe.Text.Digits

namespace Observe.Json

open Observe.Text

/-- A part of a string as written: a character, or a UTF-16 unit given by its number. -/
inductive Part where
  | char (c : Char)
  | unit (value : Nat)
  deriving DecidableEq, Repr

def isLead (unit : Nat) : Bool := 0xD800 ≤ unit && unit < 0xDC00

def isTrail (unit : Nat) : Bool := 0xDC00 ≤ unit && unit < 0xE000

def ofPair (lead trail : Nat) : Char :=
  Char.ofNat (0x10000 + (lead - 0xD800) * 0x400 + (trail - 0xDC00))

/-- The text that the parts stand for. Parts with an unpaired surrogate stand for none. -/
def textOf? : List Part → Option (List Char)
  | [] => some []
  | .char c :: rest => (textOf? rest).map (c :: ·)
  | .unit value :: rest =>
      if isLead value then
        match rest with
        | .unit trail :: rest =>
            if isTrail trail then (textOf? rest).map (ofPair value trail :: ·) else none
        | _ => none
      else if isTrail value then none
      else (textOf? rest).map (Char.ofNat value :: ·)

def unit? (a b c d : Char) : Option Nat :=
  match hexDigit? a, hexDigit? b, hexDigit? c, hexDigit? d with
  | some a, some b, some c, some d => some (a * 0x1000 + b * 0x100 + c * 0x10 + d)
  | _, _, _, _ => none

/-- The character that a backslash and this one stand for. -/
def escaped? : Char → Option Char
  | '"' => some '"'
  | '\\' => some '\\'
  | '/' => some '/'
  | 'b' => some '\x08'
  | 'f' => some '\x0c'
  | 'n' => some '\n'
  | 'r' => some '\r'
  | 't' => some '\t'
  | _ => none

/-- Reads a string of which the opening quote has been read. -/
def parts? : List Char → Option (List Part × List Char)
  | [] => none
  | '"' :: rest => some ([], rest)
  | '\\' :: 'u' :: a :: b :: c :: d :: rest =>
      match unit? a b c d, parts? rest with
      | some value, some (parts, rest) => some (.unit value :: parts, rest)
      | _, _ => none
  | '\\' :: c :: rest =>
      match escaped? c, parts? rest with
      | some c, some (parts, rest) => some (.char c :: parts, rest)
      | _, _ => none
  | c :: rest =>
      if c.toNat < 0x20 then none
      else
        match parts? rest with
        | some (parts, rest) => some (.char c :: parts, rest)
        | none => none

/-- Writes a character between the quotes of a string. -/
def escape (c : Char) : List Char :=
  if c = '"' then ['\\', '"']
  else if c = '\\' then ['\\', '\\']
  else if c = '\x08' then ['\\', 'b']
  else if c = '\x0c' then ['\\', 'f']
  else if c = '\n' then ['\\', 'n']
  else if c = '\r' then ['\\', 'r']
  else if c = '\t' then ['\\', 't']
  else if c.toNat < 0x20 then
    ['\\', 'u', '0', '0', Nat.digitChar (c.toNat / 16), Nat.digitChar (c.toNat % 16)]
  else [c]

def quote (text : List Char) : List Char := '"' :: (text.flatMap escape ++ ['"'])

/-- Reads digits that begin with a zero only if the zero stands alone. -/
def whole? : List Char → Option (List Char × List Char)
  | '0' :: rest => some (['0'], rest)
  | cs => digits? cs

def fraction? : List Char → Option (List Char × List Char)
  | '.' :: rest => (digits? rest).map fun (digits, rest) => ('.' :: digits, rest)
  | cs => some ([], cs)

def sign : List Char → List Char × List Char
  | '+' :: rest => (['+'], rest)
  | '-' :: rest => (['-'], rest)
  | cs => ([], cs)

def exponent? : List Char → Option (List Char × List Char)
  | [] => some ([], [])
  | c :: rest =>
      if c = 'e' ∨ c = 'E' then
        (digits? (sign rest).2).map fun (digits, after) => (c :: ((sign rest).1 ++ digits), after)
      else some ([], c :: rest)

def unsigned? (cs : List Char) : Option (List Char × List Char) := do
  let (whole, cs) ← whole? cs
  let (fraction, cs) ← fraction? cs
  let (exponent, cs) ← exponent? cs
  some (whole ++ fraction ++ exponent, cs)

/-- Reads the characters of a number. -/
def number? : List Char → Option (List Char × List Char)
  | '-' :: rest => (unsigned? rest).map fun (literal, rest) => ('-' :: literal, rest)
  | cs => unsigned? cs

theorem parts?_shorter {cs rest : List Char} {parts : List Part}
    (found : parts? cs = some (parts, rest)) : rest.length < cs.length := by
  fun_induction parts? cs generalizing parts rest with
  | case1 => simp at found
  | case2 => cases found; simp
  | case3 a b c d cs value inner more reading _ ih =>
      cases found
      have := ih reading
      simp only [List.length_cons]
      omega
  | case4 => simp at found
  | case5 c cs _ inner parts more reading _ ih =>
      cases found
      have := ih reading
      simp only [List.length_cons]
      omega
  | case6 => simp at found
  | case7 => simp at found
  | case8 c cs _ _ _ _ inner more reading ih =>
      cases found
      have := ih reading
      simp only [List.length_cons]
      omega
  | case9 => simp at found

theorem whole?_append {cs literal rest : List Char} (found : whole? cs = some (literal, rest)) :
    literal ++ rest = cs ∧ literal ≠ [] := by
  unfold whole? at found
  split at found
  · cases found
    simp
  · exact digits?_append found

theorem fraction?_append {cs literal rest : List Char}
    (found : fraction? cs = some (literal, rest)) : literal ++ rest = cs := by
  unfold fraction? at found
  split at found
  · obtain ⟨⟨digits, after⟩, reading, same⟩ := Option.map_eq_some_iff.mp found
    cases same
    simp [(digits?_append reading).1]
  · cases found
    rfl

theorem sign_append (cs : List Char) : (sign cs).1 ++ (sign cs).2 = cs := by
  unfold sign
  split <;> rfl

theorem exponent?_append {cs literal rest : List Char}
    (found : exponent? cs = some (literal, rest)) : literal ++ rest = cs := by
  unfold exponent? at found
  split at found
  · cases found
    rfl
  · split at found
    · obtain ⟨⟨digits, after⟩, reading, same⟩ := Option.map_eq_some_iff.mp found
      cases same
      simp [(digits?_append reading).1, sign_append]
    · cases found
      rfl

theorem unsigned?_append {cs literal rest : List Char}
    (found : unsigned? cs = some (literal, rest)) : literal ++ rest = cs ∧ literal ≠ [] := by
  unfold unsigned? at found
  obtain ⟨⟨whole, one⟩, wholeRead, found⟩ := Option.bind_eq_some_iff.mp found
  obtain ⟨⟨fraction, two⟩, fractionRead, found⟩ := Option.bind_eq_some_iff.mp found
  obtain ⟨⟨exponent, three⟩, exponentRead, found⟩ := Option.bind_eq_some_iff.mp found
  cases found
  have ⟨wholeText, nonempty⟩ := whole?_append wholeRead
  simp_all [fraction?_append fractionRead, exponent?_append exponentRead]

/-- What is read is the front of the text, and something is read. -/
theorem number?_append {cs literal rest : List Char}
    (found : number? cs = some (literal, rest)) : literal ++ rest = cs ∧ literal ≠ [] := by
  unfold number? at found
  split at found
  · obtain ⟨⟨digits, after⟩, reading, same⟩ := Option.map_eq_some_iff.mp found
    cases same
    simp [(unsigned?_append reading).1]
  · exact unsigned?_append found

end Observe.Json
