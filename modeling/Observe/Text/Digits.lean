namespace Observe.Text

def hexDigit? (c : Char) : Option Nat :=
  if '0' ≤ c ∧ c ≤ '9' then some (c.toNat - '0'.toNat)
  else if 'a' ≤ c ∧ c ≤ 'f' then some (c.toNat - 'a'.toNat + 10)
  else if 'A' ≤ c ∧ c ≤ 'F' then some (c.toNat - 'A'.toNat + 10)
  else none

/-- A digit of a base up to sixteen. -/
def isDigitIn (base : Nat) (c : Char) : Bool := (hexDigit? c).any (· < base)

/-- The number that digits write, most significant first. -/
def valueIn (base : Nat) (digits : List Char) : Nat :=
  digits.foldl (fun value c => value * base + (hexDigit? c).getD 0) 0

/-- Reads one decimal digit or more. -/
def digits? (cs : List Char) : Option (List Char × List Char) :=
  match cs.takeWhile Char.isDigit with
  | [] => none
  | first :: more => some (first :: more, cs.dropWhile Char.isDigit)

/-- What is read is the front of the text, and something is read. -/
theorem digits?_append {cs literal rest : List Char} (found : digits? cs = some (literal, rest)) :
    literal ++ rest = cs ∧ literal ≠ [] := by
  unfold digits? at found
  split at found
  · simp at found
  · rename_i first more taken
    cases found
    exact ⟨taken ▸ List.takeWhile_append_dropWhile, by simp⟩

end Observe.Text
