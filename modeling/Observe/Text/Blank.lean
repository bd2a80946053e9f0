namespace Observe.Text

/-- A character lies in one of the inclusive ranges of code points. -/
def within (ranges : List (Nat × Nat)) (c : Char) : Bool :=
  ranges.any fun (first, last) => first ≤ c.toNat && c.toNat ≤ last

def blankRanges : List (Nat × Nat) :=
  [(0x09, 0x0D), (0x20, 0x20), (0x85, 0x85), (0xA0, 0xA0), (0x1680, 0x1680), (0x2000, 0x200A),
    (0x2028, 0x2029), (0x202F, 0x202F), (0x205F, 0x205F), (0x3000, 0x3000)]

/-- The blank characters are those with the Unicode property White_Space. -/
def isBlank (c : Char) : Bool := within blankRanges c

/-- A text of nothing but blanks; the empty text is one. -/
def allBlank (text : String) : Bool := text.toList.all isBlank

def withoutBlanks (text : String) : String :=
  String.ofList (text.toList.filter fun c => ! isBlank c)

end Observe.Text
