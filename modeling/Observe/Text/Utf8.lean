namespace Observe.Text

/-- The number of bytes that the characters take. -/
def byteLength : List Char → Nat
  | [] => 0
  | c :: rest => c.utf8Size + byteLength rest

/-- The number of characters before a byte position, where one ends or begins there. -/
def charsBefore? : Nat → List Char → Option Nat
  | 0, _ => some 0
  | _ + 1, [] => none
  | position + 1, c :: rest =>
      if c.utf8Size ≤ position + 1 then
        (charsBefore? (position + 1 - c.utf8Size) rest).map (· + 1)
      else none

@[simp] theorem byteLength_nil : byteLength [] = 0 := rfl

@[simp] theorem byteLength_cons (c : Char) (rest : List Char) :
    byteLength (c :: rest) = c.utf8Size + byteLength rest := rfl

@[simp] theorem byteLength_append (left right : List Char) :
    byteLength (left ++ right) = byteLength left + byteLength right := by
  induction left with
  | nil => simp
  | cons c rest ih => simp [ih, Nat.add_assoc]

theorem charsBefore?_byteLength (before after : List Char) :
    charsBefore? (byteLength before) (before ++ after) = some before.length := by
  induction before with
  | nil => simp [charsBefore?]
  | cons c rest ih =>
      have positive := c.utf8Size_pos
      obtain ⟨size, sized⟩ : ∃ size, c.utf8Size + byteLength rest = size + 1 :=
        ⟨c.utf8Size + byteLength rest - 1, by omega⟩
      have remaining : size + 1 - c.utf8Size = byteLength rest := by omega
      simp only [byteLength_cons, List.cons_append, sized, charsBefore?]
      rw [if_pos (by omega), remaining, ih]
      simp

/-- The bytes of a text are read as the text. -/
theorem text_of_bytes (text : String) : String.fromUTF8? text.toUTF8 = some text :=
  dif_pos text.isValidUTF8

end Observe.Text
