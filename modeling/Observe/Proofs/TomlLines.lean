import Mathlib.Data.Nat.Digits.Defs
import Mathlib.Data.List.Basic
import Observe.Toml.Reader

namespace Observe.Toml

open Observe.Text

/-- A value that has a plain way to be written: in quotes without escapes, in decimal digits or as a
word. -/
inductive Plain where
  | string (text : String)
  | integer (value : Int)
  | boolean (value : Bool)

namespace Plain

def value : Plain → Value
  | string text => .string text
  | integer value => .integer value
  | boolean value => .boolean value

def decimal : Int → List Char
  | .ofNat value => Nat.toDigits 10 value
  | .negSucc value => '-' :: Nat.toDigits 10 (value + 1)

def word : Bool → List Char
  | true => ['t', 'r', 'u', 'e']
  | false => ['f', 'a', 'l', 's', 'e']

def chars : Plain → List Char
  | string text => '"' :: (text.toList ++ ['"'])
  | integer value => decimal value
  | boolean value => word value

/-- No escape is needed, and an integer has room. -/
def Fits : Plain → Prop
  | string text => ∀ c ∈ text.toList, isPlain c = true ∧ c ≠ '"' ∧ c ≠ '\\'
  | integer value => inRange value = true
  | boolean _ => True

instance : (plain : Plain) → Decidable plain.Fits
  | string text => List.decidableBAll (fun c => isPlain c = true ∧ c ≠ '"' ∧ c ≠ '\\') text.toList
  | integer value => inferInstanceAs (Decidable (inRange value = true))
  | boolean _ => inferInstanceAs (Decidable True)

end Plain

variable {c : Char} {cs digits literal rest text : List Char} {plain : Plain}

theorem hexDigit?_of_isDigit (digit : c.isDigit = true) :
    hexDigit? c = some (c.toNat - '0'.toNat) := by
  have range : '0' ≤ c ∧ c ≤ '9' := by
    simpa [Char.isDigit, Char.le_def, UInt32.le_iff_toNat_le] using digit
  rw [hexDigit?, if_pos range]

theorem foldl_digits (decimal : ∀ c ∈ digits, c.isDigit = true) (start : Nat) :
    digits.foldl (fun value c => value * 10 + (hexDigit? c).getD 0) start =
      Nat.ofDigitChars 10 digits start := by
  induction digits generalizing start with
  | nil => simp
  | cons c rest ih =>
      obtain ⟨digit, decimalRest⟩ := List.forall_mem_cons.mp decimal
      rw [List.foldl_cons, ih decimalRest, Nat.ofDigitChars_cons, hexDigit?_of_isDigit digit,
        Option.getD_some, Nat.mul_comm]

theorem isDigit_toDigits (value : Nat) : ∀ c ∈ Nat.toDigits 10 value, c.isDigit = true :=
  fun _ member => Nat.isDigit_of_mem_toDigits (by decide) (by decide) member

/-- A zero is written first only if it stands alone. -/
theorem toDigits_zero_first {value : Nat} (first : Nat.toDigits 10 value = '0' :: rest) :
    rest = [] := by
  induction value using Nat.strongRecOn generalizing rest with
  | ind value ih =>
      by_cases small : value < 10
      · rw [Nat.toDigits_of_lt_base small] at first
        exact (List.cons.inj first).2.symm
      · have large : 10 ≤ value := Nat.le_of_not_lt small
        rw [Nat.toDigits_of_base_le (by decide) large] at first
        cases front : Nat.toDigits 10 (value / 10) with
        | nil => exact absurd front Nat.toDigits_ne_nil
        | cons c more =>
            rw [front, List.cons_append, List.cons.injEq] at first
            obtain ⟨rfl, _⟩ := first
            obtain rfl := ih (value / 10) (by omega) front
            have none := congrArg (Nat.ofDigitChars 10 · 0) front
            rw [Nat.ofDigitChars_ten_toDigits] at none
            have zero : value / 10 = 0 := none
            omega

theorem ungroup?_digits (nonempty : digits ≠ []) (decimal : ∀ c ∈ digits, c.isDigit = true) :
    ungroup? Char.isDigit digits = some digits := by
  induction digits with
  | nil => exact absurd rfl nonempty
  | cons c rest ih =>
      obtain ⟨digit, decimalRest⟩ := List.forall_mem_cons.mp decimal
      cases rest with
      | nil => rw [ungroup?, if_pos digit]
      | cons d more =>
          rw [ungroup?, if_pos digit, ih (List.cons_ne_nil _ _) decimalRest, Option.map_some]
          · simp
          · intro behind grouped
            rw [(List.cons.inj grouped).1] at decimalRest
            exact absurd (decimalRest '_' List.mem_cons_self) (by decide)

theorem decimalDigits?_toDigits (value : Nat) :
    decimalDigits? (Nat.toDigits 10 value) = some (Nat.toDigits 10 value) := by
  rw [decimalDigits?, ungroup?_digits Nat.toDigits_ne_nil (isDigit_toDigits value)]
  split
  · rename_i d more first
    cases toDigits_zero_first (Option.some.inj first)
  · rfl

theorem valueIn_toDigits (value : Nat) : valueIn 10 (Nat.toDigits 10 value) = value := by
  rw [valueIn, foldl_digits (isDigit_toDigits value), Nat.ofDigitChars_ten_toDigits]

theorem splitSign_digits (decimal : ∀ c ∈ digits, c.isDigit = true) :
    splitSign digits = (false, digits) := by
  unfold splitSign
  split
  · exact absurd (decimal '+' List.mem_cons_self) (by decide)
  · exact absurd (decimal '-' List.mem_cons_self) (by decide)
  · rfl

theorem decimal?_decimal (value : Int) : decimal? (Plain.decimal value) = some value := by
  cases value with
  | ofNat value =>
      rw [Plain.decimal, decimal?, splitSign_digits (isDigit_toDigits value)]
      simp [decimalDigits?_toDigits, valueIn_toDigits]
  | negSucc value =>
      rw [Plain.decimal, decimal?, splitSign]
      simp [decimalDigits?_toDigits, valueIn_toDigits, Int.negSucc_eq]

/-- A decimal integer begins with a digit or a minus, and goes on with digits. -/
theorem decimal_eq_cons (value : Int) :
    ∃ c digits, Plain.decimal value = c :: digits ∧ (c.isDigit = true ∨ c = '-') ∧
      ∀ c ∈ digits, c.isDigit = true := by
  cases value with
  | ofNat value =>
      have decimal := isDigit_toDigits value
      cases digits : Nat.toDigits 10 value with
      | nil => exact absurd digits Nat.toDigits_ne_nil
      | cons c rest =>
          rw [digits] at decimal
          obtain ⟨first, others⟩ := List.forall_mem_cons.mp decimal
          exact ⟨c, rest, digits, .inl first, others⟩
  | negSucc value => exact ⟨'-', _, rfl, .inr rfl, isDigit_toDigits _⟩

theorem ne_of_begins {d : Char} (begins : c.isDigit = true ∨ c = '-')
    (other : ¬ (d.isDigit = true ∨ d = '-')) : c ≠ d := by
  rintro rfl
  exact other begins

theorem integer?_decimal {value : Int} (room : inRange value = true) :
    integer? (Plain.decimal value) = some value := by
  obtain ⟨c, digits, written, _, decimal⟩ := decimal_eq_cons value
  have read := decimal?_decimal value
  have other {letter : Char} {more : List Char} (based : c :: digits = '0' :: letter :: more)
      (noDigit : letter.isDigit = false) : False := by
    rw [(List.cons.inj based).2] at decimal
    rw [decimal letter List.mem_cons_self] at noDigit
    cases noDigit
  rw [written] at read ⊢
  unfold integer?
  split
  · rename_i more based
    exact (other based (by decide)).elim
  · rename_i more based
    exact (other based (by decide)).elim
  · rename_i more based
    exact (other based (by decide)).elim
  · rw [read, Option.filter_some, room, if_pos rfl]

theorem ofLiteral?_decimal {value : Int} (room : inRange value = true) :
    ofLiteral? (Plain.decimal value) = some (.integer value) := by
  have read := integer?_decimal room
  obtain ⟨c, digits, written, begins, _⟩ := decimal_eq_cons value
  rw [written] at read ⊢
  rw [ofLiteral?, if_neg, if_neg, read]
  · exact fun same => ne_of_begins begins (by decide) (List.cons.inj same).1
  · exact fun same => ne_of_begins begins (by decide) (List.cons.inj same).1

theorem takeWhile_run {accepts : Char → Bool} (run : ∀ c ∈ text, accepts c = true)
    (stopped : ∀ c ∈ rest.head?, accepts c = false) :
    (text ++ rest).takeWhile accepts = text := by
  rw [List.takeWhile_append_of_pos run]
  cases rest with
  | nil => exact List.append_nil text
  | cons c rest => rw [List.takeWhile_cons_of_neg (by simp [stopped c rfl]), List.append_nil]

theorem dropWhile_run {accepts : Char → Bool} (run : ∀ c ∈ text, accepts c = true)
    (stopped : ∀ c ∈ rest.head?, accepts c = false) :
    (text ++ rest).dropWhile accepts = rest := by
  rw [List.dropWhile_append_of_pos run]
  cases rest with
  | nil => rfl
  | cons c rest => rw [List.dropWhile_cons_of_neg (by simp [stopped c rfl])]

/-- The line ends here, in a newline or with the text. -/
def EndsLine (rest : List Char) : Prop := ∀ c ∈ rest.head?, c = '\n'

theorem EndsLine.nil : EndsLine [] := fun _ none => nomatch none

theorem EndsLine.newline (rest : List Char) : EndsLine ('\n' :: rest) := by
  intro c first
  exact (Option.some.inj first).symm

theorem EndsLine.stops {accepts : Char → Bool} (ends : EndsLine rest)
    (stopped : accepts '\n' = false) : ∀ c ∈ rest.head?, accepts c = false :=
  fun c first => ends c first ▸ stopped

theorem isLiteral_of_isDigit (digit : c.isDigit = true) : isLiteral c = true := by
  simp [isLiteral, Char.isAlphanum, digit]

theorem literalValue?_line {value : Value} (literals : ∀ c ∈ literal, isLiteral c = true)
    (read : ofLiteral? literal = some value) (ends : EndsLine rest) :
    literalValue? (literal ++ rest) = some (value, rest) := by
  have stopped := ends.stops (show isLiteral '\n' = false by decide)
  rw [literalValue?, takeWhile_run literals stopped, dropWhile_run literals stopped, read]
  dsimp only
  split
  · cases ends ' ' rfl
  · rfl

theorem basic?_plain (fits : ∀ c ∈ text, isPlain c = true ∧ c ≠ '"' ∧ c ≠ '\\')
    (rest : List Char) : basic? (text ++ '"' :: rest) = some (text, rest) := by
  induction text with
  | nil => rw [List.nil_append, basic?]
  | cons c more ih =>
      obtain ⟨⟨plain, noQuote, noEscape⟩, fitsMore⟩ := List.forall_mem_cons.mp fits
      rw [List.cons_append, basic?, if_pos plain, ih fitsMore, Option.map_some]
      · exact fun quote => noQuote quote
      · exact fun escape => noEscape escape

/-- A quote after plain text and before the end of the line is not one of three. -/
theorem body?_plain (fits : ∀ c ∈ text, isPlain c = true ∧ c ≠ '"' ∧ c ≠ '\\')
    (ends : EndsLine rest) :
    body? ('"' :: (text ++ '"' :: rest)) = some (text, rest) := by
  have read := basic?_plain fits rest
  unfold body?
  split
  · rename_i more quotes
    cases text with
    | nil =>
        obtain ⟨_, third⟩ := List.cons.inj (List.cons.inj quotes).2
        rw [third] at ends
        cases ends '"' rfl
    | cons c behind =>
        have first := fits c List.mem_cons_self
        exact absurd (List.cons.inj (List.cons.inj quotes).2).1 first.2.1
  · rename_i more _ same
    rw [(List.cons.inj same).2] at read
    exact read
  · rename_i same
    cases (List.cons.inj same).1
  · rename_i same
    cases (List.cons.inj same).1
  · rename_i _ other _ _
    exact absurd rfl (other _)

theorem string?_plain {text : String} (fits : (Plain.string text).Fits) (ends : EndsLine rest) :
    string? ('"' :: (text.toList ++ '"' :: rest)) = some (text, rest) := by
  rw [string?, body?_plain fits ends]
  exact congrArg some (Prod.ext String.ofList_toList rfl)

/-- What a plain value begins with tells it from an array, an inline table and a blank. -/
theorem Plain.chars_eq_cons (plain : Plain) :
    ∃ c cs, plain.chars = c :: cs ∧ c ≠ '[' ∧ c ≠ '\x7b' ∧ isBlank c = false := by
  cases plain with
  | string text => exact ⟨'"', _, rfl, by decide⟩
  | boolean value => cases value <;> exact ⟨_, _, rfl, by decide⟩
  | integer value =>
      obtain ⟨c, digits, written, begins, _⟩ := decimal_eq_cons value
      refine ⟨c, digits, written, ne_of_begins begins (by decide),
        ne_of_begins begins (by decide), ?_⟩
      rw [isBlank, Bool.or_eq_false_iff, decide_eq_false_iff_not, decide_eq_false_iff_not]
      exact ⟨ne_of_begins begins (by decide), ne_of_begins begins (by decide)⟩

theorem scalar?_literal (noQuote : c ≠ '"') (noApostrophe : c ≠ '\x27') :
    scalar? (c :: cs) = literalValue? (c :: cs) := by
  unfold scalar?
  split
  · rename_i same
    exact absurd (List.cons.inj same).1 noQuote
  · rename_i same
    exact absurd (List.cons.inj same).1 noApostrophe
  · rfl

theorem scalar?_plain (fits : plain.Fits) (ends : EndsLine rest) :
    scalar? (plain.chars ++ rest) = some (plain.value, rest) := by
  cases plain with
  | string text =>
      have read := string?_plain fits ends
      rw [Plain.chars, List.cons_append, List.append_assoc, List.singleton_append, scalar?, read]
      rfl
  | integer value =>
      have read := ofLiteral?_decimal fits
      obtain ⟨c, digits, written, begins, decimal⟩ := decimal_eq_cons value
      rw [written] at read
      have literals : ∀ d ∈ c :: digits, isLiteral d = true := by
        refine List.forall_mem_cons.mpr
          ⟨?_, fun d member => isLiteral_of_isDigit (decimal d member)⟩
        rcases begins with digit | rfl
        · exact isLiteral_of_isDigit digit
        · decide
      rw [Plain.chars, written, List.cons_append, scalar?_literal]
      · exact literalValue?_line literals read ends
      · exact ne_of_begins begins (by decide)
      · exact ne_of_begins begins (by decide)
  | boolean value =>
      have literals : (Plain.word value).all isLiteral = true := by cases value <;> decide
      have read : ofLiteral? (Plain.word value) = some (.boolean value) := by cases value <;> rfl
      refine Eq.trans ?_ (literalValue?_line (List.all_eq_true.mp literals) read ends)
      cases value <;> rfl

theorem value?_plain (fits : plain.Fits) (depth : Nat) (ends : EndsLine rest) :
    value? depth (plain.chars ++ rest) = some (plain.value, rest) := by
  have read := scalar?_plain fits ends
  obtain ⟨c, cs, written, noArray, noTable, _⟩ := plain.chars_eq_cons
  rw [written, List.cons_append] at read ⊢
  unfold value?
  split
  · rename_i same
    exact absurd (List.cons.inj same).1 noArray
  · rename_i same
    exact absurd (List.cons.inj same).1 noTable
  · exact read

structure IsBareKey (name : String) : Prop where
  nonempty : name.toList ≠ []
  bare : ∀ c ∈ name.toList, isBare c = true

instance (name : String) : Decidable (IsBareKey name) :=
  decidable_of_iff (name.toList ≠ [] ∧ name.toList.all isBare = true)
    ⟨fun ⟨nonempty, bare⟩ => ⟨nonempty, List.all_eq_true.mp bare⟩,
      fun ⟨nonempty, bare⟩ => ⟨nonempty, List.all_eq_true.mpr bare⟩⟩

variable {name : String}

theorem bare?_key (key : IsBareKey name) (stopped : isBare c = false) (rest : List Char) :
    bare? (name.toList ++ c :: rest) = some (name, c :: rest) := by
  have stops : ∀ d ∈ (c :: rest).head?, isBare d = false :=
    fun d first => Option.some.inj first ▸ stopped
  rw [bare?, takeWhile_run key.bare stops, dropWhile_run key.bare stops]
  split
  · rename_i nothing
    exact absurd nothing key.nonempty
  · rw [String.ofList_toList]

theorem ne_of_isBare {d : Char} (bare : isBare c = true) (other : isBare d = false) : c ≠ d := by
  rintro rfl
  rw [bare] at other
  cases other

/-- What a bare key begins with tells it from a quoted key, a header, a comment and a mark. -/
theorem cons_ne_of_isBare {d : Char} {ds : List Char} (bare : isBare c = true)
    (other : isBare d = false) : c :: cs ≠ d :: ds :=
  fun same => ne_of_isBare bare other (List.cons.inj same).1

theorem IsBareKey.eq_cons (key : IsBareKey name) :
    ∃ c cs, name.toList = c :: cs ∧ isBare c = true := by
  cases chars : name.toList with
  | nil => exact absurd chars key.nonempty
  | cons c cs => exact ⟨c, cs, rfl, key.bare c (chars ▸ List.mem_cons_self)⟩

theorem dropWhile_isBlank_bare (bare : isBare c = true) (cs : List Char) :
    (c :: cs).dropWhile isBlank = c :: cs := by
  apply List.dropWhile_cons_of_neg
  rw [isBlank, Bool.or_eq_true, decide_eq_true_eq, decide_eq_true_eq, not_or]
  exact ⟨ne_of_isBare bare (by decide), ne_of_isBare bare (by decide)⟩

theorem keyPart?_bare (key : IsBareKey name) (rest : List Char) :
    keyPart? (name.toList ++ ' ' :: rest) = some (name, ' ' :: rest) := by
  have read := bare?_key key (show isBare ' ' = false by decide) rest
  obtain ⟨c, cs, chars, bare⟩ := key.eq_cons
  rw [chars, List.cons_append] at read ⊢
  unfold keyPart?
  split
  · rename_i same
    exact absurd same (cons_ne_of_isBare bare (by decide))
  · rename_i same
    exact absurd same (cons_ne_of_isBare bare (by decide))
  · exact read

theorem progress?_shorter {α : Type} {value : α} (shorter : rest.length < cs.length) :
    progress? cs (some (value, rest)) = some (value, ⟨rest, shorter⟩) := by
  rw [progress?, dif_pos shorter]

theorem key?_bare (key : IsBareKey name) (rest : List Char) :
    key? (name.toList ++ ' ' :: '=' :: rest) = some (⟨[], name⟩, '=' :: rest) := by
  have part := keyPart?_bare key ('=' :: rest)
  have parts : keyParts? (name.toList ++ ' ' :: '=' :: rest) = some ([name], '=' :: rest) := by
    have shorter : (' ' :: '=' :: rest).length < (name.toList ++ ' ' :: '=' :: rest).length := by
      have some := List.length_pos_iff.mpr key.nonempty
      rw [List.length_append]
      omega
    obtain ⟨c, cs, chars, bare⟩ := key.eq_cons
    rw [chars, List.cons_append] at part shorter ⊢
    rw [keyParts?, dropWhile_isBlank_bare bare, part, progress?_shorter shorter]
    rfl
  rw [key?, parts]
  rfl

/-- A key and a value, without the end of the line. -/
def pairChars (name : String) (plain : Plain) : List Char :=
  name.toList ++ ' ' :: '=' :: ' ' :: plain.chars

def lineChars (name : String) (plain : Plain) : List Char :=
  name.toList ++ ' ' :: '=' :: ' ' :: (plain.chars ++ ['\n'])

theorem lineChars_append (name : String) (plain : Plain) (rest : List Char) :
    lineChars name plain ++ rest = pairChars name plain ++ '\n' :: rest := by
  simp [lineChars, pairChars]

theorem pair?_plain (key : IsBareKey name) (fits : plain.Fits) (depth : Nat)
    (ends : EndsLine rest) :
    pair? (value? depth) (pairChars name plain ++ rest) =
      some ((⟨[], name⟩, plain.value), rest) := by
  have read := key?_bare key (' ' :: (plain.chars ++ rest))
  have value := value?_plain fits depth ends
  obtain ⟨c, cs, written, _, _, noBlank⟩ := plain.chars_eq_cons
  have skipped : (' ' :: (plain.chars ++ rest)).dropWhile isBlank = plain.chars ++ rest := by
    rw [List.dropWhile_cons_of_pos (by decide), written, List.cons_append,
      List.dropWhile_cons_of_neg (by simp [noBlank])]
  have whole : pairChars name plain ++ rest =
      name.toList ++ ' ' :: '=' :: ' ' :: (plain.chars ++ rest) := by
    simp [pairChars]
  rw [whole, pair?, read]
  simp only [skipped, value, Option.map_some]

theorem pairChars_eq_cons (key : IsBareKey name) (plain : Plain) :
    ∃ c cs, pairChars name plain = c :: cs ∧ isBare c = true := by
  obtain ⟨c, cs, chars, bare⟩ := key.eq_cons
  rw [pairChars, chars, List.cons_append]
  exact ⟨c, _, rfl, bare⟩

theorem lineEnd?_of_ends (ends : EndsLine rest) : lineEnd? rest = some rest.tail := by
  cases rest with
  | nil => rfl
  | cons c rest =>
      obtain rfl := ends c rfl
      rfl

theorem statement?_plain (key : IsBareKey name) (fits : plain.Fits) (ends : EndsLine rest) :
    statement? (pairChars name plain ++ rest) =
      some (.pair ⟨[], name⟩ plain.value, rest.tail) := by
  have pair := pair?_plain key fits (limit - 1) ends
  obtain ⟨c, cs, chars, bare⟩ := pairChars_eq_cons key plain
  rw [chars, List.cons_append] at pair ⊢
  unfold statement?
  split
  · rename_i same
    exact absurd same (cons_ne_of_isBare bare (by decide))
  · rename_i same
    exact absurd same (cons_ne_of_isBare bare (by decide))
  · rw [pair]
    dsimp only
    rw [ended?, lineEnd?_of_ends ends]
    rfl

theorem line?_plain (key : IsBareKey name) (fits : plain.Fits) (ends : EndsLine rest) :
    line? (pairChars name plain ++ rest) =
      some ([.pair ⟨[], name⟩ plain.value], rest.tail) := by
  have statement := statement?_plain key fits ends
  obtain ⟨c, cs, chars, bare⟩ := pairChars_eq_cons key plain
  rw [chars, List.cons_append] at statement ⊢
  unfold line?
  rw [dropWhile_isBlank_bare bare]
  split
  · rename_i same
    cases same
  · rename_i same
    exact absurd same (cons_ne_of_isBare bare (by decide))
  · rename_i same
    exact absurd same (cons_ne_of_isBare bare (by decide))
  · rw [statement]
    rfl

theorem statements?_cons (key : IsBareKey name) (fits : plain.Fits) (ends : EndsLine rest) :
    statements? (pairChars name plain ++ rest) =
      (statements? rest.tail).map (.pair ⟨[], name⟩ plain.value :: ·) := by
  have read := line?_plain key fits ends
  have nonempty : pairChars name plain ≠ [] := by simp [pairChars]
  have shorter : rest.tail.length < (pairChars name plain ++ rest).length := by
    have some := List.length_pos_iff.mpr nonempty
    rw [List.length_append, List.length_tail]
    omega
  rw [statements?, if_neg (by simp [nonempty]), read, progress?_shorter shorter]
  rfl

variable {pairs : List (String × Plain)}

def textChars (pairs : List (String × Plain)) : List Char :=
  pairs.flatMap fun pair => lineChars pair.1 pair.2

/-- Keys that are written without quotes, and values that are written plainly. -/
def AllPlain (pairs : List (String × Plain)) : Prop :=
  ∀ pair ∈ pairs, IsBareKey pair.1 ∧ pair.2.Fits

instance (pairs : List (String × Plain)) : Decidable (AllPlain pairs) :=
  inferInstanceAs (Decidable (∀ pair ∈ pairs, IsBareKey pair.1 ∧ pair.2.Fits))

def entriesOf (pairs : List (String × Plain)) : List (String × Value) :=
  pairs.map fun pair => (pair.1, pair.2.value)

theorem putEntry_fresh {entries : List (String × Value)} (fresh : name ∉ entries.map Prod.fst)
    (value : Value) : Table.putEntry name value entries = entries ++ [(name, value)] := by
  induction entries with
  | nil => rfl
  | cons entry rest ih =>
      obtain ⟨key, old⟩ := entry
      have distinct := (List.ne_of_not_mem_cons fresh).symm
      rw [Table.putEntry, if_neg distinct, ih (List.not_mem_of_not_mem_cons fresh),
        List.cons_append]

theorem find?_fresh {entries : List (String × Value)} (fresh : name ∉ entries.map Prod.fst) :
    Table.find? ⟨.header, entries⟩ name = none := by
  rw [Table.find?, List.lookup_eq_none_iff]
  intro entry member
  rw [bne_iff_ne]
  rintro rfl
  exact fresh (List.mem_map_of_mem member)

/-- A key without dots is added at the end of the root. -/
theorem add?_pair {entries : List (String × Value)} (fresh : name ∉ entries.map Prod.fst)
    (value : Value) :
    Document.add? ⟨⟨.header, entries⟩, []⟩ (.pair ⟨[], name⟩ value) =
      some ⟨⟨.header, entries ++ [(name, value)]⟩, []⟩ := by
  have absent := find?_fresh fresh
  simp only [Document.add?, Table.change?, Table.define?]
  simp [absent, Table.put, putEntry_fresh fresh]

theorem foldlM_add?_plain {entries : List (String × Value)}
    (distinct : (entries.map Prod.fst ++ pairs.map Prod.fst).Nodup) :
    (pairs.map fun pair => Statement.pair ⟨[], pair.1⟩ pair.2.value).foldlM Document.add?
        ⟨⟨.header, entries⟩, []⟩ =
      some ⟨⟨.header, entries ++ entriesOf pairs⟩, []⟩ := by
  induction pairs generalizing entries with
  | nil => simp [entriesOf]
  | cons pair rest ih =>
      have fresh : pair.1 ∉ entries.map Prod.fst := by
        intro member
        exact (List.nodup_append.mp distinct).2.2 _ member _ List.mem_cons_self rfl
      have distinctRest : ((entries ++ [(pair.1, pair.2.value)]).map Prod.fst ++
          rest.map Prod.fst).Nodup := by
        rw [List.map_append, List.append_assoc]
        exact distinct
      rw [List.map_cons, List.foldlM_cons, add?_pair fresh]
      change (rest.map _).foldlM Document.add? _ = _
      rw [ih distinctRest, entriesOf, entriesOf, List.map_cons, List.append_assoc,
        List.singleton_append]

/-- What holds no carriage return is not changed. -/
theorem unifyLines?_append (noReturn : '\r' ∉ text) (rest : List Char) :
    unifyLines? (text ++ rest) = (unifyLines? rest).map (text ++ ·) := by
  induction text with
  | nil => simp
  | cons c more ih =>
      have other := (List.ne_of_not_mem_cons noReturn).symm
      rw [List.cons_append, unifyLines?, if_neg other, ih (List.not_mem_of_not_mem_cons noReturn),
        Option.map_map]
      · rfl
      · exact fun _ carriage => absurd carriage other

theorem Plain.noReturn (fits : plain.Fits) : '\r' ∉ plain.chars := by
  cases plain with
  | string text =>
      intro member
      have inside : '\r' ∈ text.toList := by simpa [chars] using member
      exact absurd (fits '\r' inside).1 (by decide)
  | integer value =>
      obtain ⟨c, digits, written, begins, decimal⟩ := decimal_eq_cons value
      rw [chars, written, List.mem_cons, not_or]
      refine ⟨(ne_of_begins begins (by decide)).symm, fun member => ?_⟩
      exact absurd (decimal '\r' member) (by decide)
  | boolean value => cases value <;> decide

theorem noReturn_pairChars (key : IsBareKey name) (fits : plain.Fits) :
    '\r' ∉ pairChars name plain := by
  intro member
  rw [pairChars, List.mem_append] at member
  rcases member with inKey | behind
  · exact absurd (key.bare '\r' inKey) (by decide)
  · have inValue : '\r' ∈ plain.chars := by simpa using behind
    exact Plain.noReturn fits inValue

/-- A text that has a line for each of some keys and values. A carriage return may stand before the
newline of a line, and the last line may have no newline. -/
inductive Lists : List (String × Plain) → List Char → Prop
  | nothing : Lists [] []
  | line (name : String) (plain : Plain) {pairs : List (String × Plain)} {cs : List Char}
      (others : Lists pairs cs) : Lists ((name, plain) :: pairs) (pairChars name plain ++ '\n' :: cs)
  | carriageLine (name : String) (plain : Plain) {pairs : List (String × Plain)} {cs : List Char}
      (others : Lists pairs cs) :
      Lists ((name, plain) :: pairs) (pairChars name plain ++ '\r' :: '\n' :: cs)
  | last (name : String) (plain : Plain) : Lists [(name, plain)] (pairChars name plain)

theorem lists_textChars (pairs : List (String × Plain)) : Lists pairs (textChars pairs) := by
  induction pairs with
  | nil => exact .nothing
  | cons pair rest ih =>
      rw [textChars, List.flatMap_cons, lineChars_append]
      exact .line pair.1 pair.2 ih

/-- The statements of a text after its lines have been unified. -/
def unified? (cs : List Char) : Option (List Statement) := (unifyLines? cs).bind statements?

theorem unified?_line (key : IsBareKey name) (fits : plain.Fits) (rest : List Char) :
    unified? (pairChars name plain ++ '\n' :: rest) =
      (unified? rest).map (.pair ⟨[], name⟩ plain.value :: ·) := by
  have kept : '\r' ∉ ['\n'] := by decide
  have newline := unifyLines?_append kept rest
  rw [List.singleton_append] at newline
  rw [unified?, unifyLines?_append (noReturn_pairChars key fits), newline, unified?]
  cases unifyLines? rest with
  | none => rfl
  | some unified => exact statements?_cons key fits (.newline unified)

theorem unified?_carriageLine (key : IsBareKey name) (fits : plain.Fits) (rest : List Char) :
    unified? (pairChars name plain ++ '\r' :: '\n' :: rest) =
      unified? (pairChars name plain ++ '\n' :: rest) := by
  rw [unified?, unified?, unifyLines?_append (noReturn_pairChars key fits),
    unifyLines?_append (noReturn_pairChars key fits)]
  rfl

theorem unified?_nil : unified? [] = some [] := by
  change statements? [] = some []
  rw [statements?]
  rfl

theorem unified?_last (key : IsBareKey name) (fits : plain.Fits) :
    unified? (pairChars name plain) = some [.pair ⟨[], name⟩ plain.value] := by
  have unify := unifyLines?_append (noReturn_pairChars key fits) []
  have read := statements?_cons key fits .nil
  have nothing : statements? [] = some [] := unified?_nil
  rw [List.append_nil] at unify read
  rw [unified?, unify]
  change statements? (pairChars name plain ++ []) = _
  rw [List.append_nil, read, List.tail_nil, nothing]
  rfl

theorem Lists.unified? (lists : Lists pairs cs) (all : AllPlain pairs) :
    unified? cs = some (pairs.map fun pair => .pair ⟨[], pair.1⟩ pair.2.value) := by
  induction lists with
  | nothing => exact unified?_nil
  | line name plain _ ih =>
      obtain ⟨⟨key, fits⟩, others⟩ := List.forall_mem_cons.mp all
      rw [unified?_line key fits, ih others]
      rfl
  | carriageLine name plain _ ih =>
      obtain ⟨⟨key, fits⟩, others⟩ := List.forall_mem_cons.mp all
      rw [unified?_carriageLine key fits, unified?_line key fits, ih others]
      rfl
  | last name plain =>
      obtain ⟨key, fits⟩ := List.forall_mem_singleton.mp all
      exact unified?_last key fits

theorem dropMark_pairChars (key : IsBareKey name) (plain : Plain) (rest : List Char) :
    dropMark (pairChars name plain ++ rest) = pairChars name plain ++ rest := by
  obtain ⟨c, cs, chars, bare⟩ := pairChars_eq_cons key plain
  rw [chars, List.cons_append]
  unfold dropMark
  split
  · rename_i same
    exact absurd same (cons_ne_of_isBare bare (by decide))
  · rfl

theorem Lists.dropMark (lists : Lists pairs cs) (all : AllPlain pairs) : dropMark cs = cs := by
  cases lists with
  | nothing => rfl
  | line name plain _ => exact dropMark_pairChars (List.forall_mem_cons.mp all).1.1 plain _
  | carriageLine name plain _ => exact dropMark_pairChars (List.forall_mem_cons.mp all).1.1 plain _
  | last name plain =>
      have kept := dropMark_pairChars (List.forall_mem_cons.mp all).1.1 plain []
      rwa [List.append_nil] at kept

/-- Lines of distinct bare keys and plain values are read as a table of just these. -/
theorem parse?_lists {text : String} (lists : Lists pairs text.toList) (all : AllPlain pairs)
    (distinct : (pairs.map Prod.fst).Nodup) :
    parse? text = some ⟨.header, entriesOf pairs⟩ := by
  obtain ⟨unified, unify, statements⟩ := Option.bind_eq_some_iff.mp (lists.unified? all)
  have document : Document.ofStatements?
      (pairs.map fun pair => .pair ⟨[], pair.1⟩ pair.2.value) =
      some ⟨⟨.header, entriesOf pairs⟩, []⟩ :=
    foldlM_add?_plain distinct
  rw [parse?, lists.dropMark all]
  simp [unify, statements, document]

end Observe.Toml
