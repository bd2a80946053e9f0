import Observe.Proofs.Scan
import Observe.Token.Layout

namespace Observe

namespace ScanMode

open Token (isWord)

variable {limit opened count final : Nat} {mode next last : ScanMode} {first second : Token}
  {rest : List Token}

theorem step_word (word : isWord first.kind = true)
    (stepped : mode.step limit opened first = .ok (next, count)) : next = elementPassed := by
  obtain ⟨kind, position⟩ := first
  cases mode <;> cases kind <;> simp_all [step, isWord]

theorem step_noWord (stepped : elementPassed.step limit opened second = .ok (next, count)) :
    isWord second.kind = false := by
  obtain ⟨kind, position⟩ := second
  cases kind <;> simp_all [step, isWord]

/-- Two words never stand next to each other. -/
theorem Passes.words_apart (passed : Passes limit mode opened (first :: second :: rest) last final)
    (word : isWord first.kind = true) : isWord second.kind = false := by
  cases passed with
  | token stepped others =>
      cases others with
      | token steppedSecond _ =>
          rw [step_word word stepped] at steppedSecond
          exact step_noWord steppedSecond

end ScanMode

namespace Token

open Observe.Text

/-- The text does not go on with a character that passes the test. -/
def Breaks (test : Char → Bool) (rest : List Char) : Prop := ∀ c ∈ rest.head?, test c = false

theorem bounds_of_isNamePart {c : Char} (part : isNamePart c = true) :
    '0'.toNat ≤ c.toNat ∧ c.toNat ≤ 'z'.toNat := by
  rcases (Bool.or_eq_true _ _).mp part with letterOrDigit | underscore
  · rcases (Bool.or_eq_true _ _).mp letterOrDigit with letter | digit
    · rcases (Bool.or_eq_true _ _).mp letter with upper | lower
      · obtain ⟨first, last⟩ := of_decide_eq_true upper
        exact ⟨Nat.le_trans (by decide) (UInt32.le_iff_toNat_le.mp first),
          Nat.le_trans (UInt32.le_iff_toNat_le.mp last) (by decide)⟩
      · obtain ⟨first, last⟩ := (Bool.and_eq_true _ _).mp lower
        exact ⟨Nat.le_trans (by decide) (UInt32.le_iff_toNat_le.mp (of_decide_eq_true first)),
          UInt32.le_iff_toNat_le.mp (of_decide_eq_true last)⟩
    · obtain ⟨first, last⟩ := Char.isDigit_iff_toNat.mp digit
      exact ⟨first, Nat.le_trans last (by decide)⟩
  · rw [beq_iff_eq.mp underscore]
    decide

theorem isBlank_eq_false_of_isNamePart {c : Char} (part : isNamePart c = true) :
    isBlank c = false := by
  cases blank : isBlank c with
  | false => rfl
  | true =>
      have lower : 48 ≤ c.toNat := (bounds_of_isNamePart part).1
      have upper : c.toNat ≤ 122 := (bounds_of_isNamePart part).2
      simp only [isBlank, within, blankRanges, List.any_cons, List.any_nil, Bool.or_false,
        Bool.or_eq_true, Bool.and_eq_true, decide_eq_true_eq] at blank
      omega

theorem isNamePart_eq_false_of_isBlank {c : Char} (blank : isBlank c = true) :
    isNamePart c = false := by
  refine Bool.eq_false_iff.mpr fun part => ?_
  have noBlank := isBlank_eq_false_of_isNamePart part
  rw [blank] at noBlank
  cases noBlank

/-- A token does not begin with a blank, and with a character of a name just if it is a word. -/
theorem IsLexeme.begins {kind : TokenKind} (lexeme : IsLexeme kind) :
    ∃ first rest, kind.text.toList = first :: rest ∧ isBlank first = false ∧
      isNamePart first = isWord kind := by
  cases kind with
  | name text =>
      obtain ⟨⟨first, rest, spelled, starts, _⟩, _⟩ := lexeme
      have part := isNamePart_of_isNameStart starts
      exact ⟨first, rest, spelled, isBlank_eq_false_of_isNamePart part, part⟩
  | _ => exact ⟨_, _, rfl, by decide, by decide⟩

theorem IsLexeme.singleton {kind : TokenKind} (lexeme : IsLexeme kind)
    (noWord : isWord kind = false) : ∃ c, kind.text.toList = [c] ∧ isNamePart c = false := by
  cases kind with
  | name text => cases noWord
  | items => cases noWord
  | _ => exact ⟨_, rfl, rfl⟩

theorem chars_cons (first : Spaced) (rest : List Spaced) :
    chars (first :: rest) = first.kind.text.toList ++ (first.gap ++ chars rest) := by
  simp [chars]

/-- Behind a gap a name cannot go on, and without a gap only if the next token is no word. -/
theorem breaks_chars_iff {gap : List Char} {rest : List Spaced}
    (blank : ∀ c ∈ gap, isBlank c = true) (lexemes : ∀ token ∈ rest.head?, IsLexeme token.kind) :
    Breaks isNamePart (gap ++ chars rest) ↔
      ∀ token ∈ rest.head?, isWord token.kind = true → gap ≠ [] := by
  cases gap with
  | cons c more =>
      have noPart := isNamePart_eq_false_of_isBlank (blank c List.mem_cons_self)
      simp [Breaks, noPart]
  | nil =>
      cases rest with
      | nil => simp [Breaks, chars]
      | cons token others =>
          obtain ⟨first, behind, spelled, _, part⟩ := (lexemes token rfl).begins
          rw [List.nil_append, chars_cons, spelled]
          simp [Breaks, part]

theorem Separate.lexeme {first : Spaced} {rest : List Spaced}
    (separate : Separate (first :: rest)) : IsLexeme first.kind := by
  cases rest with
  | nil => exact separate.1
  | cons second others => exact separate.1

/-- Tokens are separate if none of them goes on into what is behind it. -/
theorem separate_cons_iff {first : Spaced} {rest : List Spaced} :
    Separate (first :: rest) ↔ IsLexeme first.kind ∧ (∀ c ∈ first.gap, isBlank c = true) ∧
      (isWord first.kind = true → Breaks isNamePart (first.gap ++ chars rest)) ∧
      Separate rest := by
  cases rest with
  | nil =>
      constructor
      · rintro ⟨lexeme, blank⟩
        exact ⟨lexeme, blank, fun _ => (breaks_chars_iff blank (by simp)).mpr (by simp), trivial⟩
      · rintro ⟨lexeme, blank, _, _⟩
        exact ⟨lexeme, blank⟩
  | cons second others =>
      constructor
      · rintro ⟨lexeme, blank, apart, separate⟩
        refine ⟨lexeme, blank, fun word => ?_, separate⟩
        refine (breaks_chars_iff blank ?_).mpr ?_
        · rintro token ⟨⟩
          exact separate.lexeme
        · rintro token ⟨⟩
          exact apart word
      · rintro ⟨lexeme, blank, breaks, separate⟩
        refine ⟨lexeme, blank, fun word => ?_, separate⟩
        refine (breaks_chars_iff blank ?_).mp (breaks word) second rfl
        rintro token ⟨⟩
        exact separate.lexeme

theorem Separate.lexemes {spaced : List Spaced} (separate : Separate spaced) :
    ∀ token ∈ spaced, IsLexeme token.kind := by
  induction spaced with
  | nil => exact List.forall_mem_nil _
  | cons first rest ih =>
      obtain ⟨lexeme, _, _, separateRest⟩ := separate_cons_iff.mp separate
      exact List.forall_mem_cons.mpr ⟨lexeme, ih separateRest⟩

theorem map_kind_placed (position : Nat) (spaced : List Spaced) :
    (placed position spaced).map Token.kind = spaced.map Spaced.kind := by
  induction spaced generalizing position with
  | nil => rfl
  | cons first rest ih => rw [placed, List.map_cons, List.map_cons, ih]

theorem LaidOut.lexemes {text : String} {tokens : List Token} (laidOut : LaidOut text tokens) :
    ∀ kind ∈ tokens.map Token.kind, IsLexeme kind := by
  obtain ⟨lead, spaced, _, separate, _, rfl⟩ := laidOut
  rw [map_kind_placed]
  exact List.forall_mem_map.mpr separate.lexemes

def dense (kinds : List TokenKind) : List Spaced := kinds.map fun kind => ⟨kind, []⟩

theorem chars_dense (kinds : List TokenKind) :
    chars (dense kinds) = (TokenKind.spell kinds).toList := by
  simp [chars, dense, List.flatMap_map]

/-- Tokens that may follow each other need no gaps. -/
theorem separate_dense {limit opened final : Nat} {mode last : ScanMode} {tokens : List Token}
    (passed : ScanMode.Passes limit mode opened tokens last final)
    (lexemes : ∀ token ∈ tokens, IsLexeme token.kind) :
    Separate (dense (tokens.map Token.kind)) := by
  induction passed with
  | nothing => trivial
  | @token _ _ _ _ _ _ first rest stepped others ih =>
      obtain ⟨lexeme, lexemesRest⟩ := List.forall_mem_cons.mp lexemes
      refine separate_cons_iff.mpr ⟨lexeme, List.forall_mem_nil _, ?_, ih lexemesRest⟩
      intro word
      cases rest with
      | nil => simp [chars, Breaks]
      | cons second behind =>
          have noWord := ScanMode.Passes.words_apart (.token stepped others) word
          refine (breaks_chars_iff (List.forall_mem_nil _) ?_).mpr ?_
          · rintro token ⟨⟩
            exact lexemesRest second List.mem_cons_self
          · rintro token ⟨⟩ word
            rw [noWord] at word
            cases word

theorem IsLexeme.parts {kind : TokenKind} (lexeme : IsLexeme kind) (word : isWord kind = true) :
    ∀ c ∈ kind.text.toList, isNamePart c = true := by
  cases kind with
  | name text =>
      obtain ⟨⟨first, rest, spelled, starts, parts⟩, _⟩ := lexeme
      have whole : text.toList = first :: rest := spelled
      rw [TokenKind.text, whole]
      exact List.forall_mem_cons.mpr ⟨isNamePart_of_isNameStart starts, parts⟩
  | items => exact List.all_eq_true.mp rfl
  | _ => cases word

theorem IsLexeme.noBlank {kind : TokenKind} (lexeme : IsLexeme kind) :
    ∀ c ∈ kind.text.toList, isBlank c = false := by
  cases word : isWord kind with
  | true =>
      intro c member
      exact isBlank_eq_false_of_isNamePart (lexeme.parts word c member)
  | false =>
      cases kind with
      | name text => cases word
      | items => cases word
      | _ => exact List.forall_mem_singleton.mpr rfl

theorem filter_blanks {gap : List Char} (blank : ∀ c ∈ gap, isBlank c = true) :
    gap.filter (fun c => ! isBlank c) = [] := by
  refine List.filter_eq_nil_iff.mpr fun c member => ?_
  simp [blank c member]

theorem filter_chars {spaced : List Spaced} (separate : Separate spaced) :
    (chars spaced).filter (fun c => ! isBlank c) =
      spaced.flatMap fun token => token.kind.text.toList := by
  induction spaced with
  | nil => rfl
  | cons first rest ih =>
      obtain ⟨lexeme, blank, _, separateRest⟩ := separate_cons_iff.mp separate
      have kept : first.kind.text.toList.filter (fun c => ! isBlank c) =
          first.kind.text.toList := by
        refine List.filter_eq_self.mpr fun c member => ?_
        simp [lexeme.noBlank c member]
      rw [chars_cons, List.filter_append, List.filter_append, kept, filter_blanks blank,
        ih separateRest, List.nil_append, List.flatMap_cons]

theorem LaidOut.withoutBlanks {text : String} {tokens : List Token}
    (laidOut : LaidOut text tokens) :
    withoutBlanks text = TokenKind.spell (tokens.map Token.kind) := by
  obtain ⟨lead, spaced, blank, separate, split, rfl⟩ := laidOut
  rw [Text.withoutBlanks, split, List.filter_append, filter_blanks blank, List.nil_append,
    filter_chars separate, map_kind_placed, TokenKind.spell, List.flatMap_map]

end Token

end Observe
