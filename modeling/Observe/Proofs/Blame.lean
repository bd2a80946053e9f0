import Mathlib
import Observe.Proofs.Strays

namespace Observe

open Text

namespace Token

variable {spaced front rest : List Spaced} {first second : Spaced} {lead : List Char}
  {text : String} {c : Char} {kind mark : TokenKind}

theorem Separate.later (separate : Separate (front ++ rest)) : Separate rest := by
  induction front with
  | nil => exact separate
  | cons first others ih => exact ih (separate_cons_iff.mp separate).2.2.2

/-- Between two words stands a blank, and other tokens do not end like one. -/
theorem Separate.ends_apart (separate : Separate (first :: second :: rest))
    (word : isWord second.kind = true) :
    ∀ c ∈ (first.kind.text.toList ++ first.gap).getLast?, isNamePart c = false := by
  obtain ⟨lexeme, blank, apart, _⟩ := separate
  intro c last
  by_cases gapless : first.gap = []
  · -- Two words have a gap between them, so the token before is no word.
    have noWord : isWord first.kind = false := by
      apply Bool.eq_false_iff.mpr
      intro firstWord
      exact apart firstWord word gapless
    obtain ⟨only, spelled, noPart⟩ := lexeme.singleton noWord
    rw [gapless, spelled] at last
    cases last
    exact noPart
  · rw [List.getLast?_append, List.getLast?_eq_some_getLast gapless, Option.some_or] at last
    cases last
    exact isNamePart_eq_false_of_isBlank (blank _ (List.getLast_mem gapless))

theorem Separate.word_apart (separate : Separate (front ++ first :: rest))
    (blank : ∀ c ∈ lead, isBlank c = true) (word : isWord first.kind = true) :
    ∀ c ∈ (lead ++ chars front).getLast?, isNamePart c = false := by
  rcases List.eq_nil_or_concat front with nothing | ⟨others, last, whole⟩
  · rw [nothing, chars, List.flatMap_nil, List.append_nil]
    intro c last
    exact isNamePart_eq_false_of_isBlank (blank c (List.mem_of_getLast? last))
  · rw [whole, List.concat_eq_append, List.append_assoc, List.singleton_append] at separate
    have ends := separate.later.ends_apart word
    have spelled : lead ++ chars front =
        lead ++ chars others ++ (last.kind.text.toList ++ last.gap) := by
      simp [whole, chars]
    have nonempty : last.kind.text.toList ++ last.gap ≠ [] := by
      obtain ⟨c, more, begins, _⟩ := separate.later.lexeme.begins
      simp [begins]
    intro c final
    rw [spelled, List.getLast?_append, List.getLast?_eq_some_getLast nonempty,
      Option.some_or, ← List.getLast?_eq_some_getLast nonempty] at final
    exact ends c final

theorem isNamePart_of_ofPunctuation? (found : TokenKind.ofPunctuation? c = some mark) :
    isNamePart c = false ∧ isBlank c = false := by
  unfold TokenKind.ofPunctuation? at found
  split at found <;> first | exact ⟨rfl, rfl⟩ | cases found

/-- A punctuation character occurs in a token only if it is the token. -/
theorem IsLexeme.count_punctuation (lexeme : IsLexeme kind)
    (found : TokenKind.ofPunctuation? c = some mark) :
    kind.text.toList.count c = [kind].count mark := by
  obtain ⟨spelled, noWord⟩ := Cursor.ofPunctuation?_eq_some found
  cases word : isWord kind with
  | true =>
      have apart : kind ≠ mark := by
        intro same
        rw [← same, word] at noWord
        cases noWord
      have absent : c ∉ kind.text.toList := by
        intro member
        have part := lexeme.parts word c member
        rw [(isNamePart_of_ofPunctuation? found).1] at part
        cases part
      rw [List.count_eq_zero.mpr absent, List.count_singleton, if_neg (by simpa using apart)]
  | false =>
      cases kind with
      | name text => cases word
      | items => cases word
      | _ =>
          unfold TokenKind.ofPunctuation? at found
          split at found <;> cases found <;> rfl

theorem count_blanks {blanks : List Char} (blank : ∀ c ∈ blanks, isBlank c = true)
    (found : TokenKind.ofPunctuation? c = some mark) : blanks.count c = 0 := by
  apply List.count_eq_zero.mpr
  intro member
  have noBlank := (isNamePart_of_ofPunctuation? found).2
  rw [blank c member] at noBlank
  cases noBlank

theorem Separate.count_punctuation (separate : Separate (front ++ rest))
    (found : TokenKind.ofPunctuation? c = some mark) :
    (chars front).count c = (front.map Spaced.kind).count mark := by
  induction front with
  | nil => rfl
  | cons first others ih =>
      obtain ⟨lexeme, blank, _, separateRest⟩ := separate_cons_iff.mp separate
      rw [chars_cons, List.count_append, List.count_append, lexeme.count_punctuation found,
        count_blanks blank found, ih separateRest, List.map_cons, Nat.zero_add,
        ← List.count_append, List.singleton_append]

theorem placed_eq_append {used later : List Token} {token : Token} {position : Nat}
    (split : placed position spaced = used ++ token :: later) :
    ∃ front first rest, spaced = front ++ first :: rest ∧
      used.map Token.kind = front.map Spaced.kind ∧
      token = ⟨first.kind, position + byteLength (chars front)⟩ := by
  induction used generalizing position spaced with
  | nil =>
      cases spaced with
      | nil => cases split
      | cons first rest =>
          cases split
          exact ⟨[], first, rest, rfl, rfl, rfl⟩
  | cons other used ih =>
      cases spaced with
      | nil => cases split
      | cons ahead rest =>
          obtain ⟨rfl, splitRest⟩ := List.cons.inj split
          obtain ⟨front, first, behind, rfl, kinds, rfl⟩ := ih splitRest
          refine ⟨ahead :: front, first, behind, rfl, congrArg (ahead.kind :: ·) kinds, ?_⟩
          rw [chars_cons, byteLength_append, byteLength_append, Nat.add_assoc, Nat.add_assoc]

/-- What surrounds a token in the text. -/
theorem LaidOut.surroundings {used later : List Token} {token : Token}
    (laidOut : LaidOut text (used ++ token :: later)) :
    ∃ before behind, text.toList = before ++ (token.kind.text.toList ++ behind) ∧
      byteLength before = token.position ∧ IsLexeme token.kind ∧
      (isWord token.kind = true →
        (∀ c ∈ before.getLast?, isNamePart c = false) ∧ Breaks isNamePart behind) ∧
      ∀ c mark, TokenKind.ofPunctuation? c = some mark →
        before.count c = (used.map Token.kind).count mark := by
  obtain ⟨lead, spaced, blank, separate, split, tokens⟩ := laidOut
  obtain ⟨front, first, rest, rfl, kinds, rfl⟩ := placed_eq_append tokens.symm
  obtain ⟨lexeme, _, breaks, _⟩ := separate_cons_iff.mp separate.later
  refine ⟨lead ++ chars front, first.gap ++ chars rest, ?_, byteLength_append lead _, lexeme,
    ?_, ?_⟩
  · rw [split, List.append_assoc, ← chars_cons, chars, List.flatMap_append]
    rfl
  · intro word
    exact ⟨separate.word_apart blank word, breaks word⟩
  · intro c mark found
    rw [List.count_append, count_blanks blank found, Nat.zero_add, kinds,
      separate.count_punctuation found]

end Token

namespace Parser

variable {finish : Nat} {tokens : List Token} {error : SyntaxError}

/-- An error comes at the end of the tokens or at one of them. One at a bracket too many comes while
as many groups are open as may be. -/
theorem refused_cases
    (refused : (expression maximalDepth finish (.start tokens)).1 = .error error) :
    (∃ mode opened, error = .unexpectedEnd finish (ScanMode.wanted mode opened)) ∨
    ∃ used token rest, tokens = used ++ token :: rest ∧
      ((∃ mode opened,
        error = .unexpectedToken token.position token.kind (ScanMode.wanted mode opened)) ∨
      (token.kind = .openBracket ∧ error = .nestingTooDeep token.position maximalDepth ∧
        (used.map Token.kind).count .closeBracket + maximalDepth =
          (used.map Token.kind).count .openBracket)) := by
  rcases ScanMode.scan_error_cases (scan_of_refused refused) with
    ⟨mode, opened, _, ended⟩ | ⟨used, token, rest, mode, opened, split, passed, stopped⟩
  · exact .inl ⟨mode, opened, ended⟩
  · refine .inr ⟨used, token, rest, split, ?_⟩
    rcases ScanMode.step_error_cases stopped with unexpected | ⟨rfl, bracket, tooDeep⟩
    · exact .inl ⟨mode, opened, unexpected⟩
    · have full := ScanMode.full_of_refused bracket stopped
      have within := passed.within (Nat.zero_le _)
      have brackets := passed.brackets
      exact .inr ⟨bracket, tooDeep, by omega⟩

end Parser

/-- The text before the place that an error is about, and from there on. -/
inductive ExpressionError.Blames (text : String) :
    ExpressionError → List Char → List Char → Prop
  | character {error : LexicalError} {before behind : List Char}
      (split : text.toList = before ++ error.character :: behind)
      (placed : byteLength before = error.position)
      (noBlank : isBlank error.character = false) :
      Blames text (.lexical error) before (error.character :: behind)
  | token {kind : TokenKind} {position opened : Nat} {mode : ScanMode} {before behind : List Char}
      (split : text.toList = before ++ (kind.text.toList ++ behind))
      (placed : byteLength before = position) (lexeme : Token.IsLexeme kind)
      (whole : Token.isWord kind = true →
        (∀ c ∈ before.getLast?, isNamePart c = false) ∧ Token.Breaks isNamePart behind) :
      Blames text (.syntactic (.unexpectedToken position kind (mode.wanted opened))) before
        (kind.text.toList ++ behind)
  | bracket {position : Nat} {before behind : List Char}
      (split : text.toList = before ++ '[' :: behind) (placed : byteLength before = position)
      (full : before.count ']' + Parser.maximalDepth = before.count '[') :
      Blames text (.syntactic (.nestingTooDeep position Parser.maximalDepth)) before
        ('[' :: behind)
  | finish {opened : Nat} {mode : ScanMode} :
      Blames text (.syntactic (.unexpectedEnd (byteLength text.toList) (mode.wanted opened)))
        text.toList []

namespace ExpressionError.Blames

variable {text : String} {error : ExpressionError} {before behind : List Char}

theorem split (blames : Blames text error before behind) : text.toList = before ++ behind := by
  cases blames with
  | character split | token split | bracket split => exact split
  | finish => exact (List.append_nil _).symm

theorem placed (blames : Blames text error before behind) :
    byteLength before = error.position := by
  cases blames with
  | character _ placed | token _ placed | bracket _ placed => exact placed
  | finish => rfl

end ExpressionError.Blames

namespace Expression

variable {text : String} {error : ExpressionError}

theorem exists_blames (refused : parse text = .error error) :
    ∃ before behind, error.Blames text before behind := by
  cases cut : Token.tokenize text with
  | error rejected =>
      rw [parse_of_lexicalError cut] at refused
      cases refused
      obtain ⟨before, behind, split, placed, _, stray⟩ := Token.tokenize_eq_error_stray cut
      exact ⟨before, _, .character split placed stray.noBlank⟩
  | ok tokens =>
      rw [parse_of_tokens cut] at refused
      cases result : (Parser.expression Parser.maximalDepth (byteLength text.toList)
        (.start tokens)).1 with
      | ok value =>
          rw [result] at refused
          cases refused
      | error reason =>
          rw [result] at refused
          cases refused
          have laidOut := Token.tokenize_eq_ok.mp cut
          rcases Parser.refused_cases result with
            ⟨mode, opened, rfl⟩ | ⟨used, token, rest, rfl, cause⟩
          · exact ⟨text.toList, [], .finish⟩
          · obtain ⟨before, behind, split, placed, lexeme, whole, counts⟩ :=
              laidOut.surroundings
            rcases cause with ⟨mode, opened, rfl⟩ | ⟨bracket, rfl, full⟩
            · exact ⟨before, _, .token split placed lexeme whole⟩
            · rw [bracket] at split
              rw [← counts '[' .openBracket rfl, ← counts ']' .closeBracket rfl] at full
              exact ⟨before, _, .bracket split placed full⟩

/-- The position of an error is in the text, and what the error is about stands there: the
character, the whole token, or a bracket inside of as many groups as may be open. Where the text
ended too early, the position is its end. -/
theorem parse_error_stands (refused : parse text = .error error) :
    error.position ≤ byteLength text.toList ∧
    ∃ before behind, text.toList = before ++ behind ∧ byteLength before = error.position ∧
      match error with
      | .lexical error => behind.head? = some error.character
      | .syntactic (.unexpectedToken _ found _) =>
          ∃ rest, behind = found.text.toList ++ rest ∧ (Token.isWord found = true →
            (∀ c ∈ before.getLast?, isNamePart c = false) ∧
              ∀ c ∈ rest.head?, isNamePart c = false)
      | .syntactic (.nestingTooDeep _ _) =>
          behind.head? = some '[' ∧ before.count ']' + 256 ≤ before.count '['
      | .syntactic (.unexpectedEnd position _) =>
          behind = [] ∧ position = byteLength text.toList := by
  obtain ⟨before, behind, blames⟩ := exists_blames refused
  have split := blames.split
  have placed := blames.placed
  have reached : error.position ≤ byteLength text.toList := by
    rw [split, byteLength_append, placed]
    exact Nat.le_add_right _ _
  refine ⟨reached, before, behind, split, placed, ?_⟩
  cases blames with
  | character => rfl
  | token _ _ _ whole => exact ⟨_, rfl, whole⟩
  | bracket _ _ full => exact ⟨rfl, Nat.le_of_eq full⟩
  | finish => exact ⟨rfl, rfl⟩

theorem parse_error_stands_word :
    parse "\u3000[a items1\t]" =
        .error (.syntactic (.unexpectedToken 6 (.name "items1") closeBracketWanted)) ∧
      ∃ before rest, "\u3000[a items1\t]".toList = before ++ ("items1".toList ++ rest) ∧
        byteLength before = 6 ∧ (∀ c ∈ before.getLast?, isNamePart c = false) ∧
        ∀ c ∈ rest.head?, isNamePart c = false := by
  have refused : parse "\u3000[a items1\t]" =
      .error (.syntactic (.unexpectedToken 6 (.name "items1") closeBracketWanted)) := by cbv
  obtain ⟨_, before, behind, split, placed, rest, rfl, whole⟩ := parse_error_stands refused
  exact ⟨refused, before, rest, split, placed, whole rfl⟩

end Expression

end Observe
