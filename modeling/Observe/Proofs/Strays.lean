import Mathlib
import Observe.Proofs.Displacement

namespace Observe

open Text

namespace Token

variable {before front used chars behind : List Char} {c : Char} {kind : TokenKind}

/-- The character is no blank, no token begins with it, and no word goes on with it. -/
structure IsStray (before : List Char) (c : Char) : Prop where
  noBlank : isBlank c = false
  noPunctuation : c ∉ ['.', ':', ',', '+', '[', ']']
  noStart : isNameStart c = false
  noDigit : c.isDigit = true → ∀ d ∈ before.getLast?, isNamePart d = false

theorem isNamePart_eq (c : Char) : isNamePart c = (isNameStart c || c.isDigit) := by
  simp only [isNamePart, isNameStart, Char.isAlphanum]
  exact Bool.or_right_comm _ _ _

theorem IsStray.noPart (stray : IsStray before c) :
    ∀ d ∈ before.getLast?, isNamePart d = true → isNamePart c = false := by
  intro d last part
  cases digit : c.isDigit with
  | true =>
      have apart := stray.noDigit digit d last
      rw [part] at apart
      cases apart
  | false => rw [isNamePart_eq, stray.noStart, digit, Bool.or_false]

theorem ofPunctuation?_eq_none_iff :
    TokenKind.ofPunctuation? c = none ↔ c ∉ ['.', ':', ',', '+', '[', ']'] := by
  unfold TokenKind.ofPunctuation?
  split <;> simp_all

/-- None of the characters is stray where they stand behind those in front. -/
def Clean (front chars : List Char) : Prop :=
  ∀ before c behind, chars = before ++ c :: behind → ¬ IsStray (front ++ before) c

theorem Clean.append (first : Clean front used) (second : Clean (front ++ used) behind) :
    Clean front (used ++ behind) := by
  intro before c rest split
  rcases List.append_eq_append_iff.mp split with
    ⟨later, rfl, splitBehind⟩ | ⟨later, splitUsed, splitRest⟩
  · rw [← List.append_assoc]
    exact second later c rest splitBehind
  · cases later with
    | nil =>
        rw [List.append_nil] at splitUsed
        subst splitUsed
        have stands := second [] c rest splitRest.symm
        rwa [List.append_nil] at stands
    | cons d more =>
        obtain ⟨rfl, _⟩ := List.cons.inj splitRest
        exact first before c more splitUsed

theorem clean_of_forall (harmless : ∀ c ∈ chars, ∀ before, ¬ IsStray before c) :
    Clean front chars := by
  intro before c behind split
  exact harmless c (by simp [split]) (front ++ before)

theorem clean_of_blank (blank : ∀ c ∈ chars, isBlank c = true) : Clean front chars := by
  apply clean_of_forall
  intro c member before stray
  have white := blank c member
  rw [stray.noBlank] at white
  cases white

/-- A digit in a word follows a character of the word. -/
theorem clean_word {first : Char} {rest : List Char} (starts : isNameStart first = true)
    (parts : ∀ c ∈ rest, isNamePart c = true) : Clean front (first :: rest) := by
  intro before c behind split stray
  cases before with
  | nil =>
      obtain ⟨rfl, _⟩ := List.cons.inj split
      rw [stray.noStart] at starts
      cases starts
  | cons d others =>
      obtain ⟨rfl, splitRest⟩ := List.cons.inj split
      have nonempty : first :: others ≠ [] := List.cons_ne_nil _ _
      have inWord : ∀ d ∈ first :: others, isNamePart d = true := by
        rw [List.forall_mem_cons]
        refine ⟨isNamePart_of_isNameStart starts, fun d member => parts d ?_⟩
        rw [splitRest]
        exact List.mem_append_left _ member
      have last : (front ++ first :: others).getLast? =
          some ((first :: others).getLast nonempty) := by
        rw [List.getLast?_append, List.getLast?_eq_some_getLast nonempty, Option.some_or]
      have noPart := stray.noPart _ last (inWord _ (List.getLast_mem nonempty))
      have part := parts c (by simp [splitRest])
      rw [noPart] at part
      cases part

theorem IsLexeme.clean (lexeme : IsLexeme kind) : Clean front kind.text.toList := by
  have punctuation : ∀ mark ∈ ['.', ':', ',', '+', '[', ']'], Clean front [mark] := by
    intro mark listed
    apply clean_of_forall
    exact List.forall_mem_singleton.mpr fun _ stray => stray.noPunctuation listed
  cases kind with
  | name text =>
      obtain ⟨⟨first, rest, spelled, starts, parts⟩, _⟩ := lexeme
      have clean : Clean front (first :: rest) := clean_word starts parts
      rwa [← spelled] at clean
  | items => exact clean_word rfl (List.all_eq_true.mp rfl)
  | _ => exact punctuation _ (by decide)

theorem IsLexeme.apart (lexeme : IsLexeme kind)
    (breaks : isWord kind = true → Breaks isNamePart behind) :
    Apart (front ++ kind.text.toList) behind := by
  intro c last part
  cases word : isWord kind with
  | true => exact breaks word
  | false =>
      obtain ⟨only, spelled, noPart⟩ := lexeme.singleton word
      rw [spelled, List.getLast?_concat] at last
      cases last
      rw [noPart] at part
      cases part

theorem apart_nil : Apart [] behind := by
  rintro c ⟨⟩

/-- A digit that no word goes on with has no character of a name before it. -/
theorem Apart.noDigit {blanks : List Char} (apart : Apart front (blanks ++ c :: behind))
    (blank : ∀ c ∈ blanks, isBlank c = true) (digit : c.isDigit = true) :
    ∀ d ∈ (front ++ blanks).getLast?, isNamePart d = false := by
  intro d last
  by_cases nothing : blanks = []
  · rw [nothing, List.append_nil] at last
    rw [nothing, List.nil_append] at apart
    refine Bool.eq_false_iff.mpr fun part => ?_
    have noPart := apart d last part c rfl
    rw [isNamePart_eq, digit, Bool.or_true] at noPart
    cases noPart
  · rw [List.getLast?_append, List.getLast?_eq_some_getLast nothing, Option.some_or] at last
    cases last
    exact isNamePart_eq_false_of_isBlank (blank _ (List.getLast_mem nothing))

namespace Cursor

variable {cursor after : Cursor} {token : Token} {error : LexicalError}

/-- What is read for a token has nothing stray in it, and no word goes on behind it. -/
theorem next_clean (front : List Char) (found : cursor.next = (.token token, after)) :
    ∃ used, cursor.rest = used ++ after.rest ∧
      after.position = cursor.position + byteLength used ∧ Clean front used ∧
      Apart (front ++ used) after.rest := by
  obtain ⟨blanks, split, blank, cuts⟩ := next_cuts found
  obtain ⟨splitToken, lexeme, breaks, _, ends⟩ := cuts
  simp only at splitToken ends
  refine ⟨blanks ++ token.kind.text.toList, ?_, ?_, (clean_of_blank blank).append lexeme.clean, ?_⟩
  · rw [split, splitToken, List.append_assoc]
  · rw [ends, byteLength_append, Nat.add_assoc]
  · rw [← List.append_assoc]
    exact lexeme.apart breaks

theorem scan_clean (cursor : Cursor) (apart : Apart front cursor.rest)
    (complete : cursor.scan.2 = none) : Clean front cursor.rest := by
  induction cursor using Cursor.scan.induct generalizing front with
  | case1 cursor token after found others later rest ih =>
      rw [scan_token found] at complete
      obtain ⟨used, split, _, clean, apartThere⟩ := next_clean front found
      rw [split]
      exact clean.append (ih apartThere complete)
  | case2 cursor after found => exact clean_of_blank (next_finished found)
  | case3 cursor error after found =>
      rw [scan_rejected found] at complete
      cases complete

/-- The scan stops at the first stray character. -/
theorem scan_stray (cursor : Cursor) (apart : Apart front cursor.rest)
    (stopped : cursor.scan.2 = some error) :
    ∃ before behind, cursor.rest = before ++ error.character :: behind ∧
      error.position = cursor.position + byteLength before ∧ Clean front before ∧
      IsStray (front ++ before) error.character := by
  induction cursor using Cursor.scan.induct generalizing front with
  | case1 cursor token after found others later rest ih =>
      rw [scan_token found] at stopped
      obtain ⟨used, split, ends, clean, apartThere⟩ := next_clean front found
      obtain ⟨before, behind, splitRest, placed, cleanRest, stray⟩ := ih apartThere stopped
      refine ⟨used ++ before, behind, ?_, ?_, clean.append cleanRest, ?_⟩
      · rw [split, splitRest, List.append_assoc]
      · rw [placed, ends, byteLength_append, Nat.add_assoc]
      · rwa [← List.append_assoc]
  | case2 cursor after found =>
      rw [scan_finished found] at stopped
      cases stopped
  | case3 cursor rejected after found =>
      rw [scan_rejected found] at stopped
      obtain rfl : rejected = error := Option.some.inj stopped
      obtain ⟨blanks, behind, split, blank, noBlank, noPunctuation, noStart, placed⟩ :=
        next_rejected found
      rw [split] at apart
      exact ⟨blanks, behind, split, placed, clean_of_blank blank, noBlank,
        ofPunctuation?_eq_none_iff.mp noPunctuation, noStart, apart.noDigit blank⟩

end Cursor

variable {text : String} {error : LexicalError}

theorem tokenize_eq_error_stray (cut : tokenize text = .error error) :
    ∃ before behind, text.toList = before ++ error.character :: behind ∧
      byteLength before = error.position ∧ Clean [] before ∧ IsStray before error.character := by
  have stopped := tokenize_eq_error_iff_scan.mp cut
  obtain ⟨before, behind, split, placed, clean, stray⟩ := Cursor.scan_stray _ apart_nil stopped
  have begins : error.position = 0 + byteLength before := placed
  exact ⟨before, behind, split, by omega, clean, stray⟩

theorem clean_iff_tokenize : Clean [] text.toList ↔ ∃ tokens, tokenize text = .ok tokens := by
  constructor
  · intro clean
    cases cut : tokenize text with
    | ok tokens => exact ⟨tokens, rfl⟩
    | error error =>
        obtain ⟨before, behind, split, _, _, stray⟩ := tokenize_eq_error_stray cut
        exact absurd stray (clean before error.character behind split)
  · rintro ⟨tokens, cut⟩
    have scanned := tokenize_eq_ok_iff_scan.mp cut
    exact Cursor.scan_clean _ apart_nil (congrArg Prod.snd scanned)

/-- The lexer fails if and only if some character of the text is stray. It then names the first such
character and the bytes before it. Those it can cut into tokens, and whatever the parser would say
of them, the lexer is heard first. -/
theorem tokenize_fails_iff_stray (text : String) :
    ((∃ error, tokenize text = .error error) ↔
      ∃ before c behind, text.toList = before ++ c :: behind ∧ IsStray before c) ∧
    ∀ error, tokenize text = .error error →
      ∃ before behind, text.toList = before ++ error.character :: behind ∧
        byteLength before = error.position ∧ IsStray before error.character ∧
        (∀ earlier c later, before = earlier ++ c :: later → ¬ IsStray earlier c) ∧
        (∃ tokens, tokenize (String.ofList before) = .ok tokens) ∧
        Expression.parse text = .error (.lexical error) := by
  constructor
  · constructor
    · rintro ⟨error, cut⟩
      obtain ⟨before, behind, split, _, _, stray⟩ := tokenize_eq_error_stray cut
      exact ⟨before, error.character, behind, split, stray⟩
    · rintro ⟨before, c, behind, split, stray⟩
      cases cut : tokenize text with
      | error error => exact ⟨error, rfl⟩
      | ok tokens => exact absurd stray (clean_iff_tokenize.mpr ⟨tokens, cut⟩ before c behind split)
  · intro error cut
    obtain ⟨before, behind, split, placed, clean, stray⟩ := tokenize_eq_error_stray cut
    refine ⟨before, behind, split, placed, stray, clean, ?_, Expression.parse_of_lexicalError cut⟩
    apply clean_iff_tokenize.mp
    rwa [String.toList_ofList]

/-- No expression begins with a closing bracket, and the digit is none of ASCII. -/
theorem tokenize_fails_iff_stray_digit :
    tokenize "]a1\u3000\u0663" = .error ⟨'\u0663', 6⟩ ∧
      Expression.parse "]a1\u3000" =
        .error (.syntactic (.unexpectedToken 0 .closeBracket elementWanted)) ∧
      Expression.parse "]a1\u3000\u0663" = .error (.lexical ⟨'\u0663', 6⟩) := by
  have cut : tokenize "]a1\u3000\u0663" = .error ⟨'\u0663', 6⟩ := by cbv
  obtain ⟨before, behind, _, _, _, _, _, refused⟩ := (tokenize_fails_iff_stray _).2 _ cut
  exact ⟨cut, by cbv, refused⟩

end Token

end Observe
