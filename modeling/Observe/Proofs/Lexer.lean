import Observe.Proofs.Layout

namespace Observe.Token

open Observe.Text

namespace Cursor

variable {cursor here after : Cursor} {token : Token} {kind : TokenKind} {test : Char → Bool}
  {front behind : List Char} {position : Nat}

theorem takeWhile_of_breaks (passes : ∀ c ∈ front, test c = true) (breaks : Breaks test behind) :
    (front ++ behind).takeWhile test = front := by
  rw [List.takeWhile_append_of_pos passes]
  cases behind with
  | nil => exact List.append_nil front
  | cons c rest => simp [breaks c rfl]

theorem dropWhile_of_breaks (passes : ∀ c ∈ front, test c = true) (breaks : Breaks test behind) :
    (front ++ behind).dropWhile test = behind := by
  rw [List.dropWhile_append_of_pos passes]
  cases behind with
  | nil => rfl
  | cons c rest => simp [breaks c rfl]

theorem skip_append (passes : ∀ c ∈ front, test c = true) (breaks : Breaks test behind)
    (position : Nat) :
    Cursor.skip test ⟨front ++ behind, position⟩ = ⟨behind, position + byteLength front⟩ := by
  simp only [skip, takeWhile_of_breaks passes breaks, dropWhile_of_breaks passes breaks]

theorem skip_breaks (test : Char → Bool) (cursor : Cursor) :
    Breaks test (cursor.skip test).rest := by
  intro c next
  have refused := List.head?_dropWhile_not test cursor.rest
  have head : (cursor.rest.dropWhile test).head? = some c := next
  simpa only [head] using refused

/-- The token begins where the cursor stands, and nothing that follows belongs to it. -/
structure Cuts (here : Cursor) (token : Token) (after : Cursor) : Prop where
  split : here.rest = token.kind.text.toList ++ after.rest
  lexeme : IsLexeme token.kind
  breaks : isWord token.kind = true → Breaks isNamePart after.rest
  begins : token.position = here.position
  ends : after.position = here.position + byteLength token.kind.text.toList

theorem ofPunctuation?_eq_some {c : Char} (found : TokenKind.ofPunctuation? c = some kind) :
    kind.text.toList = [c] ∧ isWord kind = false := by
  unfold TokenKind.ofPunctuation? at found
  split at found <;> cases found <;> exact ⟨rfl, rfl⟩

theorem ofPunctuation?_of_isNameStart {c : Char} (starts : isNameStart c = true) :
    TokenKind.ofPunctuation? c = none := by
  unfold TokenKind.ofPunctuation?
  split <;> first | rfl | cases starts

theorem ofWord_text (word : String) : (TokenKind.ofWord word).text = word := by
  unfold TokenKind.ofWord
  split
  · rename_i reserved
    exact reserved.symm
  · rfl

theorem isLexeme_ofWord {word : String} {first : Char} {rest : List Char}
    (spelled : word.toList = first :: rest) (starts : isNameStart first = true)
    (parts : ∀ c ∈ rest, isNamePart c = true) : IsLexeme (TokenKind.ofWord word) := by
  unfold TokenKind.ofWord
  split
  · trivial
  · rename_i free
    exact ⟨⟨first, rest, spelled, starts, parts⟩, free⟩

theorem read_cuts (found : here.read = (.token token, after)) : Cuts here token after := by
  unfold read at found
  split at found
  · cases found
  · rename_i c rest remaining
    split at found
    · rename_i kind punctuation
      obtain ⟨spelled, noWord⟩ := ofPunctuation?_eq_some punctuation
      cases found
      refine ⟨?_, ?_, ?_, rfl, ?_⟩
      · rw [remaining, spelled]
        rfl
      · cases kind with
        | name text => cases noWord
        | _ => trivial
      · simp [noWord]
      · simp [spelled]
    · split at found
      · rename_i starts
        cases found
        have part := isNamePart_of_isNameStart starts
        have word : here.rest.takeWhile isNamePart = c :: rest.takeWhile isNamePart := by
          rw [remaining, List.takeWhile_cons_of_pos part]
        refine ⟨?_, ?_, fun _ => skip_breaks isNamePart here, rfl, ?_⟩
        · rw [ofWord_text, String.toList_ofList]
          exact List.takeWhile_append_dropWhile.symm
        · refine isLexeme_ofWord (String.toList_ofList.trans word) starts ?_
          exact List.all_eq_true.mp List.all_takeWhile
        · rw [ofWord_text, String.toList_ofList]
          rfl
      · cases found

/-- A word is read to its last character. -/
theorem read_word (word : String) {first : Char} {rest : List Char}
    (spelled : word.toList = first :: rest) (starts : isNameStart first = true)
    (parts : ∀ c ∈ rest, isNamePart c = true) (breaks : Breaks isNamePart behind) (position : Nat) :
    Cursor.read ⟨word.toList ++ behind, position⟩ =
      (.token ⟨.ofWord word, position⟩, ⟨behind, position + byteLength word.toList⟩) := by
  have passes : ∀ c ∈ word.toList, isNamePart c = true := by
    rw [spelled]
    exact List.forall_mem_cons.mpr ⟨isNamePart_of_isNameStart starts, parts⟩
  have noPunctuation := ofPunctuation?_of_isNameStart starts
  have skipped := skip_append passes breaks position
  have taken := takeWhile_of_breaks passes breaks
  rw [spelled, List.cons_append] at skipped taken ⊢
  simp only [read, noPunctuation, starts, if_true, skipped, taken]
  rw [← spelled, String.ofList_toList]

theorem read_of_cuts (cuts : Cuts here token after) : here.read = (.token token, after) := by
  obtain ⟨rest, position⟩ := here
  obtain ⟨kind, begins⟩ := token
  obtain ⟨behind, ends⟩ := after
  obtain ⟨split, lexeme, breaks, atPosition, atEnd⟩ := cuts
  simp only at split lexeme breaks atPosition atEnd
  subst split atPosition atEnd
  cases kind with
  | name text =>
      obtain ⟨⟨first, rest, spelled, starts, parts⟩, free⟩ := lexeme
      have read := read_word text spelled starts parts (breaks rfl) begins
      rwa [TokenKind.ofWord, if_neg free] at read
  | items => exact read_word itemsWord rfl rfl (List.all_eq_true.mp rfl) (breaks rfl) begins
  | _ => rfl

/-- Blanks stand before the next token. -/
theorem next_cuts (found : cursor.next = (.token token, after)) :
    ∃ blanks, cursor.rest = blanks ++ (cursor.skip isBlank).rest ∧
      (∀ c ∈ blanks, isBlank c = true) ∧
      Cuts ⟨(cursor.skip isBlank).rest, cursor.position + byteLength blanks⟩ token after :=
  ⟨cursor.rest.takeWhile isBlank, List.takeWhile_append_dropWhile.symm,
    List.all_eq_true.mp List.all_takeWhile, read_cuts found⟩

theorem next_of_cuts {blanks : List Char} (blank : ∀ c ∈ blanks, isBlank c = true)
    (cuts : Cuts ⟨behind, position + byteLength blanks⟩ token after) :
    Cursor.next ⟨blanks ++ behind, position⟩ = (.token token, after) := by
  obtain ⟨first, rest, spelled, noBlank, _⟩ := cuts.lexeme.begins
  have breaks : Breaks isBlank behind := by
    have split : behind = token.kind.text.toList ++ after.rest := cuts.split
    rw [split, spelled]
    rintro c ⟨⟩
    exact noBlank
  rw [next, skip_append blank breaks]
  exact read_of_cuts cuts

theorem next_finished (found : cursor.next = (.finished, after)) :
    ∀ c ∈ cursor.rest, isBlank c = true := by
  unfold next read at found
  split at found
  · rename_i nothing
    have split : cursor.rest.takeWhile isBlank ++ cursor.rest.dropWhile isBlank = cursor.rest :=
      List.takeWhile_append_dropWhile
    have dropped : cursor.rest.dropWhile isBlank = [] := nothing
    rw [dropped, List.append_nil] at split
    rw [← split]
    exact List.all_eq_true.mp List.all_takeWhile
  · split at found
    · cases found
    · split at found <;> cases found

theorem next_of_blanks {blanks : List Char} (blank : ∀ c ∈ blanks, isBlank c = true) :
    Cursor.next ⟨blanks, position⟩ = (.finished, ⟨[], position + byteLength blanks⟩) := by
  have breaks : Breaks isBlank [] := by
    rintro c ⟨⟩
  have skipped := skip_append blank breaks position
  rw [List.append_nil] at skipped
  rw [next, skipped]
  rfl

theorem scan_token (found : cursor.next = (.token token, after)) :
    cursor.scan = (token :: after.scan.1, after.scan.2) := by
  rw [scan]
  split <;> simp_all

theorem scan_finished (found : cursor.next = (.finished, after)) : cursor.scan = ([], none) := by
  rw [scan]
  split <;> simp_all

theorem scan_rejected {error : LexicalError} (found : cursor.next = (.rejected error, after)) :
    cursor.scan = ([], some error) := by
  rw [scan]
  split <;> simp_all

/-- What is laid out is cut back into the same tokens. -/
theorem scan_chars {spaced : List Spaced} (separate : Separate spaced) :
    ∀ {lead : List Char}, (∀ c ∈ lead, isBlank c = true) → ∀ position,
      Cursor.scan ⟨lead ++ chars spaced, position⟩ =
        (placed (position + byteLength lead) spaced, none) := by
  induction spaced with
  | nil =>
      intro lead blank position
      rw [chars, List.flatMap_nil, List.append_nil]
      exact scan_finished (next_of_blanks blank)
  | cons first rest ih =>
      intro lead blank position
      obtain ⟨lexeme, gapBlank, breaks, restSeparate⟩ := separate_cons_iff.mp separate
      let begins := position + byteLength lead
      let ends := begins + byteLength first.kind.text.toList
      have cuts : Cuts ⟨first.kind.text.toList ++ (first.gap ++ chars rest), begins⟩
          ⟨first.kind, begins⟩ ⟨first.gap ++ chars rest, ends⟩ :=
        ⟨rfl, lexeme, breaks, rfl, rfl⟩
      rw [chars_cons, scan_token (next_of_cuts blank cuts), ih restSeparate gapBlank, placed]

/-- What is cut into tokens is laid out as those tokens. -/
theorem scan_laidOut (cursor : Cursor) (tokens : List Token)
    (complete : cursor.scan = (tokens, none)) :
    ∃ lead spaced, (∀ c ∈ lead, isBlank c = true) ∧ Separate spaced ∧
      cursor.rest = lead ++ chars spaced ∧
      tokens = placed (cursor.position + byteLength lead) spaced := by
  induction cursor using Cursor.scan.induct generalizing tokens with
  | case1 cursor token after found others error rest ih =>
      rw [scan_token found] at complete
      obtain ⟨blanks, split, blank, cuts⟩ := next_cuts found
      obtain ⟨scanned, finished⟩ := Prod.ext_iff.mp complete
      obtain ⟨gap, spaced, gapBlank, separate, splitRest, placedRest⟩ :=
        ih after.scan.1 (Prod.ext rfl finished)
      have whole : after.rest = gap ++ chars spaced := splitRest
      refine ⟨blanks, ⟨token.kind, gap⟩ :: spaced, blank, ?_, ?_, ?_⟩
      · refine separate_cons_iff.mpr ⟨cuts.lexeme, gapBlank, fun word => ?_, separate⟩
        rw [← whole]
        exact cuts.breaks word
      · rw [chars_cons, ← whole, ← cuts.split]
        exact split
      · have begins : token.position = cursor.position + byteLength blanks := cuts.begins
        have ends : after.position = token.position + byteLength token.kind.text.toList := by
          rw [cuts.begins]
          exact cuts.ends
        simp only at scanned
        rw [← scanned, placedRest, placed, ← begins, ends]
  | case2 cursor after found =>
      rw [scan_finished found] at complete
      cases complete
      exact ⟨cursor.rest, [], next_finished found, trivial, (List.append_nil _).symm, rfl⟩
  | case3 cursor error after found =>
      rw [scan_rejected found] at complete
      cases complete

end Cursor

variable {text : String} {tokens : List Token} {error : LexicalError}

theorem tokenize_eq_ok_iff_scan :
    tokenize text = .ok tokens ↔ (Cursor.start text).scan = (tokens, none) := by
  unfold tokenize
  split <;> simp_all

theorem tokenize_eq_error_iff_scan :
    tokenize text = .error error ↔ (Cursor.start text).scan.2 = some error := by
  unfold tokenize
  split <;> simp_all

/-- A text is cut into tokens if and only if it is laid out as them. -/
theorem tokenize_eq_ok : tokenize text = .ok tokens ↔ LaidOut text tokens := by
  rw [tokenize_eq_ok_iff_scan]
  constructor
  · intro complete
    obtain ⟨lead, spaced, blank, separate, split, placed⟩ := Cursor.scan_laidOut _ _ complete
    refine ⟨lead, spaced, blank, separate, split, ?_⟩
    simpa [Cursor.start] using placed
  · rintro ⟨lead, spaced, blank, separate, split, rfl⟩
    have scanned := Cursor.scan_chars separate blank 0
    rw [Nat.zero_add] at scanned
    rw [Cursor.start, split, scanned]

end Observe.Token
