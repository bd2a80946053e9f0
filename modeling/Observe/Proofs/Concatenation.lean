import Observe.Proofs.Lexer

namespace Observe.Token

open Observe.Text

variable {front used behind : List Char}

/-- No word goes on from the front into what is behind it. -/
def Apart (front behind : List Char) : Prop :=
  ∀ c ∈ front.getLast?, isNamePart c = true → Breaks isNamePart behind

theorem Apart.later (apart : Apart (used ++ front) behind) : Apart front behind := by
  intro c last part
  refine apart c ?_ part
  rw [List.getLast?_append, Option.mem_def.mp last]
  rfl

theorem Apart.blanks {blanks : List Char} (apart : Apart front behind)
    (blank : ∀ c ∈ blanks, isBlank c = true) : Apart front (blanks ++ behind) := by
  intro c last part
  have breaks := apart c last part
  cases blanks with
  | nil => exact breaks
  | cons b rest =>
      have noPart := isNamePart_eq_false_of_isBlank (blank b List.mem_cons_self)
      simpa [Breaks] using noPart

/-- A word that ends the front does not go on behind it. -/
theorem Apart.breaks {kind : TokenKind} {rest : List Char}
    (apart : Apart (kind.text.toList ++ rest) behind) (lexeme : IsLexeme kind)
    (word : isWord kind = true) (breaks : Breaks isNamePart rest) :
    Breaks isNamePart (rest ++ behind) := by
  cases rest with
  | cons c more =>
      intro d next
      exact breaks d next
  | nil =>
      obtain ⟨first, others, spelled, _⟩ := lexeme.begins
      have nonempty : kind.text.toList ≠ [] := by
        rw [spelled]
        exact List.cons_ne_nil _ _
      have last := List.getLast?_eq_some_getLast nonempty
      have part := lexeme.parts word _ (List.getLast_mem nonempty)
      rw [List.append_nil] at apart
      exact apart _ last part

namespace Cursor

variable {cursor other after : Cursor} {token : Token} {error : LexicalError} {position : Nat}

theorem next_consumes (found : cursor.next = (.token token, after)) :
    ∃ used, cursor.rest = used ++ after.rest ∧
      after.position = cursor.position + byteLength used ∧
      cursor.position ≤ token.position ∧ token.position < after.position := by
  obtain ⟨blanks, split, _, cuts⟩ := next_cuts found
  obtain ⟨first, others, spelled, _⟩ := cuts.lexeme.begins
  have positive := first.utf8Size_pos
  have begins : token.position = cursor.position + byteLength blanks := cuts.begins
  have ends : after.position =
      cursor.position + byteLength blanks + byteLength token.kind.text.toList := cuts.ends
  have splitToken : (cursor.skip isBlank).rest = token.kind.text.toList ++ after.rest := cuts.split
  have longer : byteLength token.kind.text.toList = first.utf8Size + byteLength others := by
    rw [spelled, byteLength_cons]
  refine ⟨blanks ++ token.kind.text.toList, ?_, ?_, ?_, ?_⟩
  · rw [split, splitToken, List.append_assoc]
  · rw [byteLength_append]
    omega
  · omega
  · omega

theorem next_append (found : cursor.next = (.token token, after))
    (apart : Apart cursor.rest behind) :
    Cursor.next ⟨cursor.rest ++ behind, cursor.position⟩ =
      (.token token, ⟨after.rest ++ behind, after.position⟩) := by
  obtain ⟨blanks, split, blank, cuts⟩ := next_cuts found
  obtain ⟨splitToken, lexeme, breaks, begins, ends⟩ := cuts
  simp only at splitToken
  rw [split, splitToken] at apart ⊢
  rw [List.append_assoc, List.append_assoc]
  refine next_of_cuts blank ⟨rfl, lexeme, ?_, begins, ends⟩
  intro word
  exact apart.later.breaks lexeme word (breaks word)

theorem next_rejected (found : cursor.next = (.rejected error, after)) :
    ∃ blanks rest, cursor.rest = blanks ++ error.character :: rest ∧
      (∀ c ∈ blanks, isBlank c = true) ∧ isBlank error.character = false ∧
      TokenKind.ofPunctuation? error.character = none ∧ isNameStart error.character = false ∧
      error.position = cursor.position + byteLength blanks := by
  have split : cursor.rest.takeWhile isBlank ++ (cursor.skip isBlank).rest = cursor.rest :=
    List.takeWhile_append_dropWhile
  have noBlank := skip_breaks isBlank cursor
  unfold next read at found
  split at found
  · cases found
  · rename_i c rest remaining
    rw [remaining] at split noBlank
    split at found
    · cases found
    · rename_i noPunctuation
      split at found
      · cases found
      · rename_i noStart
        cases found
        refine ⟨cursor.rest.takeWhile isBlank, rest, split.symm, ?_, noBlank c rfl, noPunctuation,
          Bool.eq_false_iff.mpr noStart, rfl⟩
        exact List.all_eq_true.mp List.all_takeWhile

theorem next_of_rejected {blanks : List Char} {c : Char}
    (blank : ∀ c ∈ blanks, isBlank c = true) (noBlank : isBlank c = false)
    (noPunctuation : TokenKind.ofPunctuation? c = none) (noStart : isNameStart c = false)
    (position : Nat) (rest : List Char) :
    Cursor.next ⟨blanks ++ c :: rest, position⟩ =
      (.rejected ⟨c, position + byteLength blanks⟩,
        ⟨c :: rest, position + byteLength blanks⟩) := by
  have breaks : Breaks isBlank (c :: rest) := by
    intro d next
    cases next
    exact noBlank
  rw [next, skip_append blank breaks]
  simp only [read, noPunctuation, noStart, Bool.false_eq_true, if_false]

theorem next_blanks {blanks : List Char} (blank : ∀ c ∈ blanks, isBlank c = true)
    (behind : List Char) (position : Nat) :
    Cursor.next ⟨blanks ++ behind, position⟩ =
      Cursor.next ⟨behind, position + byteLength blanks⟩ := by
  simp only [next, skip, List.takeWhile_append_of_pos blank, List.dropWhile_append_of_pos blank,
    byteLength_append, Nat.add_assoc]

theorem scan_congr (same : cursor.next = other.next) : cursor.scan = other.scan := by
  rcases found : other.next with ⟨token | _ | error, after⟩
  · rw [scan_token found, scan_token (same.trans found)]
  · rw [scan_finished found, scan_finished (same.trans found)]
  · rw [scan_rejected found, scan_rejected (same.trans found)]

/-- The tokens of a second part come after those of the first one, which may end with an error. -/
def followedBy (first second : List Token × Option LexicalError) :
    List Token × Option LexicalError :=
  match first with
  | (tokens, none) => (tokens ++ second.1, second.2)
  | (tokens, some error) => (tokens, some error)

theorem followedBy_cons (token : Token) (first second : List Token × Option LexicalError) :
    followedBy (token :: first.1, first.2) second =
      (token :: (followedBy first second).1, (followedBy first second).2) := by
  obtain ⟨tokens, error⟩ := first
  cases error <;> rfl

theorem scan_append (cursor : Cursor) (apart : Apart cursor.rest behind) :
    Cursor.scan ⟨cursor.rest ++ behind, cursor.position⟩ =
      followedBy cursor.scan (Cursor.scan ⟨behind, cursor.position + byteLength cursor.rest⟩) := by
  induction cursor using Cursor.scan.induct with
  | case1 cursor token after found others error rest ih =>
      obtain ⟨used, split, moved, _⟩ := next_consumes found
      have ends : after.position + byteLength after.rest =
          cursor.position + byteLength cursor.rest := by
        rw [moved, split, byteLength_append, Nat.add_assoc]
      have apartRest : Apart after.rest behind := by
        rw [split] at apart
        exact apart.later
      rw [scan_token (next_append found apart), scan_token found, followedBy_cons, ih apartRest,
        ends]
  | case2 cursor after found =>
      rw [scan_finished found]
      exact scan_congr (next_blanks (next_finished found) behind cursor.position)
  | case3 cursor error after found =>
      obtain ⟨blanks, rest, split, blank, noBlank, noPunctuation, noStart, begins⟩ :=
        next_rejected found
      have rejected := next_of_rejected blank noBlank noPunctuation noStart cursor.position
        (rest ++ behind)
      rw [← begins] at rejected
      rw [scan_rejected found, split, List.append_assoc]
      exact scan_rejected rejected

end Cursor

end Observe.Token
