import Observe.Proofs.Strays

namespace Observe.Token

open Text

/-! The lexer can be asked for one token after the other. It gives those of the text, and then the
same answer for ever: the end of the text, or its first stray character. -/

/-- What is answered where no token can be read any more. -/
def Reading.final : Option LexicalError → Reading
  | none => .finished
  | some error => .rejected error

namespace Cursor

variable {text : String} {cursor after : Cursor} {token : Token} {stop : Option LexicalError}
  {used rest : List Char}

/-- The cursor after a number of readings. -/
def advanced : Nat → Cursor → Cursor
  | 0, cursor => cursor
  | count + 1, cursor => advanced count cursor.next.2

/-- The same is answered here each time, at the end or with an error of this place. -/
structure Rests (cursor : Cursor) (stop : Option LexicalError) : Prop where
  repeats : cursor.next = (.final stop, cursor)
  ended : stop = none → cursor.rest = []
  placed : ∀ error ∈ stop, error.position = cursor.position

theorem skip_skip (test : Char → Bool) (cursor : Cursor) :
    (cursor.skip test).skip test = cursor.skip test := by
  have skipped := skip_append (List.forall_mem_nil _) (skip_breaks test cursor)
    (cursor.skip test).position
  rwa [List.nil_append, byteLength_nil, Nat.add_zero] at skipped

theorem read_cases (here : Cursor) :
    (∃ token after, here.read = (.token token, after)) ∨
      ∃ stop, here.read = (.final stop, here) ∧ (stop = none → here.rest = []) ∧
        ∀ error ∈ stop, error.position = here.position := by
  unfold read
  split
  · rename_i nothing
    exact .inr ⟨none, rfl, fun _ => nothing, by simp⟩
  · rename_i c rest remaining
    split
    · exact .inl ⟨_, _, rfl⟩
    · split
      · exact .inl ⟨_, _, rfl⟩
      · exact .inr ⟨some ⟨c, here.position⟩, rfl, by simp, by simp⟩

theorem next_cases (cursor : Cursor) :
    (∃ token after, cursor.next = (.token token, after)) ∨
      ∃ stop, cursor.next = (.final stop, cursor.skip isBlank) ∧
        (cursor.skip isBlank).Rests stop := by
  rcases read_cases (cursor.skip isBlank) with found | ⟨stop, answered, ended, placed⟩
  · exact .inl found
  · refine .inr ⟨stop, answered, ?_, ended, placed⟩
    rw [next, skip_skip]
    exact answered

theorem scan_final (answered : cursor.next = (.final stop, after)) : cursor.scan = ([], stop) := by
  cases stop with
  | none => exact scan_finished answered
  | some error => exact scan_rejected answered

/-- The position counts the bytes of the characters before the cursor. -/
def StandsIn (text : String) (cursor : Cursor) : Prop :=
  ∃ before, text.toList = before ++ cursor.rest ∧ byteLength before = cursor.position

theorem StandsIn.position_le (stands : cursor.StandsIn text) :
    cursor.position ≤ byteLength text.toList := by
  obtain ⟨before, split, placed⟩ := stands
  rw [split, byteLength_append, placed]
  exact Nat.le_add_right _ _

theorem StandsIn.position_eq (stands : cursor.StandsIn text) (ended : cursor.rest = []) :
    cursor.position = byteLength text.toList := by
  obtain ⟨before, split, placed⟩ := stands
  rw [split, ended, List.append_nil, placed]

theorem StandsIn.over (stands : cursor.StandsIn text) (split : cursor.rest = used ++ rest) :
    StandsIn text ⟨rest, cursor.position + byteLength used⟩ := by
  obtain ⟨before, whole, placed⟩ := stands
  refine ⟨before ++ used, ?_, ?_⟩
  · rw [whole, split, List.append_assoc]
  · rw [byteLength_append, placed]

/-- A token stands in the text from its position to the one that the cursor moves to. -/
theorem StandsIn.spelled (stands : cursor.StandsIn text)
    (found : cursor.next = (.token token, after)) :
    ∃ before, text.toList = before ++ (token.kind.text.toList ++ after.rest) ∧
      byteLength before = token.position ∧
      byteLength (before ++ token.kind.text.toList) = after.position := by
  obtain ⟨blanks, split, _, cuts⟩ := next_cuts found
  have splitToken : (cursor.skip isBlank).rest = token.kind.text.toList ++ after.rest := cuts.split
  rw [splitToken] at split
  obtain ⟨before, whole, placed⟩ := stands.over split
  have begins : byteLength before = token.position := placed.trans cuts.begins.symm
  refine ⟨before, whole, begins, ?_⟩
  rw [byteLength_append, placed]
  exact cuts.ends.symm

theorem StandsIn.next (stands : cursor.StandsIn text) : cursor.next.2.StandsIn text := by
  rcases next_cases cursor with ⟨token, after, found⟩ | ⟨stop, answered, _⟩
  · obtain ⟨before, split, _, ends⟩ := stands.spelled found
    rw [found]
    exact ⟨before ++ token.kind.text.toList, by rw [split, List.append_assoc], ends⟩
  · rw [answered]
    exact stands.over List.takeWhile_append_dropWhile.symm

theorem StandsIn.advanced (stands : cursor.StandsIn text) (count : Nat) :
    (advanced count cursor).StandsIn text := by
  induction count generalizing cursor with
  | zero => exact stands
  | succ count ih => exact ih stands.next

theorem Rests.readings (rests : cursor.Rests stop) (count : Nat) :
    cursor.readings count = List.replicate count (.final stop) ∧
      advanced count cursor = cursor := by
  induction count with
  | zero => exact ⟨rfl, rfl⟩
  | succ count ih =>
      obtain ⟨answers, stays⟩ := ih
      rw [Cursor.readings, Cursor.advanced, rests.repeats]
      exact ⟨congrArg (Reading.final stop :: ·) answers, stays⟩

/-- The answers are the tokens that a scan finds, as far as asked for, and then what stops it. -/
theorem readings_eq_scan (count : Nat) (cursor : Cursor) :
    cursor.readings count = (cursor.scan.1.map .token).take count ++
        List.replicate (count - cursor.scan.1.length) (.final cursor.scan.2) ∧
      (cursor.scan.1.length < count → (advanced count cursor).Rests cursor.scan.2) := by
  induction count generalizing cursor with
  | zero => exact ⟨by simp [readings], by simp⟩
  | succ count ih =>
      rw [readings, advanced]
      rcases next_cases cursor with ⟨token, after, found⟩ | ⟨stop, answered, rests⟩
      · obtain ⟨answers, restsThere⟩ := ih after
        rw [found, scan_token found]
        refine ⟨?_, ?_⟩
        · simpa using answers
        · simpa using restsThere
      · obtain ⟨answers, stays⟩ := rests.readings count
        rw [answered, scan_final answered, answers, stays]
        exact ⟨rfl, fun _ => rests⟩

theorem apart_stray {before behind : List Char} {c : Char} (stray : IsStray before c) :
    Apart before (c :: behind) := by
  intro d last part first next
  cases next
  exact stray.noPart d last part

theorem scan_stray_first {before behind : List Char} {c : Char} (stray : IsStray before c)
    (position : Nat) : Cursor.scan ⟨c :: behind, position⟩ = ([], some ⟨c, position⟩) := by
  have rejected := next_of_rejected (List.forall_mem_nil _) stray.noBlank
    (ofPunctuation?_eq_none_iff.mpr stray.noPunctuation) stray.noStart position behind
  exact scan_rejected rejected

end Cursor

variable {text : String} {error : LexicalError}

/-- The tokens found before the lexer fails are those of the text before the stray character. -/
theorem tokenize_before (cut : tokenize text = .error error) :
    ∃ before behind, text.toList = before ++ error.character :: behind ∧
      byteLength before = error.position ∧
      tokenize (String.ofList before) = .ok (Cursor.start text).scan.1 := by
  obtain ⟨before, behind, split, placed, clean, stray⟩ := tokenize_eq_error_stray cut
  refine ⟨before, behind, split, placed, ?_⟩
  rw [← String.toList_ofList (l := before), clean_iff_tokenize] at clean
  obtain ⟨tokens, cutBefore⟩ := clean
  have scanned := tokenize_eq_ok_iff_scan.mp cutBefore
  rw [Cursor.start, String.toList_ofList] at scanned
  have apart : Apart before (error.character :: behind) := Cursor.apart_stray stray
  have joined := Cursor.scan_append ⟨before, 0⟩ apart
  rw [scanned, Cursor.scan_stray_first stray, Cursor.followedBy, List.append_nil] at joined
  rw [cutBefore, Cursor.start, split, joined]

/-- However often the lexer has been asked, it stands between two characters of the text, wherever
it moves on to. A token that it gives is spelled there, and it moves behind it. The answers are the
tokens of the text and then its end, over and over. If a character is stray, they are the tokens of
the text before it and then this error, over and over, and the lexer stays there. -/
theorem readings_settle (text : String) (calls : Nat) :
    let cursor := (Cursor.start text).advanced calls
    cursor.StandsIn text ∧ cursor.position ≤ byteLength text.toList ∧
    (∀ used rest, cursor.rest = used ++ rest →
      Cursor.StandsIn text ⟨rest, cursor.position + byteLength used⟩) ∧
    (∀ token after, cursor.next = (.token token, after) → cursor.position < after.position ∧
      ∃ before, text.toList = before ++ (token.kind.text.toList ++ after.rest) ∧
        byteLength before = token.position ∧
        byteLength (before ++ token.kind.text.toList) = after.position) ∧
    match tokenize text with
    | .ok tokens =>
        (Cursor.start text).readings calls = (tokens.map .token).take calls ++
            List.replicate (calls - tokens.length) .finished ∧
          (tokens.length < calls → cursor.position = byteLength text.toList)
    | .error error =>
        ∃ before behind tokens, text.toList = before ++ error.character :: behind ∧
          byteLength before = error.position ∧ tokenize (String.ofList before) = .ok tokens ∧
          (Cursor.start text).readings calls = (tokens.map .token).take calls ++
            List.replicate (calls - tokens.length) (.rejected error) ∧
          (tokens.length < calls → cursor.position = error.position) := by
  intro cursor
  have begins : (Cursor.start text).StandsIn text := ⟨[], rfl, rfl⟩
  have stands : cursor.StandsIn text := begins.advanced calls
  obtain ⟨answers, rests⟩ := Cursor.readings_eq_scan calls (Cursor.start text)
  refine ⟨stands, stands.position_le, fun _ _ => stands.over, ?_, ?_⟩
  · intro token after found
    obtain ⟨_, _, _, reached, passed⟩ := Cursor.next_consumes found
    exact ⟨Nat.lt_of_le_of_lt reached passed, stands.spelled found⟩
  · cases cut : tokenize text with
    | ok tokens =>
        rw [tokenize_eq_ok_iff_scan.mp cut] at answers rests
        exact ⟨answers, fun more => stands.position_eq ((rests more).ended rfl)⟩
    | error error =>
        have stopped := tokenize_eq_error_iff_scan.mp cut
        obtain ⟨before, behind, split, placed, cutBefore⟩ := tokenize_before cut
        rw [stopped] at answers rests
        refine ⟨before, behind, _, split, placed, cutBefore, answers, fun more => ?_⟩
        exact ((rests more).placed error rfl).symm

end Observe.Token
