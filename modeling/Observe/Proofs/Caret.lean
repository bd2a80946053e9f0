import Observe.Diagnostic
import Observe.Proofs.Blame
import Observe.Proofs.Flattening

namespace Observe

open Text

namespace Text

variable {text other : String} {position count : Nat} {cs before behind : List Char}

/-- No blank but the space occurs, and so no break of a line. -/
def OnlySpaces (text : String) : Prop := ∀ c ∈ text.toList, isBlank c = true → c = ' '

instance : Decidable (OnlySpaces text) :=
  decidable_of_iff (text.toList.all (fun c => ! isBlank c || c == ' ') = true) 
    (by simp [OnlySpaces, imp_iff_not_or])

theorem OnlySpaces.append (first : OnlySpaces text) (second : OnlySpaces other) :
    OnlySpaces (text ++ other) := by
  unfold OnlySpaces
  rw [String.toList_append]
  exact List.forall_mem_append.mpr ⟨first, second⟩

theorem OnlySpaces.unbroken (spaced : OnlySpaces text) : '\n' ∉ text.toList := by
  intro member
  have space := spaced '\n' member rfl
  cases space

theorem onlySpaces_of_noBlank (noBlank : ∀ c ∈ text.toList, isBlank c = false) :
    OnlySpaces text := by
  intro c member blank
  rw [noBlank c member] at blank
  cases blank

theorem onlySpaces_toString (number : Nat) : OnlySpaces (toString number) := by
  apply onlySpaces_of_noBlank
  intro c member
  rw [Nat.toString_eq_ofList_toDigits, String.toList_ofList] at member
  have digit : c.isDigit = true :=
    Nat.isDigit_of_mem_toDigits (by decide) (by decide) member
  apply Token.isBlank_eq_false_of_isNamePart
  simp [isNamePart, Char.isAlphanum, digit]

theorem onlySpaces_replicate (count : Nat) :
    OnlySpaces (String.ofList (List.replicate count ' ')) := by
  intro c member _
  rw [String.toList_ofList] at member
  exact List.eq_of_mem_replicate member

theorem getElem?_of_split {c : Char} (split : cs = before ++ c :: behind) :
    cs[before.length]? = some c := by
  rw [split, List.getElem?_append_right (Nat.le_refl _), Nat.sub_self]
  rfl

theorem charsBefore?_le (found : charsBefore? position cs = some count) : count ≤ cs.length := by
  induction cs generalizing position count with
  | nil =>
      cases position <;> cases found
      exact Nat.le_refl 0
  | cons c rest ih =>
      cases position with
      | zero =>
          cases found
          exact Nat.zero_le _
      | succ position =>
          rw [charsBefore?] at found
          split at found
          · obtain ⟨later, foundRest, rfl⟩ := Option.map_eq_some_iff.mp found
            exact Nat.succ_le_succ (ih foundRest)
          · cases found

theorem linesOf_of_unbroken (unbroken : '\n' ∉ text.toList) : linesOf text = [text] := by
  rw [linesOf, List.splitOn_eq_singleton unbroken, List.map_singleton, String.ofList_toList]

theorem linesOf_append (front last : String) :
    linesOf (front ++ "\n" ++ last) = linesOf front ++ linesOf last := by
  have spelled : (front ++ "\n" ++ last).toList = front.toList ++ '\n' :: last.toList := by
    simp
  have split := @List.splitOnP_append_cons _ (· == '\n') front.toList last.toList '\n' rfl
  rw [linesOf, spelled, List.splitOn, split, List.map_append]
  rfl

end Text

theorem ScanMode.onlySpaces_wanted (mode : ScanMode) (opened : Nat) :
    OnlySpaces (mode.wanted opened) := by
  fun_cases wanted mode opened <;> decide +kernel

namespace ExpressionError

variable {text : String} {error : ExpressionError} {before behind : List Char}

theorem Blames.onlySpaces_message (blames : Blames text error before behind) :
    OnlySpaces error.message := by
  cases blames with
  | @character error _ _ _ _ noBlank =>
      have blamed : OnlySpaces error.character.toString := by
        apply onlySpaces_of_noBlank
        simpa [Char.toString] using noBlank
      have quoted : OnlySpaces ("Unexpected character '" ++ error.character.toString) :=
        .append (by decide +kernel) blamed
      exact (quoted.append (by decide +kernel)).append (onlySpaces_toString error.position)
  | @token kind position opened mode _ _ _ _ lexeme =>
      have blamed := onlySpaces_of_noBlank lexeme.noBlank
      have quoted : OnlySpaces ("Unexpected token '" ++ kind.text ++ "' at position ") :=
        .append (.append (by decide +kernel) blamed) (by decide +kernel)
      have placed := quoted.append (onlySpaces_toString position)
      exact (placed.append (by decide +kernel)).append (mode.onlySpaces_wanted opened)
  | @bracket position =>
      have deep : OnlySpaces ("Groups nested deeper than " ++ toString Parser.maximalDepth) :=
        .append (by decide +kernel) (onlySpaces_toString _)
      exact (deep.append (by decide +kernel)).append (onlySpaces_toString position)
  | @finish opened mode =>
      have placed : OnlySpaces ("Unexpected end of input at position " ++
          toString (byteLength text.toList)) :=
        .append (by decide +kernel) (onlySpaces_toString _)
      exact (placed.append (by decide +kernel)).append (mode.onlySpaces_wanted opened)

/-- What the error is about begins at the place among the characters; where the text ended too
early, the place is their end. -/
def StandsAt (shown : List Char) (place : Nat) : ExpressionError → Prop
  | .lexical error => shown[place]? = some error.character
  | .syntactic (.unexpectedToken _ found _) =>
      ∃ first rest, found.text.toList = first :: rest ∧ shown[place]? = some first
  | .syntactic (.nestingTooDeep _ _) => shown[place]? = some '['
  | .syntactic (.unexpectedEnd _ _) => place = shown.length

theorem Blames.standsAt (blames : Blames text error before behind) {shown : List Char}
    (size : shown.length = text.toList.length)
    (kept : ∀ c, isBlank c = false → text.toList[before.length]? = some c →
      shown[before.length]? = some c) :
    error.StandsAt shown before.length := by
  cases blames with
  | character split _ noBlank => exact kept _ noBlank (getElem?_of_split split)
  | token split _ lexeme =>
      obtain ⟨first, rest, spelled, _⟩ := lexeme.begins
      have noBlank : isBlank first = false := lexeme.noBlank first (by simp [spelled])
      rw [spelled, List.cons_append] at split
      exact ⟨first, rest, spelled, kept first noBlank (getElem?_of_split split)⟩
  | bracket split => exact kept '[' rfl (getElem?_of_split split)
  | finish => exact size.symm

end ExpressionError

namespace Diagnostic

variable {input : String} {error : ExpressionError} {before behind : List Char}

def caretLine (place : Nat) : String := String.ofList (List.replicate (place + 2) ' ') ++ "^"

/-- The three lines of a diagnostic, of which the second shows the input. -/
structure Aligned (input : String) (error : ExpressionError) (place : Nat) (out row : String) :
    Prop where
  lines : linesOf out = ["error: " ++ error.message, "  " ++ row, caretLine place]
  spaced : ∀ other ∈ linesOf out, OnlySpaces other
  size : row.toList.length = input.toList.length
  characters : ∀ (index : Nat) (c : Char), input.toList[index]? = some c →
    row.toList[index]? = some (if isBlank c then ' ' else c)
  stands : error.StandsAt row.toList place

theorem column_le (input : String) (position : Nat) :
    column input position ≤ input.toList.length := by
  rw [column]
  cases found : charsBefore? position input.toList with
  | none => exact Nat.le_refl _
  | some count => exact charsBefore?_le found

theorem column_of_blames (blames : error.Blames input before behind) :
    column input error.position = before.length := by
  rw [← blames.placed, column, blames.split, charsBefore?_byteLength]
  rfl

def rows (input : String) (error : ExpressionError) : List String :=
  ["error: " ++ error.message, "  " ++ shown input, caretLine (column input error.position)]

theorem render?_eq (input : String) (error : ExpressionError) :
    render? input error =
      if column input error.position ≤ widestPadding then
        some ("\n".intercalate (rows input error))
      else none := by
  unfold render? pad?
  split
  · apply congrArg some
    apply String.toList_injective
    simp [rows, caretLine, List.replicate_succ]
  · rfl

theorem render?_eq_none_iff :
    render? input error = none ↔ widestPadding < column input error.position := by
  rw [render?_eq]
  split <;> simp_all

theorem onlySpaces_caretLine (place : Nat) : OnlySpaces (caretLine place) :=
  (onlySpaces_replicate _).append (by decide +kernel)

theorem shown_getElem? {index : Nat} {c : Char} (found : input.toList[index]? = some c) :
    (shown input).toList[index]? = some (if isBlank c then ' ' else c) := by
  rw [shown, String.toList_ofList, List.getElem?_map, found]
  rfl

theorem length_shown (input : String) : (shown input).toList.length = input.toList.length := by
  rw [shown, String.toList_ofList, List.length_map]

theorem onlySpaces_shown (input : String) : OnlySpaces (shown input) := by
  intro c member blank
  rw [shown, String.toList_ofList] at member
  obtain ⟨original, _, rfl⟩ := List.mem_map.mp member
  cases white : isBlank original with
  | true => rfl
  | false =>
      simp only [white, Bool.false_eq_true, if_false] at blank

theorem onlySpaces_rows (blames : error.Blames input before behind) :
    ∀ row ∈ rows input error, OnlySpaces row := by
  have message : OnlySpaces ("error: " ++ error.message) :=
    .append (by decide +kernel) blames.onlySpaces_message
  have echo : OnlySpaces ("  " ++ shown input) :=
    .append (by decide +kernel) (onlySpaces_shown input)
  have caret := List.forall_mem_singleton.mpr
    (onlySpaces_caretLine (column input error.position))
  exact List.forall_mem_cons.mpr ⟨message, List.forall_mem_cons.mpr ⟨echo, caret⟩⟩

theorem aligned_rows (blames : error.Blames input before behind) :
    Aligned input error before.length ("\n".intercalate (rows input error)) (shown input) := by
  have spaced := onlySpaces_rows blames
  have lines : linesOf ("\n".intercalate (rows input error)) = rows input error :=
    linesOf_intercalate (List.cons_ne_nil _ _) fun row member => (spaced row member).unbroken
  constructor
  case lines =>
    rw [lines, rows, column_of_blames blames]
  case spaced =>
    rw [lines]
    exact spaced
  case size => exact length_shown input
  case characters =>
    intro index c found
    exact shown_getElem? found
  case stands =>
    apply blames.standsAt (length_shown input)
    intro c noBlank found
    simpa [noBlank] using shown_getElem? found

/-- The last line of a diagnostic is the caret, also where lines break in the message. -/
theorem getLast?_linesOf_rows (input : String) (error : ExpressionError) :
    (linesOf ("\n".intercalate (rows input error))).getLast? =
      some (caretLine (column input error.position)) := by
  have caret := linesOf_of_unbroken (onlySpaces_caretLine (column input error.position)).unbroken
  rw [rows, String.intercalate_cons_of_ne_nil (List.cons_ne_nil _ _), linesOf_append,
    String.intercalate_cons_of_ne_nil (List.cons_ne_nil _ _), linesOf_append,
    String.intercalate_singleton, caret, ← List.append_assoc, List.getLast?_concat]

/-- The diagnostic of an error of the parser shows the input on one line, with the caret below what
the error is about, unless more characters come before that than a line can be moved by. The caret
of any error stands below the input or right behind it. -/
theorem render?_aligned (input : String) :
    (∀ error, Expression.parse input = .error error →
      ∃ before behind, input.toList = before ++ behind ∧ byteLength before = error.position ∧
        (before.length ≤ 65535 → ∃ out row, render? input error = some out ∧
          Aligned input error before.length out row) ∧
        (render? input error = none ↔ 65535 < before.length)) ∧
    ∀ error, column input error.position ≤ input.toList.length ∧
      ∀ out, render? input error = some out →
        (linesOf out).getLast? = some (caretLine (column input error.position)) := by
  constructor
  · intro error refused
    obtain ⟨before, behind, blames⟩ := Expression.exists_blames refused
    have placed := column_of_blames blames
    refine ⟨before, behind, blames.split, blames.placed, ?_, ?_⟩
    · intro fits
      have room : column input error.position ≤ widestPadding :=
        Nat.le_trans (Nat.le_of_eq placed) fits
      refine ⟨_, _, ?_, aligned_rows blames⟩
      rw [render?_eq, if_pos room]
    · rw [render?_eq_none_iff, placed]
      exact Iff.rfl
  · intro error
    refine ⟨column_le input error.position, ?_⟩
    intro out rendered
    rw [render?_eq] at rendered
    split at rendered <;> cases rendered
    exact getLast?_linesOf_rows input error

theorem render?_aligned_blanks :
    Expression.parse "a.\n\u3000é" = .error (.lexical ⟨'é', 6⟩) ∧
      ∃ out row, render? "a.\n\u3000é" (.lexical ⟨'é', 6⟩) = some out ∧
        Aligned "a.\n\u3000é" (.lexical ⟨'é', 6⟩) 4 out row ∧
        (linesOf out).getLast? = some "      ^" := by
  have refused : Expression.parse "a.\n\u3000é" = .error (.lexical ⟨'é', 6⟩) := by cbv
  obtain ⟨genuine, any⟩ := render?_aligned "a.\n\u3000é"
  obtain ⟨before, behind, split, placed, shows, _⟩ := genuine _ refused
  have columns : before.length = 4 := by
    have found := charsBefore?_byteLength before behind
    rw [placed, ← split] at found
    have counted : charsBefore? 6 "a.\n\u3000é".toList = some 4 := by cbv
    exact Option.some.inj (found.symm.trans counted)
  rw [columns] at shows
  obtain ⟨out, row, rendered, aligned⟩ := shows (by decide)
  exact ⟨refused, out, row, rendered, aligned, (any _).2 out rendered⟩

end Diagnostic

end Observe
