import Observe.Command.Run

namespace Observe.Command

open Text

variable {line : List Char} {texts others : List String} {text : String}

theorem joinLines_append (texts others : List String) :
    joinLines (texts ++ others) = joinLines texts ++ joinLines others := by
  rw [joinLines, List.map_append, String.join_append]
  rfl

theorem toList_joinLines_cons (text : String) (rest : List String) :
    (joinLines (text :: rest)).toList = text.toList ++ '\n' :: (joinLines rest).toList := by
  simp [joinLines, String.join_cons]

/-- Lines that are printed as one text are printed as they would be one by one. -/
theorem joinLines_intercalate {lines : List String} (nonempty : lines ≠ []) :
    joinLines ["\n".intercalate lines] = joinLines lines := by
  induction lines with
  | nil => exact absurd rfl nonempty
  | cons first rest ih =>
      cases rest with
      | nil => rw [String.intercalate_singleton]
      | cons second others =>
          have more := congrArg String.toList (ih (List.cons_ne_nil _ _))
          rw [toList_joinLines_cons] at more
          rw [← String.toList_inj, toList_joinLines_cons, toList_joinLines_cons, ← more]
          simp

/-- A text that stands on one line and has no end of a line in it. -/
def IsLine (line : List Char) : Prop := '\n' ∉ line ∧ line.getLast? ≠ some '\r'

/-- A character that does not end a line begins the first of the lines. -/
theorem splitLines_cons {c : Char} {behind : List Char} {lines : List (List Char)}
    (inside : c ≠ '\n') (carried : c = '\r' → behind.head? ≠ some '\n')
    (split : splitLines behind = line :: lines) :
    splitLines (c :: behind) = (c :: line) :: lines := by
  rw [splitLines, split]
  · exact fun newline => inside newline
  · rintro rest carriage rfl
    exact carried carriage rfl

theorem splitLines_line (whole : IsLine line) (rest : List Char) :
    splitLines (line ++ '\n' :: rest) = line :: splitLines rest := by
  induction line with
  | nil => rw [List.nil_append, splitLines]
  | cons c more ih =>
      obtain ⟨unbroken, plain⟩ := whole
      have inside := (List.ne_of_not_mem_cons unbroken).symm
      have unbrokenMore := List.not_mem_of_not_mem_cons unbroken
      cases more with
      | nil =>
          refine splitLines_cons inside ?_ (ih ⟨unbrokenMore, by simp⟩)
          exact fun carriage => absurd (congrArg some carriage) plain
      | cons d others =>
          refine splitLines_cons inside ?_ (ih ⟨unbrokenMore, plain⟩)
          intro _ newline
          exact List.ne_of_not_mem_cons unbrokenMore (Option.some.inj newline).symm

/-- A carriage return before the newline belongs to the end of the line. -/
theorem splitLines_carriage (unbroken : '\n' ∉ line) (rest : List Char) :
    splitLines (line ++ '\r' :: '\n' :: rest) = line :: splitLines rest := by
  induction line with
  | nil => rw [List.nil_append, splitLines]
  | cons c more ih =>
      have inside := (List.ne_of_not_mem_cons unbroken).symm
      have unbrokenMore := List.not_mem_of_not_mem_cons unbroken
      refine splitLines_cons inside ?_ (ih unbrokenMore)
      intro _ newline
      cases more with
      | nil => simp at newline
      | cons d others => exact List.ne_of_not_mem_cons unbrokenMore (Option.some.inj newline).symm

/-- The last line may end with the text. -/
theorem splitLines_unended (unbroken : '\n' ∉ line) (filled : line ≠ []) :
    splitLines line = [line] := by
  induction line with
  | nil => exact absurd rfl filled
  | cons c more ih =>
      have inside := (List.ne_of_not_mem_cons unbroken).symm
      have unbrokenMore := List.not_mem_of_not_mem_cons unbroken
      cases more with
      | nil =>
          rw [splitLines, splitLines]
          · exact fun newline => inside newline
          · simp
      | cons d others =>
          refine splitLines_cons inside ?_ (ih unbrokenMore (List.cons_ne_nil _ _))
          intro _ newline
          exact List.ne_of_not_mem_cons unbrokenMore (Option.some.inj newline).symm

theorem splitLines_joinLines (whole : ∀ text ∈ texts, IsLine text.toList) :
    splitLines (joinLines texts).toList = texts.map String.toList := by
  induction texts with
  | nil => rfl
  | cons text rest ih =>
      obtain ⟨wholeFirst, wholeRest⟩ := List.forall_mem_cons.mp whole
      rw [toList_joinLines_cons, splitLines_line wholeFirst, ih wholeRest, List.map_cons]

theorem expressionsOf_joinLines (whole : ∀ text ∈ texts, IsLine text.toList)
    (filled : ∀ text ∈ texts, allBlank text = false) :
    expressionsOf (joinLines texts) = texts := by
  rw [expressionsOf, splitLines_joinLines whole, List.map_map]
  have same : texts.map (String.ofList ∘ String.toList) = texts :=
    List.map_id'' (fun _ => String.ofList_toList) texts
  rw [same]
  apply List.filter_eq_self.mpr
  intro text member
  rw [filled text member]
  rfl

end Observe.Command
