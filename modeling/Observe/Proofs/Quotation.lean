import Mathlib.Data.List.Chain
import Observe.Proofs.Caret

namespace Observe.Diagnostic

variable {display : String} {before chars after : List Char}

/-- The text is what is told of some expression that is refused. -/
def IsDisplay (display : String) : Prop :=
  ∃ text error, Expression.parse text = .error error ∧ render? text error = some display

/-- The display of some refused expression stands somewhere among the characters. -/
def IsIn (chars : List Char) : Prop := ∃ display, IsDisplay display ∧ display.toList <:+: chars

/-- What every display begins with. -/
def opening : List Char := ['e', 'r', 'r', 'o', 'r', ':', ' ']

/-- Behind every newline there is a space, if there is anything. -/
def Indents (chars : List Char) : Prop := chars.IsChain fun c next => c = '\n' → next = ' '

theorem Indents.append (indents : Indents chars) (unbroken : '\n' ∉ before) :
    Indents (before ++ chars) := by
  induction before with
  | nil => exact indents
  | cons c rest ih =>
      have other : c ≠ '\n' := (List.ne_of_not_mem_cons unbroken).symm
      refine List.isChain_cons.mpr ⟨fun _ _ newline => absurd newline other, ?_⟩
      exact ih (List.not_mem_of_not_mem_cons unbroken)

theorem Indents.newline (indents : Indents chars) (spaced : chars.head? = some ' ') :
    Indents ('\n' :: chars) := by
  refine List.isChain_cons.mpr ⟨fun next head _ => ?_, indents⟩
  exact Option.some.inj (Eq.trans (Eq.symm head) spaced)

/-- What all displays have in common. -/
structure Spelled (chars : List Char) : Prop where
  opens : opening <+: chars
  ends : chars.getLast? = some '^'
  indents : Indents chars

/-- The lines for the expression and for the caret begin with spaces, and the line for the message
does not break. -/
theorem IsDisplay.spelled (genuine : IsDisplay display) : Spelled display.toList := by
  obtain ⟨text, error, refused, rendered⟩ := genuine
  obtain ⟨front, rest, blames⟩ := Expression.exists_blames refused
  have unbroken : ∀ row ∈ rows text error, '\n' ∉ row.toList :=
    fun row member => (onlySpaces_rows blames row member).unbroken
  simp only [rows, List.forall_mem_cons] at unbroken
  obtain ⟨message, echo, caret, _⟩ := unbroken
  rw [render?_eq] at rendered
  split at rendered <;> cases rendered
  let first := ("error: " ++ error.message).toList
  let second := ("  " ++ shown text).toList
  let last := (caretLine (column text error.position)).toList
  have lines : ("\n".intercalate (rows text error)).toList =
      first ++ '\n' :: (second ++ '\n' :: last) := by
    simp [rows, first, second, last]
  have opens : opening <+: first := ⟨error.message.toList, by simp [first, opening]⟩
  rw [lines]
  constructor
  case opens => exact opens.trans (List.prefix_append _ _)
  case ends => simp [last, caretLine, List.getLast?_append, List.getLast?_cons]
  case indents =>
    have alone := Indents.append (.nil : Indents []) caret
    rw [List.append_nil] at alone
    have caretRow := alone.newline (by simp [caretLine, List.replicate_succ])
    have echoRow := (caretRow.append echo).newline (by simp)
    exact echoRow.append message

/-- No display begins among the characters, whatever comes behind them. -/
def Unopened (chars : List Char) : Prop :=
  ∀ tail ∈ chars.tails, tail ≠ [] → ¬ opening <+: tail ∧ ¬ tail <+: opening

instance : Decidable (Unopened chars) := by
  unfold Unopened
  infer_instance

/-- Characters among which no display ends can be left out behind others. -/
theorem IsIn.front (within : IsIn (before ++ after)) (caretless : '^' ∉ after) : IsIn before := by
  obtain ⟨display, genuine, found⟩ := within
  refine ⟨display, genuine, ?_⟩
  have ends := genuine.spelled.ends
  rcases List.infix_append_iff.mp found with inFront | inBack | ⟨first, last, cut, up, down⟩
  · exact inFront
  · exact absurd (inBack.subset (List.mem_of_getLast? ends)) caretless
  · -- The display would end behind the front, and so with a caret there.
    cases last using List.reverseRecOn with
    | nil =>
        rw [cut, List.append_nil]
        exact up.isInfix
    | append_singleton others c _ =>
        rw [cut, ← List.append_assoc, List.getLast?_concat] at ends
        cases ends
        exact absurd (down.subset (List.mem_append_right _ List.mem_cons_self)) caretless

/-- Characters among which no display begins can be left out before others. -/
theorem IsIn.back (within : IsIn (before ++ after)) (unopened : Unopened before) : IsIn after := by
  obtain ⟨display, genuine, found⟩ := within
  refine ⟨display, genuine, ?_⟩
  have opens := genuine.spelled.opens
  rcases List.infix_append_iff.mp found with inFront | inBack | ⟨first, last, cut, up, down⟩
  · obtain ⟨tail, here, suffix⟩ := List.infix_iff_prefix_suffix.mp inFront
    have marked := opens.trans here
    have nonempty : tail ≠ [] := by
      intro nothing
      simp [opening, nothing] at marked
    exact absurd marked (unopened tail ((List.mem_tails _ _).mpr suffix) nonempty).1
  · exact inBack
  · by_cases nothing : first = []
    · rw [cut, nothing, List.nil_append]
      exact down.isInfix
    · have apart := unopened first ((List.mem_tails _ _).mpr up) nothing
      have front : first <+: display.toList := cut ▸ List.prefix_append first last
      rcases List.prefix_or_prefix_of_prefix opens front with inside | inside
      · exact absurd inside apart.1
      · exact absurd inside apart.2

/-- A display that stands among the characters stands in what they quote. -/
theorem IsIn.quoted (within : IsIn (before ++ chars ++ after))
    (unopened : Unopened before) (caretless : '^' ∉ after) : IsIn chars :=
  (within.front caretless).back unopened

/-- No display reaches over an empty line. -/
theorem IsIn.apart (within : IsIn (before ++ '\n' :: '\n' :: after)) :
    IsIn before ∨ IsIn after := by
  obtain ⟨display, genuine, found⟩ := within
  have unopened : Unopened ['\n', '\n'] := by decide
  rcases List.infix_append_iff.mp found with inFront | inBack | ⟨first, last, cut, up, down⟩
  · exact .inl ⟨display, genuine, inFront⟩
  · have behind : IsIn (['\n', '\n'] ++ after) := ⟨display, genuine, inBack⟩
    exact .inr (behind.back unopened)
  · have inside : last <:+: display.toList := cut ▸ (List.suffix_append first last).isInfix
    have indents := genuine.spelled.indents.infix inside
    have ends := genuine.spelled.ends
    rw [cut] at ends
    rcases last with _ | ⟨c, _ | ⟨next, more⟩⟩
    · exact .inl ⟨display, genuine, by rw [cut, List.append_nil]; exact up.isInfix⟩
    · rw [List.cons_prefix_cons] at down
      rw [List.getLast?_concat, down.1] at ends
      cases ends
    · rw [List.cons_prefix_cons, List.cons_prefix_cons] at down
      obtain ⟨rfl, rfl, _⟩ := down
      cases (List.isChain_cons_cons.mp indents).1 rfl

end Observe.Diagnostic
