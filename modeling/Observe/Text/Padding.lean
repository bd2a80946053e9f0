namespace Observe.Text

/-- The widest padding that a line can have. -/
def widestPadding : Nat := 65535

/-- Puts spaces before a text. A padding wider than the widest is refused. -/
def pad? (width : Nat) (text : String) : Option String :=
  if width ≤ widestPadding then some (String.ofList (List.replicate width ' ') ++ text) else none

theorem pad?_isSome {width : Nat} {text : String} :
    (pad? width text).isSome ↔ width ≤ widestPadding := by
  unfold pad?
  split <;> simp_all

end Observe.Text
