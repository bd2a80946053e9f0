import Observe.Format
import Observe.Proofs.JsonDepth
import Observe.Proofs.JsonValue
import Observe.Proofs.Text

namespace Observe

open Json

theorem Json.unnumbered_text (text : String) : (Json.text text).Unnumbered :=
  unnumbered_string (some text)

mutual

theorem Element.unnumbered_toJson (element : Element) : element.toJson.Unnumbered :=
  match element with
  | .trait name => unnumbered_member _ (unnumbered_text name)
  | .metadata name => unnumbered_member _ (unnumbered_text name)
  | .items => unnumbered_text "Items"
  | .group branches =>
      unnumbered_member _ (unnumbered_array (Expression.unnumbered_branchesToJson branches))
termination_by structural element

theorem Series.unnumbered_stepsToJson (series : Series) :
    ∀ item ∈ Series.stepsToJson series, item.Unnumbered :=
  match series with
  | [] => List.forall_mem_nil _
  | ⟨element, notify⟩ :: rest => by
      refine List.forall_mem_cons.mpr ⟨unnumbered_array ?_, Series.unnumbered_stepsToJson rest⟩
      exact List.forall_mem_cons.mpr ⟨Element.unnumbered_toJson element,
        List.forall_mem_singleton.mpr (unnumbered_boolean notify)⟩
termination_by structural series

theorem Expression.unnumbered_branchesToJson (branches : Expression) :
    ∀ item ∈ branches.branchesToJson, item.Unnumbered :=
  match branches with
  | [] => List.forall_mem_nil _
  | series :: rest =>
      List.forall_mem_cons.mpr
        ⟨unnumbered_member _ (unnumbered_array (Series.unnumbered_stepsToJson series)),
          Expression.unnumbered_branchesToJson rest⟩
termination_by structural branches

end

namespace Expression

theorem unnumbered_toJson (expression : Expression) : expression.toJson.Unnumbered :=
  unnumbered_member _ (unnumbered_array expression.unnumbered_branchesToJson)

/-- Reads an expression from a JSON text. -/
def ofJsonText? (text : String) : Option Expression := (Json.parse? text).bind ofJson?

theorem ofJsonText?_compact (expression : Expression) :
    ofJsonText? expression.toJson.compact =
      within maximalDepth expression.toJson.nesting expression := by
  rw [ofJsonText?, parse?_compact expression.unnumbered_toJson, Option.bind_some, ofJson?_toJson]

theorem ofJsonText?_pretty (expression : Expression) :
    ofJsonText? expression.toJson.pretty =
      within maximalDepth expression.toJson.nesting expression := by
  rw [ofJsonText?, parse?_pretty expression.unnumbered_toJson, Option.bind_some, ofJson?_toJson]

/-- The depth that an expression may have to be read back, if it has no empty branch or group. -/
def readableDepth : Nat := 24

theorem Proper.nesting_le_iff {expression : Expression} (proper : expression.Proper) :
    expression.toJson.nesting ≤ maximalDepth ↔ expression.depth ≤ readableDepth := by
  have least := Expression.Proper.le_nestingOfItems expression proper
  have most := Expression.nestingOfItems_le expression
  rw [nesting_toJson]
  unfold maximalDepth readableDepth
  omega

/-- An item in as many groups. -/
def nested : Nat → Expression
  | 0 => [[⟨.items, false⟩]]
  | depth + 1 => [[⟨.group (nested depth), false⟩]]

theorem depth_nested (depth : Nat) : (nested depth).depth = depth := by
  induction depth with
  | zero => rfl
  | succ depth ih =>
      simp only [nested, Expression.depth, Series.depth, Element.depth, ih]
      omega

theorem proper_nested (depth : Nat) : (nested depth).Proper := by
  induction depth with
  | zero => exact ⟨⟨trivial, rfl⟩, trivial⟩
  | succ depth ih => exact ⟨⟨ih, rfl⟩, trivial⟩

theorem parse_nested {depth : Nat} (shallow : depth ≤ Parser.maximalDepth) :
    parse (nested depth).text = .ok (nested depth) :=
  parse_text ⟨proper_nested depth, (depth_nested depth).symm ▸ shallow⟩

/-- Whatever an expression holds, it is read back from both of its JSON texts if arrays and objects
nest no deeper in them than a reader allows, and from neither if they do. An expression that was
parsed is read back if its depth is 24 at most, and depths up to 256 can be parsed. What is read
from any text is read back. -/
theorem jsonText_readBack :
    (∀ expression : Expression,
      ofJsonText? expression.toJson.compact =
          (if expression.toJson.nesting ≤ 127 then some expression else none) ∧
        ∀ indent, ∃ shown, Format.json.render? indent expression = some shown ∧
          ofJsonText? shown =
            if expression.toJson.nesting ≤ 127 then some expression else none) ∧
    (∀ text expression, parse text = .ok expression →
      ∀ indent, ∃ shown, Format.json.render? indent expression = some shown ∧
        ofJsonText? shown = if expression.depth ≤ 24 then some expression else none) ∧
    (∀ depth ≤ 256, ∃ text expression, parse text = .ok expression ∧ expression.depth = depth) ∧
    ∀ text expression, ofJsonText? text = some expression →
      ofJsonText? expression.toJson.compact = some expression ∧
        ∀ indent, ∃ shown, Format.json.render? indent expression = some shown ∧
          ofJsonText? shown = some expression := by
  refine ⟨?_, ?_, ?_, ?_⟩
  · intro expression
    refine ⟨ofJsonText?_compact expression, ?_⟩
    intro indent
    exact ⟨_, rfl, ofJsonText?_pretty expression⟩
  · intro text expression read indent
    have proper := (wellFormed_of_parse read).1
    refine ⟨_, rfl, ?_⟩
    rw [ofJsonText?_pretty, within]
    simp only [proper.nesting_le_iff]
    rfl
  · intro depth shallow
    exact ⟨_, _, parse_nested shallow, depth_nested depth⟩
  · intro text expression read
    obtain ⟨json, _, found⟩ := Option.bind_eq_some_iff.mp read
    have enough := nesting_le_of_ofJson? found
    constructor
    · rw [ofJsonText?_compact, within_of_le enough]
    · intro indent
      refine ⟨_, rfl, ?_⟩
      rw [ofJsonText?_pretty, within_of_le enough]

end Expression

end Observe
