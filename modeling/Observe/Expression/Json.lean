import Observe.Expression
import Observe.Json

namespace Observe

def Json.text (text : String) : Json := .string (some text)

def Json.member (name : String) (value : Json) : Json := .object [(some name, value)]

mutual

def Element.toJson : Element → Json
  | .trait name => .member "Trait" (.text name)
  | .metadata name => .member "Metadata" (.text name)
  | .items => .text "Items"
  | .group branches => .member "Group" (.array (Expression.branchesToJson branches))
termination_by structural element => element

def Series.stepsToJson : Series → List Json
  | [] => []
  | ⟨element, notify⟩ :: rest =>
      .array [element.toJson, .boolean notify] :: Series.stepsToJson rest
termination_by structural series => series

def Expression.branchesToJson : Expression → List Json
  | [] => []
  | series :: rest =>
      .member "elements" (.array (Series.stepsToJson series)) :: Expression.branchesToJson rest
termination_by structural branches => branches

end

def Expression.toJson (expression : Expression) : Json :=
  .member "branches" (.array expression.branchesToJson)

namespace Json

/-- The value of a record that has one field. An array of one item stands for it too. -/
def onlyField? (name : String) : Json → Option Json
  | .array [value] => some value
  | .object members =>
      if members.all (·.1.isSome) then
        match members.filter (·.1 == some name) with
        | [(_, value)] => some value
        | _ => none
      else none
  | _ => none

/-- How deep the arrays and objects of an expression may nest when it is read. -/
def maximalDepth : Nat := 127

mutual

/-- Reads an element from a value in which arrays and objects may nest so deep. -/
def element? : Nat → Json → Option Element
  | _, .string (some "Items") => some .items
  | _ + 1, .object [(some "Items", .null)] => some .items
  | _ + 1, .object [(some "Trait", .string (some name))] => some (.trait name)
  | _ + 1, .object [(some "Metadata", .string (some name))] => some (.metadata name)
  | depth + 1, .object [(some "Group", branches)] => (branches? depth branches).map .group
  | _, _ => none
termination_by structural depth => depth

def step? : Nat → Json → Option Step
  | depth + 1, .array [element, .boolean notify] =>
      (element? depth element).map fun element => ⟨element, notify⟩
  | _, _ => none
termination_by structural depth => depth

def steps? : Nat → Json → Option Series
  | depth + 1, .array steps => steps.mapM fun step => step? depth step
  | _, _ => none
termination_by structural depth => depth

def series? : Nat → Json → Option Series
  | depth + 1, json =>
      match onlyField? "elements" json with
      | some steps => steps? depth steps
      | none => none
  | _, _ => none
termination_by structural depth => depth

def branches? : Nat → Json → Option Expression
  | depth + 1, .array branches => branches.mapM fun series => series? depth series
  | _, _ => none
termination_by structural depth => depth

end

end Json

def Expression.ofJson? (json : Json) : Option Expression :=
  (json.onlyField? "branches").bind (Json.branches? (Json.maximalDepth - 1))

end Observe
