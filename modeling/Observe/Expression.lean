import Observe.Token

namespace Observe

mutual

/-- What stands at one place of a series. -/
inductive Element where
  | trait (name : String)
  | metadata (name : String)
  | items
  | group (branches : List (List Step))

/-- An element, and whether a change there notifies. -/
structure Step where
  element : Element
  notify : Bool

end

abbrev Series := List Step

/-- The branches are observed independently of each other. -/
abbrev Expression := List Series

namespace TokenKind

/-- The punctuation after a step that another step follows. -/
def ofNotify : Bool → TokenKind
  | true => dot
  | false => colon

def notify? : TokenKind → Option Bool
  | dot => some true
  | colon => some false
  | _ => none

@[simp] theorem notify?_ofNotify (notify : Bool) : (ofNotify notify).notify? = some notify := by
  cases notify <;> rfl

theorem notify?_eq_some_iff {kind : TokenKind} {notify : Bool} :
    kind.notify? = some notify ↔ kind = ofNotify notify := by
  cases kind <;> cases notify <;> simp [notify?, ofNotify]

/-- The texts of the tokens with nothing between them. -/
def spell (kinds : List TokenKind) : String :=
  String.ofList (kinds.flatMap fun kind => kind.text.toList)

@[simp] theorem toList_spell (kinds : List TokenKind) :
    (spell kinds).toList = kinds.flatMap fun kind => kind.text.toList :=
  String.toList_ofList

end TokenKind

mutual

/-- The tokens that an element is written with. -/
def Element.kinds : Element → List TokenKind
  | .trait name => [.name name]
  | .metadata name => [.plus, .name name]
  | .items => [.items]
  | .group branches => .openBracket :: (Expression.kinds branches ++ [.closeBracket])
termination_by structural element => element

/-- The last step of a series is written without its flag. -/
def Series.kinds : Series → List TokenKind
  | [] => []
  | ⟨element, notify⟩ :: rest =>
      element.kinds ++ if rest.isEmpty then [] else .ofNotify notify :: Series.kinds rest
termination_by structural series => series

def Expression.kinds : Expression → List TokenKind
  | [] => []
  | series :: rest =>
      Series.kinds series ++ if rest.isEmpty then [] else .comma :: Expression.kinds rest
termination_by structural branches => branches

end

mutual

def Element.depth : Element → Nat
  | .group branches => 1 + Expression.depth branches
  | _ => 0
termination_by structural element => element

def Series.depth : Series → Nat
  | [] => 0
  | ⟨element, _⟩ :: rest => max element.depth (Series.depth rest)
termination_by structural series => series

/-- How deep groups stand inside each other. -/
def Expression.depth : Expression → Nat
  | [] => 0
  | series :: rest => max (Series.depth series) (Expression.depth rest)
termination_by structural branches => branches

end

def Element.text (element : Element) : String := TokenKind.spell element.kinds

def Series.text (series : Series) : String := TokenKind.spell series.kinds

/-- The canonical text: the tokens without blanks. -/
def Expression.text (expression : Expression) : String := TokenKind.spell expression.kinds

end Observe
