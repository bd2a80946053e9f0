import Observe.Expression.Json
import Observe.Expression.Path
import Observe.Expression.Tree

namespace Observe

inductive Format where
  | text
  | tree
  | json
  | paths
  deriving DecidableEq, Repr

namespace Format

def name : Format → String
  | text => "text"
  | tree => "tree"
  | json => "json"
  | paths => "paths"

def all : List Format := [text, tree, json, paths]

def ofName? (name : String) : Option Format := all.find? (·.name = name)

theorem ofName?_name (format : Format) : ofName? format.name = some format := by
  cases format <;> decide

/-- Prints an expression. Only a tree looks at the indent, and only a tree can be too wide. -/
def render? (format : Format) (indent : UInt64) (expression : Expression) : Option String :=
  match format with
  | text => some expression.text
  | tree => expression.tree? indent
  | json => some expression.toJson.pretty
  | paths => some ("\n".intercalate (expression.paths.map Series.text))

end Format

end Observe
