import Observe.Proofs.Fallback
import Observe.Proofs.Growth
import Observe.Proofs.Indentation
import Observe.Proofs.Quotation

namespace Observe

open Log Text

/-- An error with a text of its own. -/
def FileError.IsNamed : FileError → Prop
  | .other _ => False
  | _ => True

theorem FileError.IsNamed.caretless {error : FileError} (named : error.IsNamed) :
    '^' ∉ error.message.toList := by
  cases error with
  | other text => cases named
  | _ => decide

namespace Store

variable {store : Store} {location : Location} {place : Place} {name : String}
  {names : List String} {error : FileError}

end Store

namespace Text

variable {front rest : ByteArray}

end Text

namespace Settings.LoadError

/-- What messages begin with before the path. -/
def leads : List String := ["Failed to read config file ", "Invalid config file "]

end Settings.LoadError

namespace Command

open Diagnostic

variable {arguments expressions lines : List String} {surroundings : Surroundings}
  {request : Request} {settings : Settings} {records : List Record} {error : Settings.LoadError}
  {manner : Manner} {text shown line : String} {chars : List Char}

/-- The file that an option names cannot be loaded. -/
structure Surroundings.Refuses (surroundings : Surroundings) (request : Request) (shown : String)
    (error : Settings.LoadError) : Prop where
  named : request.config = some shown
  refused : Settings.ofFile surroundings.tomlError (surroundings.fileFor request) = .error error

theorem Surroundings.Refuses.of_read (named : request.config = some shown)
    (refused : Settings.ofFile surroundings.tomlError (surroundings.read shown) = .error error) :
    surroundings.Refuses request shown error := by
  refine ⟨named, ?_⟩
  rwa [fileFor, place?, named, Option.some_or]

theorem render?_eq_none_iff {value : Expression} (proper : value.Proper) (manner : Manner) :
    manner.format.render? manner.indent value = none ↔
      manner.format = .tree ∧ widestPadding < (3 * value.depth + 2) * manner.indent.toNat := by
  cases manner.format with
  | tree => simpa [Format.render?] using Expression.tree?_eq_none_iff proper
  | _ => simp [Format.render?]

end Command

end Observe
