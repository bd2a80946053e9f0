import Observe.Expression

namespace Observe

mutual

/-- The names of traits and metadata in the order in which they are written. -/
def Element.names : Element → List String
  | .trait name => [name]
  | .metadata name => [name]
  | .items => []
  | .group branches => Expression.names branches
termination_by structural element => element

def Series.names : Series → List String
  | [] => []
  | ⟨element, _⟩ :: rest => element.names ++ Series.names rest
termination_by structural series => series

def Expression.names : Expression → List String
  | [] => []
  | series :: rest => Series.names series ++ Expression.names rest
termination_by structural branches => branches

end

mutual

/-- How many elements are no groups. -/
def Element.leafCount : Element → Nat
  | .group branches => Expression.leafCount branches
  | _ => 1
termination_by structural element => element

def Series.leafCount : Series → Nat
  | [] => 0
  | ⟨element, _⟩ :: rest => element.leafCount + Series.leafCount rest
termination_by structural series => series

def Expression.leafCount : Expression → Nat
  | [] => 0
  | series :: rest => Series.leafCount series + Expression.leafCount rest
termination_by structural branches => branches

end

mutual

def Element.groupCount : Element → Nat
  | .group branches => 1 + Expression.groupCount branches
  | _ => 0
termination_by structural element => element

def Series.groupCount : Series → Nat
  | [] => 0
  | ⟨element, _⟩ :: rest => element.groupCount + Series.groupCount rest
termination_by structural series => series

def Expression.groupCount : Expression → Nat
  | [] => 0
  | series :: rest => Series.groupCount series + Expression.groupCount rest
termination_by structural branches => branches

end

end Observe
