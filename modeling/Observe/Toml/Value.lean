namespace Observe.Toml

/-- How a table came to be, which decides what may be added to it. -/
inductive Origin where
  /-- Written between braces: complete as it stands. -/
  | inline
  /-- Named by a header of its own, or the root. -/
  | header
  /-- Named on the way to the table of a header. -/
  | implied
  /-- Named on the way to the last part of a dotted key. -/
  | dotted
  deriving DecidableEq, Repr

mutual

/-- Numbers with a point and moments in time keep the text that they were written with. -/
inductive Value where
  | string (text : String)
  | integer (value : Int)
  | float (literal : String)
  | boolean (value : Bool)
  | moment (literal : String)
  | array (items : List Value)
  | table (table : Table)
  | tables (items : List Table)

structure Table where
  origin : Origin
  entries : List (String × Value)

end

/-- A key with dots between its parts. -/
structure Key where
  parents : List String
  name : String
  deriving DecidableEq, Repr

inductive Statement where
  | header (key : Key)
  | arrayHeader (key : Key)
  | pair (key : Key) (value : Value)

end Observe.Toml
