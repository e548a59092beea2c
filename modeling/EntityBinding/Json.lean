/-!
# JSON values

The values that a binding is written as and that settings are read from.  Numbers
are integers, since nothing here is a fraction.  The fields of an object are kept
in the order they were written in, which carries no meaning.
-/

namespace EntityBinding

/-- A JSON value. -/
inductive Json where
  /-- The value `null`. -/
  | null
  /-- A truth value. -/
  | bool (value : Bool)
  /-- An integer. -/
  | number (value : Int)
  /-- A text. -/
  | string (value : String)
  /-- A list of values. -/
  | array (items : List Json)
  /-- Named values. -/
  | object (fields : List (String × Json))
  deriving Repr, Inhabited

namespace Json

/-- A value that may be missing, with `null` for a missing one. -/
def ofOption {α : Type} (encode : α → Json) : Option α → Json
  | none => .null
  | some a => encode a

/-- The value of a field of an object. -/
def field? (name : String) : List (String × Json) → Option Json
  | [] => none
  | (n, v) :: rest => if n = name then some v else field? name rest

end Json

end EntityBinding
