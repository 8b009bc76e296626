/-!
# JSON values

The value type that manifests and reports are written in and read from.

Three decisions are load-bearing.

* Numbers are integers.  No field of any document here takes a fraction, so a number with a
  fraction or an exponent, or one beyond 64 bits, is kept as `real` without its value.
* Members keep their order and their repetitions, because output is compared as text and a
  repeated known field is an error.
* `garbled` is a string literal that is legal JSON but has no text, since it escapes half of a
  surrogate pair, or an object with such a key.  It may stand wherever a value is skipped.
-/

namespace QualityGate

/-- A JSON value. -/
inductive Json where
  | null
  | bool (value : Bool)
  | int (value : Int)
  | real
  | str (text : String)
  | garbled
  | arr (items : List Json)
  | obj (members : List (String × Json))
  deriving Inhabited, Repr

namespace Json

/-- A natural number. -/
def nat (n : Nat) : Json := .int n

/-- A list of strings. -/
def strs (texts : List String) : Json := .arr (texts.map .str)

/-- A value that may be absent, written `null` then. -/
def opt (write : α → Json) : Option α → Json
  | none => .null
  | some a => write a

/-- A member that is left out when its value is absent. -/
def optMember (name : String) (write : α → Json) : Option α → List (String × Json)
  | none => []
  | some a => [(name, write a)]

/-- A member that is left out when its list is empty. -/
def listMember (name : String) (texts : List String) : List (String × Json) :=
  if texts.isEmpty then [] else [(name, strs texts)]

/-- The value of the first member with this name. -/
def get? (name : String) : Json → Option Json
  | .obj members => members.lookup name
  | _ => none

end Json

end QualityGate
