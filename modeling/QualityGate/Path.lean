import QualityGate.Text.Lines

/-!
# Paths

A path is a text whose names are separated by slashes.  What a path means is its list of
*components*; two facts about them are load-bearing.

* Repeated slashes, a slash at the end and a `.` between names leave no trace in the components.
  A `.` at the start does, and so does a slash at the start.
* Paths are compared component by component, not character by character, so `a/b` comes before
  `a-b`.

The *normal form* of a path keeps the names and the `..` components and is written with single
slashes.
-/

namespace QualityGate.Path

open QualityGate.Text

/-- A step of a path. -/
inductive Component where
  /-- The slash at the start. -/
  | root
  /-- A `.` at the start. -/
  | current
  /-- The step `..`. -/
  | parent
  | name (text : List Char)
  deriving DecidableEq, Repr

/-- The component that a piece between slashes stands for, when it is not at the start. -/
def component? : List Char → Option Component
  | [] => none
  | ['.'] => none
  | ['.', '.'] => some .parent
  | text => some (.name text)

/-- The components of a path. -/
def components (path : List Char) : List Component :=
  let pieces := splitOn '/' path
  let inner := pieces.filterMap component?
  match pieces with
  | [] :: _ :: _ => .root :: inner
  | ['.'] :: _ => .current :: inner
  | _ => inner

/-- A component as a list of numbers that compares like the component. -/
def Component.key : Component → List Nat
  | .root => [0]
  | .current => [1]
  | .parent => [2]
  | .name text => 3 :: text.map Char.toNat

/-- A path as a list that compares like the path. -/
def key (path : String) : List (List Nat) := (components path.toList).map Component.key

/-- The order of paths. -/
def order (a b : String) : Ordering := compare (key a) (key b)

/-- Whether two paths have the same components. -/
def same (a b : String) : Bool := key a == key b

/-- The text that a component adds to a normal form. -/
def Component.text? : Component → Option (List Char)
  | .name text => some text
  | .parent => some ['.', '.']
  | .root | .current => none

/-- The normal form of a path, over characters. -/
def normalizeChars (path : List Char) : List Char :=
  joinWith ['/'] ((components path).filterMap Component.text?)

/-- The normal form of a path. -/
def normalize (path : String) : String := String.ofList (normalizeChars path.toList)

end QualityGate.Path
