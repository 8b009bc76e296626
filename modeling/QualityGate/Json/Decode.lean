import QualityGate.Json.Basic

/-!
# Reading records

A document is read against the record it should hold.  A record is written as an object, in which
unknown members are skipped and a known one may stand once, or as a list of its fields in their
order.  A choice among names is written as the name, or as an object whose only member is the name
with an empty payload.

Two notations are read this way and differ in two points, which `Dialect` holds: what counts as an
empty payload, and whether items after the last field are skipped or refused.
-/

namespace QualityGate.Json

/-- How a notation writes the points that JSON and TOML documents treat differently. -/
structure Dialect where
  /-- The payload of a bare name. -/
  isUnit : Json → Bool
  /-- Items after the last field of a record are skipped. -/
  skipsSurplus : Bool

/-- JSON: a bare name carries `null`, and a list of fields has no more items than fields. -/
def Dialect.json : Dialect where
  isUnit
    | .null => true
    | _ => false
  skipsSurplus := false

/-- TOML, which has no `null`: a bare name carries an empty table or list. -/
def Dialect.toml : Dialect where
  isUnit
    | .obj [] | .arr [] => true
    | _ => false
  skipsSurplus := true

/-- The fields of a record in order, `none` for one that is not written.  In an object a missing
field is `none`; a list may leave fields out only at its end. -/
def fields? (dialect : Dialect) (names : List String) : Json → Option (List (Option Json))
  | .obj members =>
    if names.all fun name => (members.filter (·.1 == name)).length ≤ 1 then
      some (names.map fun name => members.lookup name)
    else none
  | .arr items =>
    if items.length ≤ names.length ∨ dialect.skipsSurplus then
      some ((items.map some ++ List.replicate names.length none).take names.length)
    else none
  | _ => none

/-- A string. -/
def string? : Json → Option String
  | .str text => some text
  | _ => none

/-- A truth value. -/
def bool? : Json → Option Bool
  | .bool value => some value
  | _ => none

/-- An unsigned 64-bit integer. -/
def nat? : Json → Option Nat
  | .int value => if 0 ≤ value ∧ value < UInt64.size then some value.toNat else none
  | _ => none

/-- A signed 32-bit integer. -/
def int32? : Json → Option Int
  | .int value =>
    if Int32.minValue.toInt ≤ value ∧ value ≤ Int32.maxValue.toInt then some value else none
  | _ => none

/-- A list of values that `read` accepts. -/
def list? (read : Json → Option α) : Json → Option (List α)
  | .arr items => items.mapM read
  | _ => none

/-- A value that may be `null`. -/
def nullable? (read : Json → Option α) : Json → Option (Option α)
  | .null => some none
  | value => (read value).map some

/-- A field that has to be written. -/
def required (read : Json → Option α) : Option Json → Option α
  | some value => read value
  | none => none

/-- A field that has a value when it is not written. -/
def orElse (default : α) (read : Json → Option α) : Option Json → Option α
  | some value => read value
  | none => some default

/-- One of several names. -/
def choice? (dialect : Dialect) (names : List (String × α)) : Json → Option α
  | .str name => names.lookup name
  | .obj [(name, payload)] => if dialect.isUnit payload then names.lookup name else none
  | _ => none

/-- A record that carries its kind in a member, or as the first item of a list: the kind, and the
record without it. -/
def tagged? (tag : String) : Json → Option (String × Json)
  | .obj members =>
    match members.filter (·.1 == tag) with
    | [(_, .str kind)] => some (kind, .obj (members.filter (·.1 != tag)))
    | _ => none
  | .arr (.str kind :: items) => some (kind, .arr items)
  | _ => none

/-- The record of a kind that has no fields; a list has to be empty. -/
def noFields? : Json → Option Unit
  | .obj _ => some ()
  | .arr [] => some ()
  | _ => none

end QualityGate.Json
