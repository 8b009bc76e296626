import Mathlib.Algebra.Group.Int.Defs
import QualityGate.Json.Parser
import QualityGate.Json.Printer

/-!
# Spellings of values

A value can be written in many ways, which differ in the blanks between its parts.

* `Writable` says of a value that it can be written: it has a text everywhere, and its integers have
  64 bits.
* `Spells` relates a text to the value it is a spelling of, whatever the blanks are.
* `spells_compact` and `spells_pretty` say that both layouts are spellings.
-/

namespace QualityGate.Json

/-- A value that can be written. -/
inductive Writable : Json → Prop where
  | null : Writable .null
  | bool (value : Bool) : Writable (.bool value)
  | int {value : Int} (low : -2 ^ 63 ≤ value) (high : value < 2 ^ 64) : Writable (.int value)
  | str (text : String) : Writable (.str text)
  | arr {items : List Json} (each : ∀ item ∈ items, Writable item) : Writable (.arr items)
  | obj {members : List (String × Json)} (each : ∀ member ∈ members, Writable member.2) :
      Writable (.obj members)

theorem Writable.items {items : List Json} :
    Writable (.arr items) → ∀ item ∈ items, Writable item
  | .arr each => each

theorem Writable.members {members : List (String × Json)} :
    Writable (.obj members) → ∀ member ∈ members, Writable member.2
  | .obj each => each

/-- Nothing but blanks. -/
def Spaces (text : List Char) : Prop := ∀ c ∈ text, isSpace c = true

mutual

/-- The text is a spelling of the value, with no blanks around it. -/
inductive Spells : List Char → Json → Prop where
  | null : Spells (scalar .null) .null
  | bool (value : Bool) : Spells (scalar (.bool value)) (.bool value)
  | int {value : Int} (low : -2 ^ 63 ≤ value) (high : value < 2 ^ 64) :
      Spells (scalar (.int value)) (.int value)
  | str (text : String) : Spells (scalar (.str text)) (.str text)
  | emptyArr : Spells ['[', ']'] (.arr [])
  | arr {text : List Char} {items : List Json} (spelled : SpellsItems text items) :
      Spells ('[' :: (text ++ [']'])) (.arr items)
  | emptyObj : Spells ['{', '}'] (.obj [])
  | obj {text : List Char} {members : List (String × Json)} (spelled : SpellsMembers text members) :
      Spells ('{' :: (text ++ ['}'])) (.obj members)

/-- The text spells items with commas between them. -/
inductive SpellsItems : List Char → List Json → Prop where
  | single {before text after : List Char} {item : Json} (leading : Spaces before)
      (spelled : Spells text item) (trailing : Spaces after) :
      SpellsItems (before ++ (text ++ after)) [item]
  | cons {before text after rest : List Char} {item : Json} {items : List Json}
      (leading : Spaces before) (spelled : Spells text item) (trailing : Spaces after)
      (later : SpellsItems rest items) :
      SpellsItems (before ++ (text ++ (after ++ ',' :: rest))) (item :: items)

/-- The text spells members with commas between them. -/
inductive SpellsMembers : List Char → List (String × Json) → Prop where
  | single {before between text after : List Char} {value : Json} (name : String)
      (leading : Spaces before) (inner : Spaces between) (spelled : Spells text value)
      (trailing : Spaces after) :
      SpellsMembers (before ++ (quote name.toList ++ ':' :: (between ++ (text ++ after))))
        [(name, value)]
  | cons {before between text after rest : List Char} {value : Json}
      {members : List (String × Json)} (name : String) (leading : Spaces before)
      (inner : Spaces between) (spelled : Spells text value) (trailing : Spaces after)
      (later : SpellsMembers rest members) :
      SpellsMembers
        (before ++ (quote name.toList ++ ':' :: (between ++ (text ++ (after ++ ',' :: rest)))))
        ((name, value) :: members)

end

/-! ### The layouts -/

theorem Spaces.nil : Spaces [] := nofun

theorem spaces_lineBreak (level : Nat) : Spaces (lineBreak level) := by
  intro c mem
  rcases List.mem_cons.mp mem with rfl | blank
  · rfl
  · rw [List.eq_of_mem_replicate blank]
    rfl

mutual

theorem spells_compact (value : Json) (writable : Writable value) :
    Spells (compact value) value :=
  match value, writable with
  | .null, _ => .null
  | .bool value, _ => .bool value
  | .int _, .int low high => .int low high
  | .str text, _ => .str text
  | .arr [], _ => .emptyArr
  | .arr (item :: items), writable => .arr (spellsItems_compact item items writable.items)
  | .obj [], _ => .emptyObj
  | .obj ((name, value) :: members), writable =>
    .obj (spellsMembers_compact name value members writable.members)
termination_by sizeOf value

theorem spellsItems_compact (item : Json) (items : List Json)
    (each : ∀ value ∈ item :: items, Writable value) :
    SpellsItems (compactItems (item :: items)) (item :: items) := by
  have first := spells_compact item (each item List.mem_cons_self)
  cases items with
  | nil => simpa [compactItems] using SpellsItems.single Spaces.nil first Spaces.nil
  | cons next rest =>
    exact .cons Spaces.nil first Spaces.nil
      (spellsItems_compact next rest fun value mem => each value (List.mem_cons_of_mem _ mem))
termination_by sizeOf item + sizeOf items + 1

theorem spellsMembers_compact (name : String) (value : Json) (members : List (String × Json))
    (each : ∀ member ∈ (name, value) :: members, Writable member.2) :
    SpellsMembers (compactMembers ((name, value) :: members)) ((name, value) :: members) := by
  have first := spells_compact value (each (name, value) List.mem_cons_self)
  match members, each with
  | [], _ =>
    simpa [compactMembers] using
      SpellsMembers.single name Spaces.nil Spaces.nil first Spaces.nil
  | (nextName, next) :: rest, each =>
    exact .cons name Spaces.nil Spaces.nil first Spaces.nil
      (spellsMembers_compact nextName next rest fun member mem =>
        each member (List.mem_cons_of_mem _ mem))
termination_by sizeOf value + sizeOf members + 1

end

mutual

theorem spells_pretty (level : Nat) (value : Json) (writable : Writable value) :
    Spells (pretty level value) value :=
  match value, writable with
  | .null, _ => .null
  | .bool value, _ => .bool value
  | .int _, .int low high => .int low high
  | .str text, _ => .str text
  | .arr [], _ => .emptyArr
  | .arr (item :: items), writable =>
    .arr (spellsItems_pretty (level + 1) (spaces_lineBreak level) item items writable.items)
  | .obj [], _ => .emptyObj
  | .obj ((name, value) :: members), writable =>
    .obj (spellsMembers_pretty (level + 1) (spaces_lineBreak level) name value members
      writable.members)
termination_by sizeOf value

theorem spellsItems_pretty (level : Nat) {after : List Char} (trailing : Spaces after)
    (item : Json) (items : List Json) (each : ∀ value ∈ item :: items, Writable value) :
    SpellsItems (prettyItems level (item :: items) ++ after) (item :: items) := by
  have first := spells_pretty level item (each item List.mem_cons_self)
  cases items with
  | nil =>
    simpa [prettyItems] using SpellsItems.single (spaces_lineBreak level) first trailing
  | cons next rest =>
    have later := spellsItems_pretty level trailing next rest fun value mem =>
      each value (List.mem_cons_of_mem _ mem)
    simpa [prettyItems] using
      SpellsItems.cons (spaces_lineBreak level) first Spaces.nil later
termination_by sizeOf item + sizeOf items + 1

theorem spellsMembers_pretty (level : Nat) {after : List Char} (trailing : Spaces after)
    (name : String) (value : Json) (members : List (String × Json))
    (each : ∀ member ∈ (name, value) :: members, Writable member.2) :
    SpellsMembers (prettyMembers level ((name, value) :: members) ++ after)
      ((name, value) :: members) := by
  have first := spells_pretty level value (each (name, value) List.mem_cons_self)
  have blank : Spaces [' '] := by simp [Spaces, isSpace]
  match members, each with
  | [], _ =>
    simpa [prettyMembers] using
      SpellsMembers.single name (spaces_lineBreak level) blank first trailing
  | (nextName, next) :: rest, each =>
    have later := spellsMembers_pretty level trailing nextName next rest fun member mem =>
      each member (List.mem_cons_of_mem _ mem)
    simpa [prettyMembers] using
      SpellsMembers.cons name (spaces_lineBreak level) blank first Spaces.nil later
termination_by sizeOf value + sizeOf members + 1

end

end QualityGate.Json
