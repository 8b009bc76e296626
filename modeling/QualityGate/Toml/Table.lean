import QualityGate.Json.Basic

/-!
# TOML tables under construction

A document defines its tables piece by piece, and which pieces go together depends on how a table
came about.

* A table is *implicit* when only something inside of it has been written so far.  A header may
  define it later, once.
* It is *dotted* when dotted keys brought it about.  Only dotted keys may extend it, and no header
  may define it.
* A list of tables grows by headers in double brackets; any other path into it leads into the last
  table.

Finished values, among them tables in braces, cannot be extended.
-/

namespace QualityGate.Toml

/-- Something under a key of a table under construction. -/
inductive Item where
  /-- A finished value. -/
  | value (json : Json)
  | table (isImplicit isDotted : Bool) (entries : List (String × Item))
  /-- A list of tables. -/
  | tables (list : List (List (String × Item)))

/-- The entries of a table under construction. -/
abbrev Entries := List (String × Item)

/-- The entries with a new item under a key, in the place of an old one. -/
def Entries.put (key : String) (item : Item) : Entries → Entries
  | [] => [(key, item)]
  | (name, old) :: rest =>
    if name = key then (key, item) :: rest else (name, old) :: Entries.put key item rest

/-- Change the table at the end of a path, and define the tables on the way.  The change is told
whether the table is dotted.  Dotted keys do not lead through tables that a header has defined. -/
def Entries.updateAt (byDots : Bool) (change : Bool → Entries → Option Entries) :
    List String → Bool → Entries → Option Entries
  | [], isDotted, entries => change isDotted entries
  | key :: path, _, entries =>
    match entries.lookup key with
    | none => do
      let inner ← updateAt byDots change path byDots []
      some (Entries.put key (.table true byDots inner) entries)
    | some (.value _) => none
    | some (.table isImplicit isDotted inner) =>
      if byDots && ! isImplicit then none
      else do
        let inner ← updateAt byDots change path isDotted inner
        some (Entries.put key (.table isImplicit isDotted inner) entries)
    | some (.tables list) =>
      match list.getLast? with
      | none => none
      | some last => do
        let last ← updateAt byDots change path false last
        some (Entries.put key (.tables (list.dropLast ++ [last])) entries)

/-- Write a value under a dotted key of a table. -/
def Entries.assign (path : List String) (key : String) (json : Json) (entries : Entries) :
    Option Entries :=
  entries.updateAt true (fun isDotted inner =>
    if isDotted = path.isEmpty ∨ (inner.lookup key).isSome then none
    else some (inner.put key (.value json))) path false

/-- Define a table by its header. -/
def Entries.define (path : List String) (key : String) (entries : Entries) : Option Entries :=
  entries.updateAt false (fun _ inner =>
    match inner.lookup key with
    | none => some (inner.put key (.table false false []))
    | some (.table true false old) => some (inner.put key (.table false false old))
    | _ => none) path false

/-- Append a table to a list of tables by its header. -/
def Entries.append (path : List String) (key : String) (entries : Entries) : Option Entries :=
  entries.updateAt false (fun _ inner =>
    match inner.lookup key with
    | none => some (inner.put key (.tables [[]]))
    | some (.tables list) => some (inner.put key (.tables (list ++ [[]])))
    | _ => none) path false

/-- Write a value under a dotted key of the table that the latest header names. -/
def Entries.assignUnder (header : List String) (path : List String) (key : String) (json : Json)
    (entries : Entries) : Option Entries :=
  entries.updateAt false (fun _ inner => inner.assign path key json) header false

mutual

/-- The finished value of an item. -/
def Item.toJson : Item → Json
  | .value json => json
  | .table _ _ entries => .obj (Item.members entries)
  | .tables list => .arr (Item.elements list)

/-- The finished values of the entries of a table. -/
def Item.members : List (String × Item) → List (String × Json)
  | [] => []
  | (key, item) :: rest => (key, item.toJson) :: Item.members rest

/-- The finished values of a list of tables. -/
def Item.elements : List (List (String × Item)) → List Json
  | [] => []
  | entries :: rest => .obj (Item.members entries) :: Item.elements rest

end

end QualityGate.Toml
