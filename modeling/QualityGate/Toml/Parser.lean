import QualityGate.Toml.Scalar
import QualityGate.Toml.Table

/-!
# Reading TOML

A document is a list of lines, each of which is empty, a header, or a key with its value.  The
version of the notation is 1.1: tables in braces may run over several lines and end with a comma.

Lists and tables in braces may be nested 80 deep.
-/

namespace QualityGate.Toml

/-- A character of a key without quotes. -/
def isKeyChar (c : Char) : Bool := c.isAlphanum || c == '_' || c == '-'

/-- A single key. -/
def simpleKey? (text : List Char) : Option (String × List Char) :=
  match text with
  | '"' :: rest => (basic? (rest.length + 1) rest).map fun (key, rest) => (String.ofList key, rest)
  | '\'' :: rest => (literal? rest).map fun (key, rest) => (String.ofList key, rest)
  | text =>
    let key := text.takeWhile isKeyChar
    if key.isEmpty then none else some (String.ofList key, text.drop key.length)

/-- A key with dots: the path before the last dot, the key after it, and the rest without its
leading blanks. -/
def key? : Nat → List Char → Option (List String × String × List Char)
  | 0, _ => none
  | fuel + 1, text => do
    let (key, rest) ← simpleKey? (skipBlanks text)
    match skipBlanks rest with
    | '.' :: rest =>
      let (path, last, rest) ← key? fuel rest
      some (key :: path, last, rest)
    | rest => some ([], key, rest)

/-- A key, an equals sign, and the text from the value on. -/
def assignment? (text : List Char) : Option (List String × String × List Char) := do
  let (path, key, rest) ← key? (text.length + 1) text
  match rest with
  | '=' :: rest => some (path, key, skipBlanks rest)
  | _ => none

/-- Blanks, line breaks and comments in front of an item. -/
def gap? (text : List Char) : Option (List Char) := skipGaps? (text.length + 1) text

mutual

/-- A value; `depth` more levels may be opened inside of it. -/
def value? : Nat → Nat → List Char → Option (Json × List Char)
  | 0, _, _ => none
  | fuel + 1, depth, text =>
    match text with
    | '[' :: rest =>
      if depth = 0 then none
      else do
        let (items, rest) ← items? fuel (depth - 1) (← gap? rest)
        some (.arr items, rest)
    | '{' :: rest =>
      if depth = 0 then none
      else do
        let (entries, rest) ← members? fuel (depth - 1) [] (← gap? rest)
        some (.obj (Item.members entries), rest)
    | '"' :: _ | '\'' :: _ =>
      (string? text).map fun (content, rest) => (.str (String.ofList content), rest)
    | text => scalar? text

/-- The items of a list and its closing bracket. -/
def items? : Nat → Nat → List Char → Option (List Json × List Char)
  | 0, _, _ => none
  | fuel + 1, depth, text =>
    match text with
    | ']' :: rest => some ([], rest)
    | text => do
      let (item, rest) ← value? fuel depth text
      match ← gap? rest with
      | ',' :: rest =>
        let (items, rest) ← items? fuel depth (← gap? rest)
        some (item :: items, rest)
      | ']' :: rest => some ([item], rest)
      | _ => none

/-- The members of a table in braces and its closing brace. -/
def members? : Nat → Nat → Entries → List Char → Option (Entries × List Char)
  | 0, _, _, _ => none
  | fuel + 1, depth, entries, text =>
    match text with
    | '}' :: rest => some (entries, rest)
    | text => do
      let (path, key, rest) ← assignment? text
      let (json, rest) ← value? fuel depth rest
      let entries ← entries.assign path key json
      match ← gap? rest with
      | ',' :: rest => members? fuel depth entries (← gap? rest)
      | '}' :: rest => some (entries, rest)
      | _ => none

end

/-- A document up to some line: its tables, and the path of the latest header. -/
structure Partial where
  entries : Entries
  header : List String

/-- A header after its first bracket. -/
def header? (state : Partial) (text : List Char) : Option (Partial × List Char) :=
  match text with
  | '[' :: text => do
    let (path, key, rest) ← key? (text.length + 1) text
    match rest with
    | ']' :: ']' :: rest => some (⟨← state.entries.append path key, path ++ [key]⟩, rest)
    | _ => none
  | text => do
    let (path, key, rest) ← key? (text.length + 1) text
    match rest with
    | ']' :: rest => some (⟨← state.entries.define path key, path ++ [key]⟩, rest)
    | _ => none

/-- One line without its blanks, its comment and its line break. -/
def line? (state : Partial) (text : List Char) : Option (Partial × List Char) :=
  match text with
  | '[' :: rest => header? state rest
  | [] | '#' :: _ | '\n' :: _ | '\r' :: _ => some (state, text)
  | text => do
    let (path, key, rest) ← assignment? text
    let (json, rest) ← value? (rest.length + 1) 80 rest
    some ({ state with entries := ← state.entries.assignUnder state.header path key json }, rest)

/-- The lines of a document. -/
def document? : Nat → Partial → List Char → Option Entries
  | 0, _, _ => none
  | fuel + 1, state, text => do
    let (state, rest) ← line? state (skipBlanks text)
    match ← skipComment? (skipBlanks rest) with
    | [] => some state.entries
    | rest => document? fuel state (← lineBreak? rest)

/-- Read a document, which may start with a byte order mark. -/
def parse? (text : String) : Option Json :=
  let chars := match text.toList with
    | '\uFEFF' :: rest => rest
    | chars => chars
  (document? (chars.length + 1) ⟨[], []⟩ chars).map fun entries => .obj (Item.members entries)

end QualityGate.Toml
