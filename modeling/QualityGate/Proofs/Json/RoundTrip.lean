import Mathlib.Tactic.SplitIfs
import QualityGate.Proofs.Json.Spelling
import QualityGate.Proofs.Text.Digits

/-!
# What is written is read

Every spelling of a value is read as the value (`value?_of_spells`), so a value that can be written
is read from both of its layouts, with blanks around them or not (`parseChars?_of_spells`).

### What is load-bearing

* `Escaped.exists_piece` – every character of a string is written as one piece that stands for
  it, so the pieces of a literal are as many as its characters.
* A value is read without looking at what follows it, but for a number, which has to end: `Closed`.
* A spelling never begins with a blank or with a closing bracket (`Spells.exists_cons`), so a list
  that has items is not taken for the empty one.
-/

namespace QualityGate.Json

/-! ### String literals -/

/-- How a character is written in a literal. -/
inductive Escaped (c : Char) : List Char → Prop where
  | short {e : Char} (stands : shortEscape? e = some c) : Escaped c ['\\', e]
  | control (low : c.toNat < 0x20) :
      Escaped c ['\\', 'u', '0', '0', Text.hexDigit (c.toNat / 16), Text.hexDigit (c.toNat % 16)]
  | plain (high : ¬ c.toNat < 0x20) (noQuote : c ≠ '"') (noBackslash : c ≠ '\\') : Escaped c [c]

theorem escaped_escapeChar (c : Char) : Escaped c (escapeChar c) := by
  unfold escapeChar
  split_ifs with quote backslash backspace tab newline formFeed carriageReturn low
  · exact .short (by rw [quote]; rfl)
  · exact .short (by rw [backslash]; rfl)
  · have character : c = '\x08' := Char.toNat_inj.mp backspace
    exact .short (by rw [character]; rfl)
  · exact .short (by rw [tab]; rfl)
  · exact .short (by rw [newline]; rfl)
  · have character : c = '\x0c' := Char.toNat_inj.mp formFeed
    exact .short (by rw [character]; rfl)
  · exact .short (by rw [carriageReturn]; rfl)
  · exact .control low
  · exact .plain low quote backslash

theorem Escaped.length_pos {c : Char} {text : List Char} (escaped : Escaped c text) :
    0 < text.length := by
  cases escaped <;> exact Nat.succ_pos _

/-- What is written for a character is read as one piece, which stands for the character. -/
theorem Escaped.exists_piece {c : Char} {text : List Char} (escaped : Escaped c text) :
    ∃ piece : Piece,
      (∀ fuel rest, pieces? (fuel + 1) (text ++ rest) =
        (pieces? fuel rest).map fun (more, rest) => (piece :: more, rest)) ∧
      ∀ more, assemble? (piece :: more) = (assemble? more).map (c :: ·) := by
  cases escaped with
  | @short e stands =>
    refine ⟨.char c, fun fuel rest => ?_, fun more => rfl⟩
    have notUnit : e ≠ 'u' := by rintro rfl; simp [shortEscape?] at stands
    cases later : pieces? fuel rest <;> simp [pieces?, stands, later]
  | control low =>
    refine ⟨.unit c.toNat, fun fuel rest => ?_, fun more => ?_⟩
    · have zero : Text.hexValue? '0' = some 0 := by decide
      have high := Text.hexValue?_hexDigit (n := c.toNat / 16) (by omega)
      have lower := Text.hexValue?_hexDigit (n := c.toNat % 16) (by omega)
      have value : c.toNat / 16 * 16 + c.toNat % 16 = c.toNat := by omega
      cases later : pieces? fuel rest <;>
        simp [pieces?, hex4?, zero, high, lower, value, later]
    · have noHigh : ¬ (0xD800 ≤ c.toNat ∧ c.toNat < 0xDC00) := by omega
      have noLow : ¬ (0xDC00 ≤ c.toNat ∧ c.toNat < 0xE000) := by omega
      have noHalf : ¬ (0xD800 ≤ c.toNat ∧ c.toNat < 0xE000) := by omega
      match more with
      | [] | .char _ :: _ => simp [assemble?, noHalf]
      | .unit _ :: _ => rw [assemble?, if_neg noHigh, if_neg noLow, Char.ofNat_toNat]
  | plain high noQuote noBackslash =>
    refine ⟨.char c, fun fuel rest => ?_, fun more => rfl⟩
    cases later : pieces? fuel rest <;> simp [pieces?, high, noBackslash, later]

/-- A text inside a literal is read as pieces that stand for it. -/
theorem exists_pieces_flatMap_escapeChar (text rest : List Char) {fuel : Nat}
    (enough : text.length < fuel) :
    ∃ pieces, pieces? fuel (text.flatMap escapeChar ++ '"' :: rest) = some (pieces, rest) ∧
      assemble? pieces = some text := by
  induction text generalizing fuel with
  | nil =>
    obtain ⟨fuel, rfl⟩ : ∃ more, fuel = more + 1 := ⟨fuel - 1, by simp at enough; omega⟩
    exact ⟨[], rfl, rfl⟩
  | cons c text ih =>
    obtain ⟨fuel, rfl⟩ : ∃ more, fuel = more + 1 := ⟨fuel - 1, by simp at enough; omega⟩
    have enoughLater : text.length < fuel := by simpa using enough
    obtain ⟨pieces, later, stand⟩ := ih enoughLater
    obtain ⟨piece, first, stands⟩ := (escaped_escapeChar c).exists_piece
    refine ⟨piece :: pieces, ?_, ?_⟩
    · rw [List.flatMap_cons, List.append_assoc, first, later]
      rfl
    · rw [stands, stand]
      rfl

theorem length_le_length_flatMap_escapeChar (text : List Char) :
    text.length ≤ (text.flatMap escapeChar).length := by
  induction text with
  | nil => exact Nat.le_refl _
  | cons c text ih =>
    have nonempty := (escaped_escapeChar c).length_pos
    rw [List.flatMap_cons, List.length_append, List.length_cons]
    omega

/-- A literal is read as its text. -/
theorem literal?_flatMap_escapeChar (text rest : List Char) :
    literal? (text.flatMap escapeChar ++ '"' :: rest) = some (some (String.ofList text), rest) := by
  have shorter := length_le_length_flatMap_escapeChar text
  have enough : text.length < (text.flatMap escapeChar ++ '"' :: rest).length + 1 := by
    rw [List.length_append]
    omega
  obtain ⟨pieces, read, stand⟩ := exists_pieces_flatMap_escapeChar text rest enough
  rw [literal?, read]
  simp [stand]

/-! ### Integers -/

/-- The text goes on with nothing that belongs to the value before it. -/
def Closed (rest : List Char) : Prop :=
  ∀ c ∈ rest.head?, isSpace c = true ∨ c = ',' ∨ c = ']' ∨ c = '}'

theorem Closed.noDigit {rest : List Char} (closed : Closed rest) : NoDigit rest := by
  intro c first
  rcases closed c first with blank | rfl | rfl | rfl
  · simp only [isSpace, Bool.or_eq_true, beq_iff_eq] at blank
    rcases blank with ((rfl | rfl) | rfl) | rfl <;> rfl
  all_goals rfl

theorem Closed.no_fraction {rest : List Char} (closed : Closed rest) :
    fraction? rest = some (false, rest) ∧ exponent? rest = some (false, rest) := by
  cases rest with
  | nil => exact ⟨rfl, rfl⟩
  | cons c rest =>
    rcases closed c rfl with blank | rfl | rfl | rfl
    · simp only [isSpace, Bool.or_eq_true, beq_iff_eq] at blank
      rcases blank with ((rfl | rfl) | rfl) | rfl <;> exact ⟨rfl, rfl⟩
    all_goals exact ⟨rfl, rfl⟩

theorem decimal_digitsOf (n : Nat) : decimal (digitsOf n) = n := by
  rw [decimal_eq, Nat.ofDigitChars_ten_toDigits]

/-- The digits of a number are read as the number. -/
theorem number?_digitsOf (negative : Bool) (n : Nat) {rest : List Char} (closed : Closed rest) :
    number? negative (digitsOf n ++ rest) = some (integer negative n, rest) := by
  obtain ⟨taken, left⟩ := takeWhile_isDigit_append
    (fun c => isDigit_of_mem_digitsOf (n := n) (c := c)) closed.noDigit
  obtain ⟨noFraction, noExponent⟩ := closed.no_fraction
  have value := decimal_digitsOf n
  unfold number? digits
  rw [taken, left]
  rcases Nat.eq_zero_or_pos n with rfl | positive
  · simp [digitsOf, noFraction, noExponent, decimal]
  · obtain ⟨c, more, written, noZero⟩ := exists_digitsOf_eq_cons_of_pos positive
    rw [written] at value ⊢
    simp [noZero, noFraction, noExponent, value]

theorem intLiteral_ofNat (n : Nat) : intLiteral (.ofNat n) = digitsOf n := toList_toString_nat n

theorem intLiteral_negSucc (n : Nat) : intLiteral (.negSucc n) = '-' :: digitsOf (n + 1) := by
  rw [← toList_toString_nat, intLiteral, Int.toString_eq_repr]
  simp [Int.repr]

/-- A text that begins with a digit is read as a number. -/
theorem value?_of_isDigit {c : Char} (digit : c.isDigit = true) (fuel : Nat) (rest : List Char) :
    value? (fuel + 1) (c :: rest) = number? false (c :: rest) := by
  have other (d : Char) (noDigit : d.isDigit = false) : c ≠ d := ne_of_isDigit digit noDigit
  rw [value?] <;> intro _ same <;> cases same <;> contradiction

theorem value?_intLiteral {value : Int} (low : -2 ^ 63 ≤ value) (high : value < 2 ^ 64)
    {rest : List Char} (closed : Closed rest) (fuel : Nat) :
    value? (fuel + 1) (intLiteral value ++ rest) = some (.int value, rest) := by
  cases value with
  | ofNat n =>
    have bound : n < UInt64.size := Int.ofNat_lt.mp high
    obtain ⟨c, more, begins, digit⟩ := exists_digitsOf_eq_cons n
    have read := number?_digitsOf false n closed
    rw [intLiteral_ofNat]
    rw [begins, List.cons_append] at read ⊢
    rw [value?_of_isDigit digit, read]
    simp [integer, bound]
  | negSucc n =>
    have bound : 2 * (n + 1) ≤ UInt64.size := by
      have size : UInt64.size = 2 ^ 64 := rfl
      omega
    rw [intLiteral_negSucc, List.cons_append, value?, number?_digitsOf true (n + 1) closed]
    simp [integer, bound]
    omega

/-! ### Values -/

/-- A character that is neither a blank nor a closing bracket. -/
def Opens (c : Char) : Prop := isSpace c = false ∧ c ≠ ']' ∧ c ≠ '}'

instance (c : Char) : Decidable (Opens c) := inferInstanceAs (Decidable (_ ∧ _))

theorem opens_of_isDigit {c : Char} (digit : c.isDigit = true) : Opens c := by
  have other (d : Char) (noDigit : d.isDigit = false) : c ≠ d := ne_of_isDigit digit noDigit
  refine ⟨?_, other _ rfl, other _ rfl⟩
  simp [isSpace, other ' ' rfl, other '\t' rfl, other '\n' rfl, other '\r' rfl]

theorem skipSpace_append {before : List Char} (leading : Spaces before) (text : List Char) :
    skipSpace (before ++ text) = skipSpace text :=
  List.dropWhile_append_of_pos leading

theorem skipSpace_cons {c : Char} (solid : isSpace c = false) (rest : List Char) :
    skipSpace (c :: rest) = c :: rest := by
  simp [skipSpace, solid]

theorem exists_intLiteral_eq_cons (value : Int) :
    ∃ c more, intLiteral value = c :: more ∧ Opens c := by
  cases value with
  | ofNat n =>
    obtain ⟨c, more, begins, digit⟩ := exists_digitsOf_eq_cons n
    exact ⟨c, more, (intLiteral_ofNat n).trans begins, opens_of_isDigit digit⟩
  | negSucc n => exact ⟨'-', _, intLiteral_negSucc n, by decide⟩

theorem Spells.exists_cons {text : List Char} {value : Json} (spelled : Spells text value) :
    ∃ c more, text = c :: more ∧ Opens c := by
  cases spelled with
  | bool value => cases value <;> exact ⟨_, _, rfl, by decide⟩
  | @int value low high => exact exists_intLiteral_eq_cons value
  | null | str | emptyArr | arr | emptyObj | obj => exact ⟨_, _, rfl, by decide⟩

theorem Spells.skipSpace_append {text : List Char} {value : Json} (spelled : Spells text value)
    {before : List Char} (leading : Spaces before) (rest : List Char) :
    skipSpace (before ++ (text ++ rest)) = text ++ rest := by
  obtain ⟨c, more, rfl, opens⟩ := spelled.exists_cons
  rw [Json.skipSpace_append leading, List.cons_append, skipSpace_cons opens.1]

theorem SpellsItems.exists_cons {text : List Char} {items : List Json}
    (spelled : SpellsItems text items) (rest : List Char) :
    ∃ c more, skipSpace (text ++ rest) = c :: more ∧ Opens c := by
  cases spelled with
  | single leading first | cons leading first =>
    obtain ⟨c, more, rfl, opens⟩ := first.exists_cons
    rw [List.append_assoc, List.append_assoc, first.skipSpace_append leading]
    exact ⟨c, _, rfl, opens⟩

theorem SpellsMembers.exists_cons {text : List Char} {members : List (String × Json)}
    (spelled : SpellsMembers text members) (rest : List Char) :
    ∃ more, skipSpace (text ++ rest) = '"' :: more := by
  cases spelled with
  | single name leading | cons name leading =>
    rw [List.append_assoc, Json.skipSpace_append leading]
    exact ⟨_, rfl⟩

/-- A list that does not close at once is read item by item. -/
theorem value?_bracket {fuel : Nat} {rest more : List Char} {c : Char}
    (begins : skipSpace rest = c :: more) (opens : Opens c) :
    value? (fuel + 1) ('[' :: rest) =
      (items? fuel (skipSpace rest)).map fun (items, rest) => (.arr items, rest) := by
  rw [value?, begins]
  split
  · next same => exact absurd (List.cons.inj same).1 opens.2.1
  · cases items? fuel (c :: more) <;> rfl

/-- An object that does not close at once is read member by member. -/
theorem value?_brace {fuel : Nat} {rest more : List Char} (begins : skipSpace rest = '"' :: more) :
    value? (fuel + 1) ('{' :: rest) =
      (members? fuel (skipSpace rest)).map fun (members, rest) => (object members, rest) := by
  rw [value?, begins]
  split
  · next same => exact absurd (List.cons.inj same).1 (by decide)
  · cases members? fuel ('"' :: more) <;> rfl

theorem object_some (members : List (String × Json)) :
    object (members.map (Prod.map some id)) = .obj members := by
  have read : (members.map (Prod.map some id)).mapM
      (fun member => member.1.map (·, member.2)) = some members := by
    induction members with
    | nil => rfl
    | cons member members ih => rw [List.map_cons, List.mapM_cons, ih]; rfl
  unfold object
  split
  · next found =>
    cases read.symm.trans found
    rfl
  · next missing => cases read.symm.trans missing

theorem closed_append {after rest : List Char} (trailing : Spaces after) (closed : Closed rest) :
    Closed (after ++ rest) := by
  cases after with
  | nil => exact closed
  | cons c after =>
    intro d first
    cases first
    exact .inl (trailing c List.mem_cons_self)

mutual

/-- A spelling is read as its value. -/
theorem value?_of_spells {text : List Char} {value : Json} (spelled : Spells text value)
    {rest : List Char} (closed : Closed rest) {fuel : Nat} (enough : text.length ≤ fuel) :
    value? fuel (text ++ rest) = some (value, rest) := by
  obtain ⟨fuel, rfl⟩ : ∃ more, fuel = more + 1 := by
    obtain ⟨c, more, rfl, -⟩ := spelled.exists_cons
    exact ⟨fuel - 1, by simp at enough; omega⟩
  cases spelled with
  | null => rfl
  | bool value => cases value <;> rfl
  | int low high => exact value?_intLiteral low high closed fuel
  | str text => simp [scalar, quote, value?, literal?_flatMap_escapeChar]
  | emptyArr => rfl
  | @arr text items later =>
    obtain ⟨c, more, begins, opens⟩ := later.exists_cons (']' :: rest)
    have room : text.length < fuel := by simp at enough; omega
    have read := items?_of_spells later rest room
    rw [List.cons_append, List.append_assoc]
    rw [List.singleton_append, value?_bracket begins opens, read]
    rfl
  | emptyObj => rfl
  | @obj text members later =>
    obtain ⟨more, begins⟩ := later.exists_cons ('}' :: rest)
    have room : text.length < fuel := by simp at enough; omega
    have read := members?_of_spells later rest room
    rw [List.cons_append, List.append_assoc]
    rw [List.singleton_append, value?_brace begins, read]
    exact congrArg (fun value => some (value, rest)) (object_some members)

theorem items?_of_spells {text : List Char} {items : List Json} (spelled : SpellsItems text items)
    (rest : List Char) {fuel : Nat} (enough : text.length < fuel) :
    items? fuel (skipSpace (text ++ ']' :: rest)) = some (items, rest) := by
  obtain ⟨fuel, rfl⟩ : ∃ more, fuel = more + 1 := ⟨fuel - 1, by omega⟩
  cases spelled with
  | @single before text after item leading first trailing =>
    have closed : Closed (after ++ ']' :: rest) := closed_append trailing (by simp [Closed])
    have room : text.length ≤ fuel := by simp at enough; omega
    have read := value?_of_spells first closed room
    rw [List.append_assoc, List.append_assoc, first.skipSpace_append leading, items?, read]
    simp [skipSpace_append trailing, skipSpace_cons, isSpace]
  | @cons before text after more item items leading first trailing later =>
    have closed : Closed (after ++ ',' :: (more ++ ']' :: rest)) :=
      closed_append trailing (by simp [Closed])
    have room : text.length ≤ fuel := by simp at enough; omega
    have read := value?_of_spells first closed room
    have roomLater : more.length < fuel := by simp at enough; omega
    have readLater := items?_of_spells later rest roomLater
    rw [List.append_assoc, List.append_assoc, List.append_assoc, List.cons_append,
      first.skipSpace_append leading, items?, read]
    simp [skipSpace_append trailing, skipSpace_cons, isSpace, readLater]

theorem members?_of_spells {text : List Char} {members : List (String × Json)}
    (spelled : SpellsMembers text members) (rest : List Char) {fuel : Nat}
    (enough : text.length < fuel) :
    members? fuel (skipSpace (text ++ '}' :: rest)) =
      some (members.map (Prod.map some id), rest) := by
  obtain ⟨fuel, rfl⟩ : ∃ more, fuel = more + 1 := ⟨fuel - 1, by omega⟩
  cases spelled with
  | @single before between text after value name leading inner first trailing =>
    have closed : Closed (after ++ '}' :: rest) := closed_append trailing (by simp [Closed])
    have room : text.length ≤ fuel := by simp at enough; omega
    have read := value?_of_spells first closed room
    have before := first.skipSpace_append inner (after ++ '}' :: rest)
    simp [skipSpace_append leading, skipSpace_cons, quote, isSpace, members?,
      literal?_flatMap_escapeChar, before, read, skipSpace_append trailing]
  | @cons before between text after more value members name leading inner first trailing later =>
    have closed : Closed (after ++ ',' :: (more ++ '}' :: rest)) :=
      closed_append trailing (by simp [Closed])
    have room : text.length ≤ fuel := by simp at enough; omega
    have read := value?_of_spells first closed room
    have before := first.skipSpace_append inner (after ++ ',' :: (more ++ '}' :: rest))
    have roomLater : more.length < fuel := by simp at enough; omega
    have readLater := members?_of_spells later rest roomLater
    simp [skipSpace_append leading, skipSpace_cons, quote, isSpace, members?,
      literal?_flatMap_escapeChar, before, read, skipSpace_append trailing, readLater]

end

/-! ### Whole texts -/

/-- A spelling with blanks around it denotes its value. -/
theorem parseChars?_of_spells {before text after : List Char} {value : Json}
    (spelled : Spells text value) (leading : Spaces before) (trailing : Spaces after) :
    parseChars? (before ++ (text ++ after)) = some value := by
  have closed : Closed (after ++ []) := closed_append trailing nofun
  rw [List.append_nil] at closed
  have enough : text.length ≤ 2 * (before ++ (text ++ after)).length + 2 := by
    simp only [List.length_append]
    omega
  have read := value?_of_spells spelled closed enough
  have nothing : skipSpace after = [] := by
    simpa [skipSpace] using skipSpace_append trailing []
  rw [parseChars?, spelled.skipSpace_append leading, read]
  simp [nothing]

/-- What is written without blanks is read. -/
theorem parse?_toCompact {value : Json} (writable : Writable value) :
    parse? value.toCompact = some value := by
  have read := parseChars?_of_spells (spells_compact value writable) Spaces.nil Spaces.nil
  simpa [parse?, toCompact] using read

/-- What is written with one item a line is read, whatever blanks follow it. -/
theorem parse?_toPretty_append {value : Json} (writable : Writable value) {after : String}
    (trailing : Spaces after.toList) : parse? (value.toPretty ++ after) = some value := by
  have read := parseChars?_of_spells (spells_pretty 0 value writable) Spaces.nil trailing
  simpa [parse?, toPretty] using read

/-- What is written with one item a line is read, also as a line of its own. -/
theorem parse?_toPretty {value : Json} (writable : Writable value) :
    parse? (value.toPretty ++ "\n") = some value :=
  parse?_toPretty_append writable (by simp [Spaces, isSpace])

end QualityGate.Json
