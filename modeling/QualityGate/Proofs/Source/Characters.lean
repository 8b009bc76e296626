import QualityGate.Proofs.Source.Hidden

/-!
# The kinds of characters

The pass looks at bytes, and a step of it may end inside a character: a backslash takes the next
byte along, whatever it is.  Still no character is divided between two kinds (`exists_spread`), so
one may speak of the kind of a character.

* `spread` – the cells of characters that have a kind each.
* `kindsFrom_cons_cases` – what one step does: it takes one byte, or two after a first one that is
  ASCII.
* `exists_piece` – as many steps as it takes to get from one character to the beginning of another.

### What is load-bearing

Every delimiter is ASCII, and no byte of a longer character is.  So bytes above ASCII leave the pass
in its mode and have the kind of the mode (`kindsFrom_wide_append`), and a step that ends inside a
character ends in a mode of the kind that the step has given.
-/

namespace QualityGate.Source

open QualityGate.Text

/-- The modes in which the pass can be: a literal ends with a quote. -/
def Mode.Proper : Mode → Prop
  | .quoted quote => isQuote quote = true
  | _ => True

/-- A byte above ASCII is no delimiter. -/
theorem ne_of_wide {a b : UInt8} (wide : 0x80 ≤ a) (ascii : b < 0x80) : a ≠ b := by
  rintro rfl
  exact UInt8.not_lt.mpr wide ascii

theorem isQuote_of_wide {a : UInt8} (wide : 0x80 ≤ a) : isQuote a = false := by
  have single : a ≠ 0x27 := ne_of_wide wide (by decide)
  have double : a ≠ 0x22 := ne_of_wide wide (by decide)
  have back : a ≠ 0x60 := ne_of_wide wide (by decide)
  simp [isQuote, single, double, back]

/-- A byte above ASCII has the kind of the mode and leaves the pass in it. -/
theorem kindsFrom_wide_cons {mode : Mode} (proper : mode.Proper) {a : UInt8} (wide : 0x80 ≤ a)
    (rest : Bytes) : kindsFrom mode (a :: rest) = mode.kind :: kindsFrom mode rest := by
  have noSlash : a ≠ slash := ne_of_wide wide (by decide)
  have noStar : a ≠ star := ne_of_wide wide (by decide)
  have noNewline : a ≠ newline := ne_of_wide wide (by decide)
  have noBackslash : a ≠ backslash := ne_of_wide wide (by decide)
  have noQuote := isQuote_of_wide wide
  cases mode with
  | lineComment => rw [kindsFrom, if_neg noNewline]; rfl
  | normal => cases rest <;> simp [kindsFrom, noSlash, noQuote, Mode.kind]
  | blockComment => cases rest <;> simp [kindsFrom, noStar, Mode.kind]
  | quoted quote =>
    have other : a ≠ quote := by
      rintro rfl
      exact absurd proper (by simp [Mode.Proper, noQuote])
    cases rest <;> simp [kindsFrom, noBackslash, other, Mode.kind]

/-- So do all bytes above ASCII that follow each other. -/
theorem kindsFrom_wide_append {mode : Mode} (proper : mode.Proper) {front : Bytes}
    (wide : ∀ b ∈ front, 0x80 ≤ b) (rest : Bytes) :
    kindsFrom mode (front ++ rest) =
      List.replicate front.length mode.kind ++ kindsFrom mode rest := by
  induction front with
  | nil => rfl
  | cons a front ih =>
    obtain ⟨first, others⟩ := List.forall_mem_cons.mp wide
    rw [List.cons_append, kindsFrom_wide_cons proper first, ih others]
    rfl

/-- What one step does.  A step that takes two bytes begins with an ASCII one, and either the second
is ASCII, too, or the bytes that follow are of the same kind. -/
theorem kindsFrom_cons_cases {mode : Mode} (proper : mode.Proper) (a : UInt8) (rest : Bytes) :
    (∃ kind next, next.Proper ∧ kindsFrom mode (a :: rest) = kind :: kindsFrom next rest) ∨
      ∃ kind next b more, rest = b :: more ∧ next.Proper ∧ (b < 0x80 ∨ next.kind = kind) ∧
        kindsFrom mode (a :: rest) = kind :: kind :: kindsFrom next more := by
  cases mode with
  | normal =>
    cases rest with
    | nil => exact Or.inl ⟨_, .normal, trivial, rfl⟩
    | cons b more =>
      rw [kindsFrom]
      split
      · next line =>
        exact Or.inr ⟨_, .lineComment, b, more, rfl, trivial, Or.inl (line.2 ▸ by decide), rfl⟩
      split
      · next block =>
        exact Or.inr ⟨_, .blockComment, b, more, rfl, trivial, Or.inl (block.2 ▸ by decide), rfl⟩
      split
      · next opens => exact Or.inl ⟨_, .quoted a, opens, rfl⟩
      · exact Or.inl ⟨_, .normal, trivial, rfl⟩
  | lineComment =>
    rw [kindsFrom]
    split
    · exact Or.inl ⟨_, .normal, trivial, rfl⟩
    · exact Or.inl ⟨_, .lineComment, trivial, rfl⟩
  | blockComment =>
    cases rest with
    | nil => exact Or.inl ⟨_, .normal, trivial, rfl⟩
    | cons b more =>
      rw [kindsFrom]
      split
      · next closes =>
        exact Or.inr ⟨_, .normal, b, more, rfl, trivial, Or.inl (closes.2 ▸ by decide), rfl⟩
      · exact Or.inl ⟨_, .blockComment, trivial, rfl⟩
  | quoted quote =>
    cases rest with
    | nil => exact Or.inl ⟨_, .normal, trivial, rfl⟩
    | cons b more =>
      rw [kindsFrom]
      split
      · exact Or.inr ⟨_, .quoted quote, b, more, rfl, proper, Or.inr rfl, rfl⟩
      · refine Or.inl ⟨_, _, ?_, rfl⟩
        split
        · trivial
        · exact proper

/-! ### From character to character -/

/-- The bytes behind the first one of a character are above ASCII. -/
theorem wide_of_isTail {b : UInt8} (tail : Utf8.isTail b = true) : 0x80 ≤ b := by
  rw [Utf8.isTail, Bool.and_eq_true, decide_eq_true_iff] at tail
  exact tail.1

/-- From the beginning of a character on, one or two steps and the bytes above ASCII that follow
them go over whole characters, which all have one kind. -/
theorem exists_piece {mode : Mode} (proper : mode.Proper) {text : List Char} (some : text ≠ []) :
    ∃ piece rest kind next, text = piece ++ rest ∧ piece ≠ [] ∧ next.Proper ∧
      kindsFrom mode (Utf8.encode text) =
        List.replicate (Utf8.encode piece).length kind ++ kindsFrom next (Utf8.encode rest) := by
  obtain ⟨c, text, rfl⟩ := List.exists_cons_of_ne_nil some
  have single : Utf8.encode [c] = String.utf8EncodeChar c := by simp
  by_cases ascii : c.val.toNat < 0x80
  · have byte := Utf8.utf8EncodeChar_of_ascii ascii
    rw [Utf8.encode_cons, byte, List.singleton_append]
    rcases kindsFrom_cons_cases proper (UInt8.ofNat c.val.toNat) (Utf8.encode text) with
      ⟨kind, next, proper', step⟩ | ⟨kind, next, b, more, later, proper', same, step⟩
    · refine ⟨[c], text, kind, next, rfl, List.cons_ne_nil _ _, proper', ?_⟩
      rw [step, single, byte]
      rfl
    · -- The second byte begins a character, the rest of which is passed in the mode after the step.
      cases text with
      | nil => cases later
      | cons d text =>
        obtain ⟨first, tail, bytes, -, tails⟩ := Utf8.exists_utf8EncodeChar_eq_cons d
        rw [Utf8.encode_cons, bytes, List.cons_append] at later
        obtain ⟨rfl, rfl⟩ := List.cons.inj later
        have wide : ∀ b ∈ tail, 0x80 ≤ b := fun b mem => wide_of_isTail (tails b mem)
        have kinds : List.replicate tail.length next.kind = List.replicate tail.length kind := by
          rcases same with small | same
          · -- The second character is ASCII as well, so nothing is left of it.
            have ascii' : d.val.toNat < 0x80 := by
              by_contra above
              have first := Utf8.le_of_mem_utf8EncodeChar (Nat.le_of_not_lt above)
                (bytes ▸ List.mem_cons_self)
              exact UInt8.not_lt.mpr first small
            rw [Utf8.utf8EncodeChar_of_ascii ascii'] at bytes
            rw [← (List.cons.inj bytes).2]
            rfl
          · rw [same]
        refine ⟨[c, d], text, kind, next, rfl, List.cons_ne_nil _ _, proper', ?_⟩
        rw [step, kindsFrom_wide_append proper' wide, kinds]
        simp [byte, bytes, List.replicate_succ]
  · have wide : ∀ b ∈ String.utf8EncodeChar c, 0x80 ≤ b :=
      fun b mem => Utf8.le_of_mem_utf8EncodeChar (Nat.le_of_not_lt ascii) mem
    refine ⟨[c], text, mode.kind, mode, rfl, List.cons_ne_nil _ _, proper, ?_⟩
    rw [Utf8.encode_cons, kindsFrom_wide_append proper wide, single]

/-- A line break has one byte, which is in no other character. -/
theorem eq_newline_iff {c : Char} {b : UInt8} (mem : b ∈ String.utf8EncodeChar c) :
    b = newline ↔ c = '\n' := by
  constructor
  · rintro rfl
    exact (Utf8.mem_utf8EncodeChar_iff (d := '\n') (by decide)).mp mem
  · rintro rfl
    exact List.mem_singleton.mp mem

/-- The cells of characters that have a kind each. -/
def spread (marked : List (Char × Kind)) : List Cell :=
  marked.flatMap fun (c, kind) => (String.utf8EncodeChar c).map (·, kind)

@[simp] theorem spread_nil : spread [] = [] := rfl

@[simp] theorem spread_cons (first : Char × Kind) (marked : List (Char × Kind)) :
    spread (first :: marked) = (String.utf8EncodeChar first.1).map (·, first.2) ++ spread marked :=
  rfl

@[simp] theorem spread_append (front back : List (Char × Kind)) :
    spread (front ++ back) = spread front ++ spread back := List.flatMap_append

theorem spread_map (text : List Char) (kind : Kind) :
    spread (text.map (·, kind)) = (Utf8.encode text).map (·, kind) := by
  rw [spread, List.flatMap_map, Utf8.encode, List.map_flatMap]

theorem map_fst_spread (marked : List (Char × Kind)) :
    (spread marked).map (·.1) = Utf8.encode (marked.map (·.1)) := by
  induction marked with
  | nil => rfl
  | cons first marked ih =>
    rw [spread_cons, List.map_append, ih, List.map_map, List.map_cons, Utf8.encode_cons]
    exact congrArg (· ++ _) (List.map_id _)

theorem length_spread (marked : List (Char × Kind)) :
    (spread marked).length = (Utf8.encode (marked.map (·.1))).length := by
  rw [← map_fst_spread, List.length_map]

theorem exists_spread_from {mode : Mode} (proper : mode.Proper) (text : List Char) :
    ∃ marked : List (Char × Kind), marked.map (·.1) = text ∧
      (Utf8.encode text).zip (kindsFrom mode (Utf8.encode text)) = spread marked := by
  by_cases empty : text = []
  · exact ⟨[], empty.symm, by simp [empty]⟩
  · obtain ⟨piece, rest, kind, next, whole, some, proper', steps⟩ := exists_piece proper empty
    have shorter : rest.length < text.length := by
      have length := List.length_pos_iff.mpr some
      rw [whole, List.length_append]
      omega
    obtain ⟨marked, same, cells⟩ := exists_spread_from proper' rest
    refine ⟨piece.map (·, kind) ++ marked, ?_, ?_⟩
    · rw [List.map_append, List.map_map, same, whole]
      exact congrArg (· ++ rest) (List.map_id piece)
    · rw [steps, whole, Utf8.encode_append, List.zip_append List.length_replicate.symm,
        zip_replicate, cells, spread_append, spread_map]
termination_by text.length

/-- **No character is divided between two kinds.** -/
theorem exists_spread (text : List Char) :
    ∃ marked : List (Char × Kind), marked.map (·.1) = text ∧
      cells (Utf8.encode text) = spread marked := by
  have proper : Mode.normal.Proper := trivial
  rw [cells, kinds_eq_kindsFrom]
  exact exists_spread_from proper text

end QualityGate.Source
