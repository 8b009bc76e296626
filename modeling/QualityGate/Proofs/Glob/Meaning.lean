import QualityGate.Proofs.Glob.Expression

/-!
# What globs mean

A glob is read without the blanks around it and `./` before it (`body`), and a path without `./`
before it.

* `admits_iff_pieces` – a glob with `*` or `?` and without a bracket admits a path without line
  breaks exactly when the path can be cut into pieces that its tokens stand for, which is also when
  its regular expression finds something in the path.
* `plain_covers_iff` – a glob without special characters names a file or a directory (`nameOf`) and
  is to cover it with everything below.  It does so exactly as far as the path below the directory
  holds no line break; `newline_not_covered` shows one that does.
-/

namespace QualityGate.Glob

open QualityGate.Text

variable {text : String} {glob : Glob}

/-! ### Reading globs -/

/-- What is left of the text of a glob. -/
def body (text : String) : List Char := dropCurrentDir (trim text.toList)

/-- Only dots and slashes can get lost at the start. -/
theorem mem_dropCurrentDir_iff {c : Char} (noDot : c ≠ '.') (noSlash : c ≠ '/')
    {text : List Char} : c ∈ dropCurrentDir text ↔ c ∈ text := by
  fun_induction dropCurrentDir text with
  | case1 rest ih => simp [ih, noDot, noSlash]
  | case2 text _ => exact Iff.rfl

/-- Special characters are neither trimmed nor dropped. -/
theorem mem_body_iff {c : Char} (special : isSpecial c = true) :
    c ∈ body text ↔ c ∈ text.toList := by
  have cases : c = '*' ∨ c = '?' ∨ c = '[' := by simpa [isSpecial, or_assoc] using special
  have solid : isBlank c = false ∧ c ≠ '.' ∧ c ≠ '/' := by
    rcases cases with rfl | rfl | rfl <;> decide
  exact (mem_dropCurrentDir_iff solid.2.1 solid.2.2).trans (mem_trim_iff solid.1)

theorem any_isSpecial_body :
    (body text).any isSpecial = true ↔ ∃ c ∈ text.toList, isSpecial c = true := by
  rw [List.any_eq_true]
  exact exists_congr fun c => and_congr_left mem_body_iff

/-- A text of which something is left is a glob if it has a shape. -/
theorem ofString_of_shapeOf {shape : Shape} (some : body text ≠ [])
    (shaped : shapeOf (body text) = .ok shape) :
    ofString text = .ok ⟨String.ofList (body text), shape⟩ := by
  have full : (dropCurrentDir (trim text.toList)).isEmpty = false :=
    List.isEmpty_eq_false_iff.mpr some
  rw [body] at shaped
  rw [ofString, body]
  simp only [full, shaped]
  rfl

theorem body_ne_nil (read : ofString text = .ok glob) : body text ≠ [] := by
  intro nothing
  rw [body] at nothing
  rw [ofString] at read
  simp only [nothing] at read
  cases read

theorem shapeOf_of_tokens (special : (body text).any isSpecial = true) (noSets : '[' ∉ body text) :
    shapeOf (body text) = .ok (.tokens (tokens (body text))) := by
  rw [← List.contains_iff_mem, Bool.not_eq_true] at noSets
  simp only [shapeOf, special, noSets]
  rfl

theorem shapeOf_of_plain (plain : (body text).any isSpecial = false) :
    shapeOf (body text) = .ok (.plain (dropWhileEnd (· == '/') (body text))) := by
  simp [shapeOf, plain]

/-! ### Globs with tokens -/

/-- **Globs mean what they say.**  A glob with `*` or `?` and without a bracket is read as tokens in
exactly one way, and its regular expression between anchors can be read.  The glob admits a path
without line breaks exactly when what is left of the path is made of pieces that the tokens stand
for, one after the other, and exactly when the expression finds something in it. -/
theorem admits_iff_pieces (read : ofString text = .ok glob)
    (wild : '*' ∈ text.toList ∨ '?' ∈ text.toList) (noSets : '[' ∉ text.toList) :
    ∃ list e expr, (∀ other, Reads (body text) other ↔ other = list) ∧
      expression? ((body text).length + 1) (body text) = some e ∧
      Regex.parse? {} ('^' :: e ++ ['$']) = some (expr, []) ∧
      ∀ path : String, '\n' ∉ path.toList →
        (glob.admits path = true ↔ ∃ pieces, List.Forall₂ Token.StandsFor list pieces ∧
          dropCurrentDir path.toList = pieces.flatten) ∧
        (expr.Finds (dropCurrentDir path.toList) ↔ glob.admits path = true) := by
  have special : (body text).any isSpecial = true := by
    rcases wild with star | mark
    · exact any_isSpecial_body.mpr ⟨'*', star, rfl⟩
    · exact any_isSpecial_body.mpr ⟨'?', mark, rfl⟩
  have absent : '[' ∉ body text := mt (mem_body_iff rfl).mp noSets
  have shaped := ofString_of_shapeOf (body_ne_nil read) (shapeOf_of_tokens special absent)
  obtain rfl : glob = ⟨String.ofList (body text), .tokens (tokens (body text))⟩ :=
    Except.ok.inj (read.symm.trans shaped)
  obtain ⟨e, expr, written, parsed, finds⟩ := finds_tokens_iff absent
  refine ⟨tokens (body text), e, expr, fun other => reads_iff.trans eq_comm, written, parsed,
    fun path oneLine => ?_⟩
  have inLine : '\n' ∉ dropCurrentDir path.toList := by
    rwa [mem_dropCurrentDir_iff (by decide) (by decide)]
  have admits : (Shape.tokens (tokens (body text))).admits (dropCurrentDir path.toList) = true ↔ _ :=
    admits_tokens_iff inLine
  exact ⟨admits, (finds _ inLine).trans admits.symm⟩

/-- A glob for files in any directory, and the pieces of a path that it admits. -/
theorem admits_iff_pieces_typescript :
    ∃ glob, ofString "./**/*.ts" = .ok glob ∧ '*' ∈ "./**/*.ts".toList ∧
      '[' ∉ "./**/*.ts".toList ∧ glob.admits "x/y/a.ts" = true := by
  have something : body "./**/*.ts" ≠ [] := by decide +kernel
  have shaped : shapeOf (body "./**/*.ts") = .ok (.tokens (tokens (body "./**/*.ts"))) :=
    shapeOf_of_tokens (by decide +kernel) (by decide +kernel)
  have read := ofString_of_shapeOf something shaped
  have star : '*' ∈ "./**/*.ts".toList := by decide
  have noSets : '[' ∉ "./**/*.ts".toList := by decide
  obtain ⟨list, e, expr, reads, -, -, admits⟩ := admits_iff_pieces read (Or.inl star) noSets
  obtain rfl : [.directories, .withinName, .char '.', .char 't', .char 's'] = list :=
    (reads _).mp (reads_iff.mpr (by decide +kernel))
  refine ⟨_, read, star, noSets, ((admits "x/y/a.ts" (by decide)).1).mpr ?_⟩
  refine ⟨["x/y/".toList, ['a'], ['.'], ['t'], ['s']], ?_, by decide +kernel⟩
  refine .cons ⟨[['x'], ['y']], ?_, by decide⟩ (.cons ?_ (.cons rfl (.cons rfl (.cons rfl .nil))))
  · simp [IsName]
  · simp [Token.StandsFor]

/-! ### Globs without special characters -/

/-- The path that a glob without special characters names. -/
def nameOf (text : String) : List Char := dropWhileEnd (· == '/') (body text)

/-- A path is the named one, or it is below it. -/
def Covers (name path : List Char) : Prop := path = name ∨ (name ++ ['/']) <+: path

instance (name path : List Char) : Decidable (Covers name path) :=
  inferInstanceAs (Decidable (_ ∨ _))

/-- A path is below the named one, and a line ends there. -/
def BreaksBelow (name path : List Char) : Prop :=
  ∃ below, path = name ++ '/' :: below ∧ '\n' ∈ below

theorem BreaksBelow.covers {name path : List Char} (breaks : BreaksBelow name path) :
    Covers name path := by
  obtain ⟨below, rfl, -⟩ := breaks
  exact Or.inr ⟨below, by simp⟩

theorem BreaksBelow.newline_mem {name path : List Char} (breaks : BreaksBelow name path) :
    '\n' ∈ path := by
  obtain ⟨below, rfl, newline⟩ := breaks
  exact List.mem_append_right _ (List.mem_cons_of_mem _ newline)

/-- What is covered is admitted, unless a line ends below the named path. -/
theorem isWithin_iff_covers {name path : List Char} :
    isWithin name path = true ↔ Covers name path ∧ ¬ BreaksBelow name path := by
  rw [isWithin_iff]
  constructor
  · rintro (rfl | ⟨below, rfl, oneLine⟩)
    · refine ⟨Or.inl rfl, ?_⟩
      rintro ⟨below, whole, -⟩
      exact List.cons_ne_nil _ _ (List.append_right_eq_self.mp whole.symm)
    · refine ⟨Or.inr ⟨below, by simp⟩, ?_⟩
      rintro ⟨other, whole, newline⟩
      obtain ⟨-, rfl⟩ := List.cons.inj (List.append_cancel_left whole)
      exact oneLine newline
  · rintro ⟨rfl | ⟨below, rfl⟩, oneLine⟩
    · exact Or.inl rfl
    · rw [List.append_assoc, List.singleton_append] at oneLine ⊢
      exact Or.inr ⟨below, rfl, fun newline => oneLine ⟨below, rfl, newline⟩⟩

/-- **A plain glob covers its directory, but for line breaks.**  A text without special characters,
of which something is left, is a glob.  It admits what it is to cover, the named path and everything
below it, unless a line ends below the named path; so it covers a path as it is to exactly when no
line ends there.  The pattern of its escaped name admits the same paths. -/
theorem plain_covers_iff (plain : ∀ c ∈ text.toList, isSpecial c = false)
    (something : body text ≠ []) :
    ∃ glob expr, ofString text = .ok glob ∧
      Regex.parse? {} ('^' :: Regex.escape (nameOf text) ++ "(?:/.*)?$".toList) = some (expr, []) ∧
      ∀ path : String,
        (glob.admits path = true ↔ Covers (nameOf text) (dropCurrentDir path.toList) ∧
          ¬ BreaksBelow (nameOf text) (dropCurrentDir path.toList)) ∧
        ((glob.admits path = true ↔ Covers (nameOf text) (dropCurrentDir path.toList)) ↔
          ¬ BreaksBelow (nameOf text) (dropCurrentDir path.toList)) ∧
        (expr.Finds (dropCurrentDir path.toList) ↔ glob.admits path = true) := by
  have noSpecial : (body text).any isSpecial = false := by
    rw [← Bool.not_eq_true, any_isSpecial_body]
    rintro ⟨c, mem, special⟩
    rw [plain c mem] at special
    cases special
  obtain ⟨expr, parsed, finds⟩ := finds_name_iff (nameOf text)
  have read := ofString_of_shapeOf something (shapeOf_of_plain noSpecial)
  refine ⟨_, expr, read, parsed, fun path => ?_⟩
  have admits : isWithin (nameOf text) (dropCurrentDir path.toList) = true ↔ _ := isWithin_iff_covers
  refine ⟨admits, ⟨fun exact breaks => ?_, fun oneLine => ?_⟩, finds _⟩
  · exact (admits.mp (exact.mpr breaks.covers)).2 breaks
  · exact admits.trans (and_iff_left oneLine)

/-- A directory with blanks and slashes around its name, and a file in it with special characters
in its name. -/
theorem plain_covers_config :
    (∀ c ∈ " ./config// ".toList, isSpecial c = false) ∧ body " ./config// " ≠ [] ∧
      ∃ glob, ofString " ./config// " = .ok glob ∧ glob.admits "./config/a(1).*" = true ∧
        glob.admits "configs/a" = false := by
  have plain : ∀ c ∈ " ./config// ".toList, isSpecial c = false := by
    have none : " ./config// ".toList.any isSpecial = false := by decide +kernel
    intro c mem
    exact Bool.not_eq_true _ ▸ List.any_eq_false.mp none c mem
  have something : body " ./config// " ≠ [] := by decide +kernel
  obtain ⟨glob, expr, read, -, admits⟩ := plain_covers_iff plain something
  refine ⟨plain, something, glob, read, (admits _).1.mpr ⟨by decide +kernel, ?_⟩, ?_⟩
  · exact mt BreaksBelow.newline_mem (by decide +kernel)
  · rw [← Bool.not_eq_true, (admits _).1]
    exact fun covered => absurd covered.1 (by decide +kernel)

/-- **A name with a line break is missed.**  The glob of a directory does not admit a file in it. -/
theorem newline_not_covered :
    ∃ glob, ofString "config" = .ok glob ∧ glob.admits "config/a\nb" = false ∧
      Covers (nameOf "config") (dropCurrentDir "config/a\nb".toList) :=
  ⟨_, ofString_of_shapeOf (by decide +kernel) (shapeOf_of_plain (by decide +kernel)),
    by decide +kernel, by decide +kernel⟩

end QualityGate.Glob
