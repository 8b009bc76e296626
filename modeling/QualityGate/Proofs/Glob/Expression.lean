import QualityGate.Proofs.Glob.Tokens
import QualityGate.Proofs.Regex.Reading

/-!
# Globs as regular expressions

A glob can be written as a regular expression between anchors.  Without brackets that expression
stands for the tokens of the glob, and a plain name with everything below it can be written as one
as well.

* `expression?_eq` – the expression of a glob without brackets is put together from those of its
  tokens.
* `finds_tokens_iff` – read as a pattern, it finds something in a path without line breaks exactly
  when the tokens stand for the pieces of the path.
* `finds_name_iff` – read as a pattern, an escaped name finds something exactly in the paths that are
  within the name.

### What is load-bearing

Every token is read as one item wherever it stands (`Token.readsAs`).  For characters this is what
escaping is for: all characters that mean something in a pattern are escaped.
-/

namespace QualityGate.Glob

open QualityGate.Regex
open QualityGate.Text
open QualityGate.Unicode (CharSet)

/-! ### Tokens as pieces of patterns -/

/-- The text of a character in a regular expression. -/
def charPattern (c : Char) : List Char :=
  if c = '.' || "^$+\x7b\x7d|()\\".toList.contains c then ['\\', c] else [c]

/-- The text of a token in a regular expression. -/
def Token.pattern : Token → List Char
  | .directories => "(?:[^/]+/)*".toList
  | .anything => ".*".toList
  | .withinName => "[^/]*".toList
  | .one => "[^/]".toList
  | .char c => charPattern c

/-- One character that is no slash. -/
def notSlash : Expr := .set (CharSet.single '/').complement

/-- The expression of a token. -/
def Token.expr : Token → Expr
  | .directories => .rep 0 none true (.seq (.rep 1 none true notSlash) (.set (.single '/')))
  | .anything => .rep 0 none true (.set (CharSet.single '\n').complement)
  | .withinName => .rep 0 none true notSlash
  | .one => notSlash
  | .char c => .set (.single c)

/-- How deeply the text of a token is nested: classes, repetitions and groups count. -/
def Token.nesting : Token → Nat
  | .directories => 5
  | .anything => 1
  | .withinName => 2
  | .one => 1
  | .char _ => 0

theorem Token.nesting_lt (token : Token) : token.nesting < nestingLimit := by
  cases token <;> simp [nesting, nestingLimit]

/-- Tokens as pieces of a pattern. -/
def pieces (list : List Token) : List (List Char × Nested Expr) :=
  list.map fun token => (token.pattern, ⟨token.expr, token.nesting⟩)

/-- The expression of a glob without brackets is put together from its tokens. -/
theorem expression?_eq {text : List Char} (noSets : '[' ∉ text) {fuel : Nat}
    (enough : text.length < fuel + 1) :
    expression? (fuel + 1) text = some (joined (pieces (tokens text))) := by
  fun_induction tokens text generalizing fuel
  case case1 => rfl
  all_goals
    -- At least one character is read, so fuel is left for the rest.
    simp only [List.mem_cons, not_or, List.length_cons] at noSets enough
    obtain ⟨fuel, rfl⟩ := Nat.exists_eq_add_one_of_ne_zero (n := fuel) (by omega)
  case case2 rest ih =>
    rw [expression?, ih noSets.2.2.2 (by omega)]
    rfl
  case case3 rest other ih =>
    rw [expression?.eq_4 _ _ other, ih noSets.2.2 (by omega)]
    rfl
  case case4 rest _ other ih =>
    rw [expression?.eq_5 _ _ (fun rest => other ('/' :: rest)) other, ih noSets.2 (by omega)]
    rfl
  case case5 rest ih =>
    rw [expression?, ih noSets.2 (by omega)]
    rfl
  case case6 c rest _ _ noStar noMark ih =>
    have noSet : c = '[' → False := fun set => noSets.1 set.symm
    rw [expression?.eq_8 _ _ _ (fun _ star => absurd star noStar)
      (fun _ star => absurd star noStar) noStar noMark noSet, ih noSets.2 (by omega)]
    rfl

/-- A token does not ask for a special character of globs. -/
def Token.Usual (token : Token) : Prop := ∀ c, token = .char c → isSpecial c = false

theorem usual_of_mem_tokens {text : List Char} (noSets : '[' ∉ text) :
    ∀ token ∈ tokens text, token.Usual := by
  have unlike {token : Token} (other : ∀ c, token ≠ .char c) : token.Usual :=
    fun c same => absurd same (other c)
  fun_induction tokens text
  case case1 => simp
  all_goals simp only [List.mem_cons, not_or] at noSets
  case case2 rest ih => exact List.forall_mem_cons.mpr ⟨unlike (by simp), ih noSets.2.2.2⟩
  case case3 rest other ih => exact List.forall_mem_cons.mpr ⟨unlike (by simp), ih noSets.2.2⟩
  case case4 rest _ other ih => exact List.forall_mem_cons.mpr ⟨unlike (by simp), ih noSets.2⟩
  case case5 rest ih => exact List.forall_mem_cons.mpr ⟨unlike (by simp), ih noSets.2⟩
  case case6 c rest _ _ noStar noMark ih =>
    refine List.forall_mem_cons.mpr ⟨?_, ih noSets.2⟩
    rintro _ ⟨⟩
    have noSet : c ≠ '[' := Ne.symm noSets.1
    simp only [isSpecial, Bool.or_eq_false_iff, beq_eq_false_iff_ne]
    exact ⟨⟨noStar, noMark⟩, noSet⟩

/-! ### Reading tokens -/

theorem charPattern_eq (c : Char) : charPattern c =
    if c ∈ ['.', '^', '$', '+', '{', '}', '|', '(', ')', '\\'] then ['\\', c] else [c] := by
  have escaped : "^$+\x7b\x7d|()\\".toList = ['^', '$', '+', '{', '}', '|', '(', ')', '\\'] := by
    rfl
  rw [charPattern, escaped]
  simp

/-- Characters that mean something in a pattern are escaped, so every character that is not special
in globs stands for itself. -/
theorem readsAs_char {c : Char} (usual : isSpecial c = false) :
    ReadsAs (charPattern c) ⟨.set (.single c), 0⟩ := by
  simp only [isSpecial, Bool.or_eq_false_iff, beq_eq_false_iff_ne] at usual
  rw [charPattern_eq]
  split
  · next special =>
    refine ⟨by simp, fun _ => adds_escaped ?_⟩
    simp only [isMeta, List.mem_cons] at special ⊢
    grind
  · next plain =>
    refine ⟨?_, fun _ => adds_literal ?_⟩
    · simpa using usual.1.2
    · simp only [actives, List.mem_cons] at plain ⊢
      grind

/-- A name and the slash behind it, as they stand in a group. -/
def directoryPieces : List (List Char × Nested Expr) :=
  [(['[', '^', '/', ']'] ++ ['+'], ⟨.rep 1 none true notSlash, 2⟩),
    (['/'], ⟨.set (.single '/'), 0⟩)]

theorem readsAs_directoryPieces : ∀ piece ∈ directoryPieces, ReadsAs piece.1 piece.2 := by
  refine List.forall_mem_cons.mpr ⟨⟨by decide, fun noMark => ?_⟩, ?_⟩
  · exact adds_notSlash.repeated .plus rfl noMark
  · refine List.forall_mem_singleton.mpr ⟨by decide, fun _ => ?_⟩
    exact adds_literal (by decide)

/-- Every token is read as one item. -/
theorem Token.readsAs {token : Token} (usual : token.Usual) :
    ReadsAs token.pattern ⟨token.expr, token.nesting⟩ := by
  cases token with
  | directories =>
    have text : pattern .directories =
        '(' :: '?' :: ':' :: (joined directoryPieces ++ [')']) ++ ['*'] := by
      rfl
    rw [text]
    refine ⟨by simp, fun noMark => ?_⟩
    exact (adds_group readsAs_directoryPieces).repeated .star rfl noMark
  | anything =>
    have text : pattern .anything = ['.'] ++ ['*'] := by rfl
    rw [text]
    exact ⟨by decide, fun noMark => adds_dot.repeated .star rfl noMark⟩
  | withinName =>
    have text : pattern .withinName = ['[', '^', '/', ']'] ++ ['*'] := by rfl
    rw [text]
    exact ⟨by decide, fun noMark => adds_notSlash.repeated .star rfl noMark⟩
  | one =>
    have text : pattern .one = ['[', '^', '/', ']'] := by rfl
    rw [text]
    exact ⟨by decide, fun _ => adds_notSlash⟩
  | char c => exact readsAs_char (usual c rfl)

/-! ### What tokens take -/

/-- What a token stands for where no line ends. -/
def Token.StandsForInLine (token : Token) (piece : List Char) : Prop :=
  token.StandsFor piece ∧ (token = .anything → '\n' ∉ piece)

theorem Token.takesAll (token : Token) : token.expr.TakesAll token.StandsForInLine := by
  cases token with
  | directories =>
    have directory : (Expr.seq (.rep 1 none true notSlash) (.set (.single '/'))).TakesAll
        fun piece => ∃ name, IsName name ∧ piece = name ++ ['/'] := by
      intro before piece after
      refine ((Expr.takesAll_rep_complement '/' 1 true).seq (Expr.takesAll_single '/') _ _ _).trans ?_
      constructor
      · rintro ⟨name, _, rfl, ⟨some, free⟩, rfl⟩
        exact ⟨name, ⟨List.ne_nil_of_length_pos some, free⟩, rfl⟩
      · rintro ⟨name, ⟨some, free⟩, rfl⟩
        exact ⟨name, ['/'], rfl, ⟨List.length_pos_of_ne_nil some, free⟩, rfl⟩
    intro before piece after
    rw [expr, directory.rep_image]
    simp [StandsForInLine, StandsFor, slashed]
  | anything =>
    intro before piece after
    rw [expr, Expr.takesAll_rep_complement]
    simp [StandsForInLine, StandsFor]
  | withinName =>
    intro before piece after
    rw [expr, notSlash, Expr.takesAll_rep_complement]
    simp [StandsForInLine, StandsFor]
  | one =>
    intro before piece after
    rw [expr, notSlash, Expr.takesAll_complement]
    simp [StandsForInLine, StandsFor]
  | char c =>
    intro before piece after
    rw [expr, Expr.takesAll_single]
    simp [StandsForInLine, StandsFor]

/-- Pieces of a line are in that line. -/
theorem standInLine {list : List Token} {pieces : List (List Char)}
    (all : List.Forall₂ Token.StandsFor list pieces) (oneLine : '\n' ∉ pieces.flatten) :
    List.Forall₂ Token.StandsForInLine list pieces := by
  induction all with
  | nil => exact .nil
  | cons stands _ ih =>
    rw [List.flatten_cons, List.mem_append, not_or] at oneLine
    exact .cons ⟨stands, fun _ => oneLine.1⟩ (ih oneLine.2)

/-! ### Globs as patterns -/

/-- **A glob without brackets as a pattern.**  Between anchors its expression can be read, and in a
path without line breaks it finds something exactly when the path can be cut into pieces that the
tokens of the glob stand for. -/
theorem finds_tokens_iff {text : List Char} (noSets : '[' ∉ text) :
    ∃ e expr, expression? (text.length + 1) text = some e ∧
      Regex.parse? {} ('^' :: e ++ ['$']) = some (expr, []) ∧
      ∀ path, '\n' ∉ path → (expr.Finds path ↔
        ∃ pieces, List.Forall₂ Token.StandsFor (tokens text) pieces ∧ path = pieces.flatten) := by
  have read : ∀ piece ∈ pieces (tokens text), ReadsAs piece.1 piece.2 := by
    intro piece mem
    obtain ⟨token, known, rfl⟩ := List.mem_map.mp mem
    exact Token.readsAs (usual_of_mem_tokens noSets token known)
  have shallow : ∀ piece ∈ pieces (tokens text), piece.2.nesting < nestingLimit := by
    intro piece mem
    obtain ⟨token, -, rfl⟩ := List.mem_map.mp mem
    exact token.nesting_lt
  refine ⟨_, _, expression?_eq noSets (Nat.lt_succ_self _), parse?_anchored read shallow, ?_⟩
  intro path oneLine
  have exprs : (pieces (tokens text)).map (fun piece => piece.2.value) =
      (tokens text).map Token.expr := by
    rw [pieces, List.map_map]
    rfl
  have takes : (Expr.seqs ((tokens text).map Token.expr)).TakesAll fun path =>
      ∃ pieces, List.Forall₂ Token.StandsForInLine (tokens text) pieces ∧ path = pieces.flatten :=
    Expr.takesAll_seqs fun token _ => token.takesAll
  rw [exprs, lookExpr, lookExpr, Expr.finds_anchored_iff, takes]
  constructor
  · rintro ⟨pieces, all, rfl⟩
    exact ⟨pieces, all.imp fun _ _ stands => stands.1, rfl⟩
  · rintro ⟨pieces, all, rfl⟩
    exact ⟨pieces, standInLine all oneLine, rfl⟩

/-! ### Names as patterns -/

/-- What a glob without special characters admits: the named path, and what is below it within one
line. -/
theorem isWithin_iff {name path : List Char} :
    isWithin name path = true ↔
      path = name ∨ ∃ below, path = name ++ '/' :: below ∧ '\n' ∉ below := by
  constructor
  · intro within
    rw [isWithin] at within
    split at within
    · next found =>
      rw [stripPrefix?_eq_some_iff, List.append_nil] at found
      exact Or.inl found
    · next below found =>
      refine Or.inr ⟨below, stripPrefix?_eq_some_iff.mp found, fun newline => ?_⟩
      exact of_decide_eq_true (List.all_eq_true.mp within _ newline) rfl
    · cases within
  · rintro (rfl | ⟨below, rfl, oneLine⟩)
    · have found : stripPrefix? path path = some [] :=
        stripPrefix?_eq_some_iff.mpr (List.append_nil path).symm
      rw [isWithin, found]
    · have found : stripPrefix? name (name ++ '/' :: below) = some ('/' :: below) :=
        stripPrefix?_eq_some_iff.mpr rfl
      rw [isWithin, found]
      apply List.all_eq_true.mpr
      intro c mem
      apply decide_eq_true
      rintro rfl
      exact oneLine mem

/-- The characters of a name as pieces of a pattern. -/
def namePieces (name : List Char) : List (List Char × Nested Expr) :=
  name.map fun c => (if isMeta c then ['\\', c] else [c], ⟨.set (.single c), 0⟩)

theorem joined_namePieces (name : List Char) : joined (namePieces name) = Regex.escape name := by
  rw [joined, namePieces, List.flatMap_map]
  rfl

theorem readsAs_namePieces {name : List Char} :
    ∀ piece ∈ namePieces name, ReadsAs piece.1 piece.2 := by
  intro piece mem
  obtain ⟨c, -, rfl⟩ := List.mem_map.mp mem
  by_cases special : isMeta c = true
  · rw [if_pos special]
    exact ⟨by simp, fun _ => adds_escaped special⟩
  · rw [if_neg special]
    have plain : c ∉ actives := by
      intro active
      refine special (decide_eq_true ?_)
      simp only [actives, List.mem_cons] at active ⊢
      grind
    refine ⟨?_, fun _ => adds_literal plain⟩
    rintro ⟨⟩
    exact plain (by decide)

/-- What is below a name, as it stands in a group. -/
def belowPieces : List (List Char × Nested Expr) :=
  [(['/'], ⟨.set (.single '/'), 0⟩),
    (['.'] ++ ['*'], ⟨.rep 0 none true (.set (CharSet.single '\n').complement), 1⟩)]

theorem readsAs_belowPieces : ∀ piece ∈ belowPieces, ReadsAs piece.1 piece.2 := by
  refine List.forall_mem_cons.mpr ⟨⟨by decide, fun _ => adds_literal (by decide)⟩, ?_⟩
  refine List.forall_mem_singleton.mpr ⟨by decide, fun noMark => ?_⟩
  exact adds_dot.repeated .star rfl noMark

/-- A name is one line, or something is below it. -/
theorem takesAll_below : (Expr.rep 0 (some 1) true (together belowPieces).value).TakesAll
    fun piece =>
    piece = [] ∨ ∃ below, piece = '/' :: below ∧ '\n' ∉ below := by
  have below : (together belowPieces).value.TakesAll fun piece =>
      ∃ below, piece = '/' :: below ∧ '\n' ∉ below := by
    intro before piece after
    refine ((Expr.takesAll_single '/').seq (Expr.takesAll_rep_complement '\n' 0 true) _ _ _).trans ?_
    simp
  intro before piece after
  rw [below.rep]
  constructor
  · rintro ⟨rounds, -, most, rfl, all⟩
    match rounds with
    | [] => exact Or.inl rfl
    | [round] => simpa using Or.inr (all round List.mem_cons_self)
    | _ :: _ :: _ => simp at most
  · rintro (rfl | more)
    · exact ⟨[], by simp, by simp, rfl, by simp⟩
    · exact ⟨[piece], by simp, by simp, by simp, by simpa using more⟩

/-- **A name as a pattern.**  Between anchors, and with what may be below it, it can be read, and it
finds something in the paths that are within the name. -/
theorem finds_name_iff (name : List Char) :
    ∃ expr, Regex.parse? {} ('^' :: Regex.escape name ++ "(?:/.*)?$".toList) = some (expr, []) ∧
      ∀ path, expr.Finds path ↔ isWithin name path = true := by
  let tail := '(' :: '?' :: ':' :: (joined belowPieces ++ [')']) ++ ['?']
  let below := Expr.rep 0 (some 1) true (together belowPieces).value
  let parts := namePieces name ++ [(tail, ⟨below, (together belowPieces).nesting + 2⟩)]
  have read : ∀ piece ∈ parts, ReadsAs piece.1 piece.2 := by
    refine List.forall_mem_append.mpr ⟨readsAs_namePieces, List.forall_mem_singleton.mpr ?_⟩
    exact ⟨by simp [tail], fun noMark => (adds_group readsAs_belowPieces).repeated .mark rfl noMark⟩
  have shallow : ∀ piece ∈ parts, piece.2.nesting < nestingLimit := by
    refine List.forall_mem_append.mpr ⟨?_, List.forall_mem_singleton.mpr (by decide)⟩
    intro piece mem
    obtain ⟨c, -, rfl⟩ := List.mem_map.mp mem
    exact Nat.zero_lt_succ _
  have text : '^' :: Regex.escape name ++ "(?:/.*)?$".toList = '^' :: joined parts ++ ['$'] := by
    have last : "(?:/.*)?$".toList = tail ++ ['$'] := by rfl
    rw [last, ← joined_namePieces]
    simp [parts, joined]
  have exprs : parts.map (fun piece => piece.2.value) = name.map Expr.char ++ [below] := by
    simp [parts, namePieces, Expr.char]
  rw [text]
  refine ⟨_, parse?_anchored read shallow, fun path => ?_⟩
  rw [exprs, lookExpr, lookExpr, Expr.finds_anchored_iff, Expr.takes_seqs_append, isWithin_iff]
  constructor
  · rintro ⟨first, last, rfl, names, rest⟩
    obtain rfl := (Expr.takesAll_text name _ _ _).mp names
    obtain rfl | ⟨below, rfl, oneLine⟩ := (takesAll_below _ _ _).mp rest
    · exact Or.inl (List.append_nil _)
    · exact Or.inr ⟨below, rfl, oneLine⟩
  · rintro (rfl | ⟨below, rfl, oneLine⟩)
    · refine ⟨path, [], (List.append_nil _).symm, (Expr.takesAll_text _ _ _ _).mpr rfl, ?_⟩
      exact (takesAll_below _ _ _).mpr (Or.inl rfl)
    · refine ⟨name, _, rfl, (Expr.takesAll_text _ _ _ _).mpr rfl, ?_⟩
      exact (takesAll_below _ _ _).mpr (Or.inr ⟨below, rfl, oneLine⟩)

end QualityGate.Glob
