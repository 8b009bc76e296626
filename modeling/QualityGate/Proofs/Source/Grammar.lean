import QualityGate.Proofs.Source.Sweep

/-!
# The token grammar

What the pass recognizes is said here by a grammar.  A text is read from left to right as a list of
tokens: comments, literals, and single bytes of code.

* `Begins` says of a text that it begins with a token of some form, and what is left after it.
* `Tokenization` is a reading of a whole text as tokens.
* `kinds_eq_of_tokenization` says that every text has exactly one such reading, and that the pass
  gives every byte the kind of the token that it belongs to.

### What is load-bearing

A token of the grammar is as long as the pass stays in the mode that the token opens
(`Begins.firstToken_eq`).  So the grammar has a first token for every text that is not empty, and
never a choice.
-/

namespace QualityGate.Source

open QualityGate.Text (Bytes)

/-! ### Tokens -/

/-- The forms of tokens. -/
inductive Form where
  | lineComment
  | blockComment
  /-- A string between single or double quotes. -/
  | string
  /-- A template literal, between backticks. -/
  | template
  /-- A single byte of code. -/
  | code
  deriving DecidableEq, Repr

/-- The kind of the bytes of a token. -/
def Form.kind : Form → Kind
  | .lineComment | .blockComment => .comment
  | .string | .template => .literal
  | .code => .code

/-- The form of the literals with this quote. -/
def Form.ofQuote (quote : UInt8) : Form := if quote = 0x60 then .template else .string

/-- The bytes `*/`. -/
def close : Bytes := [star, slash]

/-- What may stand between the quotes of a literal: a backslash takes the byte after it along,
whatever it is, and the quote stands only there. -/
inductive Inner (quote : UInt8) : Bytes → Prop where
  | nil : Inner quote []
  | plain {b : UInt8} {rest : Bytes} (other : b ≠ quote) (unescaped : b ≠ backslash)
      (later : Inner quote rest) : Inner quote (b :: rest)
  | escaped {b : UInt8} {rest : Bytes} (later : Inner quote rest) :
      Inner quote (backslash :: b :: rest)

/-- `Begins form token rest`: the text `token ++ rest` begins with this token. -/
inductive Begins : Form → Bytes → Bytes → Prop where
  /-- From `//` to the next line break, which is not part of it, or to the end. -/
  | lineComment {body rest : Bytes} (oneLine : newline ∉ body)
      (ends : rest = [] ∨ rest.head? = some newline) :
      Begins .lineComment (slash :: slash :: body) rest
  /-- From `/*` through the first `*/` after it. -/
  | blockComment {body rest : Bytes} (first : ¬ close <:+: body) :
      Begins .blockComment (slash :: star :: (body ++ close)) rest
  /-- From `/*` to the end when there is no `*/`. -/
  | openComment {body : Bytes} (unclosed : ¬ close <:+: body) :
      Begins .blockComment (slash :: star :: body) []
  /-- From a quote through the same quote. -/
  | literal {quote : UInt8} {body rest : Bytes} (opens : isQuote quote = true)
      (inner : Inner quote body) : Begins (.ofQuote quote) (quote :: (body ++ [quote])) rest
  /-- From a quote to the end when the same quote does not come again. -/
  | openLiteral {quote : UInt8} {body : Bytes} (opens : isQuote quote = true)
      (inner : Inner quote body) : Begins (.ofQuote quote) (quote :: body) []
  /-- The same when a backslash is the last byte of the text. -/
  | openEscape {quote : UInt8} {body : Bytes} (opens : isQuote quote = true)
      (inner : Inner quote body) : Begins (.ofQuote quote) (quote :: (body ++ [backslash])) []
  /-- Any other byte. -/
  | code {b : UInt8} {rest : Bytes} (noQuote : isQuote b = false)
      (noComment : b = slash → rest.head? ≠ some slash ∧ rest.head? ≠ some star) :
      Begins .code [b] rest

/-- A token of a text. -/
structure Token where
  form : Form
  text : Bytes
  deriving DecidableEq, Repr

/-- The kinds of the bytes of a token. -/
def Token.kinds (token : Token) : List Kind := List.replicate token.text.length token.form.kind

/-- A reading of a text as tokens, from left to right. -/
inductive Tokenization : Bytes → List Token → Prop where
  | done : Tokenization [] []
  | token {form : Form} {text rest : Bytes} {tokens : List Token} (begins : Begins form text rest)
      (later : Tokenization rest tokens) : Tokenization (text ++ rest) (⟨form, text⟩ :: tokens)

/-! ### Every text begins with a token -/

theorem exists_line (bytes : Bytes) :
    ∃ body rest, bytes = body ++ rest ∧ newline ∉ body ∧
      (rest = [] ∨ rest.head? = some newline) := by
  induction bytes with
  | nil => exact ⟨[], [], rfl, List.not_mem_nil, Or.inl rfl⟩
  | cons a bytes ih =>
    by_cases ends : a = newline
    · exact ⟨[], a :: bytes, rfl, List.not_mem_nil, Or.inr (congrArg some ends)⟩
    · obtain ⟨body, rest, rfl, oneLine, last⟩ := ih
      refine ⟨a :: body, rest, rfl, ?_, last⟩
      rw [List.mem_cons, not_or]
      exact ⟨Ne.symm ends, oneLine⟩

/-- The rest of a block comment ends with its first `*/`, or with the text. -/
theorem exists_close_or_open (bytes : Bytes) :
    (∃ body rest, bytes = body ++ close ++ rest ∧ ¬ close <:+: body) ∨ ¬ close <:+: bytes := by
  induction bytes with
  | nil => exact Or.inr (by simp [close])
  | cons a bytes ih =>
    by_cases closes : close <+: a :: bytes
    · obtain ⟨rest, whole⟩ := closes
      exact Or.inl ⟨[], rest, whole.symm, by simp [close]⟩
    · rcases ih with ⟨body, rest, rfl, free⟩ | free
      · refine Or.inl ⟨a :: body, rest, rfl, fun inside => ?_⟩
        rcases List.infix_cons_iff.mp inside with first | later
        · exact closes (first.trans ⟨close ++ rest, by simp⟩)
        · exact free later
      · refine Or.inr fun inside => ?_
        rcases List.infix_cons_iff.mp inside with first | later
        · exact closes first
        · exact free later

/-- The rest of a literal ends with its quote, with the text, or with a backslash at its end. -/
theorem exists_inner (quote : UInt8) (bytes : Bytes) :
    ∃ body, Inner quote body ∧
      ((∃ rest, bytes = body ++ [quote] ++ rest) ∨ bytes = body ∨ bytes = body ++ [backslash]) := by
  match bytes with
  | [] => exact ⟨[], .nil, Or.inr (Or.inl rfl)⟩
  | a :: bytes =>
    by_cases ends : a = quote
    · exact ⟨[], .nil, Or.inl ⟨bytes, by rw [ends]; rfl⟩⟩
    by_cases escapes : a = backslash
    · match bytes with
      | [] => exact ⟨[], .nil, Or.inr (Or.inr (by rw [escapes]; rfl))⟩
      | b :: bytes =>
        obtain ⟨body, inner, last⟩ := exists_inner quote bytes
        refine ⟨backslash :: b :: body, .escaped inner, ?_⟩
        simpa [escapes] using last
    · obtain ⟨body, inner, last⟩ := exists_inner quote bytes
      refine ⟨a :: body, .plain ends escapes inner, ?_⟩
      simpa using last
termination_by bytes.length

theorem exists_begins {bytes : Bytes} (nonempty : bytes ≠ []) :
    ∃ form text rest, bytes = text ++ rest ∧ Begins form text rest := by
  obtain ⟨a, bytes, rfl⟩ := List.exists_cons_of_ne_nil nonempty
  by_cases opens : isQuote a = true
  · obtain ⟨body, inner, ⟨rest, rfl⟩ | rfl | rfl⟩ := exists_inner a bytes
    · exact ⟨_, _, rest, by simp, .literal opens inner⟩
    · exact ⟨_, _, [], by simp, .openLiteral opens inner⟩
    · exact ⟨_, _, [], by simp, .openEscape opens inner⟩
  by_cases line : a = slash ∧ bytes.head? = some slash
  · obtain ⟨rfl, second⟩ := line
    obtain ⟨rest, rfl⟩ := List.head?_eq_some_iff.mp second
    obtain ⟨body, rest, rfl, oneLine, ends⟩ := exists_line rest
    exact ⟨_, _, rest, by simp, .lineComment oneLine ends⟩
  by_cases block : a = slash ∧ bytes.head? = some star
  · obtain ⟨rfl, second⟩ := block
    obtain ⟨rest, rfl⟩ := List.head?_eq_some_iff.mp second
    rcases exists_close_or_open rest with ⟨body, rest, rfl, free⟩ | free
    · exact ⟨_, _, rest, by simp, .blockComment free⟩
    · exact ⟨_, _, [], by simp, .openComment free⟩
  · refine ⟨_, [a], bytes, rfl, .code (Bool.eq_false_iff.mpr opens) fun first => ?_⟩
    exact ⟨fun second => line ⟨first, second⟩, fun second => block ⟨first, second⟩⟩

/-! ### The length of tokens -/

theorem stay_lineComment {body rest : Bytes} (oneLine : newline ∉ body)
    (ends : rest = [] ∨ rest.head? = some newline) :
    stay .lineComment (body ++ rest) = body.length := by
  induction body with
  | nil =>
    rcases ends with rfl | ends
    · rfl
    · obtain ⟨later, rfl⟩ := List.head?_eq_some_iff.mp ends
      rfl
  | cons a body ih =>
    rw [List.mem_cons, not_or] at oneLine
    rw [List.cons_append, stay, if_neg (Ne.symm oneLine.1), ih oneLine.2]
    rfl

/-- A comment goes on with a byte at which no `*/` begins. -/
theorem stay_blockComment_cons {a : UInt8} {rest : Bytes} (free : ¬ close <+: a :: rest) :
    stay .blockComment (a :: rest) = stay .blockComment rest + 1 := by
  cases rest with
  | nil => rfl
  | cons b rest =>
    rw [stay, if_neg]
    rintro ⟨rfl, rfl⟩
    exact free ⟨rest, rfl⟩

theorem stay_blockComment_of_close {body : Bytes} (rest : Bytes) (free : ¬ close <:+: body) :
    stay .blockComment (body ++ close ++ rest) = body.length + 2 := by
  induction body with
  | nil => rfl
  | cons a body ih =>
    rw [List.infix_cons_iff, not_or] at free
    rw [List.cons_append, List.cons_append, stay_blockComment_cons, ih free.2]
    · rfl
    -- The last byte of the body and the star of the first `*/` are no `*/`.
    · rintro ⟨later, whole⟩
      cases body with
      | nil => cases whole
      | cons b body => exact free.1 ⟨body, by simp_all [close]⟩

theorem stay_blockComment_of_open {body : Bytes} (free : ¬ close <:+: body) :
    stay .blockComment body = body.length := by
  induction body with
  | nil => rfl
  | cons a body ih =>
    rw [List.infix_cons_iff, not_or] at free
    rw [stay_blockComment_cons free.1, ih free.2, List.length_cons]

/-- A literal goes on with a byte that is no quote and no backslash. -/
theorem stay_quoted_cons {quote a : UInt8} {rest : Bytes} (other : a ≠ quote)
    (unescaped : a ≠ backslash) :
    stay (.quoted quote) (a :: rest) = stay (.quoted quote) rest + 1 := by
  cases rest with
  | nil => rfl
  | cons b rest => rw [stay, if_neg unescaped, if_neg other]

/-- What stands between quotes is gone through. -/
theorem stay_quoted_append {quote : UInt8} {body : Bytes} (inner : Inner quote body)
    (rest : Bytes) :
    stay (.quoted quote) (body ++ rest) = body.length + stay (.quoted quote) rest := by
  induction inner with
  | nil => rw [List.nil_append, List.length_nil, Nat.zero_add]
  | plain other unescaped later ih =>
    rw [List.cons_append, stay_quoted_cons other unescaped, ih, List.length_cons]
    omega
  | escaped later ih =>
    rw [List.cons_append, List.cons_append, stay, if_pos rfl, ih, List.length_cons,
      List.length_cons]
    omega

theorem ne_backslash_of_isQuote {quote : UInt8} (opens : isQuote quote = true) :
    quote ≠ backslash := by
  rintro rfl
  cases opens

theorem stay_quoted_quote {quote : UInt8} (opens : isQuote quote = true) (rest : Bytes) :
    stay (.quoted quote) (quote :: rest) = 1 := by
  cases rest with
  | nil => rfl
  | cons b rest => rw [stay, if_neg (ne_backslash_of_isQuote opens), if_pos rfl]

/-! ### The first token -/

/-- The form and the length of the first token of a text, as the pass reads it. -/
def firstToken : Bytes → Form × Nat
  | [] => (.code, 0)
  | [a] => if isQuote a then (.ofQuote a, 1) else (.code, 1)
  | a :: b :: rest =>
    if a = slash ∧ b = slash then (.lineComment, stay .lineComment rest + 2)
    else if a = slash ∧ b = star then (.blockComment, stay .blockComment rest + 2)
    else if isQuote a then (.ofQuote a, stay (.quoted a) (b :: rest) + 1)
    else (.code, 1)

theorem firstToken_of_isQuote {quote : UInt8} (opens : isQuote quote = true) (rest : Bytes) :
    firstToken (quote :: rest) = (.ofQuote quote, stay (.quoted quote) rest + 1) := by
  have noSlash : quote ≠ slash := by
    rintro rfl
    cases opens
  cases rest with
  | nil => rw [firstToken, if_pos opens, stay_nil]
  | cons b rest =>
    rw [firstToken, if_neg fun both => noSlash both.1, if_neg fun both => noSlash both.1,
      if_pos opens]

/-- The tokens of the grammar are those that the pass reads. -/
theorem Begins.firstToken_eq {form : Form} {text rest : Bytes} (begins : Begins form text rest) :
    firstToken (text ++ rest) = (form, text.length) := by
  cases begins with
  | lineComment oneLine ends =>
    rw [List.cons_append, List.cons_append, firstToken, if_pos ⟨rfl, rfl⟩,
      stay_lineComment oneLine ends]
    rfl
  | blockComment first =>
    rw [List.cons_append, List.cons_append, firstToken, if_neg (by decide), if_pos ⟨rfl, rfl⟩,
      stay_blockComment_of_close rest first]
    simp [close]
  | openComment unclosed =>
    rw [List.append_nil, firstToken, if_neg (by decide), if_pos ⟨rfl, rfl⟩,
      stay_blockComment_of_open unclosed]
    rfl
  | literal opens inner =>
    rw [List.cons_append, firstToken_of_isQuote opens, List.append_assoc,
      stay_quoted_append inner, List.singleton_append, stay_quoted_quote opens]
    simp
  | openLiteral opens inner =>
    have whole := stay_quoted_append inner []
    rw [List.append_nil, stay_nil] at whole
    rw [List.append_nil, firstToken_of_isQuote opens, whole]
    rfl
  | openEscape opens inner =>
    rw [List.append_nil, firstToken_of_isQuote opens, stay_quoted_append inner]
    simp [stay]
  | code noQuote noComment =>
    cases rest with
    | nil => simp [firstToken, noQuote]
    | cons c rest =>
      simp only [List.head?_cons, ne_eq, Option.some.injEq] at noComment
      rw [List.singleton_append, firstToken, if_neg fun both => (noComment both.1).1 both.2,
        if_neg fun both => (noComment both.1).2 both.2, if_neg (by simp [noQuote])]
      rfl

theorem Form.kind_ofQuote (quote : UInt8) : (Form.ofQuote quote).kind = .literal := by
  unfold Form.ofQuote
  split <;> rfl

/-- The bytes of the first token have its kind, and what follows is read as code. -/
theorem kindsFrom_normal_eq (bytes : Bytes) :
    kindsFrom .normal bytes = List.replicate (firstToken bytes).2 (firstToken bytes).1.kind
      ++ kindsFrom .normal (bytes.drop (firstToken bytes).2) := by
  match bytes with
  | [] => rfl
  | [a] =>
    rw [firstToken, kindsFrom]
    split
    · rw [Form.kind_ofQuote]
      rfl
    · rfl
  | a :: b :: rest =>
    rw [firstToken, kindsFrom]
    split
    · rw [kindsFrom_eq_replicate_append .lineComment]
      rfl
    split
    · rw [kindsFrom_eq_replicate_append .blockComment]
      rfl
    split
    · rw [kindsFrom_eq_replicate_append (.quoted a), Form.kind_ofQuote]
      rfl
    · rfl

/-! ### Tokenizations -/

theorem Begins.ne_nil {form : Form} {text rest : Bytes} (begins : Begins form text rest) :
    text ≠ [] := by
  cases begins <;> simp

theorem exists_tokenization (bytes : Bytes) : ∃ tokens, Tokenization bytes tokens := by
  by_cases empty : bytes = []
  · exact ⟨[], empty ▸ .done⟩
  · obtain ⟨form, text, rest, whole, begins⟩ := exists_begins empty
    have shorter : rest.length < bytes.length := by
      have token := List.length_pos_iff.mpr begins.ne_nil
      rw [whole, List.length_append]
      omega
    obtain ⟨tokens, later⟩ := exists_tokenization rest
    exact ⟨⟨form, text⟩ :: tokens, whole ▸ .token begins later⟩
termination_by bytes.length

/-- The first token leaves no choice, and neither does what it leaves over. -/
theorem Tokenization.unique {bytes : Bytes} {tokens others : List Token}
    (reading : Tokenization bytes tokens) (other : Tokenization bytes others) :
    tokens = others := by
  induction reading generalizing others with
  | done =>
    generalize empty : ([] : Bytes) = bytes at other
    cases other with
    | done => rfl
    | token begins later => exact absurd (List.append_eq_nil_iff.mp empty.symm).1 begins.ne_nil
  | @token form text rest tokens begins later ih =>
    generalize same : text ++ rest = bytes at other
    cases other with
    | done => exact absurd (List.append_eq_nil_iff.mp same).1 begins.ne_nil
    | @token form' text' rest' tokens' begins' later' =>
      have first := begins.firstToken_eq
      rw [same, begins'.firstToken_eq] at first
      obtain ⟨rfl, length⟩ := Prod.mk.inj first
      obtain ⟨rfl, rfl⟩ := List.append_inj same length.symm
      rw [ih later']

theorem Tokenization.kindsFrom_eq {bytes : Bytes} {tokens : List Token}
    (reading : Tokenization bytes tokens) :
    kindsFrom .normal bytes = tokens.flatMap Token.kinds := by
  induction reading with
  | done => rfl
  | token begins later ih =>
    rw [kindsFrom_normal_eq, begins.firstToken_eq, List.drop_left, ih, List.flatMap_cons]
    rfl

/-- **The pass implements the token grammar.**  Every text has exactly one reading as tokens, and
every byte has the kind of its token.  The pass in place, which skips a block comment as a whole,
uses no place outside of the text and agrees with the reading byte by byte. -/
theorem kinds_eq_of_tokenization (bytes : Bytes) :
    (∃ tokens, (∀ reading, Tokenization bytes reading ↔ reading = tokens) ∧
        kinds bytes = tokens.flatMap Token.kinds) ∧
      sweep? bytes.toArray .normal 0 (Array.replicate bytes.length .code)
        = some (kinds bytes).toArray ∧
      kinds bytes = kindsFrom .normal bytes := by
  obtain ⟨tokens, reading⟩ := exists_tokenization bytes
  refine ⟨⟨tokens, fun other => ⟨fun another => another.unique reading, ?_⟩, ?_⟩, ?_,
    kinds_eq_kindsFrom bytes⟩
  · rintro rfl
    exact reading
  · rw [kinds_eq_kindsFrom, reading.kindsFrom_eq]
  · rw [kinds_eq_kindsFrom, sweep?_eq_some]

/-- The star of `/*` does not close the comment. -/
example : kinds [slash, star, slash, newline] = List.replicate 4 .comment := by
  rw [kinds_eq_kindsFrom]
  decide

end QualityGate.Source
