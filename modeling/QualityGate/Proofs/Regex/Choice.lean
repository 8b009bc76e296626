import QualityGate.Proofs.Regex.Preference

/-!
# Ordered choice

What an expression without repetitions takes, in the order in which it is tried: the first
alternative before the second, and all that can follow one attempt before the next attempt.

* `Expr.attempts` – the ways in which an expression can match at a place, the preferred ones first.
* `Expr.compile_spec` – compiled code tries exactly these ways, in this order.
* `Expr.search_program` – a search finds the first attempt at the leftmost place at which there is
  one.

### What is load-bearing

Code is built from its end, and an instruction is never changed once it is there: what can be
completed from an instruction stays the same when more instructions are added (`Code.Extends`).
That is why an expression can be understood by itself, whatever follows it.
-/

namespace QualityGate.Regex

/-! ### Attempts -/

/-- How far an attempt to match has got, and the positions that it remembers. -/
structure Attempt where
  place : Place
  slots : Slots

/-- The attempt with its position remembered. -/
def Attempt.remember (slot : Nat) (attempt : Attempt) : Attempt :=
  { attempt with slots := attempt.slots.setIfInBounds slot (some attempt.place.position) }

namespace Expr

/-- No repetition occurs. -/
def IsLoopless : Expr → Prop
  | .empty | .set _ | .look _ _ => True
  | .group _ body => body.IsLoopless
  | .seq a b | .alt a b => a.IsLoopless ∧ b.IsLoopless
  | .rep _ _ _ _ => False

/-- The ways in which an expression can go on with an attempt, the preferred ones first.  Only
expressions without repetitions are looked at. -/
def attempts : Expr → Attempt → List Attempt
  | .empty, attempt => [attempt]
  | .set chars, attempt =>
    match attempt.place.rest with
    | c :: rest =>
      if chars.contains c then [⟨⟨some c, attempt.place.position + 1, rest⟩, attempt.slots⟩] else []
    | [] => []
  | .look kind word, attempt =>
    if kind.holds word attempt.place.before attempt.place.rest.head? then [attempt] else []
  | .group index body, attempt =>
    (body.attempts (attempt.remember (2 * index))).map (Attempt.remember (2 * index + 1))
  | .seq a b, attempt => (a.attempts attempt).flatMap b.attempts
  | .alt a b, attempt => a.attempts attempt ++ b.attempts attempt
  | .rep _ _ _ _, _ => []

/-- A sequence goes on with every attempt in turn. -/
theorem attempts_seqs_cons (e : Expr) (es : List Expr) (attempt : Attempt) :
    (seqs (e :: es)).attempts attempt = (e.attempts attempt).flatMap (seqs es).attempts := by
  cases es with
  | nil => exact (List.flatMap_singleton' _).symm
  | cons _ _ => rfl

/-- Alternatives are tried one after the other. -/
theorem attempts_alts (es : List Expr) (attempt : Attempt) :
    (alts es).attempts attempt = es.flatMap fun e => e.attempts attempt := by
  induction es with
  | nil =>
    rw [alts, attempts]
    split <;> rfl
  | cons e es ih =>
    rw [List.flatMap_cons, ← ih]
    cases es with
    | nil =>
      rw [ih, List.flatMap_nil, List.append_nil]
      rfl
    | cons _ _ => rfl

theorem isLoopless_seqs {es : List Expr} (loopless : ∀ e ∈ es, e.IsLoopless) :
    (seqs es).IsLoopless := by
  induction es with
  | nil => trivial
  | cons e es ih =>
    obtain ⟨first, others⟩ := List.forall_mem_cons.mp loopless
    cases es with
    | nil => exact first
    | cons _ _ => exact ⟨first, ih others⟩

theorem isLoopless_alts {es : List Expr} (loopless : ∀ e ∈ es, e.IsLoopless) :
    (alts es).IsLoopless := by
  induction es with
  | nil => trivial
  | cons e es ih =>
    obtain ⟨first, others⟩ := List.forall_mem_cons.mp loopless
    cases es with
    | nil => exact first
    | cons _ _ => exact ⟨first, ih others⟩

end Expr

/-! ### Code that is added to -/

/-- More instructions have been added to code. -/
structure Code.Extends (later code : Code) : Prop where
  size : code.size ≤ later.size
  same : ∀ pc < code.size, later.getD pc .accept = code.getD pc .accept

theorem Code.Extends.refl (code : Code) : Code.Extends code code :=
  ⟨Nat.le_refl _, fun _ _ => rfl⟩

theorem Code.Extends.trans {last later code : Code} (second : Code.Extends last later)
    (first : Code.Extends later code) : Code.Extends last code where
  size := Nat.le_trans first.size second.size
  same pc inside :=
    (second.same pc (Nat.lt_of_lt_of_le inside first.size)).trans (first.same pc inside)

/-- What completes the match of an attempt first. -/
def completed? (code : Code) (pc : Nat) (attempt : Attempt) : Option Slots :=
  preferred? code pc attempt.place attempt.slots

/-- What can be completed from an instruction stays the same when instructions are added. -/
theorem Code.Extends.completed?_eq {later code : Code} (extends' : Code.Extends later code)
    {pc : Nat} (inside : pc < code.size) : completed? later pc = completed? code pc := by
  suffices same : ∀ place slots, preferred? later pc place slots = preferred? code pc place slots by
    funext attempt
    exact same _ _
  induction pc using Nat.strongRecOn with
  | ind pc ih =>
  intro place slots
  have ih {next : Nat} (earlier : next < pc) (place : Place) (slots : Slots) :
      preferred? later next place slots = preferred? code next place slots :=
    ih next earlier (Nat.lt_trans earlier inside) place slots
  rw [preferred?, preferred?, extends'.same pc inside]
  cases code.getD pc .accept with
  | accept => rfl
  | char chars next =>
    cases place.rest with
    | nil => rfl
    | cons c rest =>
      dsimp only
      split
      · next takes => exact ih takes.1 _ _
      · rfl
  | split first second =>
    dsimp only
    split
    · next earlier => rw [ih earlier.1, ih earlier.2]
    · rfl
  | save slot next =>
    dsimp only
    split
    · next earlier => exact ih earlier _ _
    · rfl
  | look kind word next =>
    dsimp only
    split
    · next holds => exact ih holds.1 _ _
    · rfl

section Push

variable {code : Code} {inst : Inst}

theorem Code.getD_push (code : Code) (inst : Inst) :
    (code.push inst).getD code.size .accept = inst := by
  simp [Array.getD_eq_getD_getElem?]

theorem Code.extends_push (code : Code) (inst : Inst) : Code.Extends (code.push inst) code where
  size := by simp
  same pc inside := by
    rw [Array.getD_eq_getD_getElem?, Array.getD_eq_getD_getElem?,
      Array.getElem?_push_lt inside, Array.getElem?_eq_getElem inside]

theorem Code.Descends.push (descends : code.Descends)
    (earlier : ∀ next ∈ inst.successors, next < code.size) : Code.Descends (code.push inst) := by
  intro pc next mem
  rcases Nat.lt_trichotomy pc code.size with inside | rfl | outside
  · rw [(Code.extends_push code inst).same pc inside] at mem
    exact descends pc next mem
  · rw [Code.getD_push] at mem
    exact earlier next mem
  · rw [Array.getD_eq_getD_getElem?,
      Array.getElem?_eq_none (by rw [Array.size_push]; omega)] at mem
    cases mem

end Push

/-! ### Compiling -/

/-- What is found first among lists that are put together. -/
theorem findSome?_flatMap {α β γ : Type} (items : List α) (list : α → List β) (f : β → Option γ) :
    (items.flatMap list).findSome? f = items.findSome? fun item => (list item).findSome? f := by
  induction items with
  | nil => rfl
  | cons item items ih =>
    rw [List.flatMap_cons, List.findSome?_append, List.findSome?_cons, ih]
    cases (list item).findSome? f <;> rfl

/-- Code in front of an instruction, with its entry: from there it makes attempts in a given order,
and goes on with each of them at the instruction. -/
structure Tries (code : Code) (next : Nat) (attempts : Attempt → List Attempt)
    (piece : Nat × Code) : Prop where
  added : Code.Extends piece.2 code
  descends : piece.2.Descends
  inside : piece.1 < piece.2.size
  tries : ∀ attempt,
    completed? piece.2 piece.1 attempt = (attempts attempt).findSome? (completed? code next)

section Compile

variable {code : Code} {next : Nat}

/-- One instruction in front of another. -/
theorem tries_add {inst : Inst} {attempts : Attempt → List Attempt} (descends : code.Descends)
    (earlier : ∀ next ∈ inst.successors, next < code.size)
    (tries : ∀ attempt, completed? (code.push inst) code.size attempt =
      (attempts attempt).findSome? (completed? code next)) :
    Tries code next attempts (code.add inst) where
  added := Code.extends_push code inst
  descends := descends.push earlier
  inside := by simp [Code.add]
  tries := tries

theorem tries_save (slot : Nat) (descends : code.Descends) (inside : next < code.size) :
    Tries code next (fun attempt => [attempt.remember slot]) (code.add (.save slot next)) := by
  have earlier : ∀ pc ∈ (Inst.save slot next).successors, pc < code.size := by
    simpa [Inst.successors] using inside
  refine tries_add descends earlier fun attempt => ?_
  rw [List.findSome?_singleton, ← (Code.extends_push code (.save slot next)).completed?_eq inside]
  exact preferred?_save (descends.push earlier) (Code.getD_push code _)

theorem tries_char {chars : Unicode.CharSet} (descends : code.Descends)
    (inside : next < code.size) :
    Tries code next (Expr.set chars).attempts (code.add (.char chars next)) := by
  have earlier : ∀ pc ∈ (Inst.char chars next).successors, pc < code.size := by
    simpa [Inst.successors] using inside
  refine tries_add descends earlier fun attempt => ?_
  obtain ⟨⟨before, position, rest⟩, slots⟩ := attempt
  rw [← (Code.extends_push code (.char chars next)).completed?_eq inside, Expr.attempts]
  cases rest with
  | nil => exact preferred?_char_end (Code.getD_push code _) rfl
  | cons c rest =>
    refine (preferred?_char (descends.push earlier) (Code.getD_push code _)).trans ?_
    dsimp only
    split
    · exact List.findSome?_singleton.symm
    · rfl

theorem tries_look {kind : Look} {word : Unicode.CharSet} (descends : code.Descends)
    (inside : next < code.size) :
    Tries code next (Expr.look kind word).attempts (code.add (.look kind word next)) := by
  have earlier : ∀ pc ∈ (Inst.look kind word next).successors, pc < code.size := by
    simpa [Inst.successors] using inside
  refine tries_add descends earlier fun attempt => ?_
  rw [← (Code.extends_push code (.look kind word next)).completed?_eq inside, Expr.attempts]
  refine (preferred?_look (descends.push earlier) (Code.getD_push code _)).trans ?_
  split
  · exact List.findSome?_singleton.symm
  · rfl

/-- One piece of code in front of another. -/
theorem Tries.seq {between : Nat × Code} {piece : Nat × Code}
    {first second : Attempt → List Attempt} (back : Tries code next second between)
    (front : Tries between.2 between.1 first piece) :
    Tries code next (fun attempt => (first attempt).flatMap second) piece where
  added := front.added.trans back.added
  descends := front.descends
  inside := front.inside
  tries attempt := by
    have goOn : completed? between.2 between.1 =
        fun attempt => (second attempt).findSome? (completed? code next) := funext back.tries
    rw [front.tries, goOn, findSome?_flatMap]

/-- A choice between two pieces of code. -/
theorem Tries.alt {between piece : Nat × Code} {first second : Attempt → List Attempt}
    (inside : next < code.size) (back : Tries code next second between)
    (front : Tries between.2 next first piece) :
    Tries code next (fun attempt => first attempt ++ second attempt)
      (piece.2.add (.split piece.1 between.1)) := by
  have earlier : ∀ pc ∈ (Inst.split piece.1 between.1).successors, pc < piece.2.size := by
    have known := Nat.lt_of_lt_of_le back.inside front.added.size
    simpa [Inst.successors] using ⟨front.inside, known⟩
  have added := Code.extends_push piece.2 (.split piece.1 between.1)
  have descends := front.descends.push earlier
  have inside' : piece.2.size < (piece.2.push (.split piece.1 between.1)).size := by simp
  refine ⟨added.trans (front.added.trans back.added), descends, inside', fun attempt => ?_⟩
  calc completed? (piece.2.push (.split piece.1 between.1)) piece.2.size attempt
      = (completed? piece.2 piece.1 attempt).or (completed? piece.2 between.1 attempt) := by
        rw [← added.completed?_eq front.inside,
          ← added.completed?_eq (Nat.lt_of_lt_of_le back.inside front.added.size)]
        exact preferred?_split descends (Code.getD_push _ _)
    _ = ((first attempt).findSome? (completed? code next)).or
          ((second attempt).findSome? (completed? code next)) := by
        rw [front.tries, front.added.completed?_eq back.inside, back.tries,
          back.added.completed?_eq inside]
    _ = _ := List.findSome?_append.symm

end Compile

/-- **Compiled code makes the attempts of the expression**, in their order. -/
theorem Expr.compile_spec {e : Expr} (loopless : e.IsLoopless) {next : Nat} {code : Code}
    (descends : code.Descends) (inside : next < code.size) :
    Tries code next e.attempts (e.compile next code) := by
  induction e generalizing next code with
  | empty =>
    refine ⟨.refl code, descends, inside, fun attempt => ?_⟩
    rw [attempts, List.findSome?_singleton]
    rfl
  | set chars => exact tries_char descends inside
  | look kind word => exact tries_look descends inside
  | group index body ih =>
    have stop := tries_save (2 * index + 1) descends inside
    have inner := ih loopless stop.descends stop.inside
    have start := tries_save (2 * index) inner.descends inner.inside
    have order : (group index body).attempts = fun attempt =>
        [attempt.remember (2 * index)].flatMap fun attempt =>
          (body.attempts attempt).flatMap fun attempt => [attempt.remember (2 * index + 1)] := by
      funext attempt
      rw [attempts, List.flatMap_singleton, List.map_eq_flatMap]
    rw [order]
    exact (stop.seq inner).seq start
  | seq a b iha ihb =>
    have back := ihb loopless.2 descends inside
    exact back.seq (iha loopless.1 back.descends back.inside)
  | alt a b iha ihb =>
    have back := ihb loopless.2 descends inside
    have known := Nat.lt_of_lt_of_le inside back.added.size
    exact back.alt inside (iha loopless.1 back.descends known)
  | rep min max greedy body ih => exact loopless.elim

/-! ### Programs -/

section Programs

variable {e : Expr} (loopless : e.IsLoopless)
include loopless

/-- The code of a program, whose last instruction completes the match. -/
theorem Expr.program_spec :
    Tries #[.accept] 0 (Expr.group 0 e).attempts (e.program.start, e.program.code) := by
  have descends : Code.Descends #[.accept] := by
    intro pc
    cases pc with
    | zero => exact nofun
    | succ pc => exact nofun
  exact compile_spec (e := .group 0 e) loopless descends Nat.one_pos

/-- The match that is preferred at a place is the first attempt. -/
theorem Expr.preferred?_program (place : Place) (slots : Slots) :
    preferred? e.program.code e.program.start place slots =
      ((Expr.group 0 e).attempts ⟨place, slots⟩).head?.map Attempt.slots := by
  have completed : completed? #[.accept] 0 = fun attempt => some attempt.slots := by
    funext attempt
    exact preferred?_accept rfl
  refine ((program_spec loopless).tries ⟨place, slots⟩).trans ?_
  rw [completed]
  cases (Expr.group 0 e).attempts ⟨place, slots⟩ with
  | nil => rfl
  | cons attempt attempts => rfl

/-- **What a search for an expression without repetitions finds**: the first attempt at the leftmost
place at which there is one. -/
theorem Expr.search_program (place : Place) :
    e.program.search place = e.program.leftmost? place.before place.position place.rest :=
  Program.search_eq_leftmost? (program_spec loopless).descends (program_spec loopless).inside place

end Programs

end QualityGate.Regex
