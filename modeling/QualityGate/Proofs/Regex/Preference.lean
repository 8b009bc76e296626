import Mathlib.Data.List.Count
import QualityGate.Regex.Search

/-!
# What a search prefers

In a program without loops the ways from an instruction can be tried one after the other, and the
first that completes a match is the preferred one (`preferred?`).  A search that follows all ways at
once finds the same.

* `Code.Descends` – every instruction leads to earlier ones only, so there is no loop.
* `Program.leftmost?` – the preferred match at the first place at which there is one.
* `Program.search_eq_leftmost?` – this is what a search finds.

### What is load-bearing

An instruction is followed once at a place.  Nothing is lost: when an instruction that could
complete a match has been reached, then a thread that is preferred to any later way through it can
complete one as well, or such a thread is still to come before that way (`Pending`).  Such a later
way is not among the successors of the instruction, because there are no loops.
-/

namespace QualityGate.Regex

/-! ### Programs without loops -/

/-- The instructions that an instruction leads to. -/
def Inst.successors : Inst → List Nat
  | .accept => []
  | .char _ next | .save _ next | .look _ _ next => [next]
  | .split first second => [first, second]

/-- Every instruction leads to earlier ones. -/
def Code.Descends (code : Code) : Prop :=
  ∀ pc, ∀ next ∈ (code.getD pc .accept).successors, next < pc

/-- What trying the ways from an instruction in their order finds first: the positions that are
remembered when a match is complete.  An instruction that does not lead to an earlier one leads
nowhere. -/
def preferred? (code : Code) (pc : Nat) (place : Place) (slots : Slots) : Option Slots :=
  match code.getD pc .accept with
  | .accept => some slots
  | .char chars next =>
    match place.rest with
    | c :: rest =>
      if _ : next < pc ∧ chars.contains c then
        preferred? code next ⟨some c, place.position + 1, rest⟩ slots
      else none
    | [] => none
  | .split first second =>
    if _ : first < pc ∧ second < pc then
      (preferred? code first place slots).or (preferred? code second place slots)
    else none
  | .save slot next =>
    if _ : next < pc then
      preferred? code next place (slots.setIfInBounds slot (some place.position))
    else none
  | .look kind word next =>
    if _ : next < pc ∧ kind.holds word place.before place.rest.head? then
      preferred? code next place slots
    else none
termination_by pc
decreasing_by all_goals omega

section Steps

variable {code : Code} {pc : Nat} {place : Place} {slots : Slots}

theorem preferred?_accept (here : code.getD pc .accept = .accept) :
    preferred? code pc place slots = some slots := by
  rw [preferred?, here]

theorem preferred?_split (descends : code.Descends) {first second : Nat}
    (here : code.getD pc .accept = .split first second) :
    preferred? code pc place slots =
      (preferred? code first place slots).or (preferred? code second place slots) := by
  have earlier := descends pc
  rw [here] at earlier
  rw [preferred?, here]
  have both : first < pc ∧ second < pc := by simpa [Inst.successors] using earlier
  exact dif_pos both

theorem preferred?_save (descends : code.Descends) {slot next : Nat}
    (here : code.getD pc .accept = .save slot next) :
    preferred? code pc place slots =
      preferred? code next place (slots.setIfInBounds slot (some place.position)) := by
  have earlier := descends pc
  rw [here] at earlier
  rw [preferred?, here]
  exact dif_pos (earlier next (by simp [Inst.successors]))

theorem preferred?_look (descends : code.Descends) {kind : Look} {word : Unicode.CharSet}
    {next : Nat} (here : code.getD pc .accept = .look kind word next) :
    preferred? code pc place slots =
      if kind.holds word place.before place.rest.head? then preferred? code next place slots
      else none := by
  have earlier := descends pc next
  rw [here] at earlier
  rw [preferred?, here]
  simp [earlier (by simp [Inst.successors])]

theorem preferred?_char (descends : code.Descends) {chars : Unicode.CharSet} {next : Nat}
    (here : code.getD pc .accept = .char chars next) {before : Option Char} {position : Nat}
    {c : Char} {rest : List Char} :
    preferred? code pc ⟨before, position, c :: rest⟩ slots =
      if chars.contains c then preferred? code next ⟨some c, position + 1, rest⟩ slots
      else none := by
  have earlier := descends pc next
  rw [here] at earlier
  rw [preferred?, here]
  simp [earlier (by simp [Inst.successors])]

theorem preferred?_char_end {chars : Unicode.CharSet} {next : Nat}
    (here : code.getD pc .accept = .char chars next) (ends : place.rest = []) :
    preferred? code pc place slots = none := by
  rw [preferred?, here]
  simp [ends]

/-- Whether a match can be completed does not depend on the positions that are remembered. -/
theorem isSome_preferred? (code : Code) (pc : Nat) (place : Place) (slots other : Slots) :
    (preferred? code pc place slots).isSome = (preferred? code pc place other).isSome := by
  induction pc using Nat.strongRecOn generalizing place slots other with
  | ind pc ih =>
  rw [preferred?, preferred?]
  cases code.getD pc .accept with
  | accept => rfl
  | char chars next =>
    cases place.rest with
    | nil => rfl
    | cons c rest =>
      dsimp only
      split
      · next takes => exact ih next takes.1 _ _ _
      · rfl
  | split first second =>
    dsimp only
    split
    · next earlier =>
      rw [Option.isSome_or, Option.isSome_or, ih first earlier.1 _ _ other,
        ih second earlier.2 _ _ other]
    · rfl
  | save slot next =>
    dsimp only
    split
    · next earlier => exact ih next earlier _ _ _
    · rfl
  | look kind word next =>
    dsimp only
    split
    · next holds => exact ih next holds.1 _ _ _
    · rfl

end Steps

/-- The first match that threads find, the preferred threads first. -/
def best? (code : Code) (place : Place) (threads : List Thread) : Option Slots :=
  threads.findSome? fun thread => preferred? code thread.pc place thread.slots

@[simp] theorem best?_nil (code : Code) (place : Place) : best? code place [] = none := rfl

@[simp] theorem best?_cons (code : Code) (place : Place) (thread : Thread) (threads : List Thread) :
    best? code place (thread :: threads) =
      (preferred? code thread.pc place thread.slots).or (best? code place threads) := by
  rw [best?, List.findSome?_cons, best?]
  cases preferred? code thread.pc place thread.slots <;> rfl

@[simp] theorem best?_append (code : Code) (place : Place) (front back : List Thread) :
    best? code place (front ++ back) = (best? code place front).or (best? code place back) :=
  List.findSome?_append

/-- A match can be completed from an instruction. -/
def Completes (code : Code) (place : Place) (pc : Nat) : Prop :=
  (preferred? code pc place #[]).isSome = true

theorem isSome_preferred?_iff {code : Code} {pc : Nat} {place : Place} {slots : Slots} :
    (preferred? code pc place slots).isSome = true ↔ Completes code place pc := by
  rw [isSome_preferred? code pc place slots #[], Completes]

/-! ### Threads at a place -/

/-- A thread that completes a match is still to be followed, and all threads up to it stand before
an instruction. -/
def Pending (code : Code) (place : Place) (pc : Nat) : List Thread → Prop
  | [] => False
  | thread :: stack =>
    thread.pc < pc ∧ (Completes code place thread.pc ∨ Pending code place pc stack)

theorem Pending.of_append {code : Code} {place : Place} {pc : Nat} {front back : List Thread}
    (earlier : ∀ thread ∈ front, thread.pc < pc)
    (completes : (∃ thread ∈ front, Completes code place thread.pc) ∨
      Pending code place pc back) : Pending code place pc (front ++ back) := by
  induction front with
  | nil => simpa using completes
  | cons thread front ih =>
    obtain ⟨first, others⟩ := List.forall_mem_cons.mp earlier
    refine ⟨first, ?_⟩
    rcases completes with ⟨other, mem, completes⟩ | pending
    · rcases List.mem_cons.mp mem with rfl | later
      · exact Or.inl completes
      · exact Or.inr (ih others (Or.inl ⟨other, later, completes⟩))
    · exact Or.inr (ih others (Or.inr pending))

/-- An instruction takes a character, or completes the match: it is not followed further. -/
def Inst.IsLeaf : Inst → Prop
  | .accept | .char _ _ => True
  | _ => False

/-- Threads have been followed, but for those on the stack.  An instruction that has been reached is
of no more use: if it can complete a match, then so can a thread before it. -/
structure Followed (code : Code) (place : Place) (front : Front) (stack : List Thread) : Prop where
  size : front.reached.size = code.size
  leaf : ∀ thread ∈ front.threads.toList, (code.getD thread.pc .accept).IsLeaf
  known : ∀ thread ∈ stack, thread.pc < code.size
  covered : ∀ pc, front.reached.getD pc true = true → pc < code.size → Completes code place pc →
    (best? code place front.threads.toList).isSome = true ∨ Pending code place pc stack

section Follow

variable {code : Code} {place : Place} {front : Front} {thread : Thread} {kids stack : List Thread}

/-- An instruction is marked. -/
def Front.mark (front : Front) (pc : Nat) : Front :=
  { front with reached := front.reached.setIfInBounds pc true }

theorem getD_mark {pc other : Nat} (marked : (front.mark pc).reached.getD other true = true) :
    other = pc ∨ front.reached.getD other true = true := by
  by_cases same : other = pc
  · exact Or.inl same
  · refine Or.inr ?_
    rw [Front.mark, Array.getD_eq_getD_getElem?,
      Array.getElem?_setIfInBounds_ne (Ne.symm same)] at marked
    rwa [Array.getD_eq_getD_getElem?]

/-- A thread at an instruction that has been reached is of no use. -/
theorem Followed.covered_of_reached (followed : Followed code place front (thread :: stack))
    (reached : front.reached.getD thread.pc true = true)
    (completes : Completes code place thread.pc) :
    (best? code place front.threads.toList).isSome = true := by
  have inside := followed.known thread List.mem_cons_self
  rcases followed.covered thread.pc reached inside completes with found | pending
  · exact found
  · exact absurd pending.1 (Nat.lt_irrefl _)

theorem Followed.drop (followed : Followed code place front (thread :: stack))
    (reached : front.reached.getD thread.pc true = true) : Followed code place front stack where
  size := followed.size
  leaf := followed.leaf
  known := (List.forall_mem_cons.mp followed.known).2
  covered pc marked inside completes := by
    rcases followed.covered pc marked inside completes with found | ⟨-, here | later⟩
    · exact Or.inl found
    · exact Or.inl (followed.covered_of_reached reached here)
    · exact Or.inr later

/-- A thread is replaced by those that its instruction leads to. -/
theorem Followed.replace (followed : Followed code place front (thread :: stack))
    (earlier : ∀ kid ∈ kids, kid.pc < thread.pc)
    (completes : Completes code place thread.pc → ∃ kid ∈ kids, Completes code place kid.pc) :
    Followed code place (front.mark thread.pc) (kids ++ stack) where
  size := by rw [Front.mark, Array.size_setIfInBounds, followed.size]
  leaf := followed.leaf
  known := by
    obtain ⟨inside, known⟩ := List.forall_mem_cons.mp followed.known
    intro kid mem
    rcases List.mem_append.mp mem with here | later
    · exact Nat.lt_trans (earlier kid here) inside
    · exact known kid later
  covered pc marked inside able := by
    rcases getD_mark marked with rfl | marked
    · exact Or.inr (.of_append earlier (Or.inl (completes able)))
    · rcases followed.covered pc marked inside able with found | ⟨before, rest⟩
      · exact Or.inl found
      · exact Or.inr (.of_append (fun kid mem => Nat.lt_trans (earlier kid mem) before)
          (rest.imp completes id))

/-- A thread that is not followed further is put among the threads of the place. -/
theorem Followed.push (followed : Followed code place front (thread :: stack))
    (leaf : (code.getD thread.pc .accept).IsLeaf) :
    Followed code place { front.mark thread.pc with threads := front.threads.push thread }
      stack where
  size := by
    show (front.mark thread.pc).reached.size = _
    rw [Front.mark, Array.size_setIfInBounds, followed.size]
  leaf := by
    intro other mem
    rw [Array.toList_push, List.mem_append, List.mem_singleton] at mem
    rcases mem with known | rfl
    · exact followed.leaf other known
    · exact leaf
  known := (List.forall_mem_cons.mp followed.known).2
  covered pc marked inside able := by
    have pushed : best? code place (front.threads.push thread).toList =
        (best? code place front.threads.toList).or
          (preferred? code thread.pc place thread.slots) := by
      rw [Array.toList_push, best?_append, best?_cons, best?_nil, Option.or_none]
    rw [pushed, Option.isSome_or, Bool.or_eq_true]
    rcases getD_mark marked with rfl | marked
    · exact Or.inl (Or.inr (isSome_preferred?_iff.mpr able))
    · rcases followed.covered pc marked inside able with found | ⟨-, here | later⟩
      · exact Or.inl (Or.inl found)
      · exact Or.inl (Or.inr (isSome_preferred?_iff.mpr here))
      · exact Or.inr later

/-- The number of instructions that have not been reached. -/
def Front.unreached (front : Front) : Nat := front.reached.toList.count false

theorem unreached_mark {pc : Nat} (fresh : front.reached.getD pc true = false) :
    (front.mark pc).unreached + 1 = front.unreached := by
  rw [Array.getD_eq_getD_getElem?] at fresh
  obtain ⟨here, found⟩ : ∃ inside : pc < front.reached.size, front.reached[pc] = false := by
    cases found : front.reached[pc]? with
    | none =>
      rw [found] at fresh
      cases fresh
    | some mark =>
      rw [found] at fresh
      obtain ⟨inside, same⟩ := Array.getElem?_eq_some_iff.mp found
      exact ⟨inside, same.trans fresh⟩
  have counted : 0 < front.reached.toList.count false :=
    List.count_pos_iff.mpr (found ▸ Array.getElem_mem_toList here)
  rw [Front.unreached, Front.unreached, Front.mark, Array.toList_setIfInBounds,
    List.count_set (by simpa using here), Array.getElem_toList, found,
    if_pos (beq_self_eq_true false), if_neg (by decide : ¬ (true == false) = true)]
  omega

end Follow

section Steps

variable {code : Code} {place : Place} {thread : Thread}

/-- The threads that take the place of one that is followed. -/
def Thread.kids (code : Code) (place : Place) (thread : Thread) : List Thread :=
  match code.getD thread.pc .accept with
  | .accept | .char _ _ => []
  | .split first second => [{ thread with pc := first }, { thread with pc := second }]
  | .save slot next => [⟨next, thread.slots.setIfInBounds slot (some place.position)⟩]
  | .look kind word next =>
    if kind.holds word place.before place.rest.head? then [{ thread with pc := next }] else []

theorem Thread.length_kids_le (code : Code) (place : Place) (thread : Thread) :
    (thread.kids code place).length ≤ 2 := by
  unfold kids
  split
  · exact Nat.zero_le _
  · exact Nat.zero_le _
  · exact Nat.le_refl _
  · exact Nat.le_succ _
  · split
    · exact Nat.le_succ _
    · exact Nat.zero_le _

theorem Thread.pc_lt_of_mem_kids (descends : code.Descends) :
    ∀ kid ∈ thread.kids code place, kid.pc < thread.pc := by
  have earlier := descends thread.pc
  unfold kids
  split
  · exact nofun
  · exact nofun
  · next here =>
    rw [here] at earlier
    simpa [Inst.successors] using earlier
  · next here =>
    rw [here] at earlier
    simpa [Inst.successors] using earlier
  · next here =>
    rw [here] at earlier
    split
    · simpa [Inst.successors] using earlier
    · exact nofun

/-- A thread that is followed finds what the threads find that take its place. -/
theorem Thread.best?_kids (descends : code.Descends) (place : Place)
    (inner : ¬ (code.getD thread.pc .accept).IsLeaf) :
    best? code place (thread.kids code place) = preferred? code thread.pc place thread.slots := by
  unfold kids
  split
  · next here => exact absurd (by rw [here]; trivial) inner
  · next here => exact absurd (by rw [here]; trivial) inner
  · next here => simp [preferred?_split descends here]
  · next here => simp [preferred?_save descends here]
  · next here =>
    rw [preferred?_look descends here]
    split <;> simp

variable {program : Program} {front : Front} {stack : List Thread} {fuel : Nat}

theorem follow_of_reached (reached : front.reached.getD thread.pc true = true) :
    front.follow program place (fuel + 1) (thread :: stack) =
      front.follow program place fuel stack := by
  rw [Front.follow, if_pos reached]

theorem follow_of_leaf (fresh : front.reached.getD thread.pc true ≠ true)
    (leaf : (program.code.getD thread.pc .accept).IsLeaf) :
    front.follow program place (fuel + 1) (thread :: stack) =
      Front.follow program place fuel stack
        { front.mark thread.pc with threads := front.threads.push thread } := by
  rw [Front.follow, if_neg fresh]
  cases here : program.code.getD thread.pc .accept with
  | accept => rfl
  | char chars next => rfl
  | split first second => exact absurd leaf (by rw [here]; exact id)
  | save slot next => exact absurd leaf (by rw [here]; exact id)
  | look kind word next => exact absurd leaf (by rw [here]; exact id)

theorem follow_of_inner (fresh : front.reached.getD thread.pc true ≠ true)
    (inner : ¬ (program.code.getD thread.pc .accept).IsLeaf) :
    front.follow program place (fuel + 1) (thread :: stack) =
      (front.mark thread.pc).follow program place fuel
        (thread.kids program.code place ++ stack) := by
  rw [Front.follow, if_neg fresh, Thread.kids]
  cases here : program.code.getD thread.pc .accept with
  | accept => exact absurd (by rw [here]; trivial) inner
  | char chars next => exact absurd (by rw [here]; trivial) inner
  | split first second => rfl
  | save slot next => rfl
  | look kind word next =>
    dsimp only
    split <;> rfl

end Steps

/-! ### Searching -/

section Search

variable {program : Program} (descends : program.code.Descends)
include descends

/-- **Following threads** adds to those of a place what the threads on the stack lead to, and it
loses no match that is preferred. -/
theorem follow_spec {place : Place} : ∀ (fuel : Nat) (stack : List Thread) (front : Front),
    Followed program.code place front stack → stack.length + 2 * front.unreached ≤ fuel →
      Followed program.code place (front.follow program place fuel stack) [] ∧
        best? program.code place (front.follow program place fuel stack).threads.toList =
          (best? program.code place front.threads.toList).or (best? program.code place stack) := by
  intro fuel
  induction fuel with
  | zero =>
    intro stack front followed enough
    obtain rfl : stack = [] := List.eq_nil_of_length_eq_zero (by omega)
    exact ⟨followed, by rw [Front.follow, best?_nil, Option.or_none]⟩
  | succ fuel ih =>
    intro stack front followed enough
    cases stack with
    | nil =>
      have stops : front.follow program place (fuel + 1) [] = front := by simp [Front.follow]
      exact ⟨stops.symm ▸ followed, by rw [stops, best?_nil, Option.or_none]⟩
    | cons thread stack =>
      rw [List.length_cons] at enough
      rw [best?_cons, ← Option.or_assoc]
      by_cases reached : front.reached.getD thread.pc true = true
      · obtain ⟨later, found⟩ := ih stack front (followed.drop reached) (by omega)
        rw [follow_of_reached reached]
        refine ⟨later, found.trans (congrArg (Option.or · _) ?_)⟩
        -- What the thread would find, a thread before it finds.
        cases able : preferred? program.code thread.pc place thread.slots with
        | none => rw [Option.or_none]
        | some slots =>
          obtain ⟨best, before⟩ := Option.isSome_iff_exists.mp
            (followed.covered_of_reached reached (isSome_preferred?_iff.mp (by rw [able]; rfl)))
          rw [before, Option.some_or]
      · have fewer := unreached_mark (Bool.eq_false_iff.mpr reached)
        by_cases leaf : (program.code.getD thread.pc .accept).IsLeaf
        · obtain ⟨later, found⟩ := ih stack _ (followed.push leaf)
            (by show _ + 2 * (front.mark thread.pc).unreached ≤ _; omega)
          rw [follow_of_leaf reached leaf]
          refine ⟨later, found.trans (congrArg (Option.or · _) ?_)⟩
          rw [Array.toList_push, best?_append, best?_cons, best?_nil, Option.or_none]
        · have same := Thread.best?_kids descends place leaf
          have few := thread.length_kids_le program.code place
          have completes (able : Completes program.code place thread.pc) :
              ∃ kid ∈ thread.kids program.code place, Completes program.code place kid.pc := by
            obtain ⟨slots, found⟩ := Option.isSome_iff_exists.mp
              (isSome_preferred?_iff.mpr able :
                (preferred? program.code thread.pc place thread.slots).isSome = true)
            rw [← same] at found
            obtain ⟨kid, mem, able⟩ := List.exists_of_findSome?_eq_some found
            exact ⟨kid, mem, isSome_preferred?_iff.mp (by rw [able]; rfl)⟩
          obtain ⟨later, found⟩ := ih _ _
            (followed.replace (Thread.pc_lt_of_mem_kids descends) completes)
            (by rw [List.length_append]; omega)
          rw [follow_of_inner reached leaf]
          refine ⟨later, found.trans ?_⟩
          rw [best?_append, same, Option.or_assoc]
          rfl

/-- A thread is added with everything it leads to. -/
theorem add_spec {place : Place} {front : Front} (followed : Followed program.code place front [])
    (thread : Thread) (inside : thread.pc < program.code.size) :
    Followed program.code place (front.add program place thread) [] ∧
      best? program.code place (front.add program place thread).threads.toList =
        (best? program.code place front.threads.toList).or
          (preferred? program.code thread.pc place thread.slots) := by
  have ready : Followed program.code place front [thread] :=
    { followed with
      known := List.forall_mem_singleton.mpr inside
      covered := fun pc marked known able =>
        (followed.covered pc marked known able).imp id False.elim }
  have few : front.unreached ≤ program.code.size := by
    rw [Front.unreached, ← followed.size, ← Array.length_toList]
    exact List.count_le_length
  have spec := follow_spec descends (2 * program.code.size + 2) [thread] front ready
    (by rw [List.length_singleton]; omega)
  rwa [best?_cons, best?_nil, Option.or_none] at spec

omit descends in
/-- Nothing has been followed at first. -/
theorem followed_empty (program : Program) (place : Place) :
    Followed program.code place (.empty program) [] where
  size := Array.size_replicate
  leaf := by simp [Front.empty]
  known := nofun
  covered pc marked inside := by
    rw [Front.empty, Array.getD_eq_getD_getElem?, Array.getElem?_replicate, if_pos inside] at marked
    cases marked

/-- **Taking a character** leads the threads to the next place.  A thread whose match is complete
comes after the threads that are preferred to it, and ends the others. -/
theorem advanceThreads_spec {before : Option Char} {position : Nat} {c : Char} {rest : List Char}
    {after : Place} (next : after = ⟨some c, position + 1, rest⟩) (threads : List Thread)
    (front : Front) (leaf : ∀ thread ∈ threads, (program.code.getD thread.pc .accept).IsLeaf)
    (followed : Followed program.code after front []) :
    Followed program.code after (advanceThreads program c after threads front).1 [] ∧
      (best? program.code after (advanceThreads program c after threads front).1.threads.toList).or
          (advanceThreads program c after threads front).2 =
        (best? program.code after front.threads.toList).or
          (best? program.code ⟨before, position, c :: rest⟩ threads) := by
  induction threads generalizing front with
  | nil => exact ⟨followed, rfl⟩
  | cons thread threads ih =>
    obtain ⟨first, others⟩ := List.forall_mem_cons.mp leaf
    rw [advanceThreads, best?_cons]
    cases here : program.code.getD thread.pc .accept with
    | accept =>
      rw [preferred?_accept here]
      exact ⟨followed, rfl⟩
    | char chars successor =>
      rw [preferred?_char descends here]
      dsimp only
      by_cases takes : chars.contains c = true
      · have inside : successor < program.code.size := by
          have known : thread.pc < program.code.size := by
            by_contra outside
            rw [Array.getD_eq_getD_getElem?, Array.getElem?_eq_none (Nat.not_lt.mp outside)] at here
            cases here
          have earlier := descends thread.pc successor
          rw [here] at earlier
          exact Nat.lt_trans (earlier (by simp [Inst.successors])) known
        obtain ⟨added, found⟩ := add_spec descends followed ⟨successor, thread.slots⟩ inside
        obtain ⟨later, best⟩ := ih _ others added
        rw [if_pos takes, if_pos takes]
        refine ⟨later, best.trans ?_⟩
        rw [found, Option.or_assoc, next]
      · rw [if_neg takes, if_neg takes]
        exact ih _ others followed
    | split _ _ => exact absurd first (by rw [here]; exact id)
    | save _ _ => exact absurd first (by rw [here]; exact id)
    | look _ _ _ => exact absurd first (by rw [here]; exact id)

omit descends in
/-- At the end of a text only a thread whose match is complete is of use. -/
theorem accepted?_eq (before : Option Char) (position : Nat) {threads : List Thread}
    (leaf : ∀ thread ∈ threads, (program.code.getD thread.pc .accept).IsLeaf) :
    accepted? program threads = best? program.code ⟨before, position, []⟩ threads := by
  induction threads with
  | nil => rfl
  | cons thread threads ih =>
    obtain ⟨first, others⟩ := List.forall_mem_cons.mp leaf
    rw [best?_cons, ← ih others, accepted?, List.find?_cons]
    cases here : program.code.getD thread.pc .accept with
    | accept =>
      rw [preferred?_accept here]
      rfl
    | char chars next =>
      rw [preferred?_char_end here rfl]
      rfl
    | split _ _ => exact absurd first (by rw [here]; exact id)
    | save _ _ => exact absurd first (by rw [here]; exact id)
    | look _ _ _ => exact absurd first (by rw [here]; exact id)

end Search

/-- The positions that a search begins with. -/
def Program.blank (program : Program) : Slots := Array.replicate (2 * program.groups) none

/-- The preferred match at the first place, here or later, at which there is one. -/
def Program.leftmost? (program : Program) (before : Option Char) (position : Nat) :
    List Char → Option Slots
  | [] => preferred? program.code program.start ⟨before, position, []⟩ program.blank
  | c :: rest =>
    (preferred? program.code program.start ⟨before, position, c :: rest⟩ program.blank).or
      (program.leftmost? (some c) (position + 1) rest)

section Search

variable {program : Program} (descends : program.code.Descends)
  (inside : program.start < program.code.size)
include descends inside

/-- As long as there is no match, a thread is started at every place. -/
theorem started_spec {place : Place} {front : Front} (best : Option Slots)
    (followed : Followed program.code place front []) :
    ∃ started, (if best.isNone then front.add program place ⟨program.start, program.blank⟩
        else front) = started ∧ Followed program.code place started [] ∧
      ∀ later, (best? program.code place started.threads.toList).or (best.or later) =
        (best? program.code place front.threads.toList).or
          (best.or ((preferred? program.code program.start place program.blank).or later)) := by
  cases best with
  | some slots => exact ⟨front, rfl, followed, fun later => rfl⟩
  | none =>
    obtain ⟨added, found⟩ := add_spec descends followed ⟨program.start, program.blank⟩ inside
    refine ⟨front.add program place ⟨program.start, program.blank⟩, rfl, added, fun later => ?_⟩
    rw [found, Option.none_or, Option.none_or, Option.or_assoc]

/-- A search goes on with the threads that it has, and with the best match so far. -/
theorem searchFrom_eq (rest : List Char) (before : Option Char) (position : Nat) (front : Front)
    (best : Option Slots) (followed : Followed program.code ⟨before, position, rest⟩ front []) :
    searchFrom program before position front best rest =
      (best? program.code ⟨before, position, rest⟩ front.threads.toList).or
        (best.or (program.leftmost? before position rest)) := by
  induction rest generalizing before position front best with
  | nil =>
    obtain ⟨started, same, added, found⟩ := started_spec descends inside best followed
    have ends := found none
    rw [Option.or_none, Option.or_none] at ends
    rw [searchFrom, Program.leftmost?, ← ends, ← Program.blank, same,
      accepted?_eq before position added.leaf]
  | cons c rest ih =>
    obtain ⟨started, same, added, found⟩ := started_spec descends inside best followed
    obtain ⟨taken, all⟩ := advanceThreads_spec descends rfl started.threads.toList
      (.empty program) added.leaf (followed_empty program ⟨some c, position + 1, rest⟩)
    have nothing : best? program.code ⟨some c, position + 1, rest⟩
        (Front.empty program).threads.toList = none := rfl
    rw [nothing, Option.none_or] at all
    rw [searchFrom, Program.leftmost?, ← found, ← Option.or_assoc, ← all]
    dsimp only
    rw [← Program.blank, same]
    generalize advanceThreads program c ⟨some c, position + 1, rest⟩ started.threads.toList
      (.empty program) = step at taken
    obtain ⟨next, accepted⟩ := step
    dsimp only at taken ⊢
    split
    · next ends =>
      -- There are no threads left that could find a better match.
      rw [Bool.and_eq_true, Array.isEmpty_iff] at ends
      obtain ⟨slots, last⟩ := Option.isSome_iff_exists.mp ends.2
      rw [ends.1, last, best?_nil, Option.none_or, last, Option.some_or]
    · rw [ih _ _ _ _ taken]
      simp only [Option.or_assoc]

end Search

/-- **What a search finds** in a program without loops: the preferred match at the leftmost place at
which there is one. -/
theorem Program.search_eq_leftmost? {program : Program} (descends : program.code.Descends)
    (inside : program.start < program.code.size) (place : Place) :
    program.search place = program.leftmost? place.before place.position place.rest := by
  rw [search, searchFrom_eq descends inside _ _ _ _ _ (followed_empty program _)]
  simp [Front.empty]

end QualityGate.Regex
