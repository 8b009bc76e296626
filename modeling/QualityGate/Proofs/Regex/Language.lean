import Mathlib.Data.List.Forall2
import QualityGate.Regex.Search

/-!
# What expressions take

The language of an expression, apart from any way to search for it.  Since a condition looks at the
characters around a position, an expression takes a piece of a text between what comes before the
piece and what comes after it.

* `Expr.Takes` – what an expression takes.
* `Expr.Finds` – an expression takes some piece of a text, which is when it matches.

Which of several pieces is preferred is not said here, and neither are groups: both make no
difference to whether there is a match.
-/

namespace QualityGate

open QualityGate.Unicode (CharSet)

/-! ### Sets with one character and without it -/

namespace Unicode.CharSet

theorem contains_single {c d : Char} : (single c).contains d = true ↔ d = c := by
  rw [← Char.toNat_inj]
  simp only [single, contains, covers]
  split <;> simp <;> omega

theorem toNat_le_last (c : Char) : c.toNat ≤ last := by
  have valid := c.valid
  rw [UInt32.isValidChar, Nat.isValidChar] at valid
  rw [last, Char.toNat]
  omega

theorem contains_complement_single {c d : Char} :
    (single c).complement.contains d = true ↔ d ≠ c := by
  have bound := toNat_le_last c
  have bound' := toNat_le_last d
  rw [Ne, ← Char.toNat_inj]
  simp only [single, complement, contains, gaps]
  split <;> split <;> simp [covers] <;> omega

/-- The set of one character, as it is read from a class with one item. -/
theorem empty_union_single (c : Char) : empty.union (single c) = single c := by
  simp [union, empty, single, ofRanges, merge]

end Unicode.CharSet

namespace Regex.Expr

variable {before piece after : List Char}

/-! ### The language -/

/-- Pieces of a text that are taken one after the other. -/
def InTurn (takes : List Char → List Char → List Char → Prop) :
    List Char → List (List Char) → List Char → Prop
  | _, [], _ => True
  | before, piece :: pieces, after =>
    takes before piece (pieces.flatten ++ after) ∧ InTurn takes (before ++ piece) pieces after

/-- An expression takes a piece of a text between what comes before it and what comes after it. -/
def Takes : Expr → List Char → List Char → List Char → Prop
  | .empty, _, piece, _ => piece = []
  | .set chars, _, piece, _ => ∃ c, chars.contains c = true ∧ piece = [c]
  | .look kind word, before, piece, after =>
    piece = [] ∧ kind.holds word before.getLast? after.head? = true
  | .group _ body, before, piece, after => body.Takes before piece after
  | .seq a b, before, piece, after => ∃ first second, piece = first ++ second ∧
    a.Takes before first (second ++ after) ∧ b.Takes (before ++ first) second after
  | .alt a b, before, piece, after => a.Takes before piece after ∨ b.Takes before piece after
  | .rep min max _ body, before, piece, after => ∃ rounds : List (List Char),
    min ≤ rounds.length ∧ (∀ most ∈ max, rounds.length ≤ most) ∧ piece = rounds.flatten ∧
      InTurn (fun before piece after => body.Takes before piece after) before rounds after

/-- An expression takes a piece of a text. -/
def Finds (e : Expr) (text : List Char) : Prop :=
  ∃ before piece after, text = before ++ piece ++ after ∧ e.Takes before piece after

/-! ### Sequences -/

theorem takes_seqs_cons {e : Expr} {es : List Expr} :
    (seqs (e :: es)).Takes before piece after ↔ ∃ first second, piece = first ++ second ∧
      e.Takes before first (second ++ after) ∧ (seqs es).Takes (before ++ first) second after := by
  cases es with
  | nil =>
    constructor
    · intro takes
      exact ⟨piece, [], (List.append_nil piece).symm, takes, rfl⟩
    · rintro ⟨first, _, rfl, takes, rfl⟩
      rwa [List.append_nil]
  | cons _ _ => exact Iff.rfl

theorem takes_seqs_append {as bs : List Expr} :
    (seqs (as ++ bs)).Takes before piece after ↔ ∃ first second, piece = first ++ second ∧
      (seqs as).Takes before first (second ++ after) ∧
        (seqs bs).Takes (before ++ first) second after := by
  induction as generalizing before piece with
  | nil => simp [seqs, Takes]
  | cons e as ih =>
    rw [List.cons_append, takes_seqs_cons]
    constructor
    · rintro ⟨first, rest, rfl, takes, later⟩
      obtain ⟨second, third, rfl, takes', last⟩ := ih.mp later
      rw [List.append_assoc] at takes
      refine ⟨first ++ second, third, by simp, ?_, by rwa [← List.append_assoc]⟩
      exact takes_seqs_cons.mpr ⟨first, second, rfl, takes, takes'⟩
    · rintro ⟨_, third, rfl, takes, last⟩
      obtain ⟨first, second, rfl, takes, takes'⟩ := takes_seqs_cons.mp takes
      rw [← List.append_assoc] at last
      refine ⟨first, second ++ third, by simp, by rwa [List.append_assoc], ?_⟩
      exact ih.mpr ⟨second, third, rfl, takes', last⟩

theorem takes_textStart {word : CharSet} :
    (look .textStart word).Takes before piece after ↔ before = [] ∧ piece = [] := by
  simp [Takes, Look.holds, and_comm]

theorem takes_textEnd {word : CharSet} :
    (look .textEnd word).Takes before piece after ↔ after = [] ∧ piece = [] := by
  simp [Takes, Look.holds, and_comm]

/-- With a condition at each end, a sequence finds something exactly when it takes all of a text. -/
theorem finds_anchored_iff {word : CharSet} {es : List Expr} {text : List Char} :
    (seqs (.look .textStart word :: (es ++ [.look .textEnd word]))).Finds text ↔
      (seqs es).Takes [] text [] := by
  constructor
  · rintro ⟨before, piece, after, rfl, takes⟩
    obtain ⟨first, rest, rfl, start, takes⟩ := takes_seqs_cons.mp takes
    obtain ⟨rfl, rfl⟩ := takes_textStart.mp start
    obtain ⟨middle, last, rfl, takes, stop⟩ := takes_seqs_append.mp takes
    obtain ⟨rfl, rfl⟩ := takes_textEnd.mp stop
    simpa using takes
  · intro takes
    refine ⟨[], text, [], by simp, takes_seqs_cons.mpr ⟨[], text, rfl, ?_, ?_⟩⟩
    · exact takes_textStart.mpr ⟨rfl, rfl⟩
    · exact takes_seqs_append.mpr ⟨text, [], by simp, takes, takes_textEnd.mpr ⟨rfl, rfl⟩⟩

/-! ### Expressions that do not look around -/

/-- An expression takes the pieces that have a property, wherever they are. -/
def TakesAll (e : Expr) (property : List Char → Prop) : Prop :=
  ∀ before piece after, e.Takes before piece after ↔ property piece

theorem takesAll_single (c : Char) : (Expr.set (.single c)).TakesAll (· = [c]) := by
  intro before piece after
  simp [Takes, CharSet.contains_single]

theorem takesAll_complement (c : Char) :
    (Expr.set (CharSet.single c).complement).TakesAll fun piece => ∃ d, d ≠ c ∧ piece = [d] := by
  intro before piece after
  simp only [Takes, CharSet.contains_complement_single]

theorem TakesAll.seq {a b : Expr} {p q : List Char → Prop} (first : a.TakesAll p)
    (second : b.TakesAll q) :
    (a.seq b).TakesAll fun piece => ∃ x y, piece = x ++ y ∧ p x ∧ q y := by
  intro before piece after
  simp only [Takes, first _ _ _, second _ _ _]

theorem TakesAll.rep {body : Expr} {p : List Char → Prop} (takes : body.TakesAll p) (min : Nat)
    (max : Option Nat) (greedy : Bool) :
    (Expr.rep min max greedy body).TakesAll fun piece => ∃ rounds : List (List Char),
      min ≤ rounds.length ∧ (∀ most ∈ max, rounds.length ≤ most) ∧ piece = rounds.flatten ∧
        ∀ round ∈ rounds, p round := by
  have inTurn (before : List Char) (rounds : List (List Char)) (after : List Char) :
      InTurn (fun before piece after => body.Takes before piece after) before rounds after ↔
        ∀ round ∈ rounds, p round := by
    induction rounds generalizing before with
    | nil => simp [InTurn]
    | cons round rounds ih => rw [InTurn, ih, takes, List.forall_mem_cons]
  intro before piece after
  simp only [Takes, inTurn]

/-- Any number of rounds whose texts come from values is the texts of any values. -/
theorem TakesAll.rep_image {body : Expr} {α : Type} {p : α → Prop} {text : α → List Char}
    (takes : body.TakesAll fun piece => ∃ a, p a ∧ piece = text a) (min : Nat) (greedy : Bool) :
    (Expr.rep min none greedy body).TakesAll fun piece => ∃ values : List α,
      min ≤ values.length ∧ (∀ a ∈ values, p a) ∧ piece = values.flatMap text := by
  intro before piece after
  rw [takes.rep]
  constructor
  · rintro ⟨rounds, least, -, rfl, all⟩
    have values : ∃ values : List α, (∀ a ∈ values, p a) ∧ rounds = values.map text := by
      clear least
      induction rounds with
      | nil => exact ⟨[], by simp, rfl⟩
      | cons round rounds ih =>
        obtain ⟨⟨a, first, rfl⟩, later⟩ := List.forall_mem_cons.mp all
        obtain ⟨values, good, rfl⟩ := ih later
        exact ⟨a :: values, List.forall_mem_cons.mpr ⟨first, good⟩, rfl⟩
    obtain ⟨values, good, rfl⟩ := values
    rw [List.length_map] at least
    exact ⟨values, least, good, List.flatMap_def.symm⟩
  · rintro ⟨values, least, good, rfl⟩
    refine ⟨values.map text, by rwa [List.length_map], by simp, List.flatMap_def, ?_⟩
    intro round mem
    obtain ⟨a, known, rfl⟩ := List.mem_map.mp mem
    exact ⟨a, good a known, rfl⟩

/-- Rounds of characters other than one take any text without it. -/
theorem takesAll_rep_complement (c : Char) (min : Nat) (greedy : Bool) :
    (Expr.rep min none greedy (.set (CharSet.single c).complement)).TakesAll fun piece =>
      min ≤ piece.length ∧ c ∉ piece := by
  intro before piece after
  rw [(takesAll_complement c).rep_image]
  simp only [List.flatMap_singleton', exists_eq_right_right']
  apply and_congr_right
  intro _
  constructor
  · intro others mem
    exact others c mem rfl
  · intro absent d mem
    exact ne_of_mem_of_not_mem mem absent

/-- What a sequence takes is put together from what its members take. -/
theorem takesAll_seqs {α : Type} {expr : α → Expr} {p : α → List Char → Prop} {list : List α}
    (takes : ∀ a ∈ list, (expr a).TakesAll (p a)) :
    (seqs (list.map expr)).TakesAll fun piece =>
      ∃ pieces, List.Forall₂ p list pieces ∧ piece = pieces.flatten := by
  induction list with
  | nil =>
    intro before piece after
    simp [seqs, Takes]
  | cons a list ih =>
    obtain ⟨first, later⟩ := List.forall_mem_cons.mp takes
    intro before piece after
    rw [List.map_cons, takes_seqs_cons]
    constructor
    · rintro ⟨text, rest, rfl, here, there⟩
      obtain ⟨pieces, all, rfl⟩ := (ih later _ _ _).mp there
      exact ⟨text :: pieces, .cons ((first _ _ _).mp here) all, rfl⟩
    · rintro ⟨_, _ | ⟨here, all⟩, rfl⟩
      exact ⟨_, _, rfl, (first _ _ _).mpr here, (ih later _ _ _).mpr ⟨_, all, rfl⟩⟩

/-- The characters of a text take that text. -/
theorem takesAll_text (text : List Char) : (seqs (text.map Expr.char)).TakesAll (· = text) := by
  induction text with
  | nil => exact fun before piece after => Iff.rfl
  | cons c text ih =>
    intro before piece after
    rw [List.map_cons, takes_seqs_cons]
    constructor
    · rintro ⟨first, rest, rfl, here, there⟩
      rw [(takesAll_single c _ _ _).mp here, (ih _ _ _).mp there]
      rfl
    · rintro rfl
      exact ⟨[c], text, rfl, (takesAll_single c _ _ _).mpr rfl, (ih _ _ _).mpr rfl⟩

end Regex.Expr

end QualityGate
