import Mathlib.Data.List.Basic

/-!
# Results with errors

What is known of the parts of a construction that can fail, when it is known to succeed.
-/

namespace QualityGate

/-- What can be made of every member of a list can be made of the list, member by member. -/
theorem exists_mapM_eq_ok {α β ε : Type} {make : α → Except ε β} {items : List α}
    (each : ∀ item ∈ items, ∃ b, make item = .ok b) :
    ∃ bs, items.mapM make = .ok bs ∧
      List.Forall₂ (fun item b => make item = .ok b) items bs := by
  induction items with
  | nil => exact ⟨[], rfl, .nil⟩
  | cons item items ih =>
    obtain ⟨⟨b, first⟩, others⟩ := List.forall_mem_cons.mp each
    obtain ⟨bs, later, made⟩ := ih others
    refine ⟨b :: bs, ?_, .cons first made⟩
    rw [List.mapM_cons, first, later]
    rfl

/-- Both steps of a construction that succeeds succeed. -/
theorem exists_of_bind_eq_ok {α β ε : Type} {first : Except ε α} {later : α → Except ε β} {b : β}
    (ends : (first >>= later) = .ok b) : ∃ a, first = .ok a ∧ later a = .ok b := by
  cases first with
  | error problem => cases ends
  | ok a => exact ⟨a, rfl, ends⟩

/-- Errors that are told another way do not change what succeeds. -/
theorem mapError_eq_ok_iff {ε ε' α : Type} {answer : Except ε α} {f : ε → ε'} {a : α} :
    answer.mapError f = .ok a ↔ answer = .ok a := by
  cases answer with
  | error error => exact ⟨nofun, nofun⟩
  | ok b =>
    show (.ok b : Except ε' α) = .ok a ↔ _
    rw [Except.ok.injEq, Except.ok.injEq]

end QualityGate
