import Mathlib.Data.List.Count
import QualityGate.Digest.Algorithm
import QualityGate.Json.Decode
import QualityGate.Proofs.Json.Spelling
import QualityGate.Proofs.Lookup

/-!
# Reading what was written

What the single readers of values and of records make of what the writers write.  A number is read
back if it has the size of its field (`Signed32`, `Unsigned64`), and a text always is; a list is
read back if each of its items is (`list?_map`), and a record with a kind is told from other kinds
by its first member alone (`tagged?_obj`).
-/

namespace QualityGate.Json

variable {α : Type}

/-! ### Values -/

/-- A signed number of 32 bits. -/
def Signed32 (value : Int) : Prop :=
  Int32.minValue.toInt ≤ value ∧ value ≤ Int32.maxValue.toInt

/-- An unsigned number of 64 bits. -/
def Unsigned64 (n : Nat) : Prop := n < UInt64.size

instance (value : Int) : Decidable (Signed32 value) := inferInstanceAs (Decidable (_ ∧ _))

instance (n : Nat) : Decidable (Unsigned64 n) := inferInstanceAs (Decidable (_ < _))

theorem int32?_int {value : Int} (fits : Signed32 value) : int32? (.int value) = some value :=
  if_pos fits

theorem nat?_nat {n : Nat} (fits : Unsigned64 n) : nat? (.nat n) = some n := by
  have small : (n : Int) < UInt64.size := Int.ofNat_lt.mpr fits
  rw [nat, nat?, if_pos ⟨Int.natCast_nonneg n, small⟩, Int.toNat_natCast]

theorem Signed32.writable {value : Int} (fits : Signed32 value) : Writable (.int value) := by
  have low : -2 ^ 63 ≤ Int32.minValue.toInt := by decide
  have high : Int32.maxValue.toInt < 2 ^ 64 := by decide
  exact .int (Int.le_trans low fits.1) (Int.lt_of_le_of_lt fits.2 high)

theorem Unsigned64.writable {n : Nat} (fits : Unsigned64 n) : Writable (.nat n) := by
  have small : (n : Int) < UInt64.size := Int.ofNat_lt.mpr fits
  exact .int (by omega) small

/-- A list is read back when each of its items is. -/
theorem list?_map {read : Json → Option α} {write : α → Json} {items : List α}
    (each : ∀ item ∈ items, read (write item) = some item) :
    list? read (.arr (items.map write)) = some items := by
  rw [list?]
  induction items with
  | nil => rfl
  | cons item items ih =>
    obtain ⟨first, others⟩ := List.forall_mem_cons.mp each
    rw [List.map_cons, List.mapM_cons, first, ih others]
    rfl

theorem list?_strs (texts : List String) : list? string? (strs texts) = some texts :=
  list?_map fun _ _ => rfl

theorem choice?_name (algorithm : Algorithm) :
    choice? .json Algorithm.names (.str algorithm.name) = some algorithm := by
  cases algorithm <;> rfl

theorem writable_map {write : α → Json} {items : List α}
    (each : ∀ item ∈ items, Writable (write item)) : Writable (.arr (items.map write)) :=
  .arr (List.forall_mem_map.mpr each)

theorem writable_strs (texts : List String) : Writable (strs texts) :=
  writable_map fun text _ => .str text

/-! ### Records -/

/-- The kind of a record is read from its member, and taken away. -/
theorem tagged?_obj {tag kind : String} {members : List (String × Json)}
    (others : ∀ member ∈ members, member.1 ≠ tag) :
    tagged? tag (.obj ((tag, .str kind) :: members)) = some (kind, .obj members) := by
  have single : members.filter (·.1 == tag) = [] := by
    simpa [List.filter_eq_nil_iff] using others
  have kept : members.filter (·.1 != tag) = members := by
    simpa [List.filter_eq_self] using others
  simp [tagged?, single, kept]

/-- In an object that has some fields in their order, each
once, these are the fields; those that are left out are not there. -/
theorem fields?_obj (dialect : Dialect) (omitted : List String) {names : List String}
    {members : List (String × Json)} (named : members.map (·.1) ++ omitted = names)
    (distinct : names.Nodup) : fields? dialect names (.obj members) =
      some (members.map (fun member => some member.2) ++ omitted.map fun _ => none) := by
  subst named
  obtain ⟨once, -, apart⟩ := List.nodup_append.mp distinct
  have single (name : String) : (members.filter (·.1 == name)).length ≤ 1 := by
    have count := List.nodup_iff_count_le_one.mp once name
    rwa [List.count, List.countP_map, List.countP_eq_length_filter] at count
  have given : (members.map (·.1)).map (members.lookup ·) = members.map (some ·.2) := by
    rw [List.map_map]
    refine List.map_congr_left fun member mem => ?_
    exact lookup_of_mem once mem
  have missing : omitted.map (members.lookup ·) = omitted.map fun _ => none := by
    refine List.map_congr_left fun name mem => List.lookup_eq_none_iff.mpr fun member known => ?_
    exact bne_iff_ne.mpr (apart _ (List.mem_map_of_mem known) _ mem).symm
  rw [fields?, if_pos (List.all_eq_true.mpr fun name _ => by simpa using single name),
    List.map_append, given, missing]

end QualityGate.Json
