import QualityGate.Proofs.Scope.Decision

/-!
# Tracked subtrees

A suite is told which subtrees of the project it tracks.  In front of a subtree and of a path `./`
is of no account, however often it stands there, and neither is a slash behind a subtree.  What is
left of the two is compared name by name.

* `SecondarySuite.Told` – the subtrees that a suite is told of, which is its own directory when
  there is none.
* `SecondarySuite.Contains` – the names of a subtree are the first names of a path.
* `SecondarySuite.tracks_iff_contains` – a suite tracks the paths that a subtree of its contains.
  What goes on behind a subtree with a slash is contained, and what goes on with anything else is
  not.

### What is load-bearing

The suite compares characters and looks whether a slash follows; no name is ever cut out.  That this
is a comparison of names is `Text.splitOn_prefix_iff`.
-/

namespace QualityGate

namespace SecondarySuite

variable {suite : SecondarySuite} {subtree path : String} {root rest : List Char}

/-- The subtrees that a suite is told to track; without any it is the directory of the suite. -/
def Told (suite : SecondarySuite) (subtree : String) : Prop :=
  subtree ∈ suite.tracked ∨ suite.tracked = [] ∧ subtree = suite.dir

/-- What is left of a subtree without `./` in front of it and slashes behind it. -/
def RootOf (subtree : String) (root : List Char) : Prop :=
  ∃ bare, Text.Bares subtree.toList bare ∧ Text.Unslashes bare root

/-- The names of a subtree, if anything is left of it, are the first names of a path. -/
def Contains (subtree path : String) : Prop :=
  ∃ root rest, RootOf subtree root ∧ Text.Bares path.toList rest ∧ root ≠ [] ∧
    Text.splitOn '/' root <+: Text.splitOn '/' rest

theorem mem_trackedPrefixes_iff : subtree ∈ suite.trackedPrefixes ↔ suite.Told subtree := by
  rw [trackedPrefixes, Told]
  cases suite.tracked with
  | nil => simp
  | cons first others => simp

theorem rootOf_iff : RootOf subtree root ↔ root = subtreeRoot subtree := by
  simp only [RootOf, ← Text.dropCurrentDir_eq_iff, ← Text.dropWhileEnd_slash_eq_iff,
    exists_eq_left', subtreeRoot]
  exact eq_comm

/-- With the same names at the start, a path is the subtree or goes on below it. -/
theorem contains_iff_below : Contains subtree path ↔ Below subtree path := by
  simp only [Contains, Below, rootOf_iff, ← Text.dropCurrentDir_eq_iff, exists_eq_left,
    exists_eq_left', exists_and_left, Text.splitOn_prefix_iff]

/-- **A suite tracks its subtrees.**  It tracks exactly the paths that a subtree that it is told of
contains.  A path that goes on behind the root of a subtree is contained exactly when a slash comes
next: what lies below the subtree is, and a neighbour whose name merely begins like it is not. -/
theorem tracks_iff_contains (suite : SecondarySuite) (path : String) :
    (suite.tracks path = true ↔ ∃ subtree, suite.Told subtree ∧ Contains subtree path) ∧
      ∀ subtree root c rest, RootOf subtree root → Text.Bares path.toList (root ++ c :: rest) →
        (Contains subtree path ↔ root ≠ [] ∧ c = '/') := by
  constructor
  · rw [tracks_iff]
    exact exists_congr fun subtree => and_congr mem_trackedPrefixes_iff contains_iff_below.symm
  · intro subtree root c rest rooted bare
    rw [contains_iff_below, Below, ← rootOf_iff.mp rooted, Text.dropCurrentDir_eq_iff.mpr bare]
    simp

/-- A file below the only subtree of a suite is tracked, however the subtree is spelled, and a
neighbour that begins like the subtree is not. -/
theorem tracks_iff_contains_neighbour :
    let suite : SecondarySuite := { dir := "suite", tracked := ["././a/tests//"], command := "npm" }
    RootOf "././a/tests//" "a/tests".toList ∧
      Text.Bares "./a/tests/x".toList ("a/tests".toList ++ '/' :: "x".toList) ∧
      Text.Bares "a/testsuite".toList ("a/tests".toList ++ 'u' :: "ite".toList) ∧
      suite.tracks "./a/tests/x" = true ∧ suite.tracks "a/testsuite" = false := by
  intro suite
  have rooted : RootOf "././a/tests//" "a/tests".toList := rootOf_iff.mpr (by decide)
  have below : Text.Bares "./a/tests/x".toList ("a/tests".toList ++ '/' :: "x".toList) :=
    Text.dropCurrentDir_eq_iff.mp (by decide)
  have beside : Text.Bares "a/testsuite".toList ("a/tests".toList ++ 'u' :: "ite".toList) :=
    Text.dropCurrentDir_eq_iff.mp (by decide)
  have told : suite.Told "././a/tests//" := Or.inl (List.mem_singleton.mpr rfl)
  have only {subtree : String} : suite.Told subtree → subtree = "././a/tests//" := by
    rintro (mem | ⟨none, -⟩)
    · exact List.mem_singleton.mp mem
    · cases none
  refine ⟨rooted, below, beside, ?_, ?_⟩
  · obtain ⟨tracks, contains⟩ := tracks_iff_contains suite "./a/tests/x"
    exact tracks.mpr ⟨_, told, (contains _ _ _ _ rooted below).mpr ⟨by decide, rfl⟩⟩
  · obtain ⟨tracks, contains⟩ := tracks_iff_contains suite "a/testsuite"
    refine Bool.eq_false_iff.mpr fun tracked => ?_
    obtain ⟨subtree, known, held⟩ := tracks.mp tracked
    rw [only known] at held
    exact absurd ((contains _ _ _ _ rooted beside).mp held).2 (by decide)

end SecondarySuite

end QualityGate
