import QualityGate.Host.Basic
import QualityGate.Proofs.Lookup
import QualityGate.Proofs.Run.Invariant
import QualityGate.Proofs.Text.Decoding

/-!
# Reading what was written

A path that was written through is read with what was written (`read_of_write`), whatever links it
goes through, and so is a file of a host that was replaced (`Host.readFile?_of_replaceFile`).

* `Leads` – where names lead, step by step and with every link followed.  It is what `follow`
  computes when it fails at nothing (`follow_eq_ok_iff`).
* `Standing` – a directory with only directories above it.  Paths are followed from such places, so
  a `..` leads to a directory again and a path ends at a directory, at a file, or at nothing
  (`Leads.directory_or_final`).

### What is load-bearing

Writing changes the node at one place, where there was no directory and no link.  A path is
followed *through* directories and links only, so it goes the same way afterwards, and where it
ended there is the file (`Leads.put`).
-/

namespace QualityGate.Disk

variable {disk : Disk} {links : Nat} {here place : Location} {names : List String}

/-! ### Nodes -/

/-- Where a node was put, it is. -/
theorem get?_put_self (below : place ≠ []) (node : Node) :
    (disk.put place node).get? place = some node := by
  cases place with
  | nil => exact absurd rfl below
  | cons name names => simp [get?, put]

/-- Everywhere else there is what there was. -/
theorem get?_put_of_ne {other : Location} (apart : other ≠ place) (node : Node) :
    (disk.put place node).get? other = disk.get? other := by
  cases other with
  | nil => rfl
  | cons name names =>
    have skipped : ((name :: names) == place) = false := by simpa using apart
    simp [get?, put, List.lookup_cons, skipped, lookup_filter_ne apart]

/-! ### Following a path -/

/-- Nothing leads through here: there is a file, or nothing at all. -/
def Final (disk : Disk) (place : Location) : Prop :=
  disk.get? place = none ∨ ∃ content modified, disk.get? place = some (.file content modified)

theorem Final.ne_of_directory (final : disk.Final place) {other : Location}
    (found : disk.get? other = some .directory) : other ≠ place := by
  rintro rfl
  simp [Final, found] at final

theorem Final.ne_of_link (final : disk.Final place) {other : Location} {target : String}
    (found : disk.get? other = some (.link target)) : other ≠ place := by
  rintro rfl
  simp [Final, found] at final

/-- Here is a directory, and so it is everywhere above. -/
def Standing (disk : Disk) (here : Location) : Prop :=
  ∀ above, above <+: here → disk.get? above = some .directory

theorem standing_nil : disk.Standing [] := by
  intro above pre
  rw [List.prefix_nil.mp pre]
  rfl

theorem Standing.dropLast (standing : disk.Standing here) : disk.Standing here.dropLast :=
  fun above pre => standing above (pre.trans (List.dropLast_prefix here))

theorem Standing.concat (standing : disk.Standing here) {name : String}
    (found : disk.get? (here ++ [name]) = some .directory) : disk.Standing (here ++ [name]) := by
  intro above pre
  obtain rfl | pre := List.prefix_concat_iff.mp pre
  · exact found
  · exact standing above pre

/-- A name that can be looked up in a directory. -/
structure Proper (name : String) : Prop where
  current : name ≠ "."
  parent : name ≠ ".."
  short : name.utf8ByteSize ≤ nameLimit

/-- Where a link is followed from. -/
def linkStart (here : Location) (target : String) : Location :=
  if target.startsWith "/" then [] else here

theorem Standing.linkStart (standing : disk.Standing here) (target : String) :
    disk.Standing (linkStart here target) := by
  unfold Disk.linkStart
  split
  · exact standing_nil
  · exact standing

/-- Following at most so many links, names lead from a directory to a place. -/
inductive Leads (disk : Disk) : Nat → Location → List String → Location → Prop where
  | stop {links : Nat} {here : Location} : Leads disk links here [] here
  | current {links : Nat} {here place : Location} {rest : List String}
      (later : Leads disk links here rest place) : Leads disk links here ("." :: rest) place
  | parent {links : Nat} {here place : Location} {rest : List String}
      (later : Leads disk links here.dropLast rest place) : Leads disk links here (".." :: rest) place
  | arrive {links : Nat} {here : Location} {name : String} (proper : Proper name)
      (final : disk.Final (here ++ [name])) : Leads disk links here [name] (here ++ [name])
  | enter {links : Nat} {here place : Location} {name : String} {rest : List String}
      (proper : Proper name) (found : disk.get? (here ++ [name]) = some .directory)
      (later : Leads disk links (here ++ [name]) rest place) :
      Leads disk links here (name :: rest) place
  | link {links : Nat} {here place : Location} {name target : String} {rest : List String}
      (proper : Proper name) (found : disk.get? (here ++ [name]) = some (.link target))
      (later : Leads disk links (linkStart here target) (pathNames target ++ rest) place) :
      Leads disk (links + 1) here (name :: rest) place

/-- What is done at a name that can be looked up. -/
theorem follow_cons {name : String} (proper : Proper name) (rest : List String) :
    disk.follow true links here (name :: rest) =
      match disk.get? (here ++ [name]), links with
      | none, _ => if rest.isEmpty then .ok (here ++ [name], none) else .error .notFound
      | some .directory, _ => disk.follow true links (here ++ [name]) rest
      | some (.file content modified), _ =>
        if rest.isEmpty then .ok (here ++ [name], some (.file content modified))
        else .error .notDirectory
      | some (.link _), 0 => .error .tooManyLinks
      | some (.link target), links + 1 =>
        disk.follow true links (linkStart here target) (pathNames target ++ rest) := by
  rw [follow.eq_4 _ _ _ _ _ _ proper.current proper.parent, if_neg (Nat.not_lt.mpr proper.short)]
  dsimp only
  cases disk.get? (here ++ [name]) with
  | none => rfl
  | some node =>
    cases node with
    | directory => rfl
    | file content modified => rfl
    | link target => cases links <;> simp [linkStart]

/-- A name is too long to be looked up. -/
theorem follow_cons_of_long {name : String} (current : name ≠ ".") (parent : name ≠ "..")
    (long : nameLimit < name.utf8ByteSize) (rest : List String) :
    disk.follow true links here (name :: rest) = .error .nameTooLong := by
  rw [follow.eq_4 _ _ _ _ _ _ current parent, if_pos long]

theorem leads_of_follow {node : Option Node}
    (followed : disk.follow true links here names = .ok (place, node)) :
    Leads disk links here names place ∧ disk.get? place = node := by
  induction links, here, names using follow.induct disk true generalizing place node
  case case1 links here =>
    rw [follow] at followed
    cases followed
    exact ⟨.stop, rfl⟩
  case case2 links here rest ih =>
    rw [follow] at followed
    exact ⟨.current (ih followed).1, (ih followed).2⟩
  case case3 links here rest ih =>
    rw [follow] at followed
    exact ⟨.parent (ih followed).1, (ih followed).2⟩
  case case4 links here name rest current parent long =>
    rw [follow_cons_of_long current parent long] at followed
    cases followed
  case case5 links here name rest current parent short there nothing last =>
    have proper : Proper name := ⟨current, parent, Nat.not_lt.mp short⟩
    obtain rfl := List.isEmpty_iff.mp last
    rw [follow_cons proper, nothing] at followed
    cases followed
    exact ⟨.arrive proper (.inl nothing), nothing⟩
  case case6 links here name rest current parent short there nothing more =>
    rw [follow_cons ⟨current, parent, Nat.not_lt.mp short⟩, nothing] at followed
    simp [more] at followed
  case case7 links here name rest current parent short there found ih =>
    have proper : Proper name := ⟨current, parent, Nat.not_lt.mp short⟩
    rw [follow_cons proper, found] at followed
    exact ⟨.enter proper found (ih followed).1, (ih followed).2⟩
  case case8 links here name rest current parent short there content modified file last =>
    have proper : Proper name := ⟨current, parent, Nat.not_lt.mp short⟩
    obtain rfl := List.isEmpty_iff.mp last
    rw [follow_cons proper, file] at followed
    cases followed
    exact ⟨.arrive proper (.inr ⟨content, modified, file⟩), file⟩
  case case9 links here name rest current parent short there content modified file more =>
    rw [follow_cons ⟨current, parent, Nat.not_lt.mp short⟩, file] at followed
    simp [more] at followed
  case case10 links here name rest current parent short there target found unfollowed =>
    simp at unfollowed
  case case11 here name rest current parent short there target found followable =>
    rw [follow_cons ⟨current, parent, Nat.not_lt.mp short⟩, found] at followed
    cases followed
  case case12 here name rest current parent short there target found followable links start ih =>
    have proper : Proper name := ⟨current, parent, Nat.not_lt.mp short⟩
    rw [follow_cons proper, found] at followed
    exact ⟨.link proper found (ih followed).1, (ih followed).2⟩

/-- A path that can be followed leads somewhere, and the answer is what is there. -/
theorem follow_eq_ok_iff {node : Option Node} :
    disk.follow true links here names = .ok (place, node) ↔
      Leads disk links here names place ∧ disk.get? place = node := by
  refine ⟨leads_of_follow, ?_⟩
  rintro ⟨leads, rfl⟩
  induction leads with
  | stop => rw [follow]
  | current later ih => rw [follow, ih]
  | parent later ih => rw [follow, ih]
  | arrive proper final =>
    rw [follow_cons proper]
    obtain nothing | ⟨content, modified, file⟩ := final
    · simp [nothing]
    · simp [file]
  | enter proper found later ih => rw [follow_cons proper, found]; exact ih
  | link proper found later ih => rw [follow_cons proper, found]; exact ih

/-! ### Writing -/

/-- What a path leads to is a directory, or nothing leads further. -/
theorem Leads.directory_or_final (standing : disk.Standing here)
    (leads : Leads disk links here names place) :
    disk.get? place = some .directory ∨ disk.Final place := by
  induction leads with
  | stop => exact Or.inl (standing _ (List.prefix_refl _))
  | current later ih => exact ih standing
  | parent later ih => exact ih standing.dropLast
  | arrive proper final => exact Or.inr final
  | enter proper found later ih => exact ih (standing.concat found)
  | link proper found later ih => exact ih (standing.linkStart _)

/-- A path that ended at no directory ends where it did when a file is put there. -/
theorem Leads.put (standing : disk.Standing here) (leads : Leads disk links here names place)
    (final : disk.Final place) (content : Text.Bytes) (modified : Time.Instant) :
    Leads (disk.put place (.file content modified)) links here names place := by
  induction leads with
  | stop => exact .stop
  | current later ih => exact .current (ih standing final)
  | parent later ih => exact .parent (ih standing.dropLast final)
  | arrive proper free =>
    exact .arrive proper (.inr ⟨content, modified, get?_put_self (by simp) _⟩)
  | enter proper found later ih =>
    refine .enter proper ?_ (ih (standing.concat found) final)
    rw [get?_put_of_ne (final.ne_of_directory found), found]
  | link proper found later ih =>
    refine .link proper ?_ (ih (standing.linkStart _) final)
    rw [get?_put_of_ne (final.ne_of_link found), found]

/-- Whatever a path leads to, it is followed from the top. -/
theorem resolve_eq_ok_iff {path : String} {node : Option Node} :
    disk.resolve true path = .ok (place, node) ↔
      (path.contains '\x00' = false ∧ path.utf8ByteSize ≤ pathLimit) ∧
        Leads disk linkLimit [] (pathNames path) place ∧ disk.get? place = node := by
  rw [← follow_eq_ok_iff, resolve]
  by_cases zero : path.contains '\x00' = true
  · simp [zero]
  · by_cases long : pathLimit < path.utf8ByteSize
    · have refused : ¬ path.utf8ByteSize ≤ pathLimit := Nat.not_le.mpr long
      simp [zero, long, refused]
    · simp [zero, long, Nat.not_lt.mp long]

/-- Where something was written, there was no directory, and then there is the file. -/
theorem exists_of_write {now : Time.Instant} {path : String} {content : Text.Bytes} {after : Disk}
    (written : disk.write now path content = .ok after) :
    ∃ place node, disk.resolve true path = .ok (place, node) ∧ node ≠ some .directory ∧
      after = disk.put place (.file content now) := by
  unfold write at written
  split at written
  · -- A slash at the end asks for a directory, and so writing fails however the path is followed.
    cases found : disk.find ((parentPath? path).getD "/") with
    | error error => simp [found, bind, Except.bind] at written
    | ok there =>
      rw [found] at written
      obtain ⟨place, node⟩ := there
      cases node <;> cases written
  · cases resolved : disk.resolve true path with
    | error error => simp [resolved, bind, Except.bind] at written
    | ok there =>
      obtain ⟨place, node⟩ := there
      rw [resolved] at written
      refine ⟨place, node, rfl, ?_⟩
      match node, written with
      | none, written =>
        cases written
        exact ⟨nofun, rfl⟩
      | some (.file was modified), written =>
        cases written
        exact ⟨nofun, rfl⟩
      | some (.link target), written =>
        cases written
        exact ⟨nofun, rfl⟩

/-- A path that was written through is read with what was written. -/
theorem read_of_write {now : Time.Instant} {path : String} {content : Text.Bytes} {after : Disk}
    (written : disk.write now path content = .ok after) : after.read path = .ok content := by
  obtain ⟨place, node, resolved, other, rfl⟩ := exists_of_write written
  obtain ⟨valid, leads, rfl⟩ := resolve_eq_ok_iff.mp resolved
  have final : disk.Final place := (leads.directory_or_final standing_nil).resolve_left other
  have below : place ≠ [] := by
    rintro rfl
    exact other rfl
  have again : (disk.put place (.file content now)).resolve true path =
      .ok (place, some (.file content now)) :=
    resolve_eq_ok_iff.mpr ⟨valid, leads.put standing_nil final content now, get?_put_self below _⟩
  rw [read, find, again]
  rfl

end QualityGate.Disk

namespace QualityGate.Host

/-- What a change of the disk comes to. -/
theorem run_change (heading : Option String) (operation : Disk → Except FileError Disk)
    (host : Host) :
    (change heading operation).run.run host = match operation host.disk with
      | .ok disk => (.ok (), { host with disk := disk })
      | .error cause => (.error (failure heading cause), host) := by
  rw [change, PortM.run_get_bind]
  cases operation host.disk <;> rfl

/-- Writing a file changes the disk as the disk is written to, at the present instant. -/
theorem run_write (heading : Option String) (path : String) (content : Text.Bytes) (host : Host) :
    (write heading path content).run.run host =
      (change heading (·.write host.now path content)).run.run host := by
  rw [write, PortM.run_get_bind]

/-- A file is written when the directories that lead to it could be made. -/
theorem run_replaceFile (path : String) (content : Text.Bytes) (host : Host) :
    (∃ error, ((replaceFile path content).run.run host).1 = .error error) ∨
      ∃ first : Host, (replaceFile path content).run.run host =
        (write (some s!"failed to write {path}") path content).run.run first := by
  unfold replaceFile
  cases parentPath? path with
  | none => exact Or.inr ⟨host, rfl⟩
  | some parent =>
    dsimp only
    rw [ExceptT.run_bind, StateT.run_bind, run_change]
    cases host.disk.makeDirectories parent with
    | error cause => exact Or.inl ⟨_, rfl⟩
    | ok disk => exact Or.inr ⟨_, rfl⟩

/-- A file is replaced when the directories could be made and the file could be written. -/
theorem run_replaceFile_of_written {path parent : String} {content : Text.Bytes} {host : Host}
    {made after : Disk} (within : parentPath? path = some parent)
    (makes : host.disk.makeDirectories parent = .ok made)
    (written : made.write host.now path content = .ok after) :
    (replaceFile path content).run.run host = (.ok (), { host with disk := after }) := by
  unfold replaceFile
  rw [within]
  dsimp only
  rw [ExceptT.run_bind, StateT.run_bind, run_change, makes]
  refine (run_write _ _ _ { host with disk := made }).trans ?_
  rw [run_change]
  dsimp only
  rw [written]

/-- What replaced a file was written to a disk. -/
theorem exists_of_replaceFile {path : String} {content : Text.Bytes} {before after : Host}
    (replaced : (replaceFile path content).run.run before = (.ok (), after)) :
    ∃ (disk : Disk) (now : Time.Instant), disk.write now path content = .ok after.disk := by
  obtain ⟨error, fails⟩ | ⟨first, runs⟩ := run_replaceFile path content before
  · rw [replaced] at fails
    cases fails
  · rw [runs, run_write, run_change] at replaced
    cases written : first.disk.write first.now path content with
    | error cause =>
      rw [written] at replaced
      cases replaced
    | ok disk =>
      rw [written] at replaced
      cases replaced
      exact ⟨first.disk, first.now, written⟩

/-- A text that replaced a file is read back. -/
theorem readFile?_of_replaceFile {path text : String} {before after : Host}
    (replaced : (replaceFile path (Text.bytesOf text)).run.run before = (.ok (), after)) :
    (readFile? path).run.run after = (.ok (some text), after) := by
  obtain ⟨disk, now, written⟩ := exists_of_replaceFile replaced
  have decoded : Text.stringOf? (Text.bytesOf text) = some text :=
    Text.stringOf?_eq_some_iff.mpr rfl
  have kept : after.disk.readText path = .ok text := by
    simp [Disk.readText, Disk.read_of_write written, decoded, bind, Except.bind, pure, Except.pure]
  rw [readFile?, PortM.run_get_bind, kept]
  rfl

end QualityGate.Host
