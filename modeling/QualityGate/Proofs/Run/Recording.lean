import QualityGate.Run.Pipeline

/-!
# Recording a run

A run sees the world only through its ports, so what it does is the list of its port calls with
their answers.  This module writes that list down without changing the run.

* `RunContext.recorded` is a context whose ports do what the ports of a context do, and append every
  call to a list that is carried next to their state.
* `Records` relates a computation to its recorded counterpart: the counterpart gives the same answer
  in the same state, its new calls are appended, and they satisfy a given account.
* `RunRecords` is the same for the steps of a run, which carry the changed paths in a cache.

### What is load-bearing

The cache is not part of the account.  What it holds follows from the calls alone: it is the answer
to the first call that asks for the changes (`remember`).  So an account that only speaks of calls
can be composed along a run, each part continuing with what the calls before it have answered
(`remember_append`).
-/

namespace QualityGate

variable {σ α β : Type}

/-! ### Calls -/

/-- A call of a port with its answer. -/
inductive PortCall where
  | dirExists (path : String) (answer : Bool)
  | fileExists (path : String) (answer : Bool)
  | anyMatches (globs : List String) (answer : Bool)
  | listMatching (globs : List String) (answer : Except PortError (List String))
  | anyModifiedAfter (subtrees : List String) (since : Time.Instant) (answer : Option Bool)
  | changedPaths (answer : Except PortError (List String))
  | loadMarker (answer : Except PortError (Option String))
  | saveMarker (instant : Time.Instant) (answer : Except PortError Unit)
  | execute (invocation : Invocation) (answer : Except PortError ProcessResult)
  | verify (unit : String) (answer : DriftStatus)
  | now (answer : Time.Instant)
  | ticks (answer : Nat)

/-- The changes that a call asks for, where `none` inside means that they are not known. -/
def PortCall.changes? : PortCall → Option (Option (List String))
  | changedPaths answer => some answer.toOption
  | _ => none

/-- The state of the ports with the calls that were made so far. -/
abbrev Recorded (σ : Type) : Type := σ × List PortCall

/-- An operation that is written down. -/
def recording (call : α → PortCall) (operation : StateM σ α) : StateM (Recorded σ) α :=
  fun (state, calls) =>
    let (answer, state) := operation.run state
    (answer, state, calls ++ [call answer])

/-- An operation that may fail and is written down. -/
def recordingPort (call : Except PortError α → PortCall) (operation : PortM σ α) :
    PortM (Recorded σ) α :=
  ExceptT.mk (recording call operation.run)

/-- The context with every port written down. -/
def RunContext.recorded (ctx : RunContext σ) : RunContext (Recorded σ) where
  runner := { execute invocation :=
    recordingPort (.execute invocation) (ctx.runner.execute invocation) }
  workspace := {
    root := ctx.workspace.root
    dirExists path := recording (.dirExists path) (ctx.workspace.dirExists path)
    fileExists path := recording (.fileExists path) (ctx.workspace.fileExists path)
    anyMatches globs := recording (.anyMatches globs) (ctx.workspace.anyMatches globs)
    listMatching globs := recordingPort (.listMatching globs) (ctx.workspace.listMatching globs)
    anyModifiedAfter subtrees since :=
      recording (.anyModifiedAfter subtrees since) (ctx.workspace.anyModifiedAfter subtrees since) }
  diff := { changedPaths := recordingPort .changedPaths ctx.diff.changedPaths }
  baseline := {
    load := recordingPort .loadMarker ctx.baseline.load
    save instant := recordingPort (.saveMarker instant) (ctx.baseline.save instant) }
  drift := { verify unit := recording (.verify unit) (ctx.drift.verify unit) }
  clock := {
    now := recording .now ctx.clock.now
    ticksMs := recording .ticks ctx.clock.ticksMs }
  secondary := ctx.secondary
  defaultTimeoutSecs := ctx.defaultTimeoutSecs
  fileScope := ctx.fileScope

@[simp] theorem RunContext.recorded_fileScope (ctx : RunContext σ) :
    ctx.recorded.fileScope = ctx.fileScope := rfl

@[simp] theorem RunContext.recorded_suiteAfter? (ctx : RunContext σ) (stage : Stage) :
    ctx.recorded.suiteAfter? stage = ctx.suiteAfter? stage := rfl

/-! ### Recorded computations -/

/-- The second computation is the first one, written down: it gives the same answer, leaves the
ports in the same state, and appends calls that satisfy the account. -/
def Records (plain : StateM σ α) (traced : StateM (Recorded σ) α)
    (account : α → List PortCall → Prop) : Prop :=
  ∀ state calls, ∃ new,
    traced.run (state, calls)
        = ((plain.run state).1, (plain.run state).2, calls ++ new) ∧
      account (plain.run state).1 new

namespace Records

variable {m : StateM σ α} {m' : StateM (Recorded σ) α} {f : α → StateM σ β}
  {f' : α → StateM (Recorded σ) β} {first : α → List PortCall → Prop}

/-- One call is one entry. -/
theorem recording (call : α → PortCall) (operation : StateM σ α) :
    Records operation (recording call operation) fun answer calls => calls = [call answer] :=
  fun _ _ => ⟨_, rfl, rfl⟩

theorem pure {a : α} (met : first a []) :
    Records (pure a : StateM σ α) (pure a) first := by
  intro state calls
  exact ⟨[], by rw [List.append_nil]; rfl, met⟩

theorem pure_bind {a : α} {account : β → List PortCall → Prop}
    (records : Records (f a) (f' a) account) :
    Records (Pure.pure a >>= f) (Pure.pure a >>= f') account := records

/-- One computation after the other makes the calls of both, so what is left to account for after
the first are the calls that come after its own. -/
theorem bind {account : β → List PortCall → Prop} (head : Records m m' first)
    (tail : ∀ a before, first a before →
      Records (f a) (f' a) fun b after => account b (before ++ after)) :
    Records (m >>= f) (m' >>= f') account := by
  intro state calls
  obtain ⟨before, run, met⟩ := head state calls
  obtain ⟨after, run', met'⟩ := tail _ before met (m.run state).2 (calls ++ before)
  refine ⟨before ++ after, ?_, met'⟩
  show (f' (m'.run (state, calls)).1).run (m'.run (state, calls)).2 = _
  rw [run, run', List.append_assoc]
  rfl

theorem weaken {account : α → List PortCall → Prop} (records : Records m m' first)
    (implies : ∀ a calls, first a calls → account a calls) : Records m m' account := by
  intro state calls
  obtain ⟨new, run, met⟩ := records state calls
  exact ⟨new, run, implies _ _ met⟩

end Records

/-! ### Recorded steps of a run -/

/-- What the cache holds after some calls: what it held before, or else the answer to the first call
that asks for the changes. -/
def remember (cache : DiffCache) (calls : List PortCall) : DiffCache :=
  cache.or (calls.findSome? PortCall.changes?)

@[simp] theorem remember_nil (cache : DiffCache) : remember cache [] = cache := by
  simp [remember]

theorem remember_append (cache : DiffCache) (before after : List PortCall) :
    remember cache (before ++ after) = remember (remember cache before) after := by
  rw [remember, remember, remember, List.findSome?_append, Option.or_assoc]

/-- Calls that do not ask for the changes leave the cache alone. -/
theorem remember_of_unasked {cache : DiffCache} {calls : List PortCall}
    (unasked : ∀ call ∈ calls, call.changes? = none) : remember cache calls = cache := by
  rw [remember, List.findSome?_eq_none_iff.mpr unasked, Option.or_none]

/-- The second step of a run is the first one, written down, when both start with this cache; what
the cache holds afterwards follows from the calls. -/
def RunRecords (cache : DiffCache) (plain : RunM σ α) (traced : RunM (Recorded σ) α)
    (account : α → List PortCall → Prop) : Prop :=
  Records (plain.run cache) (traced.run cache) fun answer calls =>
    answer.2 = remember cache calls ∧ account answer.1 calls

namespace RunRecords

variable {cache : DiffCache} {m : RunM σ α} {m' : RunM (Recorded σ) α} {f : α → RunM σ β}
  {f' : α → RunM (Recorded σ) β} {first : α → List PortCall → Prop}

theorem pure {a : α} (met : first a []) :
    RunRecords cache (pure a : RunM σ α) (pure a) first :=
  Records.pure ⟨(remember_nil cache).symm, met⟩

theorem pure_bind {a : α} {account : β → List PortCall → Prop}
    (records : RunRecords cache (f a) (f' a) account) :
    RunRecords cache (Pure.pure a >>= f) (Pure.pure a >>= f') account := records

/-- A computation that does not ask for the changes is a step of a run. -/
theorem lift {m : StateM σ α} {m' : StateM (Recorded σ) α} (records : Records m m' first)
    (unasked : ∀ a calls, first a calls → ∀ call ∈ calls, call.changes? = none) :
    RunRecords cache (liftM m : RunM σ α) (liftM m') first := by
  show Records (m >>= fun a => Pure.pure (a, cache)) (m' >>= fun a => Pure.pure (a, cache)) _
  refine records.bind fun a calls met => Records.pure ?_
  rw [List.append_nil]
  exact ⟨(remember_of_unasked (unasked a calls met)).symm, met⟩

theorem bind {account : β → List PortCall → Prop} (head : RunRecords cache m m' first)
    (tail : ∀ a before, first a before →
      RunRecords (remember cache before) (f a) (f' a) fun b after => account b (before ++ after)) :
    RunRecords cache (m >>= f) (m' >>= f') account := by
  show Records (m.run cache >>= fun out => (f out.1).run out.2)
    (m'.run cache >>= fun out => (f' out.1).run out.2) _
  refine Records.bind head ?_
  rintro ⟨a, _⟩ before ⟨rfl, met⟩
  refine (tail a before met).weaken ?_
  rintro ⟨b, _⟩ after ⟨rfl, met'⟩
  exact ⟨(remember_append cache before after).symm, met'⟩

theorem weaken {account : α → List PortCall → Prop} (records : RunRecords cache m m' first)
    (implies : ∀ a calls, first a calls → account a calls) : RunRecords cache m m' account :=
  Records.weaken records fun a calls met => ⟨met.1, implies a.1 calls met.2⟩

end RunRecords

end QualityGate
