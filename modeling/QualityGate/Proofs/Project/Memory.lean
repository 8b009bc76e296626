import QualityGate.Project.Memory
import QualityGate.Proofs.Lookup
import QualityGate.Proofs.Unit.Store
import QualityGate.Proofs.Unit.View

/-!
# A project in memory behaves as maps

The stores of a project in memory are association lists with one entry for a key, so they behave as
maps as long as no port is made to fail (`mapLike_verifier`).  Whatever fails, the stored manifests
are touched by their own store alone (`keyed_verifier`), and a run changes nothing but the recorded
calls and the marker (`leaves_context`).
-/

namespace QualityGate.MemoryProject

variable {α : Type}

/-! ### Association lists -/

/-- The list as a map has the new value at its key. -/
theorem lookup_put (key : String) (value : α) (entries : List (String × α)) :
    (fun other => (put key value entries).lookup other) =
      Function.update (fun other => entries.lookup other) key (some value) := by
  funext other
  by_cases same : other = key
  · subst same
    rw [Function.update_self, put, List.lookup_cons_self]
  · have notIt : (other == key) = false := by simpa using same
    rw [Function.update_of_ne same, put, List.lookup_cons, notIt]
    exact lookup_filter_ne same entries

theorem lookup_delete_self (key : String) (entries : List (String × α)) :
    (delete key entries).lookup key = none := by
  rw [List.lookup_eq_none_iff]
  intro entry mem
  have kept : (entry.1 != key) = true := (List.mem_filter.mp mem).2
  rw [bne_iff_ne] at kept ⊢
  exact kept.symm

/-- The list as a map has no value at its key any more. -/
theorem lookup_delete (key : String) (entries : List (String × α)) :
    (fun other => (delete key entries).lookup other) =
      Function.update (fun other => entries.lookup other) key none := by
  funext other
  by_cases same : other = key
  · subst same
    rw [Function.update_self, lookup_delete_self]
  · rw [Function.update_of_ne same]
    exact lookup_filter_ne same entries

/-! ### Ports -/

/-- What a project in memory shows. -/
def view (project : MemoryProject) : ProjectView where
  files globs :=
    match Glob.ofStrings globs with
    | .error error => .error ⟨error.message, []⟩
    | .ok globs => .ok (project.paths.filter (Glob.anyAdmits globs))
  contents := project.reader
  manifests unit := project.manifests.lookup unit
  artifacts path := project.artifacts.lookup path

theorem run_guarded {project : MemoryProject} (works : project.broken = []) (name : String)
    (operation : StateM MemoryProject α) :
    (guarded name operation).run.run project =
      (.ok (operation.run project).1, (operation.run project).2) := by
  obtain ⟨⟩ := project
  cases works
  rfl

theorem run_listMatching {project : MemoryProject} (works : project.broken = [])
    (globs : List String) :
    (listMatching globs).run.run project = (project.view.files globs, project) := by
  cases meaning : Glob.ofStrings globs with
  | error error =>
    simp only [listMatching, view, meaning]
    rfl
  | ok globs =>
    simp only [listMatching, view, meaning]
    exact run_guarded works _ _

/-- The ports of a project in memory in which nothing is broken behave as maps. -/
theorem mapLike_verifier (units : List ConfigUnit) (algorithm : Algorithm) :
    (verifier units algorithm).MapLike fun project view =>
      project.broken = [] ∧ project.view = view where
  list := by
    rintro project _ ⟨works, rfl⟩ globs
    exact ⟨project, run_listMatching works globs, works, rfl⟩
  contents := by
    rintro project _ ⟨works, rfl⟩
    exact ⟨project, rfl, works, rfl⟩
  load := by
    rintro project _ ⟨works, rfl⟩ unit
    exact ⟨project, run_guarded works _ _, works, rfl⟩
  save := by
    rintro project _ ⟨works, rfl⟩ manifest
    refine ⟨_, _, .compact, run_guarded works _ _, works, ?_⟩
    exact congrArg (fun manifests => { project.view with manifests := manifests })
      (lookup_put manifest.unit _ project.manifests)
  read := by
    rintro project _ ⟨works, rfl⟩ path
    exact ⟨project, run_guarded works _ _, works, rfl⟩
  write := by
    rintro project _ ⟨works, rfl⟩ path text
    refine ⟨_, run_guarded works _ _, works, ?_⟩
    exact congrArg (fun artifacts => { project.view with artifacts := artifacts })
      (lookup_put path text project.artifacts)

/-! ### Failures -/

/-- The stored manifests as a map. -/
def stored (project : MemoryProject) (unit : String) : Option String :=
  project.manifests.lookup unit

/-- A guarded operation does nothing, or what it is to do. -/
theorem run_guarded_cases (project : MemoryProject) (name : String)
    (operation : StateM MemoryProject α) :
    (∃ error, (guarded name operation).run.run project = (.error error, project)) ∨
      (guarded name operation).run.run project =
        (.ok (operation.run project).1, (operation.run project).2) := by
  show (∃ error, ((if project.broken.contains name then throw ⟨s!"{name} failed", []⟩
    else liftM operation : PortM MemoryProject α).run.run project) = (.error error, project)) ∨
      (if project.broken.contains name then throw ⟨s!"{name} failed", []⟩
        else liftM operation : PortM MemoryProject α).run.run project = _
  split
  · exact Or.inl ⟨_, rfl⟩
  · exact Or.inr rfl

/-- A guarded operation leaves what it leaves when it works. -/
theorem guarded_leaves {β : Type} {observe : MemoryProject → β} {project : MemoryProject}
    {name : String} {operation : StateM MemoryProject α}
    (leaves : observe (operation.run project).2 = observe project) :
    observe ((guarded name operation).run.run project).2 = observe project := by
  rcases run_guarded_cases project name operation with ⟨error, fails⟩ | works
  · rw [fails]
  · rw [works]
    exact leaves

theorem listMatching_leaves {β : Type} (observe : MemoryProject → β) (globs : List String)
    (project : MemoryProject) :
    observe ((listMatching globs).run.run project).2 = observe project := by
  unfold listMatching
  split
  · rfl
  · exact guarded_leaves rfl

theorem run_load_cases (project : MemoryProject) (unit : String) :
    (∃ error, (manifestStore.load unit).run.run project = (.error error, project)) ∨
      (manifestStore.load unit).run.run project = (.ok (stored project unit), project) :=
  run_guarded_cases project "store.load" _

theorem run_save_cases (project : MemoryProject) (manifest : Manifest) :
    (∃ error, (manifestStore.save manifest).run.run project = (.error error, project)) ∨
      (manifestStore.save manifest).run.run project = (.ok (), { project with
        manifests := put manifest.unit manifest.toJson.toCompact project.manifests }) :=
  run_guarded_cases project "store.save" _

theorem run_expire_cases (project : MemoryProject) (unit : String) :
    (∃ error, (manifestStore.expire unit).run.run project = (.error error, project)) ∨
      (manifestStore.expire unit).run.run project =
        (.ok (), { project with manifests := delete unit project.manifests }) :=
  run_guarded_cases project "store.expire" _

/-- Whatever fails, the stored manifests are kept by unit and touched by their store alone. -/
theorem keyed_verifier (units : List ConfigUnit) (algorithm : Algorithm) :
    (verifier units algorithm).Keyed stored where
  list globs project := listMatching_leaves stored globs project
  contents project := rfl
  read path project := guarded_leaves rfl
  write path text project := guarded_leaves rfl
  remove path project := guarded_leaves rfl
  load unit project := guarded_leaves rfl
  loaded := by
    intro unit project raw loaded
    change ((manifestStore.load unit).run.run project).1 = _ at loaded
    rcases run_load_cases project unit with ⟨error, fails⟩ | works
    · rw [fails] at loaded
      cases loaded
    · rw [works] at loaded
      exact (Except.ok.inj loaded).symm
  save := by
    intro manifest project other different
    show stored ((manifestStore.save manifest).run.run project).2 other = _
    rcases run_save_cases project manifest with ⟨error, fails⟩ | works
    · rw [fails]
    · rw [works]
      have put := congrFun
        (lookup_put manifest.unit manifest.toJson.toCompact project.manifests) other
      rwa [Function.update_of_ne different] at put
  expire := by
    intro unit project other different
    show stored ((manifestStore.expire unit).run.run project).2 other = _
    rcases run_expire_cases project unit with ⟨error, fails⟩ | works
    · rw [fails]
    · rw [works]
      exact lookup_filter_ne different project.manifests
  expireOwn := by
    intro unit project absent
    show stored ((manifestStore.expire unit).run.run project).2 unit = none
    rcases run_expire_cases project unit with ⟨error, fails⟩ | works
    · rw [fails]
      exact absent
    · rw [works]
      exact lookup_delete_self unit project.manifests
  expired := by
    intro unit project deleted
    change ((manifestStore.expire unit).run.run project).1 = _ at deleted
    show stored ((manifestStore.expire unit).run.run project).2 unit = none
    rcases run_expire_cases project unit with ⟨error, fails⟩ | works
    · rw [fails] at deleted
      cases deleted
    · rw [works]
      exact lookup_delete_self unit project.manifests

/-- The ports of a run change nothing but the recorded calls and the marker. -/
theorem leaves_context {β : Type} (observe : MemoryProject → β)
    (untouched : ∀ (project : MemoryProject) (calls : List Call) (baseline : Option String),
      observe { project with calls := calls, baseline := baseline } = observe project)
    (drift : DriftGate MemoryProject) (secondary : Option SecondarySuite)
    (defaultTimeoutSecs : Nat) (fileScope : FileScope) :
    (context drift secondary defaultTimeoutSecs fileScope).Leaves observe := by
  intro value
  have same {α : Type} {operation : StateM MemoryProject α}
      (leaves : ∀ project, observe (operation.run project).2 = observe project) :
      Keeps (fun project => observe project = value) operation :=
    fun project holds => (leaves project).trans holds
  have records (call : Call) : Keeps (fun project => observe project = value) (record call) :=
    same fun project => untouched project (call :: project.calls) project.baseline
  exact {
    execute := fun invocation => by
      refine Keeps.bindExcept (records _) fun _ => ?_
      refine Keeps.bindExcept (same fun _ => rfl) fun project => ?_
      dsimp only
      split <;> exact same fun _ => rfl
    dirExists := fun path => same fun _ => rfl
    fileExists := fun path => same fun _ => rfl
    anyMatches := fun globs => by
      refine Keeps.bind (same (listMatching_leaves observe globs)) fun listing => ?_
      cases listing <;> exact Keeps.pure _
    anyModifiedAfter := fun subtrees since => (records _).bind fun _ => same fun _ => rfl
    changedPaths := by
      refine Keeps.bindExcept (records _) fun _ => ?_
      refine Keeps.bindExcept (same fun _ => rfl) fun project => ?_
      split <;> exact same fun _ => rfl
    loadMarker := same fun _ => guarded_leaves rfl
    saveMarker := fun instant => same fun project => guarded_leaves (untouched project _ _)
    now := same fun _ => rfl
    ticks := same fun _ => rfl }

end QualityGate.MemoryProject
