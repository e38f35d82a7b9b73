-- What a workspace remembers: the private copies of runtime files and the directories of
-- extensions. No task makes it forget any, so a file that was resolved once is resolved to the same
-- path, with nothing changed, at any later time.
import ApkForge.Proofs.Runs
import ApkForge.Proofs.Tasks
import Mathlib.Data.List.Forall2

namespace ApkForge

variable {ε δ S ρ α β : Type}

/-! ## Where work leads -/

/-- Whatever the state, work leads from it to one in `R` with it, whether it succeeds or not. -/
def Leads (R : S → S → Prop) (x : ExceptT ε (StateM S) α) : Prop := ∀ s, R s (x.run s).2

section

variable {R R' : S → S → Prop} {x : ExceptT ε (StateM S) α}

theorem Leads.mono (h : Leads R x) (himp : ∀ s s', R s s' → R' s s') : Leads R' x :=
  fun s => himp _ _ (h s)

variable [Std.Refl R]

theorem leads_pure (a : α) : Leads R (pure a : ExceptT ε (StateM S) α) := fun s => Std.Refl.refl s

theorem leads_throw (e : ε) : Leads R (throw e : ExceptT ε (StateM S) α) :=
  fun s => Std.Refl.refl s

theorem leads_get : Leads R (get : ExceptT ε (StateM S) S) := fun s => Std.Refl.refl s

variable [Trans R R R]

omit [Std.Refl R] in
theorem Leads.bind {f : α → ExceptT ε (StateM S) β} (hx : Leads R x) (hf : ∀ a, Leads R (f a)) :
    Leads R (x >>= f) := by
  intro s
  have hs := hx s
  rw [run_bind]
  rcases hr : x.run s with ⟨e | a, s'⟩
  · rw [hr] at hs
    exact hs
  · rw [hr] at hs
    exact Trans.trans hs (hf a s')

theorem leads_forM {f : α → ExceptT ε (StateM S) PUnit} (h : ∀ a, Leads R (f a)) (as : List α) :
    Leads R (as.forM f) := by
  induction as with
  | nil => exact leads_pure _
  | cons a as ih => exact (h a).bind fun _ => ih

theorem leads_mapM {f : α → ExceptT ε (StateM S) β} (h : ∀ a, Leads R (f a)) (as : List α) :
    Leads R (as.mapM f) := by
  induction as with
  | nil => exact leads_pure _
  | cons a as ih =>
    rw [List.mapM_cons]
    exact (h a).bind fun _ => ih.bind fun _ => leads_pure _

end

/-! ## Remembering -/

/-- All that is remembered in `w` is remembered in `w'`. -/
structure Remembers (w w' : Workspace) : Prop where
  held : ∀ k p, w.resources.held.lookup k = some p → w'.resources.held.lookup k = some p
  found : ∀ c dir, w.locator.found.lookup c = some dir → w'.locator.found.lookup c = some dir

/-- What is remembered in `w` and in `w'` is the same. -/
structure SameMemory (w w' : Workspace) : Prop where
  resources : w'.resources = w.resources
  locator : w'.locator = w.locator

variable {w w' w'' : Workspace}

instance : Std.Refl Remembers := ⟨fun _ => ⟨fun _ _ h => h, fun _ _ h => h⟩⟩

theorem Remembers.trans (h : Remembers w w') (h' : Remembers w' w'') : Remembers w w'' :=
  ⟨fun k p hk => h'.held k p (h.held k p hk), fun c dir hc => h'.found c dir (h.found c dir hc)⟩

instance : Trans Remembers Remembers Remembers := ⟨Remembers.trans⟩

instance : Std.Refl SameMemory := ⟨fun _ => ⟨rfl, rfl⟩⟩

theorem SameMemory.trans (h : SameMemory w w') (h' : SameMemory w' w'') : SameMemory w w'' :=
  ⟨h'.resources.trans h.resources, h'.locator.trans h.locator⟩

instance : Trans SameMemory SameMemory SameMemory := ⟨SameMemory.trans⟩

theorem SameMemory.remembers (h : SameMemory w w') : Remembers w w' :=
  ⟨fun k p hk => by rwa [h.resources], fun c dir hc => by rwa [h.locator]⟩

/-- A row in front changes nothing of what is found under other keys. -/
theorem lookup_cons_of_lookup {k m : String} {v u : α} {rows : List (String × α)}
    (hnone : rows.lookup m = none) (h : rows.lookup k = some u) :
    ((m, v) :: rows).lookup k = some u := by
  have hne : k ≠ m := by
    rintro rfl
    rw [hnone] at h
    cases h
  have hbeq : (k == m) = false := by simp [hne]
  rw [List.lookup_cons, hbeq]
  exact h

/-! ## Tasks -/

theorem Leads.explain {R : Workspace → Workspace → Prop} {task : Task ε α} (h : Leads R task)
    (f : ε → δ) : Leads R (Task.explain f task) := h

namespace Task

theorem leads_change (f : Place → FileTree → Except ε FileTree) : Leads SameMemory (change f) := by
  intro w
  rw [run_change]
  cases f w.start w.tree with
  | ok tree => exact ⟨rfl, rfl⟩
  | error e => exact ⟨rfl, rfl⟩

theorem leads_makeDirs (p : Path) : Leads SameMemory (makeDirs p) := by
  intro w
  rw [run_makeDirs]
  exact ⟨rfl, rfl⟩

theorem leads_makeParent (p : Path) : Leads SameMemory (makeParent p) := by
  unfold makeParent
  split
  · exact leads_makeDirs _
  · exact leads_pure _

theorem leads_writeBytes (p : Path) (content : Bytes) : Leads SameMemory (writeBytes p content) :=
  (leads_makeParent p).bind fun _ => leads_change _

theorem leads_copy (source target : Path) : Leads SameMemory (copy source target) :=
  (leads_makeParent target).bind fun _ => leads_change _

theorem leads_readBytes (p : Path) : Leads SameMemory (readBytes p) := by
  intro w
  rw [run_readBytes]
  exact Std.Refl.refl w

theorem leads_readText (p : Path) : Leads SameMemory (readText p) := by
  unfold readText
  refine leads_get.bind fun w => ?_
  split
  · exact leads_pure _
  · exact leads_throw _

theorem leads_removeFile (p : Path) : Leads SameMemory (removeFile p) := by
  unfold removeFile ask
  refine (leads_get.bind fun _ => leads_pure _).bind fun there => ?_
  split
  · exact leads_change _
  · exact leads_pure _

theorem run_of_explain {f : ε → δ} {task : Task ε α} {a : α}
    (h : (explain f task).run w = (.ok a, w')) : task.run w = (.ok a, w') := by
  rw [run_explain, Prod.mk.injEq, mapError_eq_ok] at h
  exact Prod.ext h.1 h.2

/-- In `w`, and in every workspace that remembers what `w` does, the task gives `a` and changes
nothing. -/
def Known (task : Task ε α) (a : α) (w : Workspace) : Prop :=
  ∀ w', Remembers w w' → task.run w' = (.ok a, w')

theorem Known.mono {task : Task ε α} {a : α} {w w' : Workspace} (h : Known task a w)
    (hw : Remembers w w') : Known task a w' := fun _ hw' => h _ (hw.trans hw')

theorem Known.run {task : Task ε α} {a : α} {w : Workspace} (h : Known task a w) :
    task.run w = (.ok a, w) := h w (Std.Refl.refl w)

theorem Known.explain {task : Task ε α} {a : α} {w : Workspace} (h : Known task a w)
    (f : ε → δ) : Known (explain f task) a w := by
  intro w' hw'
  rw [run_explain, h w' hw']
  rfl

theorem known_of_explain {task : Task ε α} {a : α} {w : Workspace} {f : ε → δ}
    (h : Known (explain f task) a w) : Known task a w := fun w' hw' => run_of_explain (h w' hw')

theorem Known.bind {x : Task ε α} {f : α → Task ε β} {a : α} {b : β} {w : Workspace}
    (hx : Known x a w) (hf : Known (f a) b w) : Known (x >>= f) b w := by
  intro w' hw'
  rw [run_bind, hx w' hw']
  exact hf w' hw'

theorem known_pure (a : α) (w : Workspace) : Known (pure a : Task ε α) a w := fun _ _ => rfl

theorem known_mapM {f : α → Task ε β} {as : List α} {bs : List β} {w : Workspace}
    (h : List.Forall₂ (fun a b => Known (f a) b w) as bs) : Known (as.mapM f) bs w := by
  induction h with
  | nil => exact known_pure [] w
  | cons ha _ ih =>
    rw [List.mapM_cons]
    exact ha.bind (ih.bind (known_pure _ w))

/-- The task forgets nothing, and what it gives once it gives from then on. -/
structure Settles (task : Task ε α) : Prop where
  keeps : Leads Remembers task
  lasts : ∀ w a, (task.run w).1 = .ok a → Known task a (task.run w).2

theorem Settles.known {task : Task ε α} (h : Settles task) {w w' : Workspace} {a : α}
    (hr : task.run w = (.ok a, w')) : Known task a w' := by
  have hlasts := h.lasts w a (by rw [hr])
  rwa [hr] at hlasts

theorem Settles.remembers {task : Task ε α} (h : Settles task) {w w' : Workspace}
    {r : Except ε α} (hr : task.run w = (r, w')) : Remembers w w' := by
  have hkeeps := h.keeps w
  rwa [hr] at hkeeps

theorem settles_pure (a : α) : Settles (pure a : Task ε α) := by
  refine ⟨leads_pure a, ?_⟩
  rintro w _ ⟨⟩
  exact known_pure a w

theorem settles_throw (e : ε) : Settles (throw e : Task ε α) := by
  refine ⟨leads_throw e, ?_⟩
  rintro w _ ⟨⟩

theorem Settles.bind {x : Task ε α} {f : α → Task ε β} (hx : Settles x)
    (hf : ∀ a, Settles (f a)) : Settles (x >>= f) := by
  refine ⟨hx.keeps.bind fun a => (hf a).keeps, fun w b hb => ?_⟩
  rcases hr : (x >>= f).run w with ⟨r, w''⟩
  rw [hr] at hb
  rcases run_bind_cases hr with ⟨e, -, he⟩ | ⟨a, w', ha, hb'⟩
  · rw [he] at hb
    cases hb
  · simp only at hb ⊢
    rw [hb] at hb'
    exact ((hx.known ha).mono ((hf a).remembers hb')).bind ((hf a).known hb')

theorem Settles.explain {task : Task ε α} (h : Settles task) (f : ε → δ) :
    Settles (explain f task) :=
  ⟨h.keeps, fun w a ha => (h.lasts w a (mapError_eq_ok.1 ha)).explain f⟩

end Task

/-! ## Runtime files -/

namespace Resources

/-- A runtime file with a private copy is known. -/
theorem known_get {logical : String} {p : Path} {w : Workspace}
    (h : w.resources.held.lookup (key logical) = some p) : Task.Known (get logical) p w := by
  intro w' hw'
  unfold get
  rw [run_bind, Task.run_get]
  simp only
  rw [hw'.held _ p h]
  rfl

/-- Where the next private copy of a runtime file is put. -/
def target (r : Resources) (logical : String) : Path :=
  (r.scratch.join (toString r.copies)).join ((r.source (key logical)).name?.getD "resource")

/-- How a runtime file is asked for: its private copy is there, or one is made and remembered, or it
cannot be made. -/
inductive Gets (logical : String) (w : Workspace) : Except ResourceError Path → Workspace → Prop
    where
  | held {p : Path} (there : w.resources.held.lookup (key logical) = some p) :
      Gets logical w (.ok p) w
  | copied {p : Path} {w' : Workspace} (missing : w.resources.held.lookup (key logical) = none)
      (path : p = w.resources.target logical)
      (resources : w'.resources = { w.resources with
        copies := w.resources.copies + 1, held := (key logical, p) :: w.resources.held })
      (locator : w'.locator = w.locator) : Gets logical w (.ok p) w'
  | failed {w' : Workspace} (e : ResourceError) (copies : Nat)
      (more : w.resources.copies ≤ copies)
      (resources : w'.resources = { w.resources with copies := copies })
      (locator : w'.locator = w.locator) : Gets logical w (.error e) w'

/-- The copying of a runtime file changes the tree alone. -/
theorem leads_copyTo (k : String) (source target : Path) :
    Leads SameMemory (Task.explain (.notMaterialized k) do
      Task.copy source target
      Task.change fun start tree =>
        (tree.makeExecutable start target).mapError (.notCopied source target) :
      Task ResourceError Unit) :=
  ((Task.leads_copy source target).bind fun _ => Task.leads_change _).explain _

theorem gets_of_run {logical : String} {r : Except ResourceError Path}
    (h : (get logical).run w = (r, w')) : Gets logical w r w' := by
  unfold get at h
  rw [run_bind, Task.run_get] at h
  simp only at h
  cases hheld : w.resources.held.lookup (key logical) with
  | some p =>
    rw [hheld] at h
    cases h
    exact .held hheld
  | none =>
    rw [hheld] at h
    simp only at h
    split at h
    · cases h
      exact .failed _ _ (Nat.le_refl _) rfl rfl
    · rcases run_bind_cases h with ⟨e, he, -⟩ | ⟨_, w₁, h₁, hcopy⟩
      · cases he
      cases h₁
      rcases run_bind_cases hcopy with ⟨e, he, rfl⟩ | ⟨_, w₂, h₂, hnote⟩
      · have hsame := congrArg Prod.snd he ▸ leads_copyTo (key logical) _ _ _
        exact .failed e _ (Nat.le_succ _) hsame.resources hsame.locator
      · have hsame := congrArg Prod.snd h₂ ▸ leads_copyTo (key logical) _ _ _
        rcases run_bind_cases hnote with ⟨e, he, -⟩ | ⟨_, w₃, h₃, hr⟩
        · cases he
        cases h₃
        cases hr
        have hresources : w₂.resources =
            { w.resources with copies := w.resources.copies + 1 } := hsame.resources
        refine .copied hheld rfl ?_ hsame.locator
        simp only [hresources]

/-- What was given is known. -/
theorem Gets.known {logical : String} {p : Path} (h : Gets logical w (.ok p) w') :
    Task.Known (get logical) p w' := by
  cases h with
  | held there => exact known_get there
  | copied missing path resources locator =>
    refine known_get ?_
    rw [resources]
    exact List.lookup_cons_self

theorem settles_get (logical : String) : Task.Settles (get logical) := by
  constructor
  · intro w
    rcases h : (get logical).run w with ⟨r, w'⟩
    have hgets := gets_of_run h
    clear h
    cases hgets with
    | held there => exact Std.Refl.refl _
    | copied missing path resources locator =>
      refine ⟨fun k p hk => ?_, fun c dir hc => by rwa [locator]⟩
      rw [resources]
      exact lookup_cons_of_lookup missing hk
    | failed e copies more resources locator =>
      exact ⟨fun k p hk => by rw [resources]; exact hk, fun c dir hc => by rwa [locator]⟩
  · intro w p hp
    rcases h : (get logical).run w with ⟨r, w'⟩
    rw [h] at hp
    simp only at hp
    subst hp
    exact (gets_of_run h).known

end Resources

/-! ## Extensions -/

namespace Locator

/-- The directory of an extension that was found is known. -/
theorem known_locate {component : String} {dir : Path}
    (h : w.locator.found.lookup component = some dir) : Task.Known (locate component) dir w := by
  intro w' hw'
  unfold locate
  rw [run_bind, Task.run_get]
  simp only
  rw [hw'.found _ dir h]
  rfl

/-- How an extension is looked for: its directory was found before, or it is found and remembered,
or it is not found. -/
inductive Locates (component : String) (w : Workspace) : Except LocatorError Path → Workspace → Prop
    where
  | found {dir : Path} (there : w.locator.found.lookup component = some dir) :
      Locates component w (.ok dir) w
  | searched {dir : Path} {w' : Workspace} (missing : w.locator.found.lookup component = none)
      (resources : w'.resources = w.resources)
      (locator : w'.locator.found = (component, dir) :: w.locator.found) :
      Locates component w (.ok dir) w'
  | failed {w' : Workspace} (e : LocatorError) (resources : w'.resources = w.resources)
      (locator : w'.locator.found = w.locator.found) : Locates component w (.error e) w'

theorem locates_of_run {component : String} {r : Except LocatorError Path}
    (h : (locate component).run w = (r, w')) : Locates component w r w' := by
  unfold locate at h
  rw [run_bind, Task.run_get] at h
  simp only at h
  cases hfound : w.locator.found.lookup component with
  | some dir =>
    rw [hfound] at h
    cases h
    exact .found hfound
  | none =>
    rw [hfound] at h
    simp only at h
    split at h
    · cases h
      exact .failed _ rfl rfl
    · split at h
      · rcases run_bind_cases h with ⟨e, he, -⟩ | ⟨_, w₁, h₁, hr⟩
        · cases he
        cases h₁
        cases hr
        exact .searched hfound rfl rfl
      · rcases run_bind_cases h with ⟨e, he, -⟩ | ⟨_, w₁, h₁, hr⟩
        · cases he
        cases h₁
        cases hr
        exact .failed _ rfl rfl

theorem settles_locate (component : String) : Task.Settles (locate component) := by
  constructor
  · intro w
    rcases h : (locate component).run w with ⟨r, w'⟩
    cases locates_of_run h with
    | found there => exact Std.Refl.refl _
    | searched missing resources locator =>
      refine ⟨fun k p hk => by rwa [resources], fun c dir hc => ?_⟩
      rw [locator]
      exact lookup_cons_of_lookup missing hc
    | failed e resources locator =>
      exact ⟨fun k p hk => by rwa [resources], fun c dir hc => by rwa [locator]⟩
  · intro w dir hdir
    rcases h : (locate component).run w with ⟨r, w'⟩
    rw [h] at hdir
    simp only at hdir
    subst hdir
    cases locates_of_run h with
    | found there => exact known_locate there
    | searched missing resources locator =>
      refine known_locate ?_
      rw [locator]
      exact List.lookup_cons_self

theorem settles_filesDir (component : String) : Task.Settles (filesDir component) :=
  (settles_locate component).bind fun _ => Task.settles_pure _

theorem settles_runtimeJar (component : String) : Task.Settles (runtimeJar component) :=
  (settles_filesDir component).bind fun _ => Task.settles_pure _

theorem settles_file (component relative : String) : Task.Settles (file component relative) :=
  (settles_filesDir component).bind fun _ => Task.settles_pure _

end Locator

theorem Components.settles_resolve (sets : ComponentSets) (typeName relative : String) :
    Task.Settles (resolve sets typeName relative) := by
  unfold resolve
  split
  · exact ((Resources.settles_get _).explain _).bind fun _ => Task.settles_pure _
  · split
    · exact ((Locator.settles_file _ _).explain _).bind fun _ => Task.settles_pure _
    · exact Task.settles_throw _

/-! ## Steps -/

/-- A relation along which work on files leads, and the asking for runtime files and extensions. -/
class Lasting (R : Workspace → Workspace → Prop) : Prop where
  trans : ∀ {w w' w''}, R w w' → R w' w'' → R w w''
  same : ∀ {w w'}, SameMemory w w' → R w w'
  get : ∀ logical, Leads R (Resources.get logical)
  locate : ∀ component, Leads R (Locator.locate component)

instance : Lasting Remembers where
  trans := Remembers.trans
  same := SameMemory.remembers
  get logical := (Resources.settles_get logical).keeps
  locate component := (Locator.settles_locate component).keeps

/-- The workspaces of two sessions are related. -/
def Session.Along (R : Workspace → Workspace → Prop) (σ σ' : Session ρ) : Prop :=
  R σ.workspace σ'.workspace

section

variable {R : Workspace → Workspace → Prop} [Lasting R]

instance : Std.Refl R := ⟨fun w => Lasting.same (Std.Refl.refl w)⟩

instance : Trans R R R := ⟨Lasting.trans⟩

instance : Std.Refl (Session.Along (ρ := ρ) R) := ⟨fun σ => Std.Refl.refl (r := R) σ.workspace⟩

instance : Trans (Session.Along (ρ := ρ) R) (Session.Along R) (Session.Along R) :=
  ⟨Lasting.trans⟩

end

namespace Step

variable {R : Workspace → Workspace → Prop}

/-- The step leads along `R`. -/
abbrev Keeps (R : Workspace → Workspace → Prop) (x : Step ρ α) : Prop := Leads (Session.Along R) x

theorem keeps_work {task : Task BuildError α} (h : Leads R task) :
    Keeps R (work task : Step ρ α) := by
  intro σ
  rw [run_work]
  exact h σ.workspace

theorem keeps_within {task : Task Cause α} (h : Leads R task) (stage : Stage) :
    Keeps R (within stage task : Step ρ α) := by
  unfold within
  exact keeps_work (h.explain _)

variable [Lasting R]

theorem keeps_onFiles {task : Task FilesError α} (h : Leads SameMemory task) (stage : Stage) :
    Keeps R (onFiles stage task : Step ρ α) := by
  unfold onFiles
  exact keeps_within ((h.mono fun _ _ => Lasting.same).explain _) stage

theorem keeps_resource (stage : Stage) (logical : String) :
    Keeps R (resource stage logical : Step ρ Path) := by
  unfold resource
  exact keeps_within ((Lasting.get logical).explain _) stage

theorem keeps_tool (stage : Stage) (find : FileTree → Place → Except ToolchainError α) :
    Keeps R (tool stage find : Step ρ α) := by
  unfold tool
  refine leads_get.bind fun σ => ?_
  split
  · exact leads_pure _
  · exact leads_throw _

theorem keeps_record (e : Event) : Keeps R (record e : Step ρ Unit) :=
  fun σ => Std.Refl.refl (r := R) σ.workspace

theorem keeps_call (runner : Runner ρ) (stage : Stage) (command : Command) (seconds : Nat) :
    Keeps R (call runner stage command seconds) := by
  intro σ
  rw [run_call]
  exact Lasting.same (R := R) ⟨rfl, rfl⟩

theorem keeps_callSuccessfully (runner : Runner ρ) (stage : Stage) (command : Command)
    (seconds : Nat) : Keeps R (callSuccessfully runner stage command seconds) := by
  unfold callSuccessfully
  refine (keeps_call runner stage command seconds).bind fun output => ?_
  split
  · exact leads_throw _
  · exact leads_pure _

omit [Lasting R] in
theorem Keeps.holding (heap : Nat) {x : Step ρ α} (h : Keeps R x) : Keeps R (holding heap x) :=
  fun σ => h (σ.add (.acquired heap))

end Step

end ApkForge
