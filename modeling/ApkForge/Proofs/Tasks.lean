-- What a task leaves of its workspace. A task ends where its parts end, so what each of them gives
-- and which files it writes can be said once and put together.
import ApkForge.Proofs.Frames
import ApkForge.Proofs.Records

namespace ApkForge

variable {ε δ α β : Type}

/-! ## Running a task -/

namespace Task

theorem run_get (w : Workspace) : (MonadState.get : Task ε Workspace).run w = (.ok w, w) := rfl

theorem run_set (w' w : Workspace) :
    (set w' : Task ε PUnit).run w = (.ok ⟨⟩, w') := rfl

theorem run_explain (f : ε → δ) (task : Task ε α) (w : Workspace) :
    (explain f task).run w = ((task.run w).1.mapError f, (task.run w).2) := rfl

theorem run_change (f : Place → FileTree → Except ε FileTree) (w : Workspace) :
    (change f).run w = match f w.start w.tree with
      | .ok tree => (.ok (), { w with tree })
      | .error e => (.error e, w) := by
  unfold change
  rw [run_bind, run_get]
  simp only
  cases f w.start w.tree <;> rfl

theorem run_makeDirs (p : Path) (w : Workspace) : (makeDirs p).run w =
    ((w.tree.makeDirs w.start p).1.mapError (.notMade p),
      { w with tree := (w.tree.makeDirs w.start p).2 }) := by
  unfold makeDirs
  rw [run_bind, run_get]
  simp only
  rcases w.tree.makeDirs w.start p with ⟨fault | _, tree⟩
  · rfl
  · rfl

theorem run_readBytes (p : Path) (w : Workspace) :
    (readBytes p).run w = ((w.tree.read w.start p).mapError (.notRead p), w) := by
  unfold readBytes
  rw [run_bind, run_get]
  simp only
  cases w.tree.read w.start p <;> rfl

theorem run_readText (p : Path) (w : Workspace) :
    (readText p).run w = ((w.tree.readText w.start p).mapError (.notRead p), w) := by
  unfold readText
  rw [run_bind, run_get]
  simp only
  cases w.tree.readText w.start p <;> rfl

theorem exists_run {task : Task ε α} {a : α} {w : Workspace} (h : (task.run w).1 = .ok a) :
    ∃ w', task.run w = (.ok a, w') := ⟨_, Prod.ext h rfl⟩

theorem run_isFile (p : Path) (w : Workspace) :
    (isFile p : Task ε Bool).run w = (.ok (w.tree.isFile w.start p), w) := rfl

theorem mapError_eq_ok {f : ε → δ} {x : Except ε α} {a : α} :
    x.mapError f = .ok a ↔ x = .ok a := by
  cases x with
  | error e =>
    constructor
    · intro h
      cases h
    · intro h
      cases h
  | ok b =>
    constructor
    · intro h
      cases h
      rfl
    · intro h
      cases h
      rfl

/-! ## What a task gives -/

/-- What a task gives, whatever the workspace. -/
def Yields (task : Task ε α) (P : α → Prop) : Prop := ∀ w a, (task.run w).1 = .ok a → P a

theorem yields_pure {P : α → Prop} {a : α} (h : P a) : Yields (pure a : Task ε α) P := by
  rintro w _ ⟨⟩
  exact h

theorem yields_throw {P : α → Prop} (e : ε) : Yields (throw e : Task ε α) P := by
  rintro w _ ⟨⟩

/-- What a task gives is what its last part gives. -/
theorem yields_bind {x : Task ε α} {f : α → Task ε β} {P : β → Prop} (h : ∀ a, Yields (f a) P) :
    Yields (x >>= f) P := by
  intro w b hb
  rw [run_bind] at hb
  rcases hr : x.run w with ⟨e | a, w'⟩
  · rw [hr] at hb
    cases hb
  · rw [hr] at hb
    exact h a w' b hb

/-! ## What a task writes -/

/-- In every workspace with this start and this private directory, the task keeps both and writes
no file outside `S`, whether it succeeds or not. -/
def WritesOnly (start : Place) (scratch : Path) (S : Place → Prop) (task : Task ε α) : Prop :=
  ∀ w, w.start = start → w.resources.scratch = scratch →
    (task.run w).2.start = start ∧ (task.run w).2.resources.scratch = scratch ∧
      FileTree.Writes S w.tree (task.run w).2.tree

variable {start : Place} {scratch : Path} {S S' : Place → Prop}

theorem WritesOnly.mono {task : Task ε α} (h : WritesOnly start scratch S task)
    (himp : ∀ place, S place → S' place) : WritesOnly start scratch S' task := by
  intro w hstart hscratch
  obtain ⟨h1, h2, h3⟩ := h w hstart hscratch
  exact ⟨h1, h2, h3.mono himp⟩

/-- A task that leaves the tree, the start and the private directory alone writes nothing. -/
theorem writesOnly_of_same {task : Task ε α}
    (h : ∀ w, (task.run w).2.start = w.start ∧
      (task.run w).2.resources.scratch = w.resources.scratch ∧
      (task.run w).2.tree = w.tree) : WritesOnly start scratch S task := by
  intro w hstart hscratch
  obtain ⟨h1, h2, h3⟩ := h w
  rw [h1, h2, h3]
  exact ⟨hstart, hscratch, FileTree.writes_refl S w.tree⟩

theorem writesOnly_pure (a : α) : WritesOnly start scratch S (pure a : Task ε α) :=
  writesOnly_of_same fun _ => ⟨rfl, rfl, rfl⟩

theorem writesOnly_throw (e : ε) : WritesOnly start scratch S (throw e : Task ε α) :=
  writesOnly_of_same fun _ => ⟨rfl, rfl, rfl⟩

theorem WritesOnly.bind_of {x : Task ε α} {f : α → Task ε β} {P : α → Prop}
    (hx : WritesOnly start scratch S x) (hy : Yields x P)
    (hf : ∀ a, P a → WritesOnly start scratch S (f a)) :
    WritesOnly start scratch S (x >>= f) := by
  intro w hstart hscratch
  obtain ⟨h1, h2, h3⟩ := hx w hstart hscratch
  rw [run_bind]
  rcases hr : x.run w with ⟨e | a, w'⟩
  · rw [hr] at h1 h2 h3
    exact ⟨h1, h2, h3⟩
  · rw [hr] at h1 h2 h3
    obtain ⟨h1', h2', h3'⟩ := hf a (hy w a (by rw [hr])) w' h1 h2
    exact ⟨h1', h2', h3.trans h3'⟩

theorem WritesOnly.bind {x : Task ε α} {f : α → Task ε β} (hx : WritesOnly start scratch S x)
    (hf : ∀ a, WritesOnly start scratch S (f a)) : WritesOnly start scratch S (x >>= f) :=
  hx.bind_of (P := fun _ => True) (fun _ _ _ => trivial) fun a _ => hf a

theorem WritesOnly.explain {task : Task ε α} (h : WritesOnly start scratch S task) (f : ε → δ) :
    WritesOnly start scratch S (Task.explain f task) := h

theorem writesOnly_forM {f : α → Task ε PUnit} {as : List α}
    (h : ∀ a ∈ as, WritesOnly start scratch S (f a)) : WritesOnly start scratch S (as.forM f) := by
  induction as with
  | nil => exact writesOnly_pure _
  | cons a rest ih =>
    exact (h a (List.mem_cons_self ..)).bind fun _ =>
      ih fun b hb => h b (List.mem_cons_of_mem _ hb)

theorem writesOnly_change {f : Place → FileTree → Except ε FileTree}
    (h : ∀ t t', f start t = .ok t' → FileTree.Writes S t t') :
    WritesOnly start scratch S (change f) := by
  intro w hstart hscratch
  rw [run_change]
  cases hf : f w.start w.tree with
  | error e => exact ⟨hstart, hscratch, FileTree.writes_refl S w.tree⟩
  | ok tree =>
    rw [hstart] at hf
    exact ⟨hstart, hscratch, h _ _ hf⟩

/-- Making directories writes no file at all. -/
theorem writesOnly_makeDirs (p : Path) : WritesOnly start scratch S (makeDirs p) := by
  intro w hstart hscratch
  rw [run_makeDirs]
  exact ⟨hstart, hscratch, (FileTree.writes_makeDirs w.tree w.start p).mono fun _ h => h.elim⟩

theorem writesOnly_makeParent (p : Path) : WritesOnly start scratch S (makeParent p) := by
  unfold makeParent
  split
  · exact writesOnly_makeDirs _
  · exact writesOnly_pure _

/-- A copy writes the file that its target names. -/
theorem writesOnly_copy (source target : Path) :
    WritesOnly start scratch (FileTree.Target start target) (copy source target) := by
  unfold copy
  refine (writesOnly_makeParent target).bind fun _ => writesOnly_change fun t t' h => ?_
  exact FileTree.writes_copy (mapError_eq_ok.1 h)

end Task

end ApkForge
