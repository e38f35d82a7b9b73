-- What work on one file leaves alone. Directories are made on the way to it and nowhere else, and
-- what may stand at other places is kept. So the numbers that the cache of runtime files has not
-- given out stay free: a call takes one at most, and work elsewhere takes none.
import ApkForge.Proofs.Servings

namespace ApkForge

variable {ε α : Type} {w w' : Workspace}

/-! ## One file -/

/-- Directories are made on the way to a path. -/
def FileTree.onTheWay (t₀ : FileTree) (start : Place) (p : Path) : Upkeep where
  Holds t := ∀ q, ¬ p.Along start q → t.at? q = t₀.at? q
  Makes q := p.Along start q
  Writes _ := False
  Copies _ := False
  Removes _ := False
  same h hsame q hq := (hsame q).trans (h q hq)
  make := by
    intro t place h hmakes _ _ q hq
    have hne : q ≠ place := by
      rintro rfl
      exact hq hmakes
    rw [at?_put_of_ne t hne]
    exact h q hq
  write _ h := h.elim
  copy _ h := h.elim
  remove _ h := h.elim

theorem FileTree.Paved.not_sink {t t' : FileTree} {place : Place} (h : Paved t t' place)
    (hsink : t.at? place ≠ some .sink) : t'.at? place ≠ some .sink := by
  rcases h with hsame | ⟨-, hdir⟩
  · rwa [hsame]
  · simp [hdir]

theorem FileTree.Paved.file? {t t' : FileTree} {place : Place} (h : Paved t t' place) :
    t'.file? place = t.file? place := by
  unfold FileTree.file?
  rcases h with hsame | ⟨hnone, hdir⟩
  · rw [hsame]
  · rw [hnone, hdir]

namespace Task

variable {p source target : Path} {u : Unit}

/-- The tree with the directory of a path made. -/
theorem made_of_run (h : (makeParent p).run w = (.ok u, w')) : ∃ t, w' = { w with tree := t } ∧
    (∀ q, FileTree.Paved w.tree t q) ∧ ∀ q, ¬ p.Along w.start q → t.at? q = w.tree.at? q := by
  unfold makeParent at h
  split at h
  · rename_i dir hdir
    rw [run_makeDirs, Prod.mk.injEq] at h
    refine ⟨_, h.2.symm, FileTree.paved_makeDirs _ _ _, ?_⟩
    exact Upkeep.holds_makeDirs (u := w.tree.onTheWay w.start p) (fun _ _ => rfl)
      fun q hq => (Path.Above.parent hdir hq).along
  · cases h
    exact ⟨w.tree, rfl, fun q => .inl rfl, fun _ _ => rfl⟩

/-- A file that was written, where no device takes it, is found with its content. -/
theorem written_of_run {content : Bytes} (h : (writeBytes p content).run w = (.ok u, w'))
    (hsink : w.tree.at? (p.place w.start) ≠ some .sink) : ∃ t executable,
    w' = { w with tree := t } ∧
      t.stat w.start p = .ok (p.place w.start, .file content executable) ∧
      (∀ q, w.tree.at? q = some .dir → t.at? q = some .dir) ∧
      ∀ q, ¬ p.Along w.start q → t.at? q = w.tree.at? q := by
  unfold writeBytes at h
  rcases run_bind_cases h with ⟨e, -, he⟩ | ⟨_, w₁, hmade, hwrite⟩
  · cases he
  obtain ⟨t₁, rfl, hpaved, hway⟩ := made_of_run hmade
  rw [run_change] at hwrite
  cases hwritten : t₁.write w.start p content with
  | error fault =>
    simp only [hwritten, Except.mapError] at hwrite
    cases hwrite
  | ok t₂ =>
    simp only [hwritten, Except.mapError] at hwrite
    cases hwrite
    unfold FileTree.write at hwritten
    rw [FileTree.bind_eq_ok] at hwritten
    obtain ⟨⟨place, entry⟩, hwritable, hput⟩ := hwritten
    cases hput
    have hnodir := (FileTree.target_of_writable hwritable).2
    obtain ⟨rfl, ⟨rfl, hsink₁⟩ | ⟨old, executable, rfl, -⟩⟩ :=
      FileTree.takes_of_writable hwritable
    · exact absurd hsink₁ ((hpaved _).not_sink hsink)
    · refine ⟨_, executable, rfl, FileTree.stat_put_of_writable hwritable _ _, fun q hq => ?_,
        fun q hq => ?_⟩
      · exact (FileTree.writes_put hnodir _).dirs q ((hpaved q).keeps hq)
      · have hne : q ≠ p.place w.start := by
          rintro rfl
          exact hq (Path.along_self p w.start)
        rw [FileTree.at?_put_of_ne t₁ hne]
        exact hway q hq

/-- A file that was copied to another place, where no device takes it, is found with the content of
the first. -/
theorem copied_of_run (h : (copy source target).run w = (.ok u, w'))
    (hsink : w.tree.at? (target.place w.start) ≠ some .sink)
    (hne : target.place w.start ≠ source.place w.start) : ∃ t content executable,
    w' = { w with tree := t } ∧
      w.tree.file? (source.place w.start) = some (content, executable) ∧
      t.stat w.start target = .ok (target.place w.start, .file content executable) := by
  unfold copy at h
  rcases run_bind_cases h with ⟨e, -, he⟩ | ⟨_, w₁, hmade, hcopy⟩
  · cases he
  obtain ⟨t₁, rfl, hpaved, -⟩ := made_of_run hmade
  rw [run_change] at hcopy
  cases hcopied : t₁.copy w.start source target with
  | error fault =>
    simp only [hcopied, Except.mapError] at hcopy
    cases hcopy
  | ok t₂ =>
    simp only [hcopied, Except.mapError] at hcopy
    cases hcopy
    unfold FileTree.copy at hcopied
    rw [FileTree.bind_eq_ok] at hcopied
    obtain ⟨⟨origin, found⟩, hstat, hcopied⟩ := hcopied
    obtain ⟨rfl, hat⟩ := FileTree.place_of_stat hstat
    cases found with
    | dir => cases hcopied
    | sink => cases hcopied
    | file content executable =>
      simp only at hcopied
      rw [FileTree.bind_eq_ok] at hcopied
      obtain ⟨⟨place, entry⟩, hwritable, hput⟩ := hcopied
      obtain ⟨rfl, ⟨rfl, hsink₁⟩ | ⟨old, was, rfl, -⟩⟩ := FileTree.takes_of_writable hwritable
      · exact absurd hsink₁ ((hpaved _).not_sink hsink)
      · simp only [if_neg hne] at hput
        cases hput
        refine ⟨_, content, executable, rfl, ?_, FileTree.stat_put_of_writable hwritable _ _⟩
        rw [← (hpaved (source.place w.start)).file?]
        simp only [FileTree.file?, hat]

end Task

/-! ## What may stand -/

/-- At places in `S` stands only what `A` admits. -/
def FileTree.Admits (t : FileTree) (S : Place → Prop) (A : Entry → Prop) : Prop :=
  ∀ q, S q → ∀ entry, t.at? q = some entry → A entry

theorem FileTree.Admits.put {t : FileTree} {S : Place → Prop} {A : Entry → Prop}
    (h : t.Admits S A) {place : Place} (hroot : place ≠ []) {entry : Entry}
    (hentry : S place → A entry) : (t.put place entry).Admits S A := by
  intro q hq found hat
  by_cases heq : q = place
  · subst heq
    rw [at?_put_self t hroot] at hat
    cases hat
    exact hentry hq
  · rw [at?_put_of_ne t heq] at hat
    exact h q hq found hat

/-- Where directories are admitted, work keeps to what is admitted if it puts files only where they
are. -/
def Upkeep.admitting (S : Place → Prop) (A : Entry → Prop) (hdir : A .dir) : Upkeep where
  Holds t := t.Admits S A
  Makes _ := True
  Writes q := S q → ∀ content executable, A (.file content executable)
  Copies q := S q → ∀ content executable, A (.file content executable)
  Removes _ := True
  same h hsame q hq entry hat := h q hq entry (by rwa [← hsame])
  make := by
    intro t place h _ hnone _
    have hroot : place ≠ [] := by
      rintro rfl
      cases hnone
    exact h.put hroot fun _ => hdir
  write := by
    intro t place content executable h hwrites htakes _
    exact h.put (FileTree.ne_nil_of_not_dir htakes.not_dir) fun hin => hwrites hin _ _
  copy := by
    intro t place content executable h hcopies htakes
    exact h.put (FileTree.ne_nil_of_not_dir htakes.not_dir) fun hin => hcopies hin _ _
  remove := by
    intro t place h _ hnodir q hq entry hat
    by_cases heq : q = place
    · subst heq
      rw [FileTree.at?_drop_self t (FileTree.ne_nil_of_not_dir hnodir)] at hat
      cases hat
    · rw [FileTree.at?_drop_of_ne t heq] at hat
      exact h q hq entry hat

namespace Resources

/-- The place belongs to a copy from the given number on. -/
def Unissued (w : Workspace) (n : Nat) (place : Place) : Prop :=
  ∃ i, n ≤ i ∧ (w.resources.numbered i).place w.start <+: place

/-- Nothing but directories stands where copies from a number on belong. -/
def room (w : Workspace) (n : Nat) : Upkeep := .admitting (Unissued w n) (· = .dir) rfl

/-- Where a workspace is. -/
def site (w : Workspace) : Site := ⟨w.start, w.resources.root, w.resources.scratch⟩

theorem vacant_iff : Vacant w ↔ (room w w.resources.copies).Holds w.tree := by
  have hfree : ∀ place, w.tree.Free place ↔
      ∀ entry, w.tree.at? place = some entry → entry = .dir := by
    intro place
    unfold FileTree.Free
    cases w.tree.at? place with
    | none => simp
    | some entry => simp
  constructor
  · rintro h place ⟨i, hi, hin⟩
    exact (hfree place).1 (h i hi place hin)
  · intro h i hi place hin
    exact (hfree place).2 (h place ⟨i, hi, hin⟩)

/-- Where nothing stands in the private directory, all numbers are free. -/
theorem vacant_of_entries (h : ∀ e ∈ w.tree.entries,
    ¬ Below (w.resources.scratch.place w.start) e.1) : Vacant w := by
  intro i _ place hin
  have hbelow := below_of_numbered hin
  refine .inl ?_
  cases hat : w.tree.at? place with
  | none => rfl
  | some entry =>
    cases place with
    | nil => exact absurd (List.prefix_nil.1 hbelow.1).symm hbelow.2
    | cons n ns =>
      obtain ⟨front, back, heq, -⟩ := List.lookup_eq_some_iff.1 hat
      exact absurd hbelow (h (n :: ns, entry) (by simp [heq]))

/-- A call takes one number at most, and none if it changes nothing else. -/
theorem copies_of_get (logical : String) (w : Workspace) : ((get logical).run w).2 = w ∨
    ((get logical).run w).2.resources.copies = w.resources.copies + 1 := by
  cases hheld : w.resources.held.lookup (key logical) with
  | some p =>
    rw [(known_get hheld).run]
    exact .inl rfl
  | none =>
    cases hthere : has logical w with
    | false =>
      rw [run_get_missing hheld hthere]
      exact .inl rfl
    | true =>
      rw [run_get_new hheld hthere]
      refine .inr ?_
      rcases hrun : (copying (key logical) (w.resources.source logical)
          (w.resources.target logical)).run
        { w with resources := { w.resources with copies := w.resources.copies + 1 } } with ⟨r, w₂⟩
      have hsame := congrArg Prod.snd hrun ▸ leads_copyTo (key logical) _ _ _
      have hcopies : w₂.resources.copies = w.resources.copies + 1 := by rw [hsame.resources]
      rw [run_bind, hrun]
      cases r with
      | error e => exact hcopies
      | ok u => exact hcopies

/-- Where a copy with this number is put belongs to no later number. -/
theorem not_unissued_of_numbered {n i : Nat} (h : i < n) {name : String}
    (hname : Path.IsPlain name) :
    ¬ Unissued w n (((w.resources.numbered i).join name).place w.start) := by
  rintro ⟨j, hj, hin⟩
  have heq := number_of_prefix hname hin
  omega

/-- After a call the numbers that are left are free. -/
theorem Vacant.get (h : Vacant w) (logical : String) :
    Vacant ((Resources.get logical).run w).2 := by
  rcases copies_of_get logical w with hsame | hcopies
  · rwa [hsame]
  · have hholds : (room w (w.resources.copies + 1)).Holds w.tree := by
      rintro place ⟨i, hi, hin⟩
      exact vacant_iff.1 h place ⟨i, by omega, hin⟩
    have hat : (room w (w.resources.copies + 1)).At (site w) w := ⟨rfl, rfl, rfl, hholds⟩
    have hafter := (Upkeep.at_get hat
      (fun name hname => ⟨fun _ _ _ _ => trivial, fun hin =>
        absurd hin (not_unissued_of_numbered (Nat.lt_succ_self _) hname)⟩) logical).1
    refine vacant_iff.2 ?_
    rw [hcopies]
    unfold room Unissued numbered
    rw [hafter.start, hafter.scratch]
    exact hafter.tree

/-- Work that asks for no runtime file leaves the numbers free, if it puts no file there. -/
theorem Vacant.safe {E : ε → Prop} (h : Vacant w) {task : Task ε α}
    (hsafe : Safe ((room w w.resources.copies).At (site w)) E task)
    (hresources : (task.run w).2.resources = w.resources) : Vacant (task.run w).2 := by
  have hafter := (hsafe w ⟨rfl, rfl, rfl, vacant_iff.1 h⟩).1
  refine vacant_iff.2 ?_
  rw [hresources]
  unfold room Unissued
  rw [hresources, hafter.start]
  exact hafter.tree

end Resources

end ApkForge
