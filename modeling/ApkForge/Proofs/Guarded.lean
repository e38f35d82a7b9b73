-- Memory is taken before it is used. On the record of a build every call that starts a machine
-- with a heap of its own lies between taking a share for that heap and giving it back, and no
-- other share is held then.
import ApkForge.Proofs.Stages

namespace ApkForge

variable {ρ α β : Type}

/-! ## Guarded records -/

/-- The event takes or gives back a share of the memory. -/
def Event.isShare : Event → Bool
  | .acquired _ => true
  | .released _ => true
  | _ => false

/-- The event is a call that starts a machine with a heap of its own. -/
def Event.isHeavy (layout : BuildLayout) : Event → Bool
  | .called command _ _ => (Use.of layout command).isHeavy
  | _ => false

/-- The event has nothing to do with memory. -/
def Event.isLight (layout : BuildLayout) (e : Event) : Bool := !e.isShare && !e.isHeavy layout

/-- The command names a heap, and a share that is taken for `asked` is enough for it. -/
def Command.Fits (asked : Nat) (c : Command) : Prop :=
  ∃ heap, c.heap? = some heap ∧ heap ≤ max asked 1

/-- The rest of the record of a build that asks for a heap, from a point where its share is held or
is not. -/
inductive Guarded (layout : BuildLayout) (asked : Nat) : Bool → List Event → Prop where
  | done : Guarded layout asked false []
  | take {l : List Event} (rest : Guarded layout asked true l) :
      Guarded layout asked false (.acquired asked :: l)
  | giveBack {l : List Event} (rest : Guarded layout asked false l) :
      Guarded layout asked true (.released asked :: l)
  | heavy {command : Command} {seconds : Nat} {answer : Answer} {l : List Event}
      (fits : command.Fits asked) (rest : Guarded layout asked true l) :
      Guarded layout asked true (.called command seconds answer :: l)
  | light {held : Bool} {e : Event} {l : List Event} (light : e.isLight layout = true)
      (rest : Guarded layout asked held l) : Guarded layout asked held (e :: l)

namespace Guarded

variable {layout : BuildLayout} {asked : Nat} {held : Bool} {l m : List Event}

theorem append (h : Guarded layout asked held l) (hm : Guarded layout asked false m) :
    Guarded layout asked held (l ++ m) := by
  induction h with
  | done => exact hm
  | take rest ih => exact .take ih
  | giveBack rest ih => exact .giveBack ih
  | heavy fits rest ih => exact .heavy fits ih
  | light light rest ih => exact .light light ih

/-- What is only told may stand anywhere. -/
theorem of_deeds (h : Guarded layout asked held (Event.deeds l)) :
    Guarded layout asked held l := by
  induction l generalizing held with
  | nil => exact h
  | cons e rest ih =>
    unfold Event.deeds at h
    cases ht : e.isTelling
    · rw [List.filter_cons_of_pos (by simp [ht])] at h
      cases h with
      | take rest' => exact .take (ih rest')
      | giveBack rest' => exact .giveBack (ih rest')
      | heavy fits rest' => exact .heavy fits (ih rest')
      | light light rest' => exact .light light (ih rest')
    · rw [List.filter_cons_of_neg (by simp [ht])] at h
      refine .light ?_ (ih h)
      cases e <;> simp_all [Event.isTelling, Event.isLight, Event.isShare, Event.isHeavy]

/-- Between taking a share and giving it back there may be calls that fit it. -/
theorem of_held
    (h : ∀ e ∈ l, e.isLight layout = true ∨ ∃ command seconds answer,
      e = .called command seconds answer ∧ command.Fits asked) :
    Guarded layout asked false (.acquired asked :: (l ++ [.released asked])) := by
  refine .take ?_
  induction l with
  | nil => exact .giveBack .done
  | cons e rest ih =>
    have hrest := ih fun e' he => h e' (List.mem_cons_of_mem _ he)
    rcases h e (List.mem_cons_self ..) with hlight | ⟨command, seconds, answer, rfl, hfits⟩
    · exact .light hlight hrest
    · exact .heavy hfits hrest

end Guarded

/-! ## Guarded steps -/

namespace Step

variable {layout : BuildLayout} {asked : Nat}

/-- Whatever the session, the step leaves a guarded record. -/
def Guards (layout : BuildLayout) (asked : Nat) (x : Step ρ α) : Prop :=
  Does x fun _ l => Guarded layout asked false l

theorem Guards.bind {x : Step ρ α} {f : α → Step ρ β} (hx : Guards layout asked x)
    (hf : ∀ a, Guards layout asked (f a)) : Guards layout asked (x >>= f) :=
  Does.bind hx hf (fun _ _ h => h) fun _ _ _ _ hl hm => hl.append hm

theorem Quiet.guards {x : Step ρ α} (h : Quiet x) : Guards layout asked x :=
  h.does fun _ => .done

/-- A step whose one call is for something light. -/
theorem CallsFor.guards {use : Use} {x : Step ρ α} (h : CallsFor layout use x)
    (huse : use.isHeavy = false) : Guards layout asked x := by
  refine Does.mono h ?_
  rintro r l (⟨rfl, -⟩ | ⟨command, seconds, answer, rfl, rfl, -⟩)
  · exact .done
  · refine .light ?_ .done
    simp [Event.isLight, Event.isShare, Event.isHeavy, huse]

theorem guards_forM {f : α → Step ρ PUnit} (hf : ∀ a, Guards layout asked (f a))
    (as : List α) : Guards layout asked (as.forM f) := by
  induction as with
  | nil => exact (quiet_pure _).guards
  | cons a as ih => exact (hf a).bind fun _ => ih

end Step

/-! ## The stages that take memory -/

/-- A merge notes nothing but calls of its own tool and itself. -/
theorem DexMerger.Merges.mem {m : DexMerger} {output : Path} {inputs : List Path}
    {r : Except BuildError Bool} {l : List Event} (h : m.Merges output inputs r l) :
    ∀ e ∈ l, (∃ merge, e.merge? = some merge) ∨ ∃ output' inputs' answer,
      e = .called (m.command output' inputs') m.seconds answer := by
  have hpre : ∀ pre : List Event, (∀ e ∈ pre, m.IsPredex e) → ∀ e ∈ pre, ∃ output' inputs' answer,
      e = .called (m.command output' inputs') m.seconds answer := by
    intro pre hall e he
    obtain ⟨cacheDir, key, input, answer, -, rfl⟩ := hall e he
    exact ⟨_, _, answer, rfl⟩
  intro e he
  cases h with
  | broken front =>
    rcases List.mem_append.1 he with he | he
    · exact Or.inr (hpre _ front.predex e he)
    · rw [List.mem_singleton.1 he]
      exact Or.inl ⟨_, rfl⟩
  | called answer front stands =>
    rcases List.mem_append.1 he with he | he
    · exact Or.inr (hpre _ front.predex e he)
    · simp only [List.mem_cons, List.not_mem_nil, or_false] at he
      rcases he with rfl | rfl
      · exact Or.inr ⟨_, _, answer, rfl⟩
      · exact Or.inl ⟨_, rfl⟩

namespace Build

variable {b : Build} {m : DexMerger}

theorem Attempts.mem {plan : DexPlan} {r : Except BuildError (Option (List Path))}
    {l : List Event} (h : Attempts b m plan r l) :
    ∀ e ∈ l, (∃ merge, e.merge? = some merge) ∨ ∃ output inputs answer,
      e = .called (m.command output inputs) m.seconds answer := by
  cases h with
  | broken first => exact first.mem
  | refused first => exact first.mem
  | single first alone => exact first.mem
  | double first more second =>
    intro e he
    rcases List.mem_append.1 he with he | he
    · exact first.mem e he
    · exact second.mem e he

theorem Converts.mem {plan : DexAttempt → DexPlan} {r : Except BuildError (List Path)}
    {l : List Event} (h : Converts b m plan r l) :
    ∀ e ∈ l, (∃ merge, e.merge? = some merge) ∨ ∃ output inputs answer,
      e = .called (m.command output inputs) m.seconds answer := by
  cases h with
  | once attempt accepted => exact attempt.mem
  | twice refused attempt =>
    intro e he
    rcases List.mem_append.1 he with he | he
    · exact refused.mem e he
    · exact attempt.mem e he

theorem guards_convert (s : Services ρ) (b : Build) (libraries : Libraries) :
    Step.Guards b.layout b.options.heap (b.convert s libraries) := by
  refine (does_convert s b libraries).mono ?_
  rintro r l ⟨plan, h⟩
  cases h with
  | early e => exact .done
  | @held m r l merger converts =>
    refine Guarded.of_held fun e he => ?_
    rcases converts.mem e he with ⟨merge, hmerge⟩ | ⟨output, inputs, answer, rfl⟩
    · left
      cases e <;> simp_all [Event.merge?, Event.isLight, Event.isShare, Event.isHeavy]
    · refine Or.inr ⟨_, _, answer, rfl, m.heap, Command.heap?_dex m output inputs, ?_⟩
      rw [merger.1]
      exact Nat.le_max_left _ _

/-- The compiler asks for less than the share that is taken for it, but for a megabyte at least. -/
theorem guards_compileSources (s : Services ρ) (b : Build) :
    Step.Guards b.layout b.options.heap (b.compileSources s) := by
  refine (does_compileSources s b).mono ?_
  rintro r l h
  cases h with
  | early e => exact .done
  | @held java classpath runtime answer r answered =>
    refine .take (.heavy ⟨_, Command.heap?_compile .., ?_⟩ (.giveBack .done))
    unfold Compiler.heap
    omega

theorem guards_compileResourceClasses (s : Services ρ) (b : Build) :
    Step.Guards b.layout b.options.heap (b.compileResourceClasses s) := by
  unfold compileResourceClasses
  refine (Step.quiet_say _).guards.bind fun _ => ?_
  refine Step.Guards.bind ?_ fun _ => (callsFor_compileClasses s b).guards rfl
  unfold generateResourceClasses
  refine (quiet_aapt s .aapt).guards.bind fun aapt => ?_
  refine (Step.quiet_resource _ _).guards.bind fun android => ?_
  refine (Step.quiet_onFiles _ _).guards.bind fun _ => ?_
  refine Step.guards_forM (fun package => ?_) _
  exact (callsFor_generateResourceClass s b aapt android package).guards rfl

theorem guards_stages (s : Services ρ) (b : Build) :
    Step.Guards b.layout b.options.heap (b.stages s) := by
  unfold stages
  refine (quiet_installIcon b).guards.bind fun _ => ?_
  refine (quiet_addResources b).guards.bind fun _ => ?_
  refine (quiet_writeManifest s b).guards.bind fun _ => ?_
  refine (quiet_attach b).guards.bind fun _ => ?_
  refine (guards_compileSources s b).bind fun libraries => ?_
  have hrest : ∀ robot, Step.Guards b.layout b.options.heap (do
      let dexFiles ← b.convert s libraries
      let intermediate ← b.packResources s
      b.addCode s intermediate dexFiles
      b.sign s
      b.align s
      return ({ apk := b.apk, dexFiles, robot } : Artifacts)) := by
    intro robot
    refine (guards_convert s b libraries).bind fun dexFiles => ?_
    refine ((callsFor_packResources s b).guards rfl).bind fun intermediate => ?_
    refine ((callsFor_addCode s b intermediate dexFiles).guards rfl).bind fun _ => ?_
    refine ((callsFor_sign s b).guards rfl).bind fun _ => ?_
    exact ((callsFor_align s b).guards rfl).bind fun _ => (Step.quiet_pure _).guards
  cases b.survey.robot
  · exact hrest false
  · exact (guards_compileResourceClasses s b).bind fun _ => hrest true

theorem yields_prepare (project : Project) (types : List String) (options : BuildOptions) :
    Step.Yields (prepare project types options : Step ρ Build) fun b =>
      b.project = project ∧ b.options = options := by
  unfold prepare
  exact Step.yields_bind fun _ => Step.yields_bind fun _ => Step.yields_pure ⟨rfl, rfl⟩

theorem guards_run (s : Services ρ) (project : Project) (types : List String)
    (options : BuildOptions) :
    Step.Guards ⟨project.buildDir⟩ options.heap (run s project types options) := by
  unfold run
  have hprepare : Step.Guards ⟨project.buildDir⟩ options.heap
      (prepare project types options : Step ρ Build) := (quiet_prepare _ _ _).guards
  refine (hprepare.and_yields (yields_prepare project types options)).bind_of
    (S := fun _ _ l => Guarded ⟨project.buildDir⟩ options.heap false l) ?_ ?_ ?_
  · rintro b l ⟨-, hb⟩
    obtain ⟨rfl, rfl⟩ := hb b rfl
    exact (guards_stages s b).bind fun _ =>
      ((Step.quiet_record rfl).bind fun _ => Step.quiet_pure _).guards
  · exact fun e l h => h.1
  · exact fun b l r m h hm => h.1.append hm

/-- The record of a build is guarded, whatever the tools answer. -/
theorem guarded_run (s : Services ρ) (project : Project) (types : List String)
    (options : BuildOptions) (σ : Session ρ) : ∃ added,
    ((run s project types options).run σ).2.events = σ.events ++ added ∧
      Guarded ⟨project.buildDir⟩ options.heap false added := by
  obtain ⟨added, hev, hg⟩ := guards_run s project types options σ
  exact ⟨added, hev, hg.of_deeds⟩

end Build

end ApkForge
