-- How far a build says it has come. The values that it publishes never fall, also over a second
-- attempt to convert, and 100 is for a build that has ended well. A build that fails has published
-- less than what stands for its failed stage, and the verdict on it names that stage.
import ApkForge.Progress
import ApkForge.Proofs.CompilerVerdict
import ApkForge.Proofs.Failures

namespace ApkForge

variable {ρ α β : Type}

/-! ## Values -/

/-- The value that an event publishes. -/
def Event.published? : Event → Option Nat
  | .reached percent => some percent
  | _ => none

/-- The values that events publish. -/
def Event.published (added : List Event) : List Nat := added.filterMap Event.published?

@[simp] theorem Event.published_append (l m : List Event) :
    Event.published (l ++ m) = Event.published l ++ Event.published m := by
  simp [Event.published]

/-- Neither taking nor giving back a share of the memory publishes a value. -/
theorem Event.published_held (heap : Nat) (l : List Event) :
    Event.published (.acquired heap :: (l ++ [.released heap])) = Event.published l := by
  change Event.published (l ++ [.released heap]) = _
  rw [Event.published_append]
  exact List.append_nil _

/-- What a build that fails in a stage stays below. The stages up to the compiler have 35, the
conversion has 85. -/
def Stage.ceiling : Stage → Nat
  | .dx => 85
  | .javac => 100
  | .aapt => 100
  | .apkBuilder => 100
  | .jarSigner => 100
  | .zipAlign => 100
  | _ => 35

/-- What a build that fails stays below. -/
def BuildError.ceiling : BuildError → Nat
  | .stage s _ => s.ceiling
  | _ => 35

theorem Stage.ceiling_bounds (s : Stage) : 35 ≤ s.ceiling ∧ s.ceiling ≤ 100 := by
  cases s <;> decide

theorem BuildError.ceiling_bounds (e : BuildError) : 35 ≤ e.ceiling ∧ e.ceiling ≤ 100 := by
  cases e with
  | stage s cause => exact s.ceiling_bounds
  | noUserCode => simp [ceiling]
  | icon name cause => simp [ceiling]
  | compilation unit => simp [ceiling]

/-- The values ascend between `low` and `high`, and work that fails has stayed below the ceiling of
its error. -/
structure Ascends (low high : Nat) (r : Except BuildError α) (added : List Event) : Prop where
  ascending : (Event.published added).Pairwise (· ≤ ·)
  between : ∀ n ∈ Event.published added, low ≤ n ∧ n ≤ high
  fails : ∀ e, r = .error e → low < e.ceiling ∧ ∀ n ∈ Event.published added, n < e.ceiling

/-- The values ascend from `low` on, and work that ends well has come to `high`. -/
structure Rises (low high : Nat) (r : Except BuildError α) (added : List Event) : Prop extends
    Ascends low high r added where
  arrives : ∀ a, r = .ok a → low = high ∨ high ∈ Event.published added

section

variable {low mid high : Nat} {l m : List Event}

theorem Ascends.append {a : α} {r : Except BuildError β} (hl : Ascends low mid (.ok a) l)
    (hm : Ascends mid high r m) (hlow : low ≤ mid) (hhigh : mid ≤ high) :
    Ascends low high r (l ++ m) := by
  constructor
  case ascending =>
    rw [Event.published_append, List.pairwise_append]
    refine ⟨hl.ascending, hm.ascending, fun n hn k hk => ?_⟩
    exact Nat.le_trans (hl.between n hn).2 (hm.between k hk).1
  case between =>
    intro n hn
    rw [Event.published_append, List.mem_append] at hn
    rcases hn with hn | hn
    · exact ⟨(hl.between n hn).1, Nat.le_trans (hl.between n hn).2 hhigh⟩
    · exact ⟨Nat.le_trans hlow (hm.between n hn).1, (hm.between n hn).2⟩
  case fails =>
    intro e he
    obtain ⟨hmid, hbelow⟩ := hm.fails e he
    refine ⟨Nat.lt_of_le_of_lt hlow hmid, fun n hn => ?_⟩
    rw [Event.published_append, List.mem_append] at hn
    rcases hn with hn | hn
    · exact Nat.lt_of_le_of_lt (hl.between n hn).2 hmid
    · exact hbelow n hn

/-- Work that failed may be measured by a higher bound, whatever it would have given. -/
theorem Ascends.of_error {e : BuildError} (hl : Ascends low mid (.error e : Except BuildError α) l)
    (hhigh : mid ≤ high) : Ascends low high (.error e : Except BuildError β) l := by
  refine ⟨hl.ascending, fun n hn => ?_, fun e' he => ?_⟩
  · exact ⟨(hl.between n hn).1, Nat.le_trans (hl.between n hn).2 hhigh⟩
  · cases he
    exact hl.fails e rfl

theorem Rises.of_error {e : BuildError} (hl : Ascends low mid (.error e : Except BuildError α) l)
    (hhigh : mid ≤ high) : Rises low high (.error e : Except BuildError β) l :=
  ⟨hl.of_error hhigh, by simp⟩

theorem Ascends.of_nil {r : Except BuildError α} (hl : Event.published l = [])
    (he : ∀ e, r = .error e → low < e.ceiling) : Ascends low high r l := by
  refine ⟨by simp [hl], by simp [hl], fun e hr => ⟨he e hr, ?_⟩⟩
  simp [hl]

theorem Rises.of_nil {r : Except BuildError α} (hl : Event.published l = [])
    (he : ∀ e, r = .error e → low < e.ceiling) : Rises low low r l :=
  ⟨.of_nil hl he, fun _ _ => Or.inl rfl⟩

/-- A share of the memory held around work changes nothing of how its values ascend. -/
theorem Ascends.held {r : Except BuildError α} (heap : Nat) (hl : Ascends low high r l) :
    Ascends low high r (.acquired heap :: (l ++ [.released heap])) := by
  have heq := Event.published_held heap l
  exact ⟨heq ▸ hl.ascending, heq ▸ hl.between, heq ▸ hl.fails⟩

theorem Rises.append {a : α} {r : Except BuildError β} (hl : Rises low mid (.ok a) l)
    (hm : Rises mid high r m) (hlow : low ≤ mid) (hhigh : mid ≤ high) :
    Rises low high r (l ++ m) := by
  refine ⟨hl.toAscends.append hm.toAscends hlow hhigh, fun b hb => ?_⟩
  rw [Event.published_append, List.mem_append]
  rcases hm.arrives b hb with rfl | hin
  · exact (hl.arrives a rfl).imp_right Or.inl
  · exact Or.inr (Or.inr hin)

/-- Where something is published last, it does not matter how far the work had come before. -/
theorem Ascends.append_rises {a : α} {r : Except BuildError β} (hl : Ascends low mid (.ok a) l)
    (hm : Rises mid high r m) (hlow : low ≤ mid) (hhigh : mid < high) :
    Rises low high r (l ++ m) := by
  refine ⟨hl.append hm.toAscends hlow (Nat.le_of_lt hhigh), fun b hb => Or.inr ?_⟩
  rw [Event.published_append, List.mem_append]
  exact Or.inr ((hm.arrives b hb).resolve_left (Nat.ne_of_lt hhigh))

/-- What published nothing changes no values that follow. -/
theorem Ascends.prepend {r : Except BuildError β} (hl : Event.published l = [])
    (hm : Ascends low high r m) : Ascends low high r (l ++ m) := by
  have heq : Event.published (l ++ m) = Event.published m := by simp [hl]
  exact ⟨heq ▸ hm.ascending, heq ▸ hm.between, heq ▸ hm.fails⟩

theorem Rises.prepend {r : Except BuildError β} (hl : Event.published l = [])
    (hm : Rises low high r m) : Rises low high r (l ++ m) := by
  have heq : Event.published (l ++ m) = Event.published m := by simp [hl]
  exact ⟨hm.toAscends.prepend hl, heq ▸ hm.arrives⟩

end

/-! ## Steps that publish nothing -/

namespace Step

variable {low mid high : Nat}

/-- The step publishes nothing, and the errors that it ends on allow for `low`. -/
def Still (low : Nat) (x : Step ρ α) : Prop :=
  Records x fun r added => Event.published added = [] ∧ ∀ e, r = .error e → low < e.ceiling

theorem Still.bind {x : Step ρ α} {f : α → Step ρ β} (hx : Still low x)
    (hf : ∀ a, Still low (f a)) : Still low (x >>= f) := by
  refine Records.bind hx hf ?_ ?_
  · rintro e l ⟨hl, he⟩
    refine ⟨hl, fun e' he' => ?_⟩
    cases he'
    exact he e rfl
  · rintro a l r m ⟨hl, -⟩ ⟨hm, he⟩
    exact ⟨by simp [hl, hm], he⟩

theorem still_pure (a : α) : Still low (pure a : Step ρ α) := records_pure ⟨rfl, by simp⟩

theorem still_throw {e : BuildError} (h : low < e.ceiling) : Still low (throw e : Step ρ α) := by
  refine records_throw ⟨rfl, fun e' he => ?_⟩
  cases he
  exact h

theorem still_modify {f : Session ρ → Session ρ} (h : ∀ σ, (f σ).events = σ.events) :
    Still low (modify f : Step ρ Unit) := by
  intro σ
  refine ⟨[], ?_, rfl, by rintro _ ⟨⟩⟩
  rw [List.append_nil]
  exact h σ

theorem still_get : Still low (MonadState.get : Step ρ (Session ρ)) := by
  intro σ
  exact ⟨[], by simp [run_get], rfl, by simp [run_get]⟩

theorem still_work {task : Task BuildError α}
    (h : FailsOnly (fun e => low < e.ceiling) task) : Still low (work task : Step ρ α) := by
  intro σ
  refine ⟨[], by simp [run_work], rfl, fun e he => ?_⟩
  rw [run_work] at he
  exact h σ.workspace e he

/-- Below 35 any work may fail. -/
theorem still_early_work (h : low < 35) (task : Task BuildError α) :
    Still low (work task : Step ρ α) :=
  still_work fun _ e _ => Nat.lt_of_lt_of_le h e.ceiling_bounds.1

theorem still_within {stage : Stage} (h : low < stage.ceiling) (task : Task Cause α) :
    Still low (within stage task : Step ρ α) :=
  still_work (failsOnly_adapt fun _ => h)

theorem still_onFiles {stage : Stage} (h : low < stage.ceiling) (task : Task FilesError α) :
    Still low (onFiles stage task : Step ρ α) := still_within h _

theorem still_resource {stage : Stage} (h : low < stage.ceiling) (logical : String) :
    Still low (resource stage logical : Step ρ Path) := still_within h _

theorem still_tool {stage : Stage} (h : low < stage.ceiling)
    (find : FileTree → Place → Except ToolchainError α) :
    Still low (tool stage find : Step ρ α) := by
  unfold tool
  refine still_get.bind fun σ => ?_
  split
  · exact still_pure _
  · exact still_throw h

theorem still_record {e : Event} (h : e.published? = none) :
    Still low (record e : Step ρ Unit) := by
  refine (records_record e).mono ?_
  rintro _ _ ⟨rfl, rfl⟩
  exact ⟨by simp [Event.published, h], by simp⟩

theorem still_say (text : String) : Still low (say text : Step ρ Unit) := still_record rfl

theorem still_sayTook (what : String) : Still low (sayTook what : Step ρ Unit) := still_record rfl

theorem still_call {stage : Stage} (h : low < stage.ceiling) (runner : Runner ρ)
    (command : Command) (seconds : Nat) : Still low (call runner stage command seconds) := by
  refine (records_call runner stage command seconds).mono ?_
  rintro _ _ ⟨answer, rfl, rfl⟩
  refine ⟨rfl, fun e he => ?_⟩
  cases answer with
  | ok output => cases he
  | error fault =>
    cases he
    exact h

theorem still_callSuccessfully {stage : Stage} (h : low < stage.ceiling) (runner : Runner ρ)
    (command : Command) (seconds : Nat) :
    Still low (callSuccessfully runner stage command seconds) := by
  unfold callSuccessfully
  refine (still_call h runner command seconds).bind fun output => ?_
  split
  · exact still_throw h
  · exact still_pure _

theorem Still.holding (heap : Nat) {x : Step ρ α} (h : Still low x) :
    Still low (holding heap x) := by
  refine (Records.holding heap h).mono ?_
  rintro r _ ⟨l, ⟨hl, he⟩, rfl⟩
  exact ⟨by rw [Event.published_held, hl], he⟩

theorem Still.noting {x : Step ρ α} {note : Except BuildError α → Event}
    (hn : ∀ r, (note r).published? = none) (h : Still low x) : Still low (noting note x) := by
  refine (Records.noting note h).mono ?_
  rintro r _ ⟨l, ⟨hl, he⟩, rfl⟩
  refine ⟨?_, he⟩
  rw [Event.published_append, hl]
  simp [Event.published, hn]

theorem still_forM {f : α → Step ρ PUnit} (hf : ∀ a, Still low (f a)) (as : List α) :
    Still low (as.forM f) := by
  induction as with
  | nil => exact still_pure _
  | cons a as ih => exact (hf a).bind fun _ => ih

theorem still_mapM {f : α → Step ρ β} (hf : ∀ a, Still low (f a)) (as : List α) :
    Still low (as.mapM f) := by
  induction as with
  | nil => exact still_pure _
  | cons a as ih =>
    rw [List.mapM_cons]
    exact (hf a).bind fun _ => ih.bind fun _ => still_pure _

/-! ## Steps that publish rising values -/

/-- Whatever the session, the values that the step publishes rise from `low` to `high`. -/
def Climbs (low high : Nat) (x : Step ρ α) : Prop := Records x (Rises low high)

theorem Still.climbs {x : Step ρ α} (h : Still low x) : Climbs low low x :=
  Records.mono h fun _ _ hr => .of_nil hr.1 hr.2

theorem Climbs.bind {x : Step ρ α} {f : α → Step ρ β} (hx : Climbs low mid x)
    (hf : ∀ a, Climbs mid high (f a)) (hlow : low ≤ mid) (hhigh : mid ≤ high) :
    Climbs low high (x >>= f) :=
  Records.bind hx hf (fun _ _ h => .of_error h.toAscends hhigh)
    fun _ _ _ _ hl hm => hl.append hm hlow hhigh

/-- A step that publishes nothing changes no climb that follows. -/
theorem Still.bind_climbs {x : Step ρ α} {f : α → Step ρ β} (hx : Still low x)
    (hf : ∀ a, Climbs low high (f a)) : Climbs low high (x >>= f) := by
  refine Records.bind hx hf ?_ ?_
  · rintro e l ⟨hl, he⟩
    exact .of_error (.of_nil (r := (.error e : Except BuildError α)) hl he) (Nat.le_refl _)
  · rintro a l r m ⟨hl, -⟩ hm
    exact hm.prepend hl

theorem climbs_reach {percent : Nat} (h : low ≤ percent) :
    Climbs low percent (reach percent : Step ρ Unit) := by
  refine (records_record (.reached percent)).mono ?_
  rintro _ _ ⟨rfl, rfl⟩
  refine ⟨⟨?_, ?_, ?_⟩, ?_⟩
  · simp [Event.published, Event.published?]
  · simp [Event.published, Event.published?, h]
  · simp
  · simp [Event.published, Event.published?]

end Step

/-! ## Stage by stage -/

theorem DexMerger.still_merge {low : Nat} (h : low < 85) (m : DexMerger) (runner : Runner ρ)
    (output : Path) (inputs : List Path) : Step.Still low (m.merge runner output inputs) := by
  have hisFile : ∀ p, Step.Still low (Step.work (Task.isFile p) : Step ρ Bool) :=
    fun p => Step.still_work (by rintro w _ ⟨⟩)
  have hprepare : ∀ input, Step.Still low (m.prepare runner input) := by
    intro input
    unfold prepare
    split
    · exact Step.still_pure _
    · unfold isCacheable
      refine (Step.still_get.bind fun _ => Step.still_pure _).bind fun cacheable => ?_
      split
      · exact Step.still_pure _
      · refine (Step.still_work ?_).bind fun key => (hisFile _).bind fun there => ?_
        · exact FailsOnly.bind (failsOnly_adapt fun _ => h) fun _ => failsOnly_pure _
        · split
          · exact Step.still_pure _
          · refine (Step.still_onFiles h _).bind fun _ => ?_
            refine (Step.still_call h _ _ _).bind fun answer => (hisFile _).bind fun made => ?_
            split
            · exact Step.still_pure _
            · exact Step.still_pure _
  unfold merge
  refine Step.Still.noting (fun _ => rfl) ((Step.still_mapM hprepare inputs).bind fun prepared => ?_)
  exact (Step.still_call h _ _ _).bind fun _ => Step.still_pure _

namespace Build

variable {low : Nat}

theorem still_prepare (h : low < 35) (project : Project) (types : List String)
    (options : BuildOptions) : Step.Still low (prepare project types options : Step ρ Build) := by
  have hcatalog : Step.Still low (catalog : Step ρ Catalog) := by
    unfold catalog
    refine Step.still_get.bind fun σ => ?_
    split
    · exact Step.still_pure _
    · refine (Step.still_early_work h _).bind fun found => ?_
      exact (Step.still_modify (f := fun s => { s with catalog := some found })
        fun _ => rfl).bind fun _ => Step.still_pure _
  unfold prepare
  refine hcatalog.bind fun found => (Step.still_early_work h _).bind fun survey => ?_
  exact Step.still_pure _

theorem climbs_installIcon (b : Build) : Step.Climbs 15 15 (b.installIcon : Step ρ Unit) := by
  unfold installIcon
  refine (Step.still_onFiles (by decide) _).bind_climbs fun _ => ?_
  refine (Step.still_say _).bind_climbs fun _ => ?_
  refine (Step.still_early_work (by decide) _).bind_climbs fun _ => ?_
  exact Step.climbs_reach (Nat.le_refl _)

theorem still_addResources (b : Build) : Step.Still 15 (b.addResources : Step ρ Unit) := by
  unfold addResources
  refine (Step.still_say _).bind fun _ => ?_
  refine (Step.still_early_work (by decide) _).bind fun _ => ?_
  split
  · exact Step.still_early_work (by decide) _
  · exact Step.still_pure _

theorem climbs_writeManifest (s : Services ρ) (b : Build) :
    Step.Climbs 15 20 (b.writeManifest s) := by
  unfold writeManifest
  refine (Step.still_say _).bind_climbs fun _ => ?_
  refine (Step.still_early_work (by decide) _).bind_climbs fun _ => ?_
  exact Step.climbs_reach (by decide)

theorem still_attach (b : Build) : Step.Still 20 (b.attach : Step ρ Unit) := by
  unfold attach
  refine (Step.still_say _).bind fun _ => (Step.still_early_work (by decide) _).bind fun _ => ?_
  exact (Step.still_say _).bind fun _ => Step.still_early_work (by decide) _

theorem still_compilerCall (s : Services ρ) (b : Build) : Step.Still 20 (b.compilerCall s) := by
  unfold compilerCall
  refine (Step.still_onFiles (by decide) _).bind fun found => ?_
  split
  · exact Step.still_throw (by decide)
  · refine (Step.still_within (by decide) _).bind fun _ => ?_
    refine (Step.still_within (by decide) _).bind fun classpath => ?_
    refine (Step.still_tool (by decide) _).bind fun java => ?_
    refine (Step.still_resource (by decide) _).bind fun runtime => ?_
    exact (Step.still_onFiles (by decide) _).bind fun _ => Step.still_pure _

theorem climbs_untilCompiler (s : Services ρ) (project : Project) (types : List String)
    (options : BuildOptions) :
    Step.Climbs 15 20 (untilCompiler s project types options) := by
  unfold untilCompiler
  refine (still_prepare (by decide) project types options).bind_climbs fun b => ?_
  refine (climbs_installIcon b).bind (fun _ => ?_) (by decide) (by decide)
  refine (still_addResources b).bind_climbs fun _ => ?_
  refine (climbs_writeManifest s b).bind (fun _ => ?_) (by decide) (by decide)
  refine Step.Still.climbs ?_
  refine (still_attach b).bind fun _ => (Step.still_say _).bind fun _ => ?_
  exact (still_compilerCall s b).bind fun _ => Step.still_pure _

theorem still_callCompiler (s : Services ρ) (b : Build) (command : Command) :
    Step.Still 20 (b.callCompiler s command) := by
  unfold callCompiler
  refine (Step.Still.holding _ (Step.still_call (by decide) _ _ _)).bind fun output => ?_
  refine (Step.still_record rfl).bind fun _ => ?_
  exact (Step.still_sayTook _).bind fun _ => Step.still_pure _

theorem still_judgeCompiler (b : Build) : Step.Still 20 (b.judgeCompiler : Step ρ Unit) := by
  unfold judgeCompiler
  refine Step.still_get.bind fun σ => ?_
  simp only
  split
  · exact Step.still_throw (by simp [BuildError.ceiling])
  · exact Step.still_pure _

theorem still_aapt (s : Services ρ) {stage : Stage} (h : low < stage.ceiling) :
    Step.Still low (aapt s stage) := by
  unfold aapt
  exact (Step.still_tool h _).bind fun _ => Step.still_resource h _

theorem still_compileResourceClasses (s : Services ρ) (b : Build) :
    Step.Still 35 (b.compileResourceClasses s) := by
  unfold compileResourceClasses generateResourceClasses
  refine (Step.still_say _).bind fun _ => Step.Still.bind ?_ fun _ => ?_
  · refine (still_aapt s (by decide)).bind fun aapt => ?_
    refine (Step.still_resource (by decide) _).bind fun android => ?_
    refine (Step.still_onFiles (by decide) _).bind fun _ => Step.still_forM (fun package => ?_) _
    refine (Step.still_callSuccessfully (by decide) _ _ _).bind fun _ => ?_
    exact Step.still_sayTook _
  · refine (Step.still_say _).bind fun _ => (Step.still_tool (by decide) _).bind fun javac => ?_
    exact Step.still_callSuccessfully (by decide) _ _ _

/-! ## Two attempts to convert -/

/-- An attempt ascends to 75 at most. One that is given up has published nothing above 50, so the
next may publish 50 again. -/
def Attempted (low : Nat) (r : Except BuildError (Option (List Path))) (l : List Event) : Prop :=
  Ascends low 75 r l ∧ (r = .ok none → ∀ n ∈ Event.published l, n ≤ 50)

theorem Attempted.givenUp {low : Nat} {l : List Event} (h : Attempted low (.ok none) l) :
    Ascends low 50 (.ok none : Except BuildError (Option (List Path))) l :=
  ⟨h.1.ascending, fun n hn => ⟨(h.1.between n hn).1, h.2 rfl n hn⟩, by simp⟩

theorem attempted_of_climbs {x : Step ρ (Option (List Path))} (hx : Step.Climbs 50 75 x)
    (hsome : Step.Yields x fun files? => files? ≠ none) : Step.Records x (Attempted 50) := by
  intro σ
  obtain ⟨l, hl, hr⟩ := hx σ
  exact ⟨l, hl, hr.toAscends, fun h => absurd rfl (hsome σ none h)⟩

/-- The second container of an attempt. -/
theorem attempted_secondary (s : Services ρ) (b : Build) (m : DexMerger) (plan : DexPlan) :
    Step.Records (do
      Step.reach 60
      let merged ← m.merge s.runner b.secondaryDex plan.secondary
      Step.reach 75
      if merged then return some [b.primaryDex, b.secondaryDex]
      else throw (.stage .dx .secondDexFailed)) (Attempted 50) := by
  refine attempted_of_climbs ?_ ?_
  · refine (Step.climbs_reach (by decide : 50 ≤ 60)).bind (fun _ => ?_) (by decide)
      (by decide)
    refine (m.still_merge (by decide) _ _ _).bind_climbs fun merged => ?_
    refine (Step.climbs_reach (by decide : 60 ≤ 75)).bind (fun _ => ?_) (by decide)
      (by decide)
    refine Step.Still.climbs ?_
    split
    · exact Step.still_pure _
    · exact Step.still_throw (by decide)
  · refine Step.yields_bind fun _ => Step.yields_bind fun merged => Step.yields_bind fun _ => ?_
    split
    · exact Step.yields_pure (by simp)
    · rintro σ _ ⟨⟩

theorem attempted_convertBy (h : low ≤ 50) (s : Services ρ) (b : Build) (m : DexMerger)
    (plan : DexPlan) : Step.Records (b.convertBy s m plan) (Attempted low) := by
  have hpure : ∀ files?, Step.Records (pure files? : Step ρ (Option (List Path)))
      (Attempted 50) := fun files? =>
    Step.records_pure ⟨.of_nil rfl (by simp), by simp [Event.published]⟩
  unfold convertBy
  refine Step.Records.bind (Step.climbs_reach h) (S := fun _ => Attempted 50) (fun _ => ?_) ?_ ?_
  · refine Step.Records.bind (m.still_merge (by decide : 50 < 85) _ _ _)
      (S := fun _ => Attempted 50) (fun merged => ?_) ?_ ?_
    · split
      · exact hpure none
      · split
        · exact hpure _
        · exact attempted_secondary s b m plan
    · rintro e l ⟨hl, he⟩
      exact ⟨.of_error (.of_nil (r := (.error e : Except BuildError Bool)) hl he) (Nat.le_refl _),
        by simp⟩
    · rintro merged l r l' ⟨hl, -⟩ hm
      exact ⟨hm.1.prepend hl, by simpa [hl] using hm.2⟩
  · intro e l hl
    exact ⟨hl.toAscends.of_error (by decide), by simp⟩
  · rintro _ l r l' hl hm
    refine ⟨hl.toAscends.append hm.1 h (by decide), fun hr n hn => ?_⟩
    rw [Event.published_append, List.mem_append] at hn
    rcases hn with hn | hn
    · exact (hl.between n hn).2
    · exact hm.2 hr n hn

theorem ascends_convertInTwo (s : Services ρ) (b : Build) (m : DexMerger)
    (base libraries : List Path) :
    Step.Records (b.convertInTwo s m base libraries) (Ascends 35 75) := by
  -- how the second attempt goes on from the values of the first
  let After (first : Option (List Path)) (r : Except BuildError (List Path)) (l' : List Event) :=
    ∀ l, Attempted 35 (.ok first) l → Ascends 35 75 r (l ++ l')
  unfold convertInTwo
  refine Step.Records.bind (attempted_convertBy (by decide : 35 ≤ 50) s b m _) (S := After)
    (fun first => ?_) ?_ ?_
  · cases first with
    | some files =>
      refine Step.records_pure fun l hl => ?_
      rw [List.append_nil]
      exact ⟨hl.1.ascending, hl.1.between, by simp⟩
    | none =>
      refine Step.Records.mono (R := Ascends 50 75) ?_ fun r l' hl' l hl =>
        hl.givenUp.append hl' (by decide) (by decide)
      refine Step.Records.bind (attempted_convertBy (Nat.le_refl 50) s b m _)
        (S := fun _ r l => Event.published l = [] ∧ ∀ e, r = .error e → e.ceiling = 85)
        (fun second => ?_) ?_ ?_
      · cases second with
        | some files => exact Step.records_pure ⟨rfl, by simp⟩
        | none => exact Step.records_throw ⟨rfl, by rintro _ ⟨⟩; rfl⟩
      · intro e l hl
        exact hl.1.of_error (Nat.le_refl _)
      · rintro second l r l' hl ⟨hl', he⟩
        have hend : Ascends 75 75 r l' := .of_nil hl' fun e hr => by
          rw [he e hr]
          decide
        exact hl.1.append hend (by decide) (Nat.le_refl _)
  · intro e l hl
    exact hl.1.of_error (Nat.le_refl _)
  · intro first l r l' hl hafter
    exact hafter l hl

theorem climbs_convert (s : Services ρ) (b : Build) (libraries : Libraries) :
    Step.Climbs 35 85 (b.convert s libraries) := by
  unfold convert
  refine (Step.still_say _).bind_climbs fun _ => ?_
  refine (Step.still_mapM (Step.still_resource (by decide)) _).bind_climbs fun runtime => ?_
  refine (Step.still_tool (by decide) _).bind_climbs fun java => ?_
  refine (Step.still_resource (by decide) _).bind_climbs fun dxJar => ?_
  refine (Step.still_onFiles (by decide) _).bind_climbs fun _ => ?_
  refine Step.Records.bind (Step.Records.holding _ (ascends_convertInTwo s b _ _ _))
    (S := fun _ => Rises 75 85) (fun files => ?_) ?_ ?_
  · refine (Step.still_sayTook _).bind_climbs fun _ => ?_
    refine (Step.climbs_reach (by decide)).bind (fun _ => ?_) (by decide) (Nat.le_refl _)
    exact (Step.still_pure _).climbs
  · rintro e _ ⟨l, hl, rfl⟩
    exact .of_error (hl.held b.options.heap) (by decide)
  · rintro files _ r l' ⟨l, hl, rfl⟩ hm
    exact (hl.held b.options.heap).append_rises hm (by decide) (by decide)

/-! ## After the compiler -/

theorem climbs_packResources (s : Services ρ) (b : Build) :
    Step.Climbs 85 90 (b.packResources s) := by
  unfold packResources
  refine (Step.still_say _).bind_climbs fun _ => ?_
  refine (Step.still_onFiles (by decide) _).bind_climbs fun _ => ?_
  refine (Step.still_onFiles (by decide) _).bind_climbs fun _ => ?_
  refine (Step.still_onFiles (by decide) _).bind_climbs fun _ => ?_
  refine (still_aapt s (by decide)).bind_climbs fun aapt => ?_
  refine (Step.still_resource (by decide) _).bind_climbs fun android => ?_
  refine (Step.still_callSuccessfully (by decide) _ _ _).bind_climbs fun _ => ?_
  refine (Step.still_sayTook _).bind_climbs fun _ => ?_
  refine (Step.climbs_reach (by decide)).bind (fun _ => ?_) (by decide) (Nat.le_refl _)
  exact (Step.still_pure _).climbs

theorem climbs_addCode (s : Services ρ) (b : Build) (intermediate : Path)
    (dexFiles : List Path) : Step.Climbs 90 95 (b.addCode s intermediate dexFiles) := by
  unfold addCode
  refine (Step.still_say _).bind_climbs fun _ => ?_
  refine (Step.still_onFiles (by decide) _).bind_climbs fun _ => ?_
  refine (still_aapt s (by decide)).bind_climbs fun aapt => ?_
  refine (Step.still_callSuccessfully (by decide) _ _ _).bind_climbs fun _ => ?_
  exact Step.climbs_reach (by decide)

theorem still_sign (s : Services ρ) (b : Build) : Step.Still 95 (b.sign s) := by
  unfold sign
  refine (Step.still_say _).bind fun _ => (Step.still_tool (by decide) _).bind fun signer => ?_
  refine (Step.still_within (by decide) _).bind fun key => ?_
  exact Step.still_callSuccessfully (by decide) _ _ _

theorem climbs_align (s : Services ρ) (b : Build) : Step.Climbs 95 100 (b.align s) := by
  unfold align
  refine (Step.still_say _).bind_climbs fun _ => ?_
  refine (Step.still_tool (by decide) _).bind_climbs fun logical => ?_
  refine (Step.still_resource (by decide) _).bind_climbs fun zipalign => ?_
  refine (Step.still_callSuccessfully (by decide) _ _ _).bind_climbs fun _ => ?_
  refine (Step.still_onFiles (by decide) _).bind_climbs fun _ => ?_
  exact (Step.still_sayTook _).bind_climbs fun _ => Step.climbs_reach (by decide)

theorem climbs_afterCompiler (s : Services ρ) (b : Build) (libraries : Libraries) :
    Step.Climbs 20 100 (b.afterCompiler s libraries) := by
  have hrest : ∀ robot, Step.Climbs 35 100 (do
      let dexFiles ← b.convert s libraries
      let intermediate ← b.packResources s
      b.addCode s intermediate dexFiles
      b.sign s
      b.align s
      Step.record (.noted .finished)
      return ({ apk := b.apk, dexFiles, robot } : Artifacts)) := by
    intro robot
    refine (climbs_convert s b libraries).bind (fun dexFiles => ?_) (by decide) (by decide)
    refine (climbs_packResources s b).bind (fun intermediate => ?_) (by decide) (by decide)
    refine (climbs_addCode s b intermediate dexFiles).bind (fun _ => ?_) (by decide) (by decide)
    refine (still_sign s b).bind_climbs fun _ => ?_
    refine (climbs_align s b).bind (fun _ => ?_) (by decide) (Nat.le_refl _)
    refine Step.Still.climbs ?_
    exact (Step.still_record rfl).bind fun _ => Step.still_pure _
  unfold afterCompiler
  refine (Step.climbs_reach (by decide : 20 ≤ 35)).bind (fun _ => ?_) (by decide) (by decide)
  cases b.survey.robot
  · exact hrest false
  · exact (still_compileResourceClasses s b).bind_climbs fun _ => hrest true

/-- The values of a whole build rise from 15 to 100. -/
theorem climbs_run (s : Services ρ) (project : Project) (types : List String)
    (options : BuildOptions) : Step.Climbs 15 100 (run s project types options) := by
  rw [run_eq_around_compiler]
  refine (climbs_untilCompiler s project types options).bind (fun reached => ?_) (by decide)
    (by decide)
  refine (still_callCompiler s reached.1 reached.2.1).bind_climbs fun output => ?_
  refine (still_judgeCompiler reached.1).bind_climbs fun _ => ?_
  exact climbs_afterCompiler s reached.1 reached.2.2

end Build

/-! ## What others see of it -/

/-- A channel on which values were published. -/
def Progress.fed (p : Progress) (values : List Nat) : Progress := values.foldl Progress.set p

/-- The channel shows what was published last. -/
theorem Progress.value_fed {values : List Nat} (p : Progress) (h : ∀ n ∈ values, n ≤ 100) :
    (p.fed values).value = values.getLast?.getD p.value := by
  induction values generalizing p with
  | nil => rfl
  | cons n rest ih =>
    have hn : (p.set n).value = n := Nat.min_eq_left (h n (by simp))
    change ((p.set n).fed rest).value = _
    rw [ih _ fun k hk => h k (List.mem_cons_of_mem n hk), hn]
    cases rest with
    | nil => rfl
    | cons k rest => simp [List.getLast?_cons]

/-- What the operators and the user of a failed build are told, and how far it is shown to have
come. -/
structure TellsOf (e : BuildError) (verdict : Build.Verdict) (shown : Nat) : Prop where
  failed : verdict.ok = false
  user : verdict.userErrors = e.userMessage
  /-- The failed stage is named in one line. -/
  named : ∀ stage, e.failedStage? = some stage → ∃ line, verdict.err = line ++ "\n" ∧
    line = "YAIL compiler - " ++ stage.label ++ " execution failed." ∧ '\n' ∉ line.toList
  unnamed : e.failedStage? = none → verdict.err = ""
  shown_lt : shown < 100
  of_dx : e.failedStage? = some .dx → shown < 85
  of_compilation : ∀ unit, e = .compilation unit → shown < 35

theorem Stage.newline_notMem_label (s : Stage) : '\n' ∉ s.label.toList := by
  cases s <;> decide

namespace Build

theorem tellsOf_verdict {e : BuildError} {shown : Nat} (h : shown < e.ceiling) :
    TellsOf e (verdict (.error e)) shown where
  failed := rfl
  user := rfl
  named stage hstage := by
    refine ⟨_, ?_, rfl, ?_⟩
    · simp [verdict, hstage, String.append_assoc]
    · simp [stage.newline_notMem_label]
  unnamed hnone := by simp [verdict, hnone]
  shown_lt := Nat.lt_of_lt_of_le h e.ceiling_bounds.2
  of_dx hdx := by
    cases e with
    | stage s cause =>
      cases hdx
      exact h
    | _ => cases hdx
  of_compilation unit he := by
    subst he
    exact h

/-- How a build goes that publishes `values`: how these run, and what is told and shown at its
end to those who watched a fresh channel. -/
structure Course (result : Except BuildError Artifacts) (values : List Nat) : Prop where
  ascending : values.Pairwise (· ≤ ·)
  between : ∀ n ∈ values, 15 ≤ n ∧ n ≤ 100
  full : 100 ∈ values ↔ ∃ artifacts, result = .ok artifacts
  ok : (verdict result).ok = true ↔ ∃ artifacts, result = .ok artifacts
  silent : ∀ artifacts, result = .ok artifacts →
    (verdict result).err = "" ∧ (verdict result).userErrors = ""
  failed : ∀ e, result = .error e → TellsOf e (verdict result) (Progress.fresh.fed values).value
  fresh : values = [] → (Progress.fresh.fed values).value = 10

theorem shown_lt {ceiling : Nat} {values : List Nat} (hinitial : 10 < ceiling)
    (hbelow : ∀ n ∈ values, n < ceiling) (hle : ∀ n ∈ values, n ≤ 100) :
    (Progress.fresh.fed values).value < ceiling := by
  rw [Progress.value_fed Progress.fresh hle]
  cases hlast : values.getLast? with
  | none => exact hinitial
  | some n => exact hbelow n (List.mem_of_getLast? hlast)

theorem course_of_rises {result : Except BuildError Artifacts} {added : List Event}
    (h : Rises 15 100 result added) : Course result (Event.published added) := by
  have hle : ∀ n ∈ Event.published added, n ≤ 100 := fun n hn => (h.between n hn).2
  constructor
  case ascending => exact h.ascending
  case between => exact h.between
  case full =>
    constructor
    · intro hin
      cases result with
      | ok artifacts => exact ⟨artifacts, rfl⟩
      | error e =>
        have hlt := (h.fails e rfl).2 100 hin
        exact absurd e.ceiling_bounds.2 (Nat.not_le.2 hlt)
    · rintro ⟨artifacts, rfl⟩
      exact (h.arrives artifacts rfl).resolve_left (by decide)
  case ok =>
    cases result with
    | ok artifacts => simp [verdict]
    | error e => simp [verdict]
  case silent =>
    rintro artifacts rfl
    exact ⟨rfl, rfl⟩
  case failed =>
    rintro e rfl
    have hceiling := e.ceiling_bounds.1
    exact tellsOf_verdict (shown_lt (by omega) (h.fails e rfl).2 hle)
  case fresh =>
    intro hnil
    rw [hnil]
    rfl

/-- The compiler came to be called, gave an answer, and left every source with its class file. -/
def ClassesComplete (s : Services ρ) (project : Project) (types : List String)
    (options : BuildOptions) (σ : Session ρ) : Prop :=
  ∃ b command libraries σ₁ output σ₂,
    (untilCompiler s project types options).run σ = (.ok (b, command, libraries), σ₁) ∧
    b.compilerAsked s command σ₁ = (.ok output, σ₂) ∧
    ∀ source ∈ project.sources, Compiler.HasClass σ₂.workspace b.layout.classes source

/-- Until all class files are there less than 35 is shown. -/
theorem shown_lt_of_not_complete {s : Services ρ} {project : Project} {types : List String}
    {options : BuildOptions} {σ : Session ρ} {added : List Event}
    (hadded : ((run s project types options).run σ).2.events = σ.events ++ added)
    (hrises : Rises 15 100 ((run s project types options).run σ).1 added)
    (h : ¬ ClassesComplete s project types options σ) :
    (Progress.fresh.fed (Event.published added)).value < 35 := by
  have hle : ∀ n ∈ Event.published added, n ≤ 100 := fun n hn => (hrises.between n hn).2
  -- a build whose error has the ceiling 35 has published less
  have hfailed : ∀ e, ((run s project types options).run σ).1 = .error e → e.ceiling = 35 →
      (Progress.fresh.fed (Event.published added)).value < 35 := by
    intro e he hceiling
    rw [← hceiling]
    exact shown_lt (by omega) (hrises.fails e he).2 hle
  rcases huntil : (untilCompiler s project types options).run σ with
    ⟨e | ⟨b, command, libraries⟩, σ₁⟩
  · rw [run_eq_around_compiler, run_bind, huntil] at hadded
    obtain ⟨early, hearly, hrises'⟩ := climbs_untilCompiler s project types options σ
    rw [huntil] at hearly
    have heq : added = early := List.append_cancel_left (hadded.symm.trans hearly)
    rw [heq] at hle ⊢
    exact shown_lt (by decide) (fun n hn => by have := (hrises'.between n hn).2; omega) hle
  · have hafter : EndsAfter s b libraries (b.compilerAsked s command σ₁)
        ((run s project types options).run σ).1 := by
      rw [run_eq_around_compiler, run_bind, huntil]
      exact endsAfter_callCompiler s b command libraries σ₁
    generalize hr : ((run s project types options).run σ).1 = r at hafter hfailed
    generalize hasked : b.compilerAsked s command σ₁ = asked at hafter
    cases hafter with
    | lost => exact hfailed _ rfl rfl
    | missing => exact hfailed _ rfl rfl
    | goesOn there =>
      rw [untilCompiler_project huntil] at there
      exact absurd ⟨b, command, libraries, σ₁, _, _, huntil, hasked, there⟩ h

/-! ## The law -/

/-- The values that a build publishes never fall and lie between 15 and 100, and 100 is published
just by a build that ends well. Such a build tells nothing of errors. Of any other the user is told
the message of its error and the operators the failed stage, if it was one, and it is shown to have
come less far than that stage ends; less than 35 where class files are missing. -/
theorem a_build_is_shown_as_far_as_it_came (s : Services ρ) (project : Project)
    (types : List String) (options : BuildOptions) (σ : Session ρ) :
    ∃ added, ((run s project types options).run σ).2.events = σ.events ++ added ∧
      Course ((run s project types options).run σ).1 (Event.published added) ∧
      (¬ ClassesComplete s project types options σ →
        (Progress.fresh.fed (Event.published added)).value < 35) := by
  obtain ⟨added, hadded, hrises⟩ := climbs_run s project types options σ
  exact ⟨added, hadded, course_of_rises hrises, shown_lt_of_not_complete hadded hrises⟩

end Build

end ApkForge
