-- The order of the calls of a build. Each stage makes a word of its own language, and a build
-- makes one of these after the other, or breaks off at the first call that ends as its stage does
-- not tolerate.
import ApkForge.Proofs.Calls

open scoped Computability

namespace ApkForge

variable {ρ : Type}

namespace Build

/-! ## The words of the stages -/

/-- The compiler is called once. Its exit is tolerated. -/
def compiling : Language Call := once .compile (· != .lost)

/-- A resource class is made for each package, in order, and then they are compiled. -/
def resourceClasses : Language Call :=
  (RobotFiles.resourcePackages.map fun package => succeeds (.resourceClass package)).prod *
    succeeds .compileClasses

/-- Libraries are converted beforehand. Their exits are tolerated. -/
def predexing : Language Call := (once .predex (· != .lost))∗

/-- The tool refuses the first container. -/
def refusal : Language Call := predexing * once .mergeFirst (· == .badly)

/-- The first container is made, and then the second if there is one. -/
def attempt : Language Call :=
  predexing * succeeds .mergeFirst * (1 + predexing * succeeds .mergeSecond)

/-- An attempt, or a refusal and then an attempt. -/
def converting : Language Call := attempt + refusal * attempt

/-- The archive is made, filled with code, signed and aligned. -/
def sealing : Language Call :=
  succeeds .pack * succeeds .addCode * succeeds .sign * succeeds .align

/-- The calls of a whole build, for a robot controller or another app. -/
def wholeBuild (robot : Bool) : Language Call :=
  compiling * (if robot then resourceClasses else 1) * converting * sealing

/-! ## Words that there are -/

theorem exists_mem_compiling : ∃ word, word ∈ compiling := ⟨_, .well, rfl, rfl⟩

theorem exists_mem_generating : ∃ word, word ∈
    (RobotFiles.resourcePackages.map fun package => succeeds (.resourceClass package)).prod :=
  exists_mem_prod (fun _ => exists_mem_succeeds _) _

theorem exists_mem_resourceClasses : ∃ word, word ∈ resourceClasses :=
  exists_mem_mul exists_mem_generating (exists_mem_succeeds _)

theorem exists_mem_attempt : ∃ word, word ∈ attempt :=
  exists_mem_mul (exists_mem_mul ⟨[], Language.nil_mem_kstar _⟩ (exists_mem_succeeds _))
    ⟨[], Or.inl rfl⟩

theorem exists_mem_converting : ∃ word, word ∈ converting := by
  obtain ⟨word, hword⟩ := exists_mem_attempt
  exact ⟨word, Or.inl hword⟩

/-! ## Converting -/

variable {b : Build} {m : DexMerger}

theorem call?_predex {e : Event} (layout : BuildLayout) (h : m.IsPredex e) :
    ∃ fate, e.call? layout = some (.predex, fate) ∧ (e.isAnswered = true → fate ≠ .lost) := by
  obtain ⟨cacheDir, key, input, answer, -, rfl⟩ := h
  refine ⟨Fate.of answer, ?_, ?_⟩
  · rw [Event.call?, Use.of_dex, Use.ofOutput_cachedFile]
  · intro ha hlost
    obtain ⟨fault, rfl⟩ := Fate.of_eq_lost.1 hlost
    cases ha

theorem predexing_append {u v : List Call} (hu : u ∈ once .predex (· != .lost))
    (hv : v ∈ predexing) : u ++ v ∈ predexing :=
  (mul_kstar_le_kstar : once .predex (· != .lost) * predexing ≤ predexing)
    (Language.append_mem_mul hu hv)

theorem calls_mem_predexing (layout : BuildLayout) {l : List Event}
    (hall : ∀ e ∈ l, m.IsPredex e) (hans : ∀ e ∈ l, e.isAnswered = true) :
    Event.calls layout l ∈ predexing := by
  induction l with
  | nil => exact Language.nil_mem_kstar _
  | cons e rest ih =>
    obtain ⟨fate, hcall, hfate⟩ := call?_predex layout (hall e (List.mem_cons_self ..))
    have hne := hfate (hans e (List.mem_cons_self ..))
    have hrest := ih (fun e' he => hall e' (List.mem_cons_of_mem _ he))
      (fun e' he => hans e' (List.mem_cons_of_mem _ he))
    rw [Event.calls, List.filterMap_cons, hcall]
    exact predexing_append (u := [(.predex, fate)]) ⟨fate, by simpa using hne, rfl⟩ hrest

/-- Conversions made beforehand break off at the first that has no answer. -/
theorem cut_predexing {α : Type} {r : Except BuildError α} {l : List Event}
    (layout : BuildLayout) (h : m.Prepares r l) :
    ∃ word ∈ predexing, Cut (Event.calls layout l) word := by
  rcases List.eq_nil_or_concat l with rfl | ⟨front, last, rfl⟩
  · exact ⟨[], Language.nil_mem_kstar _, Cut.nil _⟩
  · rw [List.concat_eq_append] at h ⊢
    obtain ⟨fate, hcall, -⟩ := call?_predex layout (h.predex last (by simp))
    have hfront : Event.calls layout front ∈ predexing :=
      calls_mem_predexing layout (fun e he => h.predex e (by simp [he]))
        (fun e he => h.answered_front e (by simpa using he))
    have hlast : Event.calls layout [last] = [(.predex, fate)] := by
      rw [Event.calls, List.filterMap_cons, hcall]
      rfl
    refine ⟨Event.calls layout front ++ [(.predex, .well)], ?_, ?_⟩
    · have hstar : predexing * predexing = predexing := kstar_mul_kstar _
      rw [← hstar]
      exact Language.append_mem_mul hfront
        (predexing_append (u := [(.predex, .well)]) ⟨.well, rfl, rfl⟩ (Language.nil_mem_kstar _))
    · rw [Event.calls_append, hlast]
      exact Cut.last _ _ _ _

/-- How the call of a merge ended. -/
def mergeFate (made : Bool) : Fate := if made then .well else .badly

/-- The calls of a merge that came to an end. -/
theorem calls_of_merges {layout : BuildLayout} {output : Path} {inputs : List Path} {made : Bool}
    {l : List Event} {use : Use} (huse : Use.ofOutput layout (Use.outputArg output) = use)
    (h : m.Merges output inputs (.ok made) l) : ∃ pre ∈ predexing,
    Event.calls layout l = pre ++ [(use, mergeFate made)] := by
  generalize hr : (.ok made : Except BuildError Bool) = r at h
  cases h with
  | broken front => cases hr
  | @called pre prepared answer front stands =>
    refine ⟨_, calls_mem_predexing layout front.predex (front.answered _ rfl), ?_⟩
    rcases answer with fault | output
    · cases hr
    · cases hr
      rw [Event.calls_append, Event.calls, Event.calls, List.filterMap_cons, Event.call?,
        Use.of_dex, huse]
      rfl

/-- The calls of a merge break off, or its last call ends in any way. -/
theorem cut_of_merges {layout : BuildLayout} {output : Path} {inputs : List Path}
    {r : Except BuildError Bool} {l : List Event} {use : Use}
    (huse : Use.ofOutput layout (Use.outputArg output) = use) (h : m.Merges output inputs r l) :
    ∃ word ∈ predexing * succeeds use, Cut (Event.calls layout l) word := by
  cases h with
  | @broken pre e front =>
    obtain ⟨word, hword, hcut⟩ := cut_predexing layout front
    refine ⟨word ++ [(use, .well)], Language.append_mem_mul hword (mem_succeeds.2 rfl), ?_⟩
    rw [Event.calls_append]
    change Cut (Event.calls layout pre ++ []) _
    rw [List.append_nil]
    exact hcut.append_right _
  | @called pre prepared answer front stands =>
    refine ⟨Event.calls layout pre ++ [(use, .well)], Language.append_mem_mul
      (calls_mem_predexing layout front.predex (front.answered _ rfl)) (mem_succeeds.2 rfl), ?_⟩
    have hcall : Event.calls layout [.called (m.command output prepared) m.seconds answer,
        .merged output inputs ((Step.callEnd .dx answer).map ToolOutput.success)] =
        [(use, Fate.of answer)] := by
      rw [Event.calls, List.filterMap_cons, Event.call?, Use.of_dex, huse]
      rfl
    rw [Event.calls_append, hcall]
    exact Cut.last _ _ _ _

theorem use_primaryDex (b : Build) :
    Use.ofOutput b.layout (Use.outputArg b.primaryDex) = .mergeFirst :=
  Use.ofOutput_first b.layout

theorem use_secondaryDex (b : Build) :
    Use.ofOutput b.layout (Use.outputArg b.secondaryDex) = .mergeSecond :=
  Use.ofOutput_second b.layout

/-- What is cut within the first container is cut within an attempt. -/
theorem cut_attempt_of_first {calls : List Call}
    (h : ∃ word ∈ predexing * succeeds .mergeFirst, Cut calls word) :
    ∃ word ∈ attempt, Cut calls word := by
  obtain ⟨word, hword, hcut⟩ := h
  refine ⟨word, ?_, hcut⟩
  rw [← List.append_nil word]
  exact Language.append_mem_mul hword (Or.inl rfl)

theorem calls_first {made : Bool} {inputs : List Path} {l : List Event}
    (h : m.Merges b.primaryDex inputs (.ok made) l) :
    Event.calls b.layout l ∈ predexing * once .mergeFirst (· == mergeFate made) := by
  obtain ⟨pre, hpre, hcalls⟩ := calls_of_merges b.use_primaryDex h
  rw [hcalls]
  exact Language.append_mem_mul hpre ⟨mergeFate made, beq_self_eq_true _, rfl⟩

/-- An attempt that made its containers made the calls for them. -/
theorem calls_of_attempts {plan : DexPlan} {files : List Path} {l : List Event}
    (h : Attempts b m plan (.ok (some files)) l) : Event.calls b.layout l ∈ attempt := by
  generalize hr : (.ok (some files) : Except BuildError (Option (List Path))) = r at h
  cases h with
  | broken first => cases hr
  | refused first => cases hr
  | single first alone =>
    rw [← List.append_nil (Event.calls b.layout l)]
    exact Language.append_mem_mul (calls_first first) (Or.inl rfl)
  | @double l l' made first more second =>
    rcases made with e | _ | _
    · cases hr
    · cases hr
    · obtain ⟨pre, hpre, hcalls⟩ := calls_of_merges b.use_secondaryDex second
      rw [Event.calls_append, hcalls]
      refine Language.append_mem_mul (calls_first first) (Or.inr ?_)
      exact Language.append_mem_mul hpre (mem_succeeds.2 rfl)

/-- Whatever becomes of an attempt, its calls go no further than those of one that goes well. -/
theorem cut_of_attempts {plan : DexPlan} {r : Except BuildError (Option (List Path))}
    {l : List Event} (h : Attempts b m plan r l) :
    ∃ word ∈ attempt, Cut (Event.calls b.layout l) word := by
  cases h with
  | broken first => exact cut_attempt_of_first (cut_of_merges b.use_primaryDex first)
  | refused first => exact cut_attempt_of_first (cut_of_merges b.use_primaryDex first)
  | single first alone => exact cut_attempt_of_first (cut_of_merges b.use_primaryDex first)
  | @double l l' made first more second =>
    obtain ⟨word, hword, hcut⟩ := cut_of_merges b.use_secondaryDex second
    refine ⟨Event.calls b.layout l ++ word,
      Language.append_mem_mul (calls_first first) (Or.inr hword), ?_⟩
    rw [Event.calls_append]
    exact hcut.append_left _

theorem calls_of_converts {plan : DexAttempt → DexPlan} {files : List Path} {l : List Event}
    (h : Converts b m plan (.ok files) l) : Event.calls b.layout l ∈ converting := by
  generalize hr : (.ok files : Except BuildError (List Path)) = r at h
  cases h with
  | once att accepted =>
    rw [lastEnd_eq_ok.1 hr.symm] at att
    exact Or.inl (calls_of_attempts att)
  | twice refused att =>
    rw [lastEnd_eq_ok.1 hr.symm] at att
    rw [Event.calls_append]
    exact Or.inr (Language.append_mem_mul (calls_first refused) (calls_of_attempts att))

theorem cut_of_converts {plan : DexAttempt → DexPlan} {r : Except BuildError (List Path)}
    {l : List Event} (h : Converts b m plan r l) :
    ∃ word ∈ converting, Cut (Event.calls b.layout l) word := by
  cases h with
  | once att accepted =>
    obtain ⟨word, hword, hcut⟩ := cut_of_attempts att
    exact ⟨word, Or.inl hword, hcut⟩
  | @twice l l' r refused att =>
    obtain ⟨word, hword, hcut⟩ := cut_of_attempts att
    refine ⟨Event.calls b.layout l ++ word,
      Or.inr (Language.append_mem_mul (calls_first refused) hword), ?_⟩
    rw [Event.calls_append]
    exact hcut.append_left _

theorem follows_convert (s : Services ρ) (b : Build) (libraries : Libraries) :
    Step.Follows b.layout (b.convert s libraries) converting := by
  refine (does_convert s b libraries).mono ?_
  rintro r l ⟨plan, h⟩
  cases h with
  | early e =>
    obtain ⟨word, hword⟩ := exists_mem_converting
    exact ⟨by simp, fun _ _ => ⟨word, hword, Cut.nil _⟩⟩
  | @held m r l merger converts =>
    rw [Event.calls_held]
    refine ⟨?_, fun _ _ => cut_of_converts converts⟩
    rintro files rfl
    exact calls_of_converts converts

/-! ## The other stages -/

theorem follows_compileSources (s : Services ρ) (b : Build) :
    Step.Follows b.layout (b.compileSources s) compiling := by
  refine (does_compileSources s b).mono ?_
  rintro r l h
  cases h with
  | early e =>
    obtain ⟨word, hword⟩ := exists_mem_compiling
    exact ⟨by simp, fun _ _ => ⟨word, hword, Cut.nil _⟩⟩
  | @held java classpath runtime answer r answered =>
    have hcalls := Event.calls_held b.layout b.options.heap
      [.called (Compiler.command java b.options.heap classpath runtime b.layout.classes
        (b.package s) b.project.sources) s.timeouts.compile answer]
    rw [List.singleton_append] at hcalls
    rw [hcalls, Event.calls, List.filterMap_cons, Event.call?, Use.of_compile]
    refine ⟨?_, fun _ _ => ⟨[(.compile, .well)], ⟨.well, rfl, rfl⟩, Cut.last [] .compile _ _⟩⟩
    intro libraries hr
    obtain ⟨output, rfl⟩ := answered libraries hr
    refine ⟨Fate.of (.ok output), ?_, rfl⟩
    cases hs : output.success
    · simp [Fate.of, hs]
    · simp [Fate.of, hs]

theorem follows_compileResourceClasses (s : Services ρ) (b : Build) :
    Step.Follows b.layout (b.compileResourceClasses s) resourceClasses := by
  unfold compileResourceClasses
  refine (Step.quiet_say _).bind_follows (fun _ => ?_) exists_mem_resourceClasses
  refine Step.Follows.bind ?_ (fun _ => (callsFor_compileClasses s b).follows)
    (exists_mem_succeeds _)
  unfold generateResourceClasses
  refine (quiet_aapt s .aapt).bind_follows (fun aapt => ?_) exists_mem_generating
  refine (Step.quiet_resource _ _).bind_follows (fun android => ?_) exists_mem_generating
  refine (Step.quiet_onFiles _ _).bind_follows (fun _ => ?_) exists_mem_generating
  refine Step.follows_forM (fun package => ?_) (fun _ => exists_mem_succeeds _) _
  exact (callsFor_generateResourceClass s b aapt android package).follows

/-! ## The whole -/

theorem exists_mem_sealing : ∃ word, word ∈ sealing :=
  exists_mem_mul (exists_mem_mul (exists_mem_mul (exists_mem_succeeds _) (exists_mem_succeeds _))
    (exists_mem_succeeds _)) (exists_mem_succeeds _)

/-- The stages after the compilers. -/
theorem follows_fromConvert (s : Services ρ) (b : Build) (robot : Bool) (libraries : Libraries) :
    Step.Follows b.layout (do
      let dexFiles ← b.convert s libraries
      let intermediate ← b.packResources s
      b.addCode s intermediate dexFiles
      b.sign s
      b.align s
      return ({ apk := b.apk, dexFiles, robot } : Artifacts))
      (converting * sealing) := by
  refine (follows_convert s b libraries).bind (fun dexFiles => ?_) exists_mem_sealing
  have halign := exists_mem_succeeds .align
  have hsign := exists_mem_mul (exists_mem_succeeds .sign) halign
  have hadd := exists_mem_mul (exists_mem_succeeds .addCode) hsign
  simp only [sealing, mul_assoc]
  refine (callsFor_packResources s b).follows.bind (fun intermediate => ?_) hadd
  refine (callsFor_addCode s b intermediate dexFiles).follows.bind (fun _ => ?_) hsign
  refine (callsFor_sign s b).follows.bind (fun _ => ?_) halign
  exact (callsFor_align s b).follows.bind_quiet fun _ => Step.quiet_pure _

theorem follows_stages (s : Services ρ) (b : Build) :
    Step.Follows b.layout (b.stages s) (wholeBuild b.survey.robot) := by
  have htail := exists_mem_mul exists_mem_converting exists_mem_sealing
  have hrobot : ∃ word, word ∈
      (if b.survey.robot then resourceClasses else 1) * (converting * sealing) := by
    refine exists_mem_mul ?_ htail
    split
    · exact exists_mem_resourceClasses
    · exact ⟨[], rfl⟩
  simp only [wholeBuild, mul_assoc]
  have hwhole := exists_mem_mul exists_mem_compiling hrobot
  unfold stages
  refine (quiet_installIcon b).bind_follows (fun _ => ?_) hwhole
  refine (quiet_addResources b).bind_follows (fun _ => ?_) hwhole
  refine (quiet_writeManifest s b).bind_follows (fun _ => ?_) hwhole
  refine (quiet_attach b).bind_follows (fun _ => ?_) hwhole
  refine (follows_compileSources s b).bind (fun libraries => ?_) hrobot
  cases b.survey.robot
  · simp only [Bool.false_eq_true, if_false, one_mul]
    exact follows_fromConvert s b false libraries
  · simp only [if_true]
    refine (follows_compileResourceClasses s b).bind (fun _ => ?_) htail
    exact follows_fromConvert s b true libraries

/-! ## What a word of a whole build is like -/

/-- The call is the end of a build: it has no answer, or it went badly and is neither the compiler's
nor a conversion made beforehand nor the first merge into the first container. -/
def IsFatal (before : List Call) (c : Call) : Prop :=
  c.2 = .lost ∨ c.2 = .badly ∧ c.1 ≠ .compile ∧ c.1 ≠ .predex ∧
    (c.1 = .mergeFirst → ∃ d ∈ before, d.1 = .mergeFirst)

/-- The tool may say no to the compiler, to a conversion made beforehand and to a merge into the
first container. -/
def Mild (c : Call) : Prop :=
  c.2 ≠ .lost ∧ (c.2 = .badly → c.1 = .compile ∨ c.1 = .predex ∨ c.1 = .mergeFirst)

theorem mild_of_well (use : Use) : Mild (use, .well) := ⟨by simp, by simp⟩

theorem mild_attempt : AllCalls Mild attempt := by
  have hpredex : AllCalls Mild predexing := AllCalls.kstar (allCalls_once (by simp [Mild]))
  have hone := fun use => allCalls_succeeds (mild_of_well use)
  exact (hpredex.mul (hone _)).mul (allCalls_one.add (hpredex.mul (hone _)))

theorem mild_wholeBuild (robot : Bool) : AllCalls Mild (wholeBuild robot) := by
  have hpredex : AllCalls Mild predexing := AllCalls.kstar (allCalls_once (by simp [Mild]))
  have hone := fun use => allCalls_succeeds (mild_of_well use)
  have hcompiling : AllCalls Mild compiling := allCalls_once (by simp [Mild])
  have hresources : AllCalls Mild (if robot then resourceClasses else 1) := by
    split
    · exact (allCalls_prod (fun _ => hone _) _).mul (hone _)
    · exact allCalls_one
  have hrefusal : AllCalls Mild refusal :=
    hpredex.mul (allCalls_once (by simp [Mild]))
  have hconverting : AllCalls Mild converting :=
    mild_attempt.add (hrefusal.mul mild_attempt)
  have hsealing : AllCalls Mild sealing := (((hone _).mul (hone _)).mul (hone _)).mul (hone _)
  exact ((hcompiling.mul hresources).mul hconverting).mul hsealing

/-- After a merge into the first container the tool says no to no other. -/
def NotAgain (c d : Call) : Prop := c.1 = .mergeFirst → d ≠ (.mergeFirst, .badly)

/-- In every word, a refusal of the first container comes before all other merges into it. -/
def RefusesFirst (L : Language Call) : Prop := ∀ word ∈ L, word.Pairwise NotAgain

/-- The call is no refusal of the first container. -/
def NoRefusal (c : Call) : Prop := c ≠ (.mergeFirst, .badly)

/-- The call is no merge into the first container. -/
def NoFirstMerge (c : Call) : Prop := c.1 ≠ .mergeFirst

theorem refusesFirst_of_noRefusal {L : Language Call} (h : AllCalls NoRefusal L) :
    RefusesFirst L := by
  intro word hword
  exact List.pairwise_of_forall_mem_list fun c _ d hd _ => h word hword d hd

theorem RefusesFirst.mul_noRefusal {L M : Language Call} (hL : RefusesFirst L)
    (hM : AllCalls NoRefusal M) : RefusesFirst (L * M) := by
  rintro _ ⟨u, hu, v, hv, rfl⟩
  refine List.pairwise_append.2 ⟨hL u hu, refusesFirst_of_noRefusal hM v hv, ?_⟩
  intro c _ d hd _
  exact hM v hv d hd

theorem RefusesFirst.noFirstMerge_mul {L M : Language Call} (hL : AllCalls NoFirstMerge L)
    (hM : RefusesFirst M) : RefusesFirst (L * M) := by
  rintro _ ⟨u, hu, v, hv, rfl⟩
  refine List.pairwise_append.2 ⟨?_, hM v hv, ?_⟩
  · exact List.pairwise_of_forall_mem_list fun c hc d _ hfirst => absurd hfirst (hL u hu c hc)
  · intro c hc d _ hfirst
    exact absurd hfirst (hL u hu c hc)

theorem noRefusal_attempt : AllCalls NoRefusal attempt := by
  have hpredex : AllCalls NoRefusal predexing :=
    AllCalls.kstar (allCalls_once (by simp [NoRefusal]))
  have hone : ∀ use, AllCalls NoRefusal (succeeds use) :=
    fun use => allCalls_succeeds (by simp [NoRefusal])
  exact (hpredex.mul (hone _)).mul (allCalls_one.add (hpredex.mul (hone _)))

theorem refusesFirst_converting : RefusesFirst converting := by
  have hpredex : AllCalls NoFirstMerge predexing :=
    AllCalls.kstar (allCalls_once (by simp [NoFirstMerge]))
  have hrefusal : RefusesFirst refusal := by
    refine RefusesFirst.noFirstMerge_mul hpredex ?_
    rintro _ ⟨fate, -, rfl⟩
    exact List.pairwise_singleton _ _
  rintro word (hword | hword)
  · exact refusesFirst_of_noRefusal noRefusal_attempt word hword
  · exact hrefusal.mul_noRefusal noRefusal_attempt word hword

theorem refusesFirst_wholeBuild (robot : Bool) : RefusesFirst (wholeBuild robot) := by
  have hfront : AllCalls NoFirstMerge
      (compiling * (if robot then resourceClasses else 1)) := by
    refine AllCalls.mul (allCalls_once (by simp [NoFirstMerge])) ?_
    split
    · refine AllCalls.mul (allCalls_prod (fun package => ?_) _) ?_
      · exact allCalls_succeeds (by simp [NoFirstMerge])
      · exact allCalls_succeeds (by simp [NoFirstMerge])
    · exact allCalls_one
  have hone : ∀ use, AllCalls NoRefusal (succeeds use) :=
    fun use => allCalls_succeeds (by simp [NoRefusal])
  have hsealing : AllCalls NoRefusal sealing :=
    (((hone _).mul (hone _)).mul (hone _)).mul (hone _)
  exact (RefusesFirst.noFirstMerge_mul hfront refusesFirst_converting).mul_noRefusal hsealing

/-- No call of a whole build that went well is fatal. -/
theorem not_fatal_of_mem {robot : Bool} {before after : List Call} {c : Call}
    (h : before ++ c :: after ∈ wholeBuild robot) : ¬ IsFatal before c := by
  obtain ⟨hlost, hbadly⟩ := mild_wholeBuild robot _ h c (by simp)
  rintro (hl | ⟨hb, hcompile, hpredex, hfirst⟩)
  · exact hlost hl
  · rcases hbadly hb with huse | huse | huse
    · exact hcompile huse
    · exact hpredex huse
    · obtain ⟨d, hd, hduse⟩ := hfirst huse
      have hpair := refusesFirst_wholeBuild robot _ h
      refine (List.pairwise_append.1 hpair).2.2 d hd c (by simp) hduse ?_
      rw [← huse, ← hb]

/-- No call follows a fatal one. -/
theorem nothing_after_fatal {robot : Bool} {calls word before after : List Call} {c : Call}
    (hword : word ∈ wholeBuild robot) (hcut : Cut calls word)
    (hcalls : calls = before ++ c :: after) (hfatal : IsFatal before c) : after = [] := by
  rcases List.eq_nil_or_concat after with rfl | ⟨init, last, rfl⟩
  · rfl
  · obtain ⟨rest, hrest⟩ := hcut.2
    rw [hcalls, List.concat_eq_append, ← List.cons_append, ← List.append_assoc,
      List.dropLast_concat, List.append_assoc, List.cons_append] at hrest
    rw [← hrest] at hword
    exact absurd hfatal (not_fatal_of_mem hword)

/-- A whole build ends with an aligner that went well. -/
theorem getLast?_of_mem {robot : Bool} {word : List Call} (h : word ∈ wholeBuild robot) :
    word.getLast? = some (.align, .well) := by
  obtain ⟨front, -, back, ⟨u, -, v, hv, rfl⟩, rfl⟩ := h
  rw [mem_succeeds.1 hv]
  simp

/-! ## The law -/

/-- A session builds a robot controller, by the components that its catalog knows. -/
def IsRobotIn (types : List String) (options : BuildOptions) (σ : Session ρ) : Bool :=
  match ((catalog : Step ρ Catalog).run σ).1 with
  | .ok catalog =>
    Manifest.isRobotBuild (ComponentSets.partition types catalog) options.companion
  | .error _ => false

/-- A survey says of an app whether it is a robot controller. -/
theorem survey_robot {project : Project} {types : List String} {found : Catalog}
    {companion : Bool} {survey : Survey} {w : Workspace}
    (h : ((Survey.take project types found companion).run w).1 = .ok survey) :
    survey.robot = Manifest.isRobotBuild (ComponentSets.partition types found) companion := by
  rcases hr : (Survey.take project types found companion).run w with ⟨r, w'⟩
  rw [hr] at h
  subst h
  unfold Survey.take at hr
  rcases run_bind_cases hr with ⟨e, -, he⟩ | ⟨_, w₁, -, hr⟩
  · cases he
  rcases run_bind_cases hr with ⟨e, -, he⟩ | ⟨extensions, w₂, -, hr⟩
  · cases he
  rcases run_bind_cases hr with ⟨e, -, he⟩ | ⟨requirements, w₃, -, hr⟩
  · cases he
  cases hr
  rfl

theorem prepare_eq_ok {project : Project} {types : List String} {options : BuildOptions}
    {σ σ' : Session ρ} {b : Build}
    (h : (prepare project types options).run σ = (.ok b, σ')) :
    b.project = project ∧ b.survey.robot = IsRobotIn types options σ := by
  unfold prepare at h
  rcases run_bind_cases h with ⟨e, -, he⟩ | ⟨found, σ₁, hcat, h⟩
  · cases he
  rcases run_bind_cases h with ⟨e, -, he⟩ | ⟨survey, σ₂, hsurvey, h⟩
  · cases he
  cases h
  refine ⟨rfl, ?_⟩
  rw [Step.run_work] at hsurvey
  rw [IsRobotIn, hcat]
  exact survey_robot (congrArg Prod.fst hsurvey)

/-- What a build leaves says of which kind it is. -/
theorem yields_stages (s : Services ρ) (b : Build) :
    Step.Yields (b.stages s) fun artifacts => artifacts.robot = b.survey.robot := by
  unfold stages
  refine Step.yields_bind fun _ => Step.yields_bind fun _ => Step.yields_bind fun _ => ?_
  refine Step.yields_bind fun _ => Step.yields_bind fun libraries => ?_
  have hrest : ∀ robot, Step.Yields (do
      let dexFiles ← b.convert s libraries
      let intermediate ← b.packResources s
      b.addCode s intermediate dexFiles
      b.sign s
      b.align s
      return ({ apk := b.apk, dexFiles, robot } : Artifacts)) fun a => a.robot = robot := by
    intro robot
    refine Step.yields_bind fun _ => Step.yields_bind fun _ => Step.yields_bind fun _ => ?_
    exact Step.yields_bind fun _ => Step.yields_bind fun _ => Step.yields_pure rfl
  cases b.survey.robot
  · exact hrest false
  · exact Step.yields_bind fun _ => hrest true

theorem exists_mem_wholeBuild (robot : Bool) : ∃ word, word ∈ wholeBuild robot := by
  refine exists_mem_mul (exists_mem_mul (exists_mem_mul exists_mem_compiling ?_)
    exists_mem_converting) exists_mem_sealing
  split
  · exact exists_mem_resourceClasses
  · exact ⟨[], rfl⟩

/-- What a whole build adds to the record, and how it ends. -/
theorem run_calls (s : Services ρ) (project : Project) (types : List String)
    (options : BuildOptions) (σ : Session ρ) : ∃ added,
    ((run s project types options).run σ).2.events = σ.events ++ added ∧
    (∃ word ∈ wholeBuild (IsRobotIn types options σ),
      Cut (Event.calls ⟨project.buildDir⟩ added) word) ∧
    ∀ artifacts, ((run s project types options).run σ).1 = .ok artifacts →
      artifacts.robot = IsRobotIn types options σ ∧
      Event.calls ⟨project.buildDir⟩ added ∈ wholeBuild (IsRobotIn types options σ) := by
  obtain ⟨l, hev, hl⟩ := quiet_prepare project types options σ
  obtain ⟨word, hword⟩ := exists_mem_wholeBuild (IsRobotIn types options σ)
  have hl : Event.calls ⟨project.buildDir⟩ l = [] := by
    rw [← Event.calls_deeds, Event.deeds_eq_nil hl]
    rfl
  unfold run
  rw [run_bind]
  rcases hp : (prepare project types options).run σ with ⟨e | b, σ₁⟩
  · rw [hp] at hev
    exact ⟨l, hev, ⟨word, hword, hl ▸ Cut.nil _⟩, by simp⟩
  · rw [hp] at hev
    obtain ⟨rfl, hrobot⟩ := prepare_eq_ok hp
    have hfollows : Step.Follows b.layout (do
        let artifacts ← b.stages s
        Step.record (.noted .finished)
        return artifacts) (wholeBuild b.survey.robot) :=
      (follows_stages s b).bind_quiet fun _ =>
        (Step.quiet_record rfl).bind fun _ => Step.quiet_pure _
    have hyields : Step.Yields (do
        let artifacts ← b.stages s
        Step.record (.noted .finished)
        return artifacts) fun artifacts => artifacts.robot = b.survey.robot :=
      (yields_stages s b).bind fun _ h => Step.yields_bind fun _ => Step.yields_pure h
    obtain ⟨l', hev', hok, hcut⟩ := hfollows σ₁
    have hcalls : Event.calls ⟨b.project.buildDir⟩ (l ++ l') =
        Event.calls b.layout (Event.deeds l') := by
      rw [Event.calls_append, hl, Event.calls_deeds, List.nil_append]
      rfl
    refine ⟨l ++ l', ?_, ?_, ?_⟩
    · simp only at hev ⊢
      rw [hev', hev, List.append_assoc]
    · rw [hcalls, ← hrobot]
      rcases hr : ((do
        let artifacts ← b.stages s
        Step.record (.noted .finished)
        return artifacts : Step ρ Artifacts).run σ₁).1 with e | artifacts
      · exact hcut e hr
      · exact ⟨_, hok artifacts hr, Cut.refl _⟩
    · intro artifacts hr
      rw [hcalls, ← hrobot]
      exact ⟨hyields σ₁ artifacts hr, hok artifacts hr⟩

/-- Whatever the tools answer, the calls of a build are those of a whole build of its kind, in
order, or break off within them, and they break off at the first fatal one. A build that goes well
has made all of them, and the last was an aligner that ended well. -/
theorem the_calls_of_a_build_come_in_order (s : Services ρ) (project : Project)
    (types : List String) (options : BuildOptions) (σ : Session ρ) : ∃ added,
    ((run s project types options).run σ).2.events = σ.events ++ added ∧
    (∃ word ∈ wholeBuild (IsRobotIn types options σ),
      Cut (Event.calls ⟨project.buildDir⟩ added) word) ∧
    (∀ before c after, Event.calls ⟨project.buildDir⟩ added = before ++ c :: after →
      IsFatal before c → after = []) ∧
    ∀ artifacts, ((run s project types options).run σ).1 = .ok artifacts →
      artifacts.robot = IsRobotIn types options σ ∧
      Event.calls ⟨project.buildDir⟩ added ∈ wholeBuild (IsRobotIn types options σ) ∧
      (Event.calls ⟨project.buildDir⟩ added).getLast? = some (.align, .well) := by
  obtain ⟨added, hev, ⟨word, hword, hcut⟩, hok⟩ := run_calls s project types options σ
  refine ⟨added, hev, ⟨word, hword, hcut⟩, ?_, ?_⟩
  · intro before c after hcalls hfatal
    exact nothing_after_fatal hword hcut hcalls hfatal
  · intro artifacts hr
    obtain ⟨hrobot, hmem⟩ := hok artifacts hr
    exact ⟨hrobot, hmem, getLast?_of_mem hmem⟩

end Build

end ApkForge
