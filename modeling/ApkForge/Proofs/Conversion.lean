-- Converting code, whole runs. A conversion makes one or two attempts, each by its own plan, and
-- what it returns are the containers of the last attempt: all of its inputs are in them, and
-- nothing that an earlier attempt or an earlier build left.
import ApkForge.Proofs.Merging
import ApkForge.Proofs.Uses

namespace ApkForge

variable {ρ : Type}

/-! ## Plans -/

namespace DexPlan

/-- A plan loses no input, whatever the policy and the attempt. -/
theorem make_perm (base libraries : List Path) (policy : DexPolicy) (attempt : DexAttempt) :
    ((make base libraries policy attempt).primary ++
      (make base libraries policy attempt).secondary).Perm (base ++ libraries) := by
  simp only [make, List.append_assoc, List.take_append_drop]
  exact (sortBy_perm _ libraries).append_left base

end DexPlan

namespace Build

variable (b : Build) (m : DexMerger)

/-! ## One attempt -/

/-- How an attempt ends that has made the first container and merges the second. -/
def secondEnd : Except BuildError Bool → Except BuildError (Option (List Path))
  | .ok true => .ok (some [b.primaryDex, b.secondaryDex])
  | .ok false => .error (.stage .dx .secondDexFailed)
  | .error e => .error e

/-- What an attempt by a plan adds to the record. -/
inductive Attempts (plan : DexPlan) :
    Except BuildError (Option (List Path)) → List Event → Prop where
  | broken {l : List Event} {e : BuildError}
      (first : m.Merges b.primaryDex plan.primary (.error e) l) : Attempts plan (.error e) l
  | refused {l : List Event}
      (first : m.Merges b.primaryDex plan.primary (.ok false) l) : Attempts plan (.ok none) l
  | single {l : List Event}
      (first : m.Merges b.primaryDex plan.primary (.ok true) l)
      (alone : plan.needsSecondary = false) : Attempts plan (.ok (some [b.primaryDex])) l
  | double {l l' : List Event} {made : Except BuildError Bool}
      (first : m.Merges b.primaryDex plan.primary (.ok true) l)
      (more : plan.needsSecondary = true)
      (second : m.Merges b.secondaryDex plan.secondary made l') :
      Attempts plan (b.secondEnd made) (l ++ l')

theorem does_convertBy (s : Services ρ) (plan : DexPlan) :
    Step.Does (b.convertBy s m plan) (Attempts b m plan) := by
  unfold convertBy
  refine Step.Does.after_record rfl ?_
  -- what follows the first merge depends on what it made, and so does its record
  refine (m.does_merge s.runner b.primaryDex plan.primary).bind
    (S := fun made r l =>
      (made = false ∧ r = .ok none ∧ l = []) ∨
      (made = true ∧ plan.needsSecondary = false ∧ r = .ok (some [b.primaryDex]) ∧ l = []) ∨
      (made = true ∧ plan.needsSecondary = true ∧ ∃ end₂ l',
        m.Merges b.secondaryDex plan.secondary end₂ l' ∧ r = b.secondEnd end₂ ∧ l = l'))
    (fun made => ?_) ?_ ?_
  · cases made
    · exact Step.does_pure (Or.inl ⟨rfl, rfl, rfl⟩)
    · cases hmore : plan.needsSecondary
      · exact Step.does_pure (Or.inr (Or.inl ⟨rfl, rfl, rfl, rfl⟩))
      · refine Step.Does.after_record rfl ?_
        refine (m.does_merge s.runner b.secondaryDex plan.secondary).bind
          (S := fun made r l => r = b.secondEnd (.ok made) ∧ l = []) (fun made => ?_) ?_ ?_
        · refine Step.Does.after_record rfl ?_
          cases made
          · exact Step.does_throw ⟨rfl, rfl⟩
          · exact Step.does_pure ⟨rfl, rfl⟩
        · intro e l hl
          exact Or.inr (Or.inr ⟨rfl, rfl, .error e, l, hl, rfl, rfl⟩)
        · rintro made l r l' hl ⟨rfl, rfl⟩
          exact Or.inr (Or.inr ⟨rfl, rfl, .ok made, l, hl, rfl, by simp⟩)
  · intro e l hl
    exact Attempts.broken hl
  · rintro made l r l' hl
      (⟨rfl, rfl, rfl⟩ | ⟨rfl, hone, rfl, rfl⟩ | ⟨rfl, hmore, end₂, _, hl', rfl, rfl⟩)
    · rw [List.append_nil]
      exact Attempts.refused hl
    · rw [List.append_nil]
      exact Attempts.single hl hone
    · exact Attempts.double hl hmore hl'

/-! ## Two attempts -/

/-- How a conversion ends whose last attempt ended so. -/
def lastEnd : Except BuildError (Option (List Path)) → Except BuildError (List Path)
  | .ok (some files) => .ok files
  | .ok none => .error (.stage .dx .dexFailed)
  | .error e => .error e

/-- What a conversion adds to the record: one attempt, or a second after the tool refused the first
container. -/
inductive Converts (plan : DexAttempt → DexPlan) :
    Except BuildError (List Path) → List Event → Prop where
  | once {l : List Event} {r : Except BuildError (Option (List Path))}
      (attempt : Attempts b m (plan .full) r l) (accepted : r ≠ .ok none) :
      Converts plan (lastEnd r) l
  | twice {l l' : List Event} {r : Except BuildError (Option (List Path))}
      (refused : m.Merges b.primaryDex (plan .full).primary (.ok false) l)
      (attempt : Attempts b m (plan .conservative) r l') : Converts plan (lastEnd r) (l ++ l')

/-- An attempt makes nothing only when the tool refuses the first container. -/
theorem Attempts.refused_of_none {b : Build} {m : DexMerger} {plan : DexPlan} {l : List Event}
    (h : Attempts b m plan (.ok none) l) : m.Merges b.primaryDex plan.primary (.ok false) l := by
  generalize hr : (.ok none : Except BuildError (Option (List Path))) = r at h
  cases h with
  | broken first => cases hr
  | refused first => exact first
  | single first alone => cases hr
  | @double _ _ made first more second =>
    rcases made with e | _ | _
    · cases hr
    · cases hr
    · cases hr

theorem does_convertInTwo (s : Services ρ) (base libraries : List Path) :
    Step.Does (b.convertInTwo s m base libraries)
      (Converts b m (DexPlan.make base libraries s.dexPolicy)) := by
  unfold convertInTwo
  refine (b.does_convertBy m s (DexPlan.make base libraries s.dexPolicy .full)).bind
    (S := fun files? r l =>
      (∃ files, files? = some files ∧ r = .ok files ∧ l = []) ∨
      (files? = none ∧ ∃ r', Attempts b m (DexPlan.make base libraries s.dexPolicy .conservative)
        r' l ∧ r = lastEnd r')) (fun files? => ?_) ?_ ?_
  · cases files? with
    | some files => exact Step.does_pure (Or.inl ⟨files, rfl, rfl, rfl⟩)
    | none =>
      refine (b.does_convertBy m s (DexPlan.make base libraries s.dexPolicy .conservative)).bind
        (S := fun files? r l => r = lastEnd (.ok files?) ∧ l = []) (fun files? => ?_) ?_ ?_
      · cases files? with
        | some files => exact Step.does_pure ⟨rfl, rfl⟩
        | none => exact Step.does_throw ⟨rfl, rfl⟩
      · intro e l hl
        exact Or.inr ⟨rfl, .error e, hl, rfl⟩
      · rintro files? l r l' hl ⟨rfl, rfl⟩
        exact Or.inr ⟨rfl, .ok files?, by simpa using hl, rfl⟩
  · intro e l hl
    exact Converts.once hl (by simp)
  · rintro files? l r l' hl (⟨files, rfl, rfl, rfl⟩ | ⟨rfl, r', hl', rfl⟩)
    · rw [List.append_nil]
      exact Converts.once hl (by simp)
    · exact Converts.twice hl.refused_of_none hl'

/-! ## What a conversion comes to -/

/-- The merges into one container. -/
def mergesInto (container : Path) (merges : List Merge) : List Merge :=
  merges.filter fun c => c.output = container

/-- The attempt that merges belong to at their end: the second one once the first container was
merged twice. -/
def lastAttempt (merges : List Merge) : DexAttempt :=
  if (mergesInto b.primaryDex merges).length = 2 then .conservative else .full

/-- What holds of a conversion by two plans for the same inputs, of how it ends and of all that it
adds to the record. -/
structure Conversion (plan : DexAttempt → DexPlan) (inputs : List Path)
    (r : Except BuildError (List Path)) (added : List Event) : Prop where
  /-- Only the two containers are made. -/
  outputs : ∀ c ∈ Event.merges added, c.output = b.primaryDex ∨ c.output = b.secondaryDex
  /-- The first container is made by the full plan and then by the conservative one, if at all. -/
  firsts : (mergesInto b.primaryDex (Event.merges added)).map Merge.inputs <+:
    [(plan .full).primary, (plan .conservative).primary]
  /-- The second container is made once at most. -/
  seconds : (mergesInto b.secondaryDex (Event.merges added)).length ≤ 1
  /-- There is a second attempt just when the tool refused the first container. -/
  retry : (mergesInto b.primaryDex (Event.merges added)).length = 2 ↔
    (mergesInto b.primaryDex (Event.merges added)).head?.map Merge.outcome = some (.ok false)
  /-- It ends well just when every call was answered, the last merge into the first container went
  well, and so did that into the second, if the plan of the same attempt has one. -/
  ends_well : (∃ files, r = .ok files) ↔
    (∀ e ∈ added, e.isAnswered = true) ∧
    (mergesInto b.primaryDex (Event.merges added)).getLast?.map Merge.outcome = some (.ok true) ∧
    ((plan (b.lastAttempt (Event.merges added))).needsSecondary = true →
      (mergesInto b.secondaryDex (Event.merges added)).map Merge.outcome = [.ok true])
  /-- The plan of the last attempt says which containers there are. -/
  containers : ∀ files, r = .ok files → files =
    if (plan (b.lastAttempt (Event.merges added))).needsSecondary then
      [b.primaryDex, b.secondaryDex]
    else [b.primaryDex]
  /-- The last merges made these containers, one each, and took in every input. Before them the
  tool refused a merge, if there was one. -/
  complete : ∀ files, r = .ok files → ∃ earlier last, Event.merges added = earlier ++ last ∧
    last.map Merge.output = files ∧ (last.flatMap Merge.inputs).Perm inputs ∧
    (∀ c ∈ last, c.outcome = .ok true) ∧ ∀ c ∈ earlier, c.outcome = .ok false
  /-- No merge is noted that the tool was not called for. -/
  backed : m.Backed added

variable {b : Build} {m : DexMerger}

theorem primaryDex_ne_secondaryDex (b : Build) : b.primaryDex ≠ b.secondaryDex :=
  b.layout.first_ne_second

theorem mergesInto_cons_self (container : Path) (inputs : List Path)
    (made : Except BuildError Bool) (merges : List Merge) :
    mergesInto container (⟨container, inputs, made⟩ :: merges) =
      ⟨container, inputs, made⟩ :: mergesInto container merges := by
  simp [mergesInto]

theorem mergesInto_cons_ne {container : Path} {c : Merge} (h : c.output ≠ container)
    (merges : List Merge) : mergesInto container (c :: merges) = mergesInto container merges := by
  simp [mergesInto, h]

/-- How an attempt ends whose merge into the first container ended with `made` and that did
`seconds` after it. -/
structure EndsAs (b : Build) (plan : DexPlan) (r : Except BuildError (Option (List Path)))
    (made : Except BuildError Bool) (seconds : List Merge) : Prop where
  planned : seconds = [] ∨ ∃ made₂, seconds = [⟨b.secondaryDex, plan.secondary, made₂⟩]
  refused_iff : r = .ok none ↔ made = .ok false
  ends_well : (∃ files, r = .ok (some files)) ↔ made = .ok true ∧
    (plan.needsSecondary = true → seconds.map Merge.outcome = [.ok true])
  containers : ∀ files, r = .ok (some files) → files =
    if plan.needsSecondary then [b.primaryDex, b.secondaryDex] else [b.primaryDex]
  outputs : ∀ files, r = .ok (some files) → files = b.primaryDex :: seconds.map Merge.output
  alone : plan.needsSecondary = false → seconds = []

/-- The merges of an attempt: one into the first container, and one into the second when the first
went well and the plan has a second. -/
theorem Attempts.merges {plan : DexPlan} {r : Except BuildError (Option (List Path))}
    {l : List Event} (h : Attempts b m plan r l) : ∃ made seconds,
    Event.merges l = ⟨b.primaryDex, plan.primary, made⟩ :: seconds ∧
    EndsAs b plan r made seconds := by
  cases h with
  | broken first => exact ⟨_, [], first.merges, by constructor <;> simp⟩
  | refused first => exact ⟨_, [], first.merges, by constructor <;> simp⟩
  | single first alone => exact ⟨_, [], first.merges, by constructor <;> simp [alone]⟩
  | @double l l' made first more second =>
    refine ⟨.ok true, [⟨b.secondaryDex, plan.secondary, made⟩], ?_, ?_⟩
    · rw [Event.merges_append, first.merges, second.merges]
      rfl
    · rcases made with e | _ | _
      · constructor <;> simp [secondEnd, more]
      · constructor <;> simp [secondEnd, more]
      · constructor <;> simp [secondEnd, more]

theorem Attempts.answered {plan : DexPlan} {files? : Option (List Path)} {l : List Event}
    (h : Attempts b m plan (.ok files?) l) : ∀ e ∈ l, e.isAnswered = true := by
  generalize hr : (.ok files? : Except BuildError (Option (List Path))) = r at h
  cases h with
  | broken first => cases hr
  | refused first => exact first.answered
  | single first alone => exact first.answered
  | @double l l' made first more second =>
    rcases made with e | made
    · cases hr
    · intro e he
      rcases List.mem_append.1 he with he | he
      · exact first.answered e he
      · exact second.answered e he

theorem Attempts.backed {plan : DexPlan} {r : Except BuildError (Option (List Path))}
    {l : List Event} (h : Attempts b m plan r l) : m.Backed l := by
  cases h with
  | broken first => exact first.backed
  | refused first => exact first.backed
  | single first alone => exact first.backed
  | double first more second => exact first.backed.append second.backed

theorem lastEnd_eq_ok {r : Except BuildError (Option (List Path))} {files : List Path} :
    lastEnd r = .ok files ↔ r = .ok (some files) := by
  rcases r with e | _ | files'
  · simp [lastEnd]
  · simp [lastEnd]
  · simp [lastEnd]

theorem EndsAs.into_first {plan : DexPlan} {r : Except BuildError (Option (List Path))}
    {made : Except BuildError Bool} {seconds : List Merge} (h : EndsAs b plan r made seconds) :
    mergesInto b.primaryDex seconds = [] := by
  rcases h.planned with rfl | ⟨made₂, rfl⟩
  · rfl
  · exact mergesInto_cons_ne b.primaryDex_ne_secondaryDex.symm []

theorem EndsAs.into_second {plan : DexPlan} {r : Except BuildError (Option (List Path))}
    {made : Except BuildError Bool} {seconds : List Merge} (h : EndsAs b plan r made seconds) :
    mergesInto b.secondaryDex seconds = seconds := by
  rcases h.planned with rfl | ⟨made₂, rfl⟩
  · rfl
  · exact mergesInto_cons_self _ _ _ []

/-- The last merges of a conversion that went well: they made its containers and took in all. -/
theorem EndsAs.complete {plan : DexPlan} {files : List Path} {made : Except BuildError Bool}
    {seconds : List Merge} {inputs : List Path}
    (h : EndsAs b plan (.ok (some files)) made seconds)
    (hperm : (plan.primary ++ plan.secondary).Perm inputs) :
    (⟨b.primaryDex, plan.primary, made⟩ :: seconds).map Merge.output = files ∧
    ((⟨b.primaryDex, plan.primary, made⟩ :: seconds).flatMap Merge.inputs).Perm inputs ∧
    ∀ c ∈ (⟨b.primaryDex, plan.primary, made⟩ :: seconds : List Merge), c.outcome = .ok true := by
  obtain ⟨rfl, hsecond⟩ := h.ends_well.1 ⟨files, rfl⟩
  cases hmore : plan.needsSecondary
  · have hnil : plan.secondary = [] := by simpa [DexPlan.needsSecondary] using hmore
    rw [h.outputs files rfl, h.alone hmore]
    rw [hnil, List.append_nil] at hperm
    exact ⟨rfl, by simpa using hperm, by simp⟩
  · have hone := hsecond hmore
    rcases h.planned with rfl | ⟨made₂, rfl⟩
    · cases hone
    · rw [h.outputs files rfl]
      simp only [List.map_cons, List.map_nil, List.cons.injEq, and_true] at hone
      exact ⟨rfl, by simpa using hperm, by simp [hone]⟩

theorem EndsAs.into_container {plan : DexPlan} {r : Except BuildError (Option (List Path))}
    {made : Except BuildError Bool} {seconds : List Merge} (h : EndsAs b plan r made seconds) :
    ∀ c ∈ (⟨b.primaryDex, plan.primary, made⟩ :: seconds : List Merge),
      c.output = b.primaryDex ∨ c.output = b.secondaryDex := by
  rcases h.planned with rfl | ⟨made₂, rfl⟩
  · simp
  · simp

theorem EndsAs.ends_well_iff {plan : DexPlan} {r : Except BuildError (Option (List Path))}
    {made : Except BuildError Bool} {seconds : List Merge} {l : List Event}
    (h : EndsAs b plan r made seconds)
    (hans : ∀ files, r = .ok (some files) → ∀ e ∈ l, e.isAnswered = true) :
    (∃ files, lastEnd r = .ok files) ↔ (∀ e ∈ l, e.isAnswered = true) ∧ made = .ok true ∧
      (plan.needsSecondary = true → seconds.map Merge.outcome = [.ok true]) := by
  simp only [lastEnd_eq_ok]
  constructor
  · rintro ⟨files, hr⟩
    exact ⟨hans files hr, h.ends_well.1 ⟨files, hr⟩⟩
  · rintro ⟨-, hend⟩
    exact h.ends_well.2 hend

/-- The laws of a conversion that ended in an attempt, after a refused one or none. -/
theorem EndsAs.conversion {plan : DexAttempt → DexPlan} {attempt : DexAttempt}
    {inputs : List Path} {r : Except BuildError (Option (List Path))}
    {made : Except BuildError Bool} {seconds : List Merge} {l : List Event}
    (h : EndsAs b (plan attempt) r made seconds) (earlier : List Merge)
    (hperm : ((plan attempt).primary ++ (plan attempt).secondary).Perm inputs)
    (hm : Event.merges l = earlier ++ ⟨b.primaryDex, (plan attempt).primary, made⟩ :: seconds)
    (hearlier : attempt = .full ∧ earlier = [] ∧ r ≠ .ok none ∨
      attempt = .conservative ∧ earlier = [⟨b.primaryDex, (plan .full).primary, .ok false⟩])
    (hans : ∀ files, r = .ok (some files) → ∀ e ∈ l, e.isAnswered = true) (hback : m.Backed l) :
    Conversion b m plan inputs (lastEnd r) l := by
  have hfirst : mergesInto b.primaryDex (Event.merges l) =
      earlier ++ [⟨b.primaryDex, (plan attempt).primary, made⟩] := by
    rw [hm]
    rcases hearlier with ⟨-, rfl, -⟩ | ⟨-, rfl⟩
    · simp only [List.nil_append, mergesInto_cons_self, h.into_first]
    · simp only [List.cons_append, List.nil_append, mergesInto_cons_self, h.into_first]
  have hsecond : mergesInto b.secondaryDex (Event.merges l) = seconds := by
    rw [hm]
    rcases hearlier with ⟨-, rfl, -⟩ | ⟨-, rfl⟩
    · exact (mergesInto_cons_ne b.primaryDex_ne_secondaryDex _).trans h.into_second
    · exact (mergesInto_cons_ne b.primaryDex_ne_secondaryDex _).trans
        ((mergesInto_cons_ne b.primaryDex_ne_secondaryDex _).trans h.into_second)
  have hlast : b.lastAttempt (Event.merges l) = attempt := by
    rcases hearlier with ⟨rfl, rfl, -⟩ | ⟨rfl, rfl⟩
    · simp [lastAttempt, hfirst]
    · simp [lastAttempt, hfirst]
  constructor
  case outputs =>
    rw [hm]
    intro c hc
    rcases List.mem_append.1 hc with hc | hc
    · rcases hearlier with ⟨-, rfl, -⟩ | ⟨-, rfl⟩
      · cases hc
      · rw [List.mem_singleton.1 hc]
        exact Or.inl rfl
    · exact h.into_container c hc
  case firsts =>
    rw [hfirst]
    rcases hearlier with ⟨rfl, rfl, -⟩ | ⟨rfl, rfl⟩
    · simp
    · simp
  case seconds =>
    rw [hsecond]
    rcases h.planned with rfl | ⟨made₂, rfl⟩
    · simp
    · simp
  case retry =>
    rw [hfirst]
    rcases hearlier with ⟨rfl, rfl, haccepted⟩ | ⟨rfl, rfl⟩
    · simp [← h.refused_iff, haccepted]
    · simp
  case ends_well =>
    rw [h.ends_well_iff hans, hfirst, hsecond, hlast]
    simp
  case containers =>
    intro files hr
    rw [hlast]
    exact h.containers files (lastEnd_eq_ok.1 hr)
  case complete =>
    intro files hr
    rw [lastEnd_eq_ok] at hr
    subst hr
    obtain ⟨hout, hin, hok⟩ := h.complete hperm
    refine ⟨earlier, _, hm, hout, hin, hok, ?_⟩
    rcases hearlier with ⟨-, rfl, -⟩ | ⟨-, rfl⟩
    · simp
    · simp
  case backed => exact hback

/-- Whatever a conversion adds to the record, it keeps the laws of a conversion. -/
theorem Converts.conversion {plan : DexAttempt → DexPlan} {inputs : List Path}
    {r : Except BuildError (List Path)} {l : List Event} (h : Converts b m plan r l)
    (hperm : ∀ attempt, ((plan attempt).primary ++ (plan attempt).secondary).Perm inputs) :
    Conversion b m plan inputs r l := by
  cases h with
  | @once l r attempt accepted =>
    obtain ⟨made, seconds, hm, he⟩ := attempt.merges
    refine he.conversion [] (hperm .full) hm (Or.inl ⟨rfl, rfl, accepted⟩) ?_ attempt.backed
    rintro files rfl
    exact attempt.answered
  | @twice l l' r refused attempt =>
    obtain ⟨made, seconds, hm, he⟩ := attempt.merges
    refine he.conversion [⟨b.primaryDex, (plan .full).primary, .ok false⟩] (hperm .conservative)
      ?_ (Or.inr ⟨rfl, rfl⟩) ?_ (refused.backed.append attempt.backed)
    · rw [Event.merges_append, refused.merges, hm]
    · rintro files rfl e hin
      rcases List.mem_append.1 hin with hin | hin
      · exact refused.answered e hin
      · exact attempt.answered e hin

/-! ## The whole step -/

/-- The conversion once the runtime jars are found. -/
def convertOver (s : Services ρ) (b : Build) (libraries : Libraries) (runtime : List Path) :
    Step ρ (List Path) := do
  let java ← Step.tool .dx fun tree start => s.toolchain.javaTool s.env tree start "java"
  let dxJar ← Step.resource .dx "files/dx.jar"
  Step.onFiles .dx (Task.makeDirs b.layout.tmp)
  let merger : DexMerger :=
    { java, dxJar, heap := b.options.heap, seconds := s.timeouts.dex
      cacheDir := b.options.dexCache }
  let files ← Step.holding b.options.heap
    (b.convertInTwo s merger (b.layout.classes :: runtime)
      (libraries.componentJars ++ libraries.extensionJars))
  Step.sayTook "DX"
  Step.reach 85
  return files

theorem convert_eq (s : Services ρ) (b : Build) (libraries : Libraries) :
    b.convert s libraries = (do
      Step.say "Invoking DX"
      let runtime ← [componentsJar, kawaJar, acraJar].mapM (Step.resource .dx)
      b.convertOver s libraries runtime) := rfl

/-- The merger of a build grants the heap and uses the cache that were chosen for the build. -/
def IsMergerOf (s : Services ρ) (b : Build) (m : DexMerger) : Prop :=
  m.heap = b.options.heap ∧ m.seconds = s.timeouts.dex ∧ m.cacheDir = b.options.dexCache

/-- What the step adds to the record: nothing, when it fails before its share of the memory is
taken, and else what a conversion adds while the share is held. -/
inductive ConvertsHolding (s : Services ρ) (b : Build) (plan : DexAttempt → DexPlan) :
    Except BuildError (List Path) → List Event → Prop where
  | early (e : BuildError) : ConvertsHolding s b plan (.error e) []
  | held {m : DexMerger} {r : Except BuildError (List Path)} {l : List Event}
      (merger : IsMergerOf s b m) (converts : Converts b m plan r l) :
      ConvertsHolding s b plan r
        (.acquired b.options.heap :: (l ++ [.released b.options.heap]))

theorem does_convertOver (s : Services ρ) (b : Build) (libraries : Libraries)
    (runtime : List Path) :
    Step.Does (b.convertOver s libraries runtime) (ConvertsHolding s b
      (DexPlan.make (b.layout.classes :: runtime)
        (libraries.componentJars ++ libraries.extensionJars) s.dexPolicy)) := by
  unfold convertOver
  refine (Step.quiet_tool _ _).bind_does (fun java => ?_) .early
  refine (Step.quiet_resource _ _).bind_does (fun dxJar => ?_) .early
  refine (Step.quiet_onFiles _ _).bind_does (fun _ => ?_) .early
  simp only
  refine ((b.does_convertInTwo _ s _ _).holding b.options.heap).bind
    (S := fun files r l => r = .ok files ∧ l = []) (fun files => ?_) ?_ ?_
  · refine Step.Does.after_record rfl (Step.Does.after_record rfl ?_)
    exact Step.does_pure ⟨rfl, rfl⟩
  · rintro e _ ⟨l, hl, rfl⟩
    exact .held ⟨rfl, rfl, rfl⟩ hl
  · rintro files _ r _ ⟨l, hl, rfl⟩ ⟨rfl, rfl⟩
    rw [List.append_nil]
    exact .held ⟨rfl, rfl, rfl⟩ hl

theorem does_convert (s : Services ρ) (b : Build) (libraries : Libraries) :
    Step.Does (b.convert s libraries) fun r l => ∃ plan, ConvertsHolding s b plan r l := by
  rw [convert_eq]
  refine Step.Does.after_record rfl ?_
  have hnone : ∀ e, ∃ plan, ConvertsHolding s b plan (.error e) [] :=
    fun e => ⟨DexPlan.make [] [] s.dexPolicy, .early e⟩
  refine (Step.quiet_mapM (Step.quiet_resource .dx) _).bind_does (fun runtime => ?_) hnone
  exact (does_convertOver s b libraries runtime).mono fun r l h => ⟨_, h⟩

/-! ## The laws -/

/-- The laws hold of a record as soon as they hold of what it does: what is told and the shares of
memory are no part of them. -/
theorem Conversion.of_deeds {plan : DexAttempt → DexPlan} {inputs : List Path}
    {r : Except BuildError (List Path)} {l added : List Event}
    (h : Conversion b m plan inputs r l) (hm : Event.merges added = Event.merges l)
    (ha : (∀ e ∈ added, e.isAnswered = true) ↔ ∀ e ∈ l, e.isAnswered = true)
    (hsub : ∀ e ∈ l, e ∈ added) : Conversion b m plan inputs r added := by
  constructor
  case outputs => exact hm ▸ h.outputs
  case firsts => exact hm ▸ h.firsts
  case seconds => exact hm ▸ h.seconds
  case retry => exact hm ▸ h.retry
  case ends_well =>
    rw [hm, ha]
    exact h.ends_well
  case containers => exact hm ▸ h.containers
  case complete => exact hm ▸ h.complete
  case backed =>
    intro c hc made hmade
    rw [hm] at hc
    obtain ⟨prepared, result, hs, hin, hr⟩ := h.backed c hc made hmade
    exact ⟨prepared, result, hs, hsub _ hin, hr⟩

/-- A conversion that came to no merge has failed, and keeps the laws. -/
theorem conversion_of_early (b : Build) (m : DexMerger) (plan : DexAttempt → DexPlan)
    (inputs : List Path) (e : BuildError) : Conversion b m plan inputs (.error e) [] := by
  constructor
  case outputs => simp [Event.merges]
  case firsts => simp [Event.merges, mergesInto]
  case seconds => simp [Event.merges, mergesInto]
  case retry => simp [Event.merges, mergesInto]
  case ends_well => simp [Event.merges, mergesInto]
  case containers => simp
  case complete => simp
  case backed => simp [DexMerger.Backed, Event.merges]

theorem ConvertsHolding.conversion {s : Services ρ} {plan : DexAttempt → DexPlan}
    {inputs : List Path} {r : Except BuildError (List Path)} {l : List Event}
    (h : ConvertsHolding s b plan r l)
    (hperm : ∀ attempt, ((plan attempt).primary ++ (plan attempt).secondary).Perm inputs) :
    ∃ m, IsMergerOf s b m ∧ Conversion b m plan inputs r l := by
  cases h with
  | early e =>
    exact ⟨⟨default, default, b.options.heap, s.timeouts.dex, b.options.dexCache⟩,
      ⟨rfl, rfl, rfl⟩, conversion_of_early b _ plan inputs e⟩
  | @held m r l merger converts =>
    refine ⟨m, merger, (converts.conversion hperm).of_deeds ?_ ?_ ?_⟩
    · rw [← List.singleton_append, Event.merges_append, Event.merges_append]
      change [] ++ (Event.merges l ++ []) = Event.merges l
      rw [List.nil_append, List.append_nil]
    · simp [Event.isAnswered, or_imp, forall_and]
    · intro e he
      simp [he]

/-- The jars that every app needs, as the cache of runtime files gives them. -/
def runtimeJars : Task BuildError (List Path) :=
  [componentsJar, kawaJar, acraJar].mapM fun jar =>
    Task.explain (.stage .dx) (Task.explain .resource (Resources.get jar))

/-- Whatever the tools answer, a conversion is retried once and only after a refusal, ends well
just when its last merges did, and returns the containers that these made, in which every input
is. Without the runtime jars it fails and does nothing. -/
theorem a_conversion_loses_no_input (s : Services ρ) (b : Build) (libraries : Libraries)
    (σ : Session ρ) : ∃ added,
    ((b.convert s libraries).run σ).2.events = σ.events ++ added ∧
    (∀ runtime, (runtimeJars.run σ.workspace).1 = .ok runtime → ∃ m, IsMergerOf s b m ∧
      Conversion b m
        (DexPlan.make (b.layout.classes :: runtime)
          (libraries.componentJars ++ libraries.extensionJars) s.dexPolicy)
        ((b.layout.classes :: runtime) ++ (libraries.componentJars ++ libraries.extensionJars))
        ((b.convert s libraries).run σ).1 added) ∧
    (∀ e, (runtimeJars.run σ.workspace).1 = .error e →
      ((b.convert s libraries).run σ).1 = .error e ∧ Event.deeds added = []) := by
  -- the heading changes nothing that the cache of runtime files looks at
  let σ₁ := σ.add (.noted (.heading "Invoking DX"))
  have hjars : ([componentsJar, kawaJar, acraJar].mapM (Step.resource .dx)).run σ₁ =
      ((runtimeJars.run σ.workspace).1,
        { σ₁ with workspace := (runtimeJars.run σ.workspace).2 }) :=
    Step.run_mapM_work (fun jar => Task.explain (.stage .dx)
      (Task.explain .resource (Resources.get jar))) _ σ₁
  have hrun : (b.convert s libraries).run σ = match runtimeJars.run σ.workspace with
      | (.ok runtime, w) => (b.convertOver s libraries runtime).run { σ₁ with workspace := w }
      | (.error e, w) => (.error e, { σ₁ with workspace := w }) := by
    rw [convert_eq, run_bind]
    change (([componentsJar, kawaJar, acraJar].mapM (Step.resource .dx)) >>=
      b.convertOver s libraries).run σ₁ = _
    rw [run_bind, hjars]
    rcases runtimeJars.run σ.workspace with ⟨e | runtime, w⟩
    · rfl
    · rfl
  rw [hrun]
  rcases runtimeJars.run σ.workspace with ⟨e | runtime, w⟩
  · refine ⟨[.noted (.heading "Invoking DX")], rfl, by simp, ?_⟩
    rintro _ ⟨⟩
    exact ⟨rfl, rfl⟩
  · obtain ⟨l, hev, hl⟩ := does_convertOver s b libraries runtime { σ₁ with workspace := w }
    obtain ⟨m, hm, hconv⟩ := hl.conversion fun attempt => DexPlan.make_perm _ _ s.dexPolicy attempt
    refine ⟨.noted (.heading "Invoking DX") :: l, ?_, ?_, by simp⟩
    · simp only [hev]
      simp [σ₁, Session.add]
    · rintro _ ⟨⟩
      refine ⟨m, hm, hconv.of_deeds ?_ ?_ ?_⟩
      · rw [Event.merges_deeds]
        rfl
      · rw [Event.answered_deeds]
        simp [Event.isAnswered]
      · intro e he
        exact List.mem_cons_of_mem _ (List.mem_filter.1 he).1

end Build

end ApkForge
