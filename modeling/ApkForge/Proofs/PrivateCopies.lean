-- The private copies of runtime files. They are numbered as they are made, so none takes the place
-- of another, and two runtime files share a copy only if they go by one name. Nothing that happens
-- in a build breaks this.
import ApkForge.Proofs.Classpath
import Mathlib.Data.List.Pairwise

namespace ApkForge

variable {ε ρ α : Type}

/-! ## The parts of a grown path -/

theorem Text.eq_empty_of_split {s : String} (h : split '/' s = [""]) : s = "" := by
  have hpieces : (pieces '/' s.toList).map String.ofList = [[]].map String.ofList := h
  have hnil := List.map_injective_iff.2 (fun _ _ => String.ofList_injective) hpieces
  have hglue := glue_pieces '/' s.toList
  rw [hnil] at hglue
  exact String.toList_injective hglue.symm

namespace Path

/-- What a first segment stands for when others come after it. -/
def headOf : String → List Part
  | "" => [.root]
  | "." => [.here]
  | s => (partOf s).toList

theorem headOf_of_ne {s : String} (hempty : s ≠ "") (hdot : s ≠ ".") :
    headOf s = (partOf s).toList := by
  unfold headOf
  split
  · exact absurd rfl hempty
  · exact absurd rfl hdot
  · rfl

theorem partsOf_cons {s : String} {rest : List String} (h : s ≠ "" ∨ rest ≠ []) :
    partsOf (s :: rest) = headOf s ++ rest.filterMap partOf := by
  by_cases hempty : s = ""
  · subst hempty
    obtain ⟨t, ts, rfl⟩ := List.exists_cons_of_ne_nil (h.resolve_left (not_not_intro rfl))
    rfl
  by_cases hdot : s = "."
  · subst hdot
    rfl
  have hparts : partsOf (s :: rest) = (s :: rest).filterMap partOf := by
    unfold partsOf
    split
    · contradiction
    · simp_all
    · simp_all
    · simp_all
    · simp_all
  rw [hparts, headOf_of_ne hempty hdot, List.filterMap_cons]
  cases partOf s <;> rfl

/-- A text behind a slash adds its own parts. -/
theorem parts_append (front s : String) : (Path.mk (front ++ "/" ++ s)).parts =
    (Path.mk (front ++ "/")).parts ++ (Text.split '/' s).filterMap partOf := by
  obtain ⟨a, as, hfront⟩ := List.exists_cons_of_ne_nil (Text.split_ne_nil '/' front)
  have hs := Text.split_ne_nil '/' s
  simp only [parts, Text.split_append_slash, Text.split_slash, hfront, List.cons_append]
  rw [partsOf_cons (.inr (by simp [hs])), partsOf_cons (.inr (by simp)), List.filterMap_append,
    List.filterMap_append, List.append_assoc]
  simp [partOf]

/-- A slash at its end adds no part to a text. -/
theorem parts_slash {text : String} (h : text ≠ "") :
    (Path.mk (text ++ "/")).parts = (Path.mk text).parts := by
  obtain ⟨a, as, htext⟩ := List.exists_cons_of_ne_nil (Text.split_ne_nil '/' text)
  have hne : a ≠ "" ∨ as ≠ [] := by
    by_contra hnot
    rw [not_or, not_not, not_not] at hnot
    exact h (Text.eq_empty_of_split (by rw [htext, hnot.1, hnot.2]))
  simp only [parts, Text.split_slash, htext, List.cons_append]
  rw [partsOf_cons hne, partsOf_cons (hne.imp_right fun has => by simp [has]),
    List.filterMap_append]
  simp [partOf]

theorem partOf_of_isName {s : String} (h : IsName s) : partOf s = some (.name s) := by
  have hidle : s ≠ "" ∧ s ≠ "." := by simpa [isIdle] using h.1
  unfold partOf
  split
  · exact absurd rfl hidle.1
  · exact absurd rfl hidle.2
  · exact absurd rfl h.2
  · rfl

theorem parts_of_isPlain {s : String} (h : IsPlain s) : (Path.mk s).parts = [.name s] := by
  have hidle : s ≠ "" ∧ s ≠ "." := by simpa [isIdle] using h.2.1
  simp only [parts, Text.split_of_not_mem h.1]
  rw [partsOf_cons (.inl hidle.1), headOf_of_ne hidle.1 hidle.2, partOf_of_isName h.2]
  rfl

/-- A path joined with a name has that name as one more part. -/
theorem parts_join {s : String} (h : IsPlain s) (p : Path) :
    (p.join s).parts = p.parts ++ [.name s] := by
  have hgrown : ∀ front, (Path.mk (front ++ "/" ++ s)).parts =
      (Path.mk (front ++ "/")).parts ++ [.name s] := by
    intro front
    rw [parts_append, Text.split_of_not_mem h.1]
    simp [partOf_of_isName h.2]
  obtain ⟨text⟩ := p
  simp only [join, h.staysBelow.1, Bool.false_eq_true, if_false]
  by_cases hempty : text = ""
  · have hnil : (Path.mk "").parts = [] := by decide
    subst hempty
    rw [hnil]
    simpa using parts_of_isPlain h
  by_cases hslash : Text.endsWith "/" text = true
  · obtain ⟨front, rfl⟩ := Text.endsWith_slash hslash
    simp only [hslash, Bool.or_true, if_true]
    exact hgrown _
  · rw [if_neg (by simp [hempty, hslash]), hgrown, parts_slash hempty]

/-- Paths that end in different names are different, and so are paths grown from different ones. -/
theorem same_join {s t : String} (hs : IsPlain s) (ht : IsPlain t) {p q : Path}
    (h : (p.join s).same (q.join t) = true) : p.same q = true ∧ s = t := by
  simp only [same, parts_join hs, parts_join ht, beq_iff_eq] at h
  obtain ⟨hp, hst⟩ := List.append_inj' h rfl
  cases hst
  exact ⟨by simp [same, hp], rfl⟩

end Path

theorem toString_injective {i j : Nat} (h : toString i = toString j) : i = j := by
  have hdigits : Nat.toDigits 10 i = Nat.toDigits 10 j := by
    simpa using congrArg String.toList h
  simpa using congrArg (fun digits => Nat.ofDigitChars 10 digits 0) hdigits

/-! ## Copies -/

namespace Resources

/-- The path is that of the private copy with this number. -/
def IsCopy (scratch : Path) (i : Nat) (p : Path) : Prop :=
  ∃ name, Path.IsPlain name ∧ p = (scratch.join (toString i)).join name

/-- Every private copy has a number that was given out, and all lie at different places. -/
structure Sound (r : Resources) : Prop where
  numbered : ∀ row ∈ r.held, ∃ i < r.copies, IsCopy r.scratch i row.2
  apart : r.held.Pairwise fun row row' => row.2.same row'.2 = false

theorem isCopy_target (r : Resources) (logical : String) :
    IsCopy r.scratch r.copies (r.target logical) := by
  refine ⟨_, ?_, rfl⟩
  cases h : (r.source (key logical)).name? with
  | none => exact ⟨by decide, by decide, by decide⟩
  | some name => exact Path.isPlain_name? h

theorem IsCopy.number_eq {scratch : Path} {i j : Nat} {p q : Path} (hp : IsCopy scratch i p)
    (hq : IsCopy scratch j q) (h : p.same q = true) : i = j := by
  obtain ⟨name, hname, rfl⟩ := hp
  obtain ⟨name', hname', rfl⟩ := hq
  obtain ⟨hdir, -⟩ := Path.same_join hname hname' h
  exact toString_injective
    (Path.same_join (Path.isPlain_toString i) (Path.isPlain_toString j) hdir).2

theorem sound_fresh (root scratch : Path) : Sound { root, scratch } := ⟨by simp, .nil⟩

/-- One more copy lies at a new place. -/
theorem Sound.copied {r : Resources} (h : r.Sound) (k : String) {p : Path}
    (hp : IsCopy r.scratch r.copies p) :
    Sound { r with copies := r.copies + 1, held := (k, p) :: r.held } := by
  constructor
  case numbered =>
    intro row hrow
    rcases List.mem_cons.1 hrow with rfl | hrow
    · exact ⟨r.copies, Nat.lt_succ_self _, hp⟩
    · obtain ⟨i, hi, hcopy⟩ := h.numbered row hrow
      exact ⟨i, Nat.lt_succ_of_lt hi, hcopy⟩
  case apart =>
    refine .cons (fun row hrow => ?_) h.apart
    obtain ⟨i, hi, hcopy⟩ := h.numbered row hrow
    rw [Bool.eq_false_iff]
    intro hsame
    exact Nat.ne_of_gt hi (hp.number_eq hcopy hsame)

theorem Sound.more {r : Resources} (h : r.Sound) {copies : Nat} (hmore : r.copies ≤ copies) :
    Sound { r with copies } := by
  refine ⟨fun row hrow => ?_, h.apart⟩
  obtain ⟨i, hi, hcopy⟩ := h.numbered row hrow
  exact ⟨i, Nat.lt_of_lt_of_le hi hmore, hcopy⟩

theorem lookup_of_known {logical : String} {p : Path} {w : Workspace}
    (h : Task.Known (get logical) p w) : w.resources.held.lookup (key logical) = some p := by
  have hgets := gets_of_run h.run
  cases hgets with
  | held there => exact there
  | copied missing path resources locator =>
    have hlength := congrArg (fun r => r.held.length) resources
    simp at hlength

/-- Runtime files of one name have one copy. -/
theorem eq_of_known {logical logical' : String} {p q : Path} {w : Workspace}
    (hp : Task.Known (get logical) p w) (hq : Task.Known (get logical') q w)
    (h : key logical = key logical') : p = q := by
  have hlookup := lookup_of_known hp
  rw [h, lookup_of_known hq] at hlookup
  exact (Option.some.inj hlookup).symm

/-- Runtime files of two names have copies at two places. -/
theorem Sound.same_of_known {w : Workspace} (h : w.resources.Sound) {logical logical' : String}
    {p q : Path} (hp : Task.Known (get logical) p w) (hq : Task.Known (get logical') q w)
    (hne : key logical ≠ key logical') : p.same q = false := by
  have hmem : ∀ {k : String} {p : Path}, w.resources.held.lookup k = some p →
      (k, p) ∈ w.resources.held := by
    intro k p hk
    obtain ⟨front, rest, heq, -⟩ := List.lookup_eq_some_iff.1 hk
    rw [heq]
    exact List.mem_append_right _ (List.mem_cons_self ..)
  have hsymm : Std.Symm fun row row' : String × Path => row.2.same row'.2 = false :=
    ⟨fun row row' hrow => by rwa [Path.same_comm]⟩
  exact h.apart.forall (hmem (lookup_of_known hp)) (hmem (lookup_of_known hq))
    fun heq => hne (congrArg Prod.fst heq)

/-- Where the private copies lay well, they still do. -/
def SoundStays (w w' : Workspace) : Prop := w.resources.Sound → w'.resources.Sound

theorem soundStays_of_eq {w w' : Workspace} (h : w'.resources = w.resources) : SoundStays w w' := by
  intro hsound
  rwa [h]

theorem sound_get (logical : String) : Leads SoundStays (get logical) := by
  intro w hsound
  rcases h : (get logical).run w with ⟨r, w'⟩
  have hgets := gets_of_run h
  clear h
  cases hgets with
  | held there => exact hsound
  | copied missing path resources locator =>
    simp only
    rw [resources]
    exact hsound.copied (key logical) (path ▸ isCopy_target w.resources logical)
  | failed e copies more resources locator =>
    simp only
    rw [resources]
    exact hsound.more more

theorem sound_locate (component : String) : Leads SoundStays (Locator.locate component) := by
  intro w
  rcases h : (Locator.locate component).run w with ⟨r, w'⟩
  have hlocates := Locator.locates_of_run h
  clear h
  cases hlocates with
  | found there => exact soundStays_of_eq rfl
  | searched missing resources locator => exact soundStays_of_eq resources
  | failed e resources locator => exact soundStays_of_eq resources

instance : Lasting SoundStays where
  trans h h' := h' ∘ h
  same h := soundStays_of_eq h.resources
  get := sound_get
  locate := sound_locate

end Resources

/-! ## Stage by stage -/

section

variable {R : Workspace → Workspace → Prop} [Lasting R]

/-- Work on files leads along every such relation. -/
theorem Leads.lasts {task : Task ε α} (h : Leads SameMemory task) : Leads R task :=
  h.mono fun _ _ => Lasting.same

theorem Resources.leads_readText (logical : String) : Leads SameMemory (readText logical) := by
  unfold readText
  refine leads_get.bind fun w => ?_
  simp only
  split
  · exact leads_pure _
  · exact leads_throw _

theorem Locator.leads_filesDir (component : String) : Leads R (filesDir component) :=
  (Lasting.locate component).bind fun _ => leads_pure _

theorem Components.leads_resolve (sets : ComponentSets) (typeName relative : String) :
    Leads R (resolve sets typeName relative) := by
  unfold resolve
  split
  · exact ((Lasting.get _).explain _).bind fun _ => leads_pure _
  · split
    · exact (((Locator.leads_filesDir typeName).bind fun _ => leads_pure _).explain _).bind
        fun _ => leads_pure _
    · exact leads_throw _

theorem Icon.sameMemory_install (bytes : Bytes) (dir : Path) :
    Leads SameMemory (install bytes dir) := by
  unfold install
  split
  · exact leads_throw _
  · refine Leads.bind (Leads.explain ?_ _) fun _ => leads_pure _
    refine (leads_forM (fun other => Task.leads_removeFile _) _).bind fun _ => ?_
    exact Task.leads_writeBytes _ _

theorem Icon.leads_install (bytes : Bytes) (dir : Path) : Leads R (install bytes dir) :=
  Leads.lasts (sameMemory_install bytes dir)

theorem Icon.leads_prepare (project : Project) (dir : Path) : Leads R (prepare project dir) := by
  unfold prepare
  split
  · rw [map_eq_pure_bind]
    refine Leads.bind (Leads.explain ?_ _) fun _ => leads_pure _
    exact ((Leads.lasts (Task.leads_readBytes _)).explain _).bind fun bytes =>
      leads_install bytes dir
  · have hdefault : Leads R (installDefault dir) :=
      ((Lasting.get _).explain _).bind fun source =>
        ((Leads.lasts (Task.leads_readBytes _)).explain _).bind fun bytes =>
          leads_install bytes dir
    refine Leads.bind (fun w => hdefault w) fun found => ?_
    split
    · exact leads_pure _
    · exact leads_pure _

theorem RobotFiles.leads_copyListed (list sourceDir : String) (dir : Path)
    (check : String → Except Cause Unit) : Leads R (copyListed list sourceDir dir check) := by
  have hentry : ∀ entry, Leads R (copyEntry sourceDir dir check entry) := by
    intro entry
    unfold copyEntry
    split
    · exact leads_throw _
    · exact ((Lasting.get _).explain _).bind fun source =>
        (Leads.lasts (Task.leads_copy _ _)).explain _
  have hlist : Leads R (Resources.readText list) := Leads.lasts (Resources.leads_readText list)
  refine Leads.explain ((hlist.explain _).bind fun text => ?_) _
  exact (leads_forM hentry _).bind fun _ => leads_pure _

theorem Attachments.leads_entries {copy : String × String → Task Cause Unit}
    (h : ∀ entry, Leads R (copy entry)) (dirs : Task FilesError Unit)
    (hdirs : Leads SameMemory dirs) (needs : RequirementMap) (stage : Stage) :
    Leads R (Task.explain (.stage stage) do
      Task.explain .files dirs
      (entries needs).forM copy : Task BuildError Unit) :=
  Leads.explain (((Leads.lasts hdirs).explain _).bind fun _ => leads_forM h _) _

end

namespace Build

variable {R : Workspace → Workspace → Prop} [Lasting R]

theorem keeps_installIcon (b : Build) : Step.Keeps R (b.installIcon : Step ρ Unit) := by
  unfold installIcon
  refine (Step.keeps_onFiles (Task.leads_makeDirs _) _).bind fun _ => ?_
  refine (Step.keeps_record _).bind fun _ => ?_
  exact (Step.keeps_work (Icon.leads_prepare _ _)).bind fun _ => Step.keeps_record _

theorem keeps_addResources (b : Build) : Step.Keeps R (b.addResources : Step ρ Unit) := by
  have hrobot : Leads R b.copyRobotFiles := by
    unfold copyRobotFiles RobotFiles.copyAssets
    refine (RobotFiles.leads_copyListed _ _ _ _).bind fun _ => Leads.bind ?_ fun _ => ?_
    · exact ((Leads.lasts (Task.leads_makeDirs _)).explain _).bind fun _ =>
        RobotFiles.leads_copyListed _ _ _ _
    · exact (RobotFiles.leads_copyListed _ _ _ _).bind fun _ => leads_pure _
  unfold addResources
  refine (Step.keeps_record _).bind fun _ => (Step.keeps_work ?_).bind fun _ => ?_
  · exact leads_forM (fun f => (Leads.lasts (Task.leads_writeBytes _ _)).explain _) _
  · split
    · exact Step.keeps_work hrobot
    · exact leads_pure _

theorem keeps_writeManifest (s : Services ρ) (b : Build) : Step.Keeps R (b.writeManifest s) := by
  unfold writeManifest Manifest.writeTo
  refine (Step.keeps_record _).bind fun _ => (Step.keeps_work ?_).bind fun _ => ?_
  · exact (Leads.lasts (Task.leads_writeBytes _ _)).explain _
  · exact Step.keeps_record _

theorem keeps_attach (b : Build) : Step.Keeps R (b.attach : Step ρ Unit) := by
  have hcopy : ∀ {sets typeName relative} {target : Path × Origin → Path},
      Leads R (do
        let found ← Components.resolve sets typeName relative
        Task.explain .files (Task.copy found.1 (target found)) : Task Cause Unit) :=
    (Components.leads_resolve _ _ _).bind fun found =>
      (Leads.lasts (Task.leads_copy _ _)).explain _
  unfold attach
  refine (Step.keeps_record _).bind fun _ => (Step.keeps_work ?_).bind fun _ => ?_
  · refine Attachments.leads_entries (fun entry => hcopy) _ ?_ _ _
    exact leads_forM (fun _ => Task.leads_makeDirs _) _
  · refine (Step.keeps_record _).bind fun _ => Step.keeps_work ?_
    exact Attachments.leads_entries (fun entry => hcopy) _ (Task.leads_makeDirs _) _ _

theorem leads_gather {find : α → Task Cause Path} (h : ∀ a, Leads R (find a)) (as : List α)
    (found : List Path) : Leads R (gather find as found) := by
  induction as generalizing found with
  | nil => exact leads_pure _
  | cons a rest ih => exact (h a).bind fun jar => ih (addPath found jar)

theorem leads_compileAgainst (b : Build) : Leads R b.compileAgainst := by
  have hget : ∀ jar, Leads R (Task.explain Cause.resource (Resources.get jar)) :=
    fun jar => (Lasting.get jar).explain _
  unfold compileAgainst findLibraries
  simp only [extensionJars_eq, componentJars_eq]
  refine (leads_mapM hget _).bind fun runtime => Leads.bind ?_ fun libraries => ?_
  · refine (leads_gather (fun typeName => ?_) _ _).bind fun _ => ?_
    · exact ((Locator.leads_filesDir typeName).bind fun _ => leads_pure _).explain _
    · refine (leads_gather (fun entry => ?_) _ _).bind fun _ => leads_pure _
      exact (Components.leads_resolve _ _ _).bind fun _ => leads_pure _
  · exact (hget _).bind fun _ => leads_pure _

theorem leads_hasUserCode (sources : List SourceFile) :
    Leads SameMemory (Compiler.hasUserCode sources) := by
  induction sources with
  | nil => exact leads_pure _
  | cons source rest ih =>
    unfold Compiler.hasUserCode
    refine (Task.leads_readText _).bind fun text => ?_
    split
    · exact leads_pure _
    · exact ih

theorem keeps_merge (m : DexMerger) (runner : Runner ρ) (output : Path) (inputs : List Path) :
    Step.Keeps R (m.merge runner output inputs) := by
  have hisFile : ∀ p, Step.Keeps R (Step.work (Task.isFile p) : Step ρ Bool) :=
    fun p => Step.keeps_work (leads_get.bind fun _ => leads_pure _)
  have hprepare : ∀ input, Step.Keeps R (m.prepare runner input) := by
    intro input
    unfold DexMerger.prepare
    split
    · exact leads_pure _
    · refine Leads.bind (leads_get.bind fun _ => leads_pure _) fun cacheable => ?_
      split
      · exact leads_pure _
      · refine (Step.keeps_work ?_).bind fun key => (hisFile _).bind fun there => ?_
        · exact ((Leads.lasts (Task.leads_readBytes _)).explain _).bind fun _ => leads_pure _
        · split
          · exact leads_pure _
          · refine (Step.keeps_onFiles (Task.leads_makeDirs _) _).bind fun _ => ?_
            refine (Step.keeps_call _ _ _ _).bind fun answer => (hisFile _).bind fun made => ?_
            split
            · exact leads_pure _
            · exact leads_pure _
  have hmerge : Step.Keeps R (do
      let prepared ← inputs.mapM (m.prepare runner)
      let result ← Step.call runner .dx (m.command output prepared) m.seconds
      return result.success) :=
    (leads_mapM hprepare inputs).bind fun prepared =>
      (Step.keeps_call _ _ _ _).bind fun _ => leads_pure _
  exact fun σ => hmerge σ

theorem keeps_convertBy (s : Services ρ) (b : Build) (m : DexMerger) (plan : DexPlan) :
    Step.Keeps R (b.convertBy s m plan) := by
  unfold convertBy
  refine (Step.keeps_record _).bind fun _ => (keeps_merge _ _ _ _).bind fun first => ?_
  split
  · exact leads_pure _
  · split
    · exact leads_pure _
    · refine (Step.keeps_record _).bind fun _ => (keeps_merge _ _ _ _).bind fun second => ?_
      refine (Step.keeps_record _).bind fun _ => ?_
      split
      · exact leads_pure _
      · exact leads_throw _

theorem keeps_convert (s : Services ρ) (b : Build) (libraries : Libraries) :
    Step.Keeps R (b.convert s libraries) := by
  have htwice : ∀ m base libraries, Step.Keeps R (b.convertInTwo s m base libraries) := by
    intro m base libraries
    unfold convertInTwo
    refine (keeps_convertBy _ _ _ _).bind fun files => ?_
    split
    · exact leads_pure _
    · refine (keeps_convertBy _ _ _ _).bind fun files => ?_
      split
      · exact leads_pure _
      · exact leads_throw _
  unfold convert
  refine (Step.keeps_record _).bind fun _ => ?_
  refine (leads_mapM (fun jar => Step.keeps_resource _ jar) _).bind fun runtime => ?_
  refine (Step.keeps_tool _ _).bind fun java => (Step.keeps_resource _ _).bind fun dxJar => ?_
  refine (Step.keeps_onFiles (Task.leads_makeDirs _) _).bind fun _ => ?_
  refine ((htwice _ _ _).holding _).bind fun files => ?_
  exact (Step.keeps_record _).bind fun _ => (Step.keeps_record _).bind fun _ => leads_pure _

theorem keeps_packResources (s : Services ρ) (b : Build) : Step.Keeps R (b.packResources s) := by
  have hdirs : ∀ p, Step.Keeps R (Step.onFiles .aapt (Task.makeDirs p) : Step ρ Unit) :=
    fun p => Step.keeps_onFiles (Task.leads_makeDirs p) _
  unfold packResources
  refine (Step.keeps_record _).bind fun _ => (hdirs _).bind fun _ => (hdirs _).bind fun _ => ?_
  refine (hdirs _).bind fun _ => (keeps_aapt s .aapt).bind fun aapt => ?_
  refine (Step.keeps_resource _ _).bind fun android => ?_
  refine (Step.keeps_callSuccessfully _ _ _ _).bind fun _ => (Step.keeps_record _).bind fun _ => ?_
  exact (Step.keeps_record _).bind fun _ => leads_pure _

theorem keeps_addCode (s : Services ρ) (b : Build) (intermediate : Path) (dexFiles : List Path) :
    Step.Keeps R (b.addCode s intermediate dexFiles) := by
  unfold addCode
  refine (Step.keeps_record _).bind fun _ => ?_
  refine (Step.keeps_onFiles (Task.leads_copy _ _) _).bind fun _ => ?_
  refine (keeps_aapt s .apkBuilder).bind fun aapt => ?_
  exact (Step.keeps_callSuccessfully _ _ _ _).bind fun _ => Step.keeps_record _

theorem keeps_sign (s : Services ρ) (b : Build) : Step.Keeps R (b.sign s) := by
  unfold sign Packaging.signingKey
  refine (Step.keeps_record _).bind fun _ => (Step.keeps_tool _ _).bind fun jarsigner => ?_
  refine (Step.keeps_within (Leads.explain ?_ _) _).bind fun key => ?_
  · split
    · exact (Lasting.get _).bind fun _ => leads_pure _
    · exact leads_pure _
  · exact Step.keeps_callSuccessfully _ _ _ _

theorem keeps_align (s : Services ρ) (b : Build) : Step.Keeps R (b.align s) := by
  unfold align
  refine (Step.keeps_record _).bind fun _ => (Step.keeps_tool _ _).bind fun logical => ?_
  refine (Step.keeps_resource _ _).bind fun zipalign => ?_
  refine (Step.keeps_callSuccessfully _ _ _ _).bind fun _ => ?_
  refine (Step.keeps_onFiles (Task.leads_copy _ _) _).bind fun _ => ?_
  exact (Step.keeps_record _).bind fun _ => Step.keeps_record _

theorem keeps_afterCompiler (s : Services ρ) (b : Build) (l : Libraries) :
    Step.Keeps R (b.afterCompiler s l) := by
  have hrest : ∀ robot, Step.Keeps R (do
      let dexFiles ← b.convert s l
      let intermediate ← b.packResources s
      b.addCode s intermediate dexFiles
      b.sign s
      b.align s
      Step.record (.noted .finished)
      return ({ apk := b.apk, dexFiles, robot } : Artifacts)) := by
    intro robot
    refine (keeps_convert s b l).bind fun dexFiles => (keeps_packResources s b).bind fun _ => ?_
    refine (keeps_addCode s b _ _).bind fun _ => (keeps_sign s b).bind fun _ => ?_
    exact (keeps_align s b).bind fun _ => (Step.keeps_record _).bind fun _ => leads_pure _
  unfold afterCompiler
  refine (Step.keeps_record _).bind fun _ => ?_
  cases b.survey.robot
  · exact hrest false
  · exact (keeps_compileResourceClasses s b).bind fun _ => hrest true

/-- From its class path on, a build leads along every such relation. -/
theorem keeps_afterClasspath (s : Services ρ) (b : Build) (entries : List Path) (l : Libraries) :
    Step.Keeps R (b.afterClasspath s entries l) := by
  unfold afterClasspath
  refine (Step.keeps_within (fun w => Std.Refl.refl w) _).bind fun classpath => ?_
  refine (Step.keeps_tool _ _).bind fun java => (Step.keeps_resource _ _).bind fun runtime => ?_
  refine (Step.keeps_onFiles (Task.leads_makeDirs _) _).bind fun _ => ?_
  refine (keeps_callCompiler s b _).bind fun output => (keeps_judgeCompiler b).bind fun _ => ?_
  exact keeps_afterCompiler s b l

/-! ## A build -/

theorem sound_loadInfos (names : List String) (read : List Path) :
    Leads Resources.SoundStays (Components.loadInfos names read) := by
  have hdescriptor : ∀ name, Leads Resources.SoundStays (Locator.descriptor name) := by
    intro name
    unfold Locator.descriptor
    refine (Locator.leads_filesDir name).bind fun files => leads_get.bind fun w => ?_
    split
    · exact leads_pure _
    · exact leads_throw _
  induction names generalizing read with
  | nil => exact leads_pure _
  | cons name rest ih =>
    unfold Components.loadInfos
    refine ((hdescriptor name).explain _).bind fun path => ?_
    split
    · exact ih read
    · refine ((Leads.lasts (Task.leads_readText _)).explain _).bind fun text => ?_
      split
      · exact leads_throw _
      · exact (ih _).bind fun _ => leads_pure _

/-- A survey looks for extensions anew, and leaves the private copies alone. -/
theorem sound_prepare (project : Project) (types : List String) (options : BuildOptions) :
    Step.Keeps Resources.SoundStays (prepare project types options : Step ρ Build) := by
  have hcatalog : Step.Keeps Resources.SoundStays (catalog : Step ρ Catalog) := by
    unfold catalog
    refine leads_get.bind fun σ => ?_
    split
    · exact leads_pure _
    · refine (Step.keeps_work ?_).bind fun found => Leads.bind (fun σ => id) fun _ => leads_pure _
      refine ((Leads.lasts (Resources.leads_readText _)).explain _).bind fun text => ?_
      split
      · exact leads_throw _
      · exact leads_pure _
  have hsurvey : ∀ found, Leads Resources.SoundStays
      (Survey.take project types found options.companion) := by
    intro found
    unfold Survey.take
    refine Leads.bind (fun w => id) fun _ => (sound_loadInfos _ _).bind fun extensions => ?_
    exact Leads.bind (fun w => id) fun _ => leads_pure _
  unfold prepare
  exact hcatalog.bind fun found => (Step.keeps_work (hsurvey found)).bind fun _ => leads_pure _

theorem sound_untilClasspath (s : Services ρ) (project : Project) (types : List String)
    (options : BuildOptions) :
    Step.Keeps Resources.SoundStays (untilClasspath s project types options) := by
  unfold untilClasspath
  refine (sound_prepare project types options).bind fun b => ?_
  refine (keeps_installIcon b).bind fun _ => (keeps_addResources b).bind fun _ => ?_
  refine (keeps_writeManifest s b).bind fun _ => (keeps_attach b).bind fun _ => ?_
  refine (Step.keeps_record _).bind fun _ => ?_
  refine (Step.keeps_onFiles (leads_hasUserCode _) _).bind fun found => ?_
  cases found with
  | true => exact (Step.keeps_within (leads_compileAgainst b) _).bind fun _ => leads_pure _
  | false => exact leads_throw _

/-- No build brings private copies together, however it ends. -/
theorem sound_run (s : Services ρ) (project : Project) (types : List String)
    (options : BuildOptions) : Step.Keeps Resources.SoundStays (run s project types options) := by
  rw [run_eq_around_classpath]
  exact (sound_untilClasspath s project types options).bind fun reached =>
    keeps_afterClasspath s reached.1 reached.2.1 reached.2.2

end Build

end ApkForge
