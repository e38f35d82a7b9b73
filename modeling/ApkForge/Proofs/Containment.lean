-- Where the files of components go. Whatever an extension calls its libraries and assets, attaching
-- them writes only below the directories meant for them and in the private directory of the cache,
-- but for names that step up or start at the root: these lead where their text says.
import ApkForge.Attachments
import ApkForge.Proofs.Tasks

namespace ApkForge

variable {start : Place} {scratch : Path} {S : Place → Prop}

/-! ## Files of components -/

/-- The private copy of a runtime file lies below the private directory. -/
theorem Resources.below_scratch {place : Place} {n : Nat} {name : String}
    (hname : Path.StaysBelow name)
    (h : FileTree.Target start ((scratch.join (toString n)).join name) place) :
    Below (scratch.place start) place := by
  obtain ⟨rfl, hends⟩ := h
  have hnumber := (Path.isPlain_toString n).staysBelow
  have hdir : scratch.place start <+: (scratch.join (toString n)).place start := by
    rw [Path.place_join hnumber.1]
    exact Path.prefix_onwards hnumber.2 _
  exact (Path.below_join hname hends start).widen hdir

/-- The copy itself, once its number has been taken. -/
theorem Resources.writesOnly_copy (source target : Path) (k : String)
    (held : List (String × Path)) :
    Task.WritesOnly start scratch (FileTree.Target start target) (do
      Task.explain (.notMaterialized k) do
        Task.copy source target
        Task.change fun start tree =>
          (tree.makeExecutable start target).mapError (.notCopied source target)
      modify fun w => { w with resources := { w.resources with held := (k, target) :: held } }
      return target : Task ResourceError Path) := by
  refine Task.WritesOnly.bind (Task.WritesOnly.explain ?_ _) fun _ => ?_
  · refine (Task.writesOnly_copy _ _).bind fun _ => Task.writesOnly_change fun t t' h => ?_
    exact FileTree.writes_makeExecutable (Task.mapError_eq_ok.1 h)
  · exact (Task.writesOnly_of_same fun _ => ⟨rfl, rfl, rfl⟩).bind fun _ => Task.writesOnly_pure _

/-- A runtime file is copied into the private directory and nowhere else. -/
theorem Resources.writesOnly_get (logical : String) :
    Task.WritesOnly start scratch (Below (scratch.place start)) (Resources.get logical) := by
  intro w hstart hscratch
  have hname : ∀ p : Path, Path.StaysBelow (p.name?.getD "resource") := by
    intro p
    cases hp : p.name? with
    | none => decide
    | some name => exact (Path.isPlain_name? hp).staysBelow
  unfold Resources.get
  rw [run_bind, Task.run_get]
  simp only
  split
  · exact Task.writesOnly_pure _ w hstart hscratch
  · split
    · exact Task.writesOnly_throw _ w hstart hscratch
    · subst hscratch
      rw [run_bind, Task.run_set]
      simp only
      have hcopy : Task.WritesOnly start w.resources.scratch _ _ :=
        (Resources.writesOnly_copy (w.resources.source (key logical))
          ((w.resources.scratch.join (toString w.resources.copies)).join
            ((w.resources.source (key logical)).name?.getD "resource")) (key logical)
          w.resources.held).mono fun place h => below_scratch (hname _) h
      have h := hcopy
        { w with resources := { w.resources with copies := w.resources.copies + 1 } } hstart rfl
      simp only at h
      exact h

/-- Looking for the file of an extension writes nothing. -/
theorem Locator.writesOnly_file (component relative : String) :
    Task.WritesOnly start scratch S (Locator.file component relative) := by
  have hlocate : Task.WritesOnly start scratch S (Locator.locate component) := by
    refine Task.writesOnly_of_same fun w => ?_
    unfold Locator.locate
    rw [run_bind, Task.run_get]
    simp only
    split
    · exact ⟨rfl, rfl, rfl⟩
    · split
      · exact ⟨rfl, rfl, rfl⟩
      · split
        · exact ⟨rfl, rfl, rfl⟩
        · exact ⟨rfl, rfl, rfl⟩
  exact (hlocate.bind fun _ => Task.writesOnly_pure _).bind fun _ => Task.writesOnly_pure _

/-- Where the files of a type come from. -/
def ComponentSets.origin (sets : ComponentSets) (typeName : String) : Origin :=
  if sets.hasBuiltin typeName then .builtin else .extension

theorem Components.writesOnly_resolve (sets : ComponentSets) (typeName relative : String) :
    Task.WritesOnly start scratch (Below (scratch.place start))
      (Components.resolve sets typeName relative) := by
  unfold Components.resolve
  split
  · exact ((Resources.writesOnly_get _).explain _).bind fun _ => Task.writesOnly_pure _
  · split
    · exact ((Locator.writesOnly_file _ _).explain _).bind fun _ => Task.writesOnly_pure _
    · exact Task.writesOnly_throw _

theorem Components.yields_resolve (sets : ComponentSets) (typeName relative : String) :
    Task.Yields (Components.resolve sets typeName relative)
      fun found => found.2 = sets.origin typeName := by
  unfold Components.resolve ComponentSets.origin
  split
  · exact Task.yields_bind fun _ => Task.yields_pure rfl
  · split
    · exact Task.yields_bind fun _ => Task.yields_pure rfl
    · exact Task.yields_throw _

/-! ## Attaching -/

namespace Attachments

/-- Where a native library is copied to. -/
def libraryTarget (sets : ComponentSets) (libsDir : Path) (entry : String × String) : Path :=
  (nested (libsDir.join (abiTarget entry.2).1) entry.1 (sets.origin entry.1)).join
    (abiTarget entry.2).2

/-- Where an asset is copied to. -/
def assetTarget (sets : ComponentSets) (assetsDir : Path) (entry : String × String) : Path :=
  (nested (assetsDir.join "component") entry.1 (sets.origin entry.1)).join entry.2

/-- A file of a type takes no step up by its name, nor by its type where that names a directory. -/
def Tame (sets : ComponentSets) (typeName name : String) : Prop :=
  Path.StaysBelow name ∧ (sets.origin typeName = .extension → Path.StaysBelow typeName)

instance (sets : ComponentSets) (typeName name : String) : Decidable (Tame sets typeName name) :=
  inferInstanceAs (Decidable (_ ∧ _))

theorem prefix_nested {typeName : String} {origin : Origin} (dir : Path)
    (h : origin = .extension → Path.StaysBelow typeName) :
    dir.place start <+: (nested dir typeName origin).place start := by
  cases origin with
  | builtin => exact List.prefix_rfl
  | extension =>
    have hcomps : Path.StaysBelow "external_comps" := by decide
    obtain ⟨hrel, hup⟩ := h rfl
    unfold nested
    rw [Path.place_join hrel, Path.place_join hcomps.1]
    exact (Path.prefix_onwards hcomps.2 _).trans (Path.prefix_onwards hup _)

/-- A tame file lies below the directory that it is meant for. -/
theorem Tame.below {sets : ComponentSets} {typeName name : String} {dir : Path} {place : Place}
    (h : Tame sets typeName name)
    (htarget : FileTree.Target start
      ((nested dir typeName (sets.origin typeName)).join name) place) :
    Below (dir.place start) place := by
  obtain ⟨rfl, hends⟩ := htarget
  exact (Path.below_join h.1 hends start).widen (prefix_nested dir h.2)

/-- The file of a component copied to a directory of its kind: a copy in the private directory, and
the file itself. -/
theorem writesOnly_place (sets : ComponentSets) (typeName relative : String)
    (target : Origin → Path) :
    Task.WritesOnly start scratch (fun place => Below (scratch.place start) place ∨
        FileTree.Target start (target (sets.origin typeName)) place) (do
      let (source, origin) ← Components.resolve sets typeName relative
      Task.explain .files (Task.copy source (target origin)) : Task Cause Unit) := by
  refine ((Components.writesOnly_resolve sets typeName relative).mono
    fun _ => Or.inl).bind_of (Components.yields_resolve sets typeName relative) ?_
  rintro ⟨source, origin⟩ rfl
  exact ((Task.writesOnly_copy source _).explain _).mono fun _ => Or.inr

/-- The places that are written for entries, when `dir` is the directory meant for each and `name`
its name there: below that directory, in the private directory, or where an entry leads that is
not tame. -/
def Allowed (start : Place) (scratch : Path) (sets : ComponentSets)
    (dir : String × String → Path) (name : String × String → String)
    (entries : List (String × String)) (place : Place) : Prop :=
  (∃ entry ∈ entries, Below ((dir entry).place start) place) ∨ Below (scratch.place start) place ∨
    ∃ entry ∈ entries, ¬ Tame sets entry.1 (name entry) ∧
      place = ((nested (dir entry) entry.1 (sets.origin entry.1)).join (name entry)).place start

theorem allowed_of_target {sets : ComponentSets} {dir : String × String → Path}
    {name : String × String → String} {entries : List (String × String)}
    {entry : String × String} (hentry : entry ∈ entries) {place : Place}
    (h : Below (scratch.place start) place ∨ FileTree.Target start
      ((nested (dir entry) entry.1 (sets.origin entry.1)).join (name entry)) place) :
    Allowed start scratch sets dir name entries place := by
  rcases h with h | h
  · exact .inr (.inl h)
  · by_cases htame : Tame sets entry.1 (name entry)
    · exact .inl ⟨entry, hentry, htame.below h⟩
    · exact .inr (.inr ⟨entry, hentry, htame, h.1⟩)

theorem writesOnly_nativeLibraries (needs : RequirementMap) (sets : ComponentSets)
    (libsDir : Path) :
    Task.WritesOnly start scratch (Allowed start scratch sets
        (fun entry => libsDir.join (abiTarget entry.2).1) (fun entry => (abiTarget entry.2).2)
        (entries needs))
      (nativeLibraries needs sets libsDir) := by
  unfold nativeLibraries
  refine Task.WritesOnly.explain ?_ _
  refine (Task.WritesOnly.explain (Task.writesOnly_forM fun _ _ => ?_) _).bind fun _ => ?_
  · exact Task.writesOnly_makeDirs _
  · refine Task.writesOnly_forM fun entry hentry => ?_
    refine (writesOnly_place sets entry.1 _ fun origin =>
      (nested (libsDir.join (abiTarget entry.2).1) entry.1 origin).join (abiTarget entry.2).2).mono
      fun place h => ?_
    exact allowed_of_target hentry h

theorem writesOnly_assets (needs : RequirementMap) (sets : ComponentSets) (assetsDir : Path) :
    Task.WritesOnly start scratch (Allowed start scratch sets
        (fun _ => assetsDir.join "component") Prod.snd (entries needs))
      (assets needs sets assetsDir) := by
  unfold assets
  refine Task.WritesOnly.explain ?_ _
  refine ((Task.writesOnly_makeDirs _).explain _).bind fun _ => ?_
  refine Task.writesOnly_forM fun entry hentry => ?_
  refine (writesOnly_place sets entry.1 _ fun origin =>
    (nested (assetsDir.join "component") entry.1 origin).join entry.2).mono fun place h => ?_
  exact allowed_of_target hentry h

/-- The directory that the name of a native library tells is one of the two. -/
theorem abiTarget_mem (library : String) : (abiTarget library).1 ∈ abiDirs := by
  unfold abiTarget
  split
  · exact List.mem_cons_of_mem _ (List.mem_cons_self ..)
  · exact List.mem_cons_self ..

theorem isPlain_of_abiDirs {abi : String} (h : abi ∈ abiDirs) : Path.IsPlain abi := by
  simp only [abiDirs, List.mem_cons, List.not_mem_nil, or_false] at h
  rcases h with rfl | rfl
  · decide
  · decide

/-- Attaching native libraries and assets, whether it succeeds or not, changes files only below the
directories meant for them and in the private directory of the cache, and where an entry leads that
takes a step up or starts at the root. -/
theorem component_files_stay_below_their_directories (needs : RequirementMap)
    (sets : ComponentSets) (dir : Path) (w : Workspace) :
    (∀ place, ((nativeLibraries needs sets dir).run w).2.tree.file? place ≠ w.tree.file? place →
      (∃ abi ∈ abiDirs, Below ((dir.join abi).place w.start) place) ∨
      Below (w.resources.scratch.place w.start) place ∨
      ∃ entry ∈ entries needs, ¬ Tame sets entry.1 (abiTarget entry.2).2 ∧
        place = (libraryTarget sets dir entry).place w.start) ∧
    ∀ place, ((assets needs sets dir).run w).2.tree.file? place ≠ w.tree.file? place →
      Below ((dir.join "component").place w.start) place ∨
      Below (w.resources.scratch.place w.start) place ∨
      ∃ entry ∈ entries needs, ¬ Tame sets entry.1 entry.2 ∧
        place = (assetTarget sets dir entry).place w.start := by
  constructor
  · intro place hchanged
    obtain ⟨-, -, hwrites⟩ := writesOnly_nativeLibraries needs sets dir w rfl rfl
    rcases hwrites.of_changed hchanged with ⟨entry, -, hbelow⟩ | hprivate | huntamed
    · exact .inl ⟨_, abiTarget_mem entry.2, hbelow⟩
    · exact .inr (.inl hprivate)
    · exact .inr (.inr huntamed)
  · intro place hchanged
    obtain ⟨-, -, hwrites⟩ := writesOnly_assets needs sets dir w rfl rfl
    rcases hwrites.of_changed hchanged with ⟨entry, -, hbelow⟩ | hprivate | huntamed
    · exact .inl hbelow
    · exact .inr (.inl hprivate)
    · exact .inr (.inr huntamed)

/-- The native libraries of a component that names one with two steps up. -/
def strayNeeds : RequirementMap :=
  NameMap.empty.insert "a.B" (NameSet.ofList ["../../stray"])

/-- A workspace with that library among its runtime files. -/
def strayWorkspace : Workspace :=
  Workspace.opened [] (([["rt"], ["rt", "files"], ["rt", "files", "armeabi"]].foldl
    (fun tree place => tree.put place .dir) FileTree.host).put ["rt", "stray"] (.file [1] false))
    ⟨"/rt"⟩ ⟨"/tmp/r"⟩

/-- A name that steps up takes a file out of its directory. -/
theorem a_component_file_can_leave_its_directory :
    let sets : ComponentSets := ⟨NameSet.ofList ["a.B"], NameSet.empty⟩
    let after := ((nativeLibraries strayNeeds sets ⟨"/build/libs"⟩).run strayWorkspace).2.tree
    after.file? ["build", "stray"] ≠ strayWorkspace.tree.file? ["build", "stray"] ∧
      ¬ (∃ abi ∈ abiDirs, Below ((Path.join ⟨"/build/libs"⟩ abi).place []) ["build", "stray"]) ∧
      ¬ Below (strayWorkspace.resources.scratch.place []) ["build", "stray"] := by
  decide +kernel

end Attachments

end ApkForge
