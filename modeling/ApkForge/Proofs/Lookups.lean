-- Where a locator finds extensions over a whole run of calls, while directories come and go. An
-- extension lies in the directory that it was found in first. Only what was found is remembered, so
-- what was not there is looked for again, and every look at a directory is counted.
import ApkForge.Proofs.Memories

namespace ApkForge

/-! ## The last cut -/

namespace Text

theorem cutLast_eq_none {sep : Char} {cs : List Char} : cutLast sep cs = none ↔ sep ∉ cs := by
  induction cs with
  | nil => simp [cutLast]
  | cons c rest ih =>
    rw [List.mem_cons, not_or, ← ih, cutLast]
    cases cutLast sep rest with
    | some cut => simp
    | none =>
      by_cases hc : c = sep
      · simp [hc]
      · simp [hc, Ne.symm hc]

theorem cutLast_append {sep : Char} {after : List Char} (h : sep ∉ after) (before : List Char) :
    cutLast sep (before ++ sep :: after) = some (before, after) := by
  induction before with
  | nil => simp [cutLast, cutLast_eq_none.2 h]
  | cons c rest ih => simp [cutLast, ih]

/-- A text that has the separator has it last somewhere. -/
theorem exists_last_cut {sep : Char} {cs : List Char} (h : sep ∈ cs) :
    ∃ before after, cs = before ++ sep :: after ∧ sep ∉ after := by
  induction cs with
  | nil => cases h
  | cons c rest ih =>
    by_cases hrest : sep ∈ rest
    · obtain ⟨before, after, rfl, hafter⟩ := ih hrest
      exact ⟨c :: before, after, rfl, hafter⟩
    · rcases List.mem_cons.1 h with rfl | hmem
      · exact ⟨[], rest, rfl, hrest⟩
      · exact absurd hmem hrest

end Text

namespace Locator

variable {w w' : Workspace} {component package : String}

/-- The component is a name in this package. -/
def InPackage (component package : String) : Prop :=
  ∃ name, component = package ++ "." ++ name ∧ '.' ∉ name.toList

theorem InPackage.cutLast? (h : InPackage component package) :
    ∃ name, Text.cutLast? '.' component = some (package, name) := by
  obtain ⟨name, rfl, hname⟩ := h
  refine ⟨name, ?_⟩
  have hchars : (package ++ "." ++ name).toList = package.toList ++ '.' :: name.toList := by simp
  unfold Text.cutLast?
  rw [hchars, Text.cutLast_append hname]
  simp

theorem exists_package (h : '.' ∈ component.toList) : ∃ package, InPackage component package := by
  obtain ⟨before, after, hchars, hafter⟩ := Text.exists_last_cut h
  refine ⟨String.ofList before, String.ofList after, ?_, by simpa using hafter⟩
  refine String.toList_injective ?_
  simp [hchars]

theorem InPackage.qualified (h : InPackage component package) : '.' ∈ component.toList := by
  obtain ⟨name, rfl, -⟩ := h
  simp

/-! ## One call -/

/-- How the directory of an extension is looked for: it was found before; its name tells of no
package; it lies under its own name; it lies under the name of its package; it is nowhere. -/
inductive Looks (component : String) (w : Workspace) : Except LocatorError Path → Workspace → Prop
  | known {dir : Path} (there : w.locator.found.lookup component = some dir) :
      Looks component w (.ok dir) w
  | unqualified (unknown : w.locator.found.lookup component = none)
      (plain : '.' ∉ component.toList) : Looks component w (.error (.unqualified component)) w
  | own (unknown : w.locator.found.lookup component = none) (qualified : '.' ∈ component.toList)
      (accepted : accepts w (w.locator.root.join component) = true) :
      Looks component w (.ok (w.locator.root.join component)) { w with
        locator := { w.locator with
          probes := w.locator.probes + 1
          found := (component, w.locator.root.join component) :: w.locator.found } }
  | shared {package : String} (unknown : w.locator.found.lookup component = none)
      (within : InPackage component package)
      (passed : accepts w (w.locator.root.join component) = false)
      (accepted : accepts w (w.locator.root.join package) = true) :
      Looks component w (.ok (w.locator.root.join package)) { w with
        locator := { w.locator with
          probes := w.locator.probes + 2
          found := (component, w.locator.root.join package) :: w.locator.found } }
  | nowhere {package : String} (unknown : w.locator.found.lookup component = none)
      (within : InPackage component package)
      (passed : accepts w (w.locator.root.join component) = false)
      (passed' : accepts w (w.locator.root.join package) = false) :
      Looks component w
        (.error (.notFound component [w.locator.root.join component, w.locator.root.join package]))
        { w with locator := { w.locator with probes := w.locator.probes + 2 } }

theorem run_unqualified (unknown : w.locator.found.lookup component = none)
    (plain : '.' ∉ component.toList) :
    (locate component).run w = (.error (.unqualified component), w) := by
  have hcut : Text.cutLast? '.' component = none := by
    unfold Text.cutLast?
    rw [Text.cutLast_eq_none.2 plain]
    rfl
  unfold locate
  rw [run_bind, Task.run_get]
  simp only [unknown, hcut]
  rfl

/-- An extension that is not known is searched among its two candidates. -/
theorem run_search (unknown : w.locator.found.lookup component = none)
    (within : InPackage component package) : (locate component).run w =
      match search w (w.locator.candidates component package) w.locator.probes with
      | (some dir, probes) => (.ok dir, { w with
          locator := { w.locator with probes, found := (component, dir) :: w.locator.found } })
      | (none, probes) =>
        (.error (.notFound component (w.locator.candidates component package)),
          { w with locator := { w.locator with probes } }) := by
  obtain ⟨name, hcut⟩ := within.cutLast?
  unfold locate
  rw [run_bind, Task.run_get]
  simp only [unknown, hcut]
  rcases search w (w.locator.candidates component package) w.locator.probes with ⟨_ | dir, probes⟩
  · rfl
  · rfl

theorem run_own (unknown : w.locator.found.lookup component = none)
    (qualified : '.' ∈ component.toList)
    (accepted : accepts w (w.locator.root.join component) = true) : (locate component).run w =
      (.ok (w.locator.root.join component), { w with
        locator := { w.locator with
          probes := w.locator.probes + 1
          found := (component, w.locator.root.join component) :: w.locator.found } }) := by
  obtain ⟨package, hwithin⟩ := exists_package qualified
  rw [run_search unknown hwithin]
  simp only [candidates, search, accepted, if_true]

theorem run_shared (unknown : w.locator.found.lookup component = none)
    (within : InPackage component package)
    (passed : accepts w (w.locator.root.join component) = false)
    (accepted : accepts w (w.locator.root.join package) = true) : (locate component).run w =
      (.ok (w.locator.root.join package), { w with
        locator := { w.locator with
          probes := w.locator.probes + 2
          found := (component, w.locator.root.join package) :: w.locator.found } }) := by
  rw [run_search unknown within]
  simp only [candidates, search, passed, accepted, Bool.false_eq_true, if_true, if_false]

theorem run_nowhere (unknown : w.locator.found.lookup component = none)
    (within : InPackage component package)
    (passed : accepts w (w.locator.root.join component) = false)
    (passed' : accepts w (w.locator.root.join package) = false) : (locate component).run w =
      (.error (.notFound component [w.locator.root.join component, w.locator.root.join package]),
        { w with locator := { w.locator with probes := w.locator.probes + 2 } }) := by
  rw [run_search unknown within]
  simp only [candidates, search, passed, passed', Bool.false_eq_true, if_false]

theorem looks_run (component : String) (w : Workspace) :
    Looks component w ((locate component).run w).1 ((locate component).run w).2 := by
  cases hfound : w.locator.found.lookup component with
  | some dir =>
    rw [(known_locate hfound).run]
    exact .known hfound
  | none =>
    by_cases hqualified : '.' ∈ component.toList
    · obtain ⟨package, hwithin⟩ := exists_package hqualified
      cases hown : accepts w (w.locator.root.join component) with
      | true =>
        rw [run_own hfound hqualified hown]
        exact .own hfound hqualified hown
      | false =>
        cases hshared : accepts w (w.locator.root.join package) with
        | true =>
          rw [run_shared hfound hwithin hown hshared]
          exact .shared hfound hwithin hown hshared
        | false =>
          rw [run_nowhere hfound hwithin hown hshared]
          exact .nowhere hfound hwithin hown hshared
    · rw [run_unqualified hfound hqualified]
      exact .unqualified hfound hqualified

/-- What a locator is asked for: the directory of an extension, its descriptor, the archive of its
code, or a file of it. -/
inductive Question where
  | directory
  | descriptor
  | runtimeJar
  | file (relative : String)

namespace Question

def task (component : String) : Question → Task LocatorError Path
  | .directory => locate component
  | .descriptor => Locator.descriptor component
  | .runtimeJar => Locator.runtimeJar component
  | .file relative => Locator.file component relative

/-- What is answered once the directory is known. -/
def answer (component : String) (w : Workspace) (dir : Path) :
    Question → Except LocatorError Path
  | .directory => .ok dir
  | .descriptor =>
    let files := dir.join filesDirName
    match (descriptorNames.map files.join).find? fun p => w.tree.isFile w.start p with
    | some p => .ok p
    | none => .error (.descriptorMissing component files)
  | .runtimeJar => .ok ((dir.join filesDirName).join "AndroidRuntime.jar")
  | .file relative => .ok ((dir.join filesDirName).join relative)

/-- Whatever is asked for, the directory is looked for, and nothing else changes anything. -/
theorem run_ok {dir : Path} (h : (locate component).run w = (.ok dir, w')) (q : Question) :
    (q.task component).run w = (q.answer component w' dir, w') := by
  have hfiles : (filesDir component).run w = (.ok (dir.join filesDirName), w') := by
    unfold filesDir
    rw [run_bind, h]
    rfl
  cases q with
  | directory => exact h
  | descriptor =>
    unfold task Locator.descriptor answer
    rw [run_bind, hfiles]
    simp only
    rw [run_bind, Task.run_get]
    simp only
    cases (descriptorNames.map (dir.join filesDirName).join).find? fun p =>
        w'.tree.isFile w'.start p with
    | some p => rfl
    | none => rfl
  | runtimeJar =>
    unfold task Locator.runtimeJar
    rw [run_bind, hfiles]
    rfl
  | file relative =>
    unfold task Locator.file
    rw [run_bind, hfiles]
    rfl

theorem run_error {e : LocatorError} (h : (locate component).run w = (.error e, w'))
    (q : Question) : (q.task component).run w = (.error e, w') := by
  have hfiles : (filesDir component).run w = (.error e, w') := by
    unfold filesDir
    rw [run_bind, h]
  cases q with
  | directory => exact h
  | descriptor =>
    unfold task Locator.descriptor
    rw [run_bind, hfiles]
  | runtimeJar =>
    unfold task Locator.runtimeJar
    rw [run_bind, hfiles]
  | file relative =>
    unfold task Locator.file
    rw [run_bind, hfiles]

/-- Whatever is asked for, the workspace after it is the one after looking for the directory. -/
theorem run_snd (q : Question) (component : String) (w : Workspace) :
    ((q.task component).run w).2 = ((locate component).run w).2 := by
  rcases h : (locate component).run w with ⟨e | dir, w'⟩
  · rw [q.run_error h]
  · rw [q.run_ok h]

end Question

/-! ## A run of calls -/

/-- An extension that was asked about: its name, the tree at that time, and the directory that was
told of it, if any. -/
structure Lookup where
  component : String
  tree : FileTree
  told : Option Path

/-- Where calls lead from `w₀`, with all that was asked about, the last one first. In between the
tree may become any other. -/
inductive Searches (w₀ : Workspace) : List Lookup → Workspace → Prop
  | opened : Searches w₀ [] w₀
  | asked {log : List Lookup} {w : Workspace} (before : Searches w₀ log w) (q : Question)
      (component : String) :
      Searches w₀ (⟨component, w.tree, ((locate component).run w).1.toOption⟩ :: log)
        ((q.task component).run w).2
  | changed {log : List Lookup} {w : Workspace} (before : Searches w₀ log w) (tree : FileTree) :
      Searches w₀ log { w with tree }

/-- No directory was told of the extension. -/
def Unknown (component : String) (log : List Lookup) : Prop :=
  ∀ l ∈ log, l.component = component → l.told = none

instance (component : String) (log : List Lookup) : Decidable (Unknown component log) :=
  inferInstanceAs (Decidable (∀ l ∈ log, _ → _))

/-- The directory held a directory of files when it was asked about the extension. -/
def Lookup.Saw (w₀ : Workspace) (l : Lookup) (dir : Path) : Prop :=
  accepts { w₀ with tree := l.tree } dir = true

instance (w₀ : Workspace) (l : Lookup) (dir : Path) : Decidable (l.Saw w₀ dir) :=
  inferInstanceAs (Decidable (_ = true))

/-- How many directories were looked at for an extension, after `older` lookups: none for one that
was told of before and for a name without a package, one when it lay under its own name, or else
two. -/
def Lookup.cost (w₀ : Workspace) (older : List Lookup) (l : Lookup) : Nat :=
  if '.' ∉ l.component.toList ∨ ¬ Unknown l.component older then 0
  else if l.Saw w₀ (w₀.locator.root.join l.component) then 1
  else 2

/-- How many directories were looked at in all. -/
def cost (w₀ : Workspace) : List Lookup → Nat
  | [] => 0
  | l :: older => l.cost w₀ older + cost w₀ older

/-- The directory that is told of an extension at first: its own, if that had files, or else that of
its package, which then had. -/
def Lookup.Finds (w₀ : Workspace) (l : Lookup) (dir : Path) : Prop :=
  (l.Saw w₀ (w₀.locator.root.join l.component) ∧ dir = w₀.locator.root.join l.component) ∨
    ¬ l.Saw w₀ (w₀.locator.root.join l.component) ∧ ∃ package, InPackage l.component package ∧
      dir = w₀.locator.root.join package ∧ l.Saw w₀ dir

/-- The locator has not been asked anything. -/
structure Unasked (w : Workspace) : Prop where
  found : w.locator.found = []
  probes : w.locator.probes = 0

/-- What a locator remembers of its lookups. -/
structure Remembered (w₀ : Workspace) (log : List Lookup) (w : Workspace) : Prop where
  start : w.start = w₀.start
  root : w.locator.root = w₀.locator.root
  known : ∀ l ∈ log, ∀ dir, l.told = some dir → w.locator.found.lookup l.component = some dir
  only : ∀ component, Unknown component log → w.locator.found.lookup component = none
  qualified : ∀ component dir, w.locator.found.lookup component = some dir →
    '.' ∈ component.toList
  first : ∀ later l older dir, log = later ++ l :: older → Unknown l.component older →
    l.told = some dir → l.Finds w₀ dir
  counted : w.locator.probes = cost w₀ log

section

variable {w₀ : Workspace} {log : List Lookup} {l : Lookup}

theorem remembered_opened (h : Unasked w₀) : Remembered w₀ [] w₀ := by
  constructor
  case start => rfl
  case root => rfl
  case known => simp
  case only => simp [h.found]
  case qualified => simp [h.found]
  case first => simp
  case counted => exact h.probes

/-- What is remembered of an extension was told of it. -/
theorem Remembered.not_unknown (h : Remembered w₀ log w) {dir : Path}
    (there : w.locator.found.lookup component = some dir) : ¬ Unknown component log := by
  intro hunknown
  rw [h.only component hunknown] at there
  cases there

theorem Remembered.unknown (h : Remembered w₀ log w)
    (missing : w.locator.found.lookup component = none) : Unknown component log := by
  intro l hl hcomponent
  cases htold : l.told with
  | none => rfl
  | some dir =>
    have hknown := h.known l hl dir htold
    rw [hcomponent, missing] at hknown
    cases hknown

theorem saw_iff (hstart : w.start = w₀.start) (told : Option Path) (dir : Path) :
    (Lookup.mk component w.tree told).Saw w₀ dir ↔ accepts w dir = true := by
  unfold Lookup.Saw accepts
  rw [hstart]

/-- Nothing new is remembered when what is told is what was remembered, or nothing. -/
theorem Remembered.same (h : Remembered w₀ log w) (hstart : w'.start = w.start)
    (hroot : w'.locator.root = w.locator.root) (hfound : w'.locator.found = w.locator.found)
    (htold : l.told = w.locator.found.lookup l.component)
    (hcost : w'.locator.probes = l.cost w₀ log + w.locator.probes) :
    Remembered w₀ (l :: log) w' := by
  constructor
  case start => exact hstart.trans h.start
  case root => exact hroot.trans h.root
  case known =>
    intro m hm dir hdir
    rw [hfound]
    rcases List.mem_cons.1 hm with rfl | hm
    · rw [← htold, hdir]
    · exact h.known m hm dir hdir
  case only =>
    intro c hc
    rw [hfound]
    exact h.only c fun m hm => hc m (List.mem_cons_of_mem _ hm)
  case qualified =>
    rw [hfound]
    exact h.qualified
  case first =>
    intro later m older dir heq hunknown hdir
    cases later with
    | nil =>
      cases heq
      rw [htold] at hdir
      exact absurd hunknown (h.not_unknown hdir)
    | cons _ later =>
      cases heq
      exact h.first later m older dir rfl hunknown hdir
  case counted => rw [hcost, h.counted, cost]

/-- A directory that is found is remembered from then on. -/
theorem Remembered.found (h : Remembered w₀ log w) {dir : Path} (hstart : w'.start = w.start)
    (hroot : w'.locator.root = w.locator.root)
    (hmissing : w.locator.found.lookup l.component = none)
    (hfound : w'.locator.found = (l.component, dir) :: w.locator.found)
    (hqualified : '.' ∈ l.component.toList) (htold : l.told = some dir) (hfinds : l.Finds w₀ dir)
    (hcost : w'.locator.probes = l.cost w₀ log + w.locator.probes) :
    Remembered w₀ (l :: log) w' := by
  have hrow : ∀ c, c ≠ l.component → w'.locator.found.lookup c = w.locator.found.lookup c := by
    intro c hc
    have hbeq : (c == l.component) = false := by simp [hc]
    rw [hfound, List.lookup_cons, hbeq]
  constructor
  case start => exact hstart.trans h.start
  case root => exact hroot.trans h.root
  case known =>
    intro m hm d hd
    rcases List.mem_cons.1 hm with rfl | hm
    · rw [htold] at hd
      cases hd
      rw [hfound]
      exact List.lookup_cons_self
    · rw [hfound]
      exact lookup_cons_of_lookup hmissing (h.known m hm d hd)
  case only =>
    intro c hc
    have hne : c ≠ l.component := by
      rintro rfl
      have hnone := hc l List.mem_cons_self rfl
      rw [htold] at hnone
      cases hnone
    rw [hrow c hne]
    exact h.only c fun m hm => hc m (List.mem_cons_of_mem _ hm)
  case qualified =>
    intro c d hd
    by_cases hc : c = l.component
    · rw [hc]
      exact hqualified
    · rw [hrow c hc] at hd
      exact h.qualified c d hd
  case first =>
    intro later m older d heq hunknown hd
    cases later with
    | nil =>
      cases heq
      rw [htold] at hd
      cases hd
      exact hfinds
    | cons _ later =>
      cases heq
      exact h.first later m older d rfl hunknown hd
  case counted => rw [hcost, h.counted, cost]

theorem cost_of_saw (hqualified : '.' ∈ l.component.toList) (hunknown : Unknown l.component log)
    (hsaw : l.Saw w₀ (w₀.locator.root.join l.component)) : l.cost w₀ log = 1 := by
  simp [Lookup.cost, hqualified, hunknown, hsaw]

theorem cost_of_not_saw (hqualified : '.' ∈ l.component.toList)
    (hunknown : Unknown l.component log)
    (hsaw : ¬ l.Saw w₀ (w₀.locator.root.join l.component)) : l.cost w₀ log = 2 := by
  simp [Lookup.cost, hqualified, hunknown, hsaw]

/-- What is remembered after one more lookup, however it ends. -/
theorem Remembered.asked (h : Remembered w₀ log w) {r : Except LocatorError Path}
    (hlooks : Looks component w r w') :
    Remembered w₀ (⟨component, w.tree, r.toOption⟩ :: log) w' := by
  have hsaw : ∀ told dir, (Lookup.mk component w.tree told).Saw w₀ (w₀.locator.root.join dir) ↔
      accepts w (w.locator.root.join dir) = true := by
    intro told dir
    rw [saw_iff h.start, h.root]
  cases hlooks with
  | known there =>
    refine h.same rfl rfl rfl there.symm ?_
    simp [Lookup.cost, h.not_unknown there]
  | unqualified unknown plain =>
    refine h.same rfl rfl rfl unknown.symm ?_
    simp [Lookup.cost, plain]
  | own unknown qualified accepted =>
    have hown := (hsaw (some (w.locator.root.join component)) component).2 accepted
    refine h.found rfl rfl unknown rfl qualified rfl (.inl ⟨hown, by rw [h.root]⟩) ?_
    exact (cost_of_saw qualified (h.unknown unknown) hown).symm ▸ Nat.add_comm _ 1
  | @shared package unknown within passed accepted =>
    have hown : ¬ _ := fun hown =>
      absurd ((hsaw (some (w.locator.root.join package)) component).1 hown) (by simp [passed])
    have hshared := (hsaw (some (w.locator.root.join package)) package).2 accepted
    rw [h.root] at hown hshared
    refine h.found rfl rfl unknown rfl within.qualified rfl
      (.inr ⟨hown, package, within, by rw [h.root], ?_⟩) ?_
    · rw [h.root]
      exact hshared
    · exact (cost_of_not_saw within.qualified (h.unknown unknown) hown).symm ▸ Nat.add_comm _ 2
  | nowhere unknown within passed passed' =>
    have hown : ¬ _ := fun hown => absurd ((hsaw none component).1 hown) (by simp [passed])
    refine h.same rfl rfl rfl unknown.symm ?_
    exact (cost_of_not_saw within.qualified (h.unknown unknown) hown).symm ▸ Nat.add_comm _ 2

/-- What is remembered holds all along a run. -/
theorem Searches.remembered (h : Searches w₀ log w) (hunasked : Unasked w₀) :
    Remembered w₀ log w := by
  induction h with
  | opened => exact remembered_opened hunasked
  | asked _ q component ih =>
    rw [q.run_snd]
    exact ih.asked (looks_run component _)
  | changed _ tree ih =>
    exact ⟨ih.start, ih.root, ih.known, ih.only, ih.qualified, ih.first, ih.counted⟩

end

/-- What a locator that was not asked anything in `w₀` does after these lookups, whichever of its
questions it is asked. -/
structure Settled (w₀ : Workspace) (log : List Lookup) (w : Workspace) : Prop where
  /-- The directories that were looked at are counted. -/
  counted : w.locator.probes = cost w₀ log
  /-- The directory that was told of an extension first is its own or that of its package. -/
  first : ∀ later l older dir, log = later ++ l :: older → Unknown l.component older →
    l.told = some dir → l.Finds w₀ dir
  /-- From then on it is told without looking, and nothing is changed. -/
  again : ∀ l ∈ log, ∀ dir, l.told = some dir → ∀ q : Question,
    (q.task l.component).run w = (q.answer l.component w dir, w)
  /-- A name without a package is refused without looking. -/
  unqualified : ∀ component, '.' ∉ component.toList → ∀ q : Question,
    (q.task component).run w = (.error (.unqualified component), w)
  /-- Before anything was told of an extension, its own directory is looked at. -/
  own : ∀ component, '.' ∈ component.toList → Unknown component log →
    accepts w (w₀.locator.root.join component) = true → ∀ q : Question,
    (q.task component).run w = (q.answer component w (w₀.locator.root.join component),
      { w with locator := { w.locator with
          probes := w.locator.probes + 1
          found := (component, w₀.locator.root.join component) :: w.locator.found } })
  /-- Then that of its package is. -/
  shared : ∀ component package, InPackage component package → Unknown component log →
    accepts w (w₀.locator.root.join component) = false →
    accepts w (w₀.locator.root.join package) = true → ∀ q : Question,
    (q.task component).run w = (q.answer component w (w₀.locator.root.join package),
      { w with locator := { w.locator with
          probes := w.locator.probes + 2
          found := (component, w₀.locator.root.join package) :: w.locator.found } })
  /-- When neither has files, that is said, and only the count is changed. -/
  nowhere : ∀ component package, InPackage component package → Unknown component log →
    accepts w (w₀.locator.root.join component) = false →
    accepts w (w₀.locator.root.join package) = false → ∀ q : Question,
    (q.task component).run w = (.error (.notFound component
        [w₀.locator.root.join component, w₀.locator.root.join package]),
      { w with locator := { w.locator with probes := w.locator.probes + 2 } })

/-- From a locator that was not asked anything, whatever is asked in whatever order while the tree
changes at will, an extension lies where it was found first. What was not found is not remembered,
and the count tells how often a directory was looked at. -/
theorem an_extension_lies_where_it_was_found_first (w₀ : Workspace) (hunasked : Unasked w₀)
    {log : List Lookup} {w : Workspace} (h : Searches w₀ log w) : Settled w₀ log w := by
  have hremembered := h.remembered hunasked
  have hroot := hremembered.root
  constructor
  case counted => exact hremembered.counted
  case first => exact hremembered.first
  case again =>
    intro l hl dir hdir q
    exact q.run_ok (known_locate (hremembered.known l hl dir hdir)).run
  case unqualified =>
    intro component hplain q
    have hmissing : w.locator.found.lookup component = none := by
      cases hfound : w.locator.found.lookup component with
      | none => rfl
      | some dir => exact absurd (hremembered.qualified _ _ hfound) hplain
    exact q.run_error (run_unqualified hmissing hplain)
  case own =>
    intro component hqualified hunknown haccepted q
    rw [← hroot] at haccepted ⊢
    exact q.run_ok (run_own (hremembered.only component hunknown) hqualified haccepted)
  case shared =>
    intro component package hwithin hunknown hpassed haccepted q
    rw [← hroot] at hpassed haccepted ⊢
    exact q.run_ok (run_shared (hremembered.only component hunknown) hwithin hpassed haccepted)
  case nowhere =>
    intro component package hwithin hunknown hpassed hpassed' q
    rw [← hroot] at hpassed hpassed' ⊢
    exact q.run_error (run_nowhere (hremembered.only component hunknown) hwithin hpassed hpassed')

/-- A host without extensions. -/
def bareHost : Workspace :=
  { start := [], tree := FileTree.host, resources := default, locator := Locator.ofAssets ⟨"/app"⟩ }

/-- The host with a package of extensions. -/
def withPackage : FileTree :=
  FileTree.host.putWithParents ["app", "external_comps", "com.ext", "files"] .dir

/-- An extension is missing at first, is then found in the directory of its package, and is told of
when that is gone again. Four directories were looked at for it. -/
theorem an_extension_is_told_of_after_it_is_gone :
    Unasked bareHost ∧ ∃ log w, Searches bareHost log w ∧ Settled bareHost log w ∧
      w.locator.probes = 4 ∧ accepts w ⟨"/app/external_comps/com.ext"⟩ = false ∧
      (locate "com.ext.Thing").run w = (.ok ⟨"/app/external_comps/com.ext"⟩, w) := by
  have hopened : Searches bareHost [] bareHost := .opened
  have hmissed := hopened.asked .descriptor "com.ext.Thing"
  have hfound := (hmissed.changed withPackage).asked .directory "com.ext.Thing"
  have hsearches := hfound.changed FileTree.host
  have hsettled := an_extension_lies_where_it_was_found_first bareHost ⟨rfl, rfl⟩ hsearches
  refine ⟨⟨rfl, rfl⟩, _, _, hsearches, hsettled, by decide +kernel, by decide +kernel, ?_⟩
  exact hsettled.again _ List.mem_cons_self ⟨"/app/external_comps/com.ext"⟩ (by decide +kernel)
    .directory

end Locator

end ApkForge
