-- What is loaded of the extensions that an app uses. The types come in ascending order; each leads
-- to a descriptor, and a descriptor is read for the first type that leads to it. Several types of
-- one bundle share a descriptor, and other types may stand between them.
import ApkForge.Proofs.Lookups
import ApkForge.Proofs.NormalPaths

namespace ApkForge

theorem Path.same_iff {p q : Path} : p.same q = true ↔ p.parts = q.parts := by simp [same]

namespace Components

open Locator

variable {w v : Workspace} {t u : String} {p q files : Path} {r r' : Except LocatorError Path}
  {names before rest : List String} {seen : List Path}

/-! ## What a type leads to -/

/-- The path is that of a descriptor among the files of an extension. One for several components
is preferred to one for a single component. -/
def IsDescriptor (tree : FileTree) (start : Place) (files p : Path) : Prop :=
  (p = files.join "component_build_infos.json" ∧ tree.isFile start p = true) ∨
    tree.isFile start (files.join "component_build_infos.json") = false ∧
      p = files.join "component_build_info.json" ∧ tree.isFile start p = true

theorem IsDescriptor.unique {tree : FileTree} {start : Place} (h : IsDescriptor tree start files p)
    (h' : IsDescriptor tree start files q) : p = q := by
  rcases h with ⟨rfl, hp⟩ | ⟨hp, rfl, -⟩ <;> rcases h' with ⟨rfl, hq⟩ | ⟨hq, rfl, -⟩
  · rfl
  · rw [hp] at hq
    cases hq
  · rw [hp] at hq
    cases hq
  · rfl

theorem IsDescriptor.isFile {tree : FileTree} {start : Place}
    (h : IsDescriptor tree start files p) : tree.isFile start p = true := by
  rcases h with ⟨-, h⟩ | ⟨-, -, h⟩
  · exact h
  · exact h

theorem isDescriptor_iff {tree : FileTree} {start : Place} : IsDescriptor tree start files p ↔
    (descriptorNames.map files.join).find? (fun p => tree.isFile start p) = some p := by
  simp only [descriptorNames, List.map_cons, List.map_nil, List.find?_cons, List.find?_nil,
    IsDescriptor]
  cases hmany : tree.isFile start (files.join "component_build_infos.json") with
  | true =>
    constructor
    · rintro (⟨rfl, -⟩ | ⟨⟨⟩, -⟩)
      rfl
    · rintro ⟨⟩
      exact Or.inl ⟨rfl, hmany⟩
  | false =>
    cases hone : tree.isFile start (files.join "component_build_info.json") with
    | true =>
      constructor
      · rintro (⟨rfl, h⟩ | ⟨-, rfl, -⟩)
        · rw [hmany] at h
          cases h
        · rfl
      · rintro ⟨⟩
        exact Or.inr ⟨rfl, rfl, hone⟩
    | false =>
      constructor
      · rintro (⟨rfl, h⟩ | ⟨-, rfl, h⟩)
        · rw [hmany] at h
          cases h
        · rw [hone] at h
          cases h
      · rintro ⟨⟩

/-- What a type leads to: it is not located, or there is no descriptor where it is, or there is
one. -/
inductive Seeks (w : Workspace) (t : String) : Except LocatorError Path → Prop
  | unlocated {e : LocatorError} (located : ((locate t).run w).1 = .error e) : Seeks w t (.error e)
  | undescribed {dir : Path} (located : ((locate t).run w).1 = .ok dir)
      (nothing : ∀ p, ¬ IsDescriptor w.tree w.start (dir.join "files") p) :
      Seeks w t (.error (.descriptorMissing t (dir.join "files")))
  | described {dir p : Path} (located : ((locate t).run w).1 = .ok dir)
      (there : IsDescriptor w.tree w.start (dir.join "files") p) : Seeks w t (.ok p)

theorem Seeks.unique (h : Seeks w t r) (h' : Seeks w t r') : r = r' := by
  cases h with
  | unlocated located => cases h' <;> grind
  | undescribed located nothing => cases h' <;> grind
  | described located there => cases h' <;> grind [IsDescriptor.unique]

theorem Seeks.isFile (h : Seeks w t (.ok p)) : w.tree.isFile w.start p = true := by
  cases h with
  | described _ there => exact there.isFile

/-- Looking for an extension changes neither the tree nor where extensions are looked for, and of
what is remembered only what is remembered of this extension. -/
theorem locate_leaves (t : String) (w : Workspace) :
    ((locate t).run w).2.tree = w.tree ∧ ((locate t).run w).2.start = w.start ∧
      ((locate t).run w).2.locator.root = w.locator.root ∧
      ∀ u, u ≠ t → ((locate t).run w).2.locator.found.lookup u = w.locator.found.lookup u := by
  have hother (u : String) (hu : u ≠ t) (dir : Path) :
      ((t, dir) :: w.locator.found).lookup u = w.locator.found.lookup u := by
    have hbeq : (u == t) = false := by simp [hu]
    rw [List.lookup_cons, hbeq]
  have hlooks := looks_run t w
  generalize ((locate t).run w).1 = r at hlooks
  generalize ((locate t).run w).2 = w' at hlooks
  cases hlooks with
  | known _ => exact ⟨rfl, rfl, rfl, fun _ _ => rfl⟩
  | unqualified _ _ => exact ⟨rfl, rfl, rfl, fun _ _ => rfl⟩
  | own _ _ _ => exact ⟨rfl, rfl, rfl, fun u hu => hother u hu _⟩
  | shared _ _ _ _ => exact ⟨rfl, rfl, rfl, fun u hu => hother u hu _⟩
  | nowhere _ _ _ _ => exact ⟨rfl, rfl, rfl, fun _ _ => rfl⟩

theorem seeks_run (t : String) (w : Workspace) : Seeks w t ((Locator.descriptor t).run w).1 := by
  obtain ⟨htree, hstart, -, -⟩ := locate_leaves t w
  rcases hrun : (locate t).run w with ⟨e | dir, w'⟩
  · have hdescriptor := Question.run_error hrun .descriptor
    unfold Question.task at hdescriptor
    rw [hdescriptor]
    exact .unlocated (by rw [hrun])
  · have hdescriptor := Question.run_ok hrun .descriptor
    unfold Question.task Question.answer at hdescriptor
    rw [hrun] at htree hstart
    simp only at htree hstart hdescriptor
    rw [hdescriptor, htree, hstart]
    have hlocated : ((locate t).run w).1 = .ok dir := by rw [hrun]
    split
    · rename_i p hp
      exact .described hlocated (isDescriptor_iff.2 hp)
    · rename_i hnothing
      refine .undescribed hlocated fun p hp => ?_
      cases (isDescriptor_iff.1 hp).symm.trans hnothing

/-! ## Other extensions remembered -/

/-- The two workspaces are the same for the types of a list. -/
structure Alike (w v : Workspace) (names : List String) : Prop where
  start : v.start = w.start
  tree : v.tree = w.tree
  root : v.locator.root = w.locator.root
  found : ∀ t ∈ names, v.locator.found.lookup t = w.locator.found.lookup t

theorem Alike.locate (h : Alike w v names) (ht : t ∈ names) :
    ((locate t).run v).1 = ((locate t).run w).1 := by
  have hfound := h.found t ht
  have haccepts (dir : Path) : accepts v dir = accepts w dir := by
    unfold accepts
    rw [h.tree, h.start]
  have hlooks := looks_run t w
  generalize hr : ((Locator.locate t).run w).1 = r at hlooks ⊢
  generalize ((Locator.locate t).run w).2 = w' at hlooks
  cases hlooks with
  | known there => rw [(known_locate (hfound.trans there)).run]
  | unqualified unknown plain => rw [run_unqualified (hfound.trans unknown) plain]
  | own unknown qualified accepted =>
    rw [← h.root, ← haccepts] at accepted
    rw [run_own (hfound.trans unknown) qualified accepted, h.root]
  | shared unknown within passed accepted =>
    rw [← h.root, ← haccepts] at passed accepted
    rw [run_shared (hfound.trans unknown) within passed accepted, h.root]
  | nowhere unknown within passed passed' =>
    rw [← h.root, ← haccepts] at passed passed'
    rw [run_nowhere (hfound.trans unknown) within passed passed', h.root]

theorem Alike.seeks (h : Alike w v names) (ht : t ∈ names) (hseeks : Seeks v t r) :
    Seeks w t r := by
  cases hseeks with
  | unlocated located => exact .unlocated (h.locate ht ▸ located)
  | undescribed located nothing =>
    rw [h.tree, h.start] at nothing
    exact .undescribed (h.locate ht ▸ located) nothing
  | described located there =>
    rw [h.tree, h.start] at there
    exact .described (h.locate ht ▸ located) there

theorem Alike.after (h : Alike w v (t :: names)) (ht : t ∉ names) :
    Alike w ((Locator.descriptor t).run v).2 names := by
  have hsnd : ((Locator.descriptor t).run v).2 = ((Locator.locate t).run v).2 :=
    Question.run_snd .descriptor t v
  obtain ⟨htree, hstart, hroot, hfound⟩ := locate_leaves t v
  rw [hsnd]
  constructor
  case start => exact hstart.trans h.start
  case tree => exact htree.trans h.tree
  case root => exact hroot.trans h.root
  case found =>
    intro u hu
    have hne : u ≠ t := by
      rintro rfl
      exact ht hu
    exact (hfound u hne).trans (h.found u (List.mem_cons_of_mem t hu))

/-! ## What is read -/

/-- A relation between the paths of descriptors. -/
abbrev PathRel := Path → Path → Prop

/-- A type is the first of all to lead to its descriptor, when descriptors are told apart by `R`. -/
def First (R : PathRel) (w : Workspace) (types : NameSet) (t : String) (p : Path) : Prop :=
  Seeks w t (.ok p) ∧ ∀ u ∈ types, u < t → ∀ q, Seeks w u (.ok q) → ¬ R q p

/-- A descriptor lists these components. -/
def Lists (w : Workspace) (p : Path) (infos : List ComponentInfo) : Prop :=
  ∃ text, w.tree.readText w.start p = .ok text ∧
    ComponentInfo.parseDescriptor p.text text = .ok infos

/-- Why nothing is loaded for a type: it leads to no descriptor, or it is the first to lead to one
that cannot be read or that lists no components. -/
inductive Flaw (R : PathRel) (w : Workspace) (types : NameSet) (t : String) : Cause → Prop
  | unresolved {e : LocatorError} (seeks : Seeks w t (.error e)) : Flaw R w types t (.locator e)
  | unread {p : Path} {fault : FileFault} (first : First R w types t p)
      (reads : w.tree.readText w.start p = .error fault) :
      Flaw R w types t (.files (.notRead p fault))
  | unparsed {p : Path} {text : String} {e : CatalogError} (first : First R w types t p)
      (reads : w.tree.readText w.start p = .ok text)
      (parses : ComponentInfo.parseDescriptor p.text text = .error e) :
      Flaw R w types t (.catalog e)

/-- The descriptors that are read, each with the type it is read for. -/
structure Once (R : PathRel) (w : Workspace) (types : NameSet) (files : List (String × Path)) :
    Prop where
  /-- They are read in the order of their types. -/
  ascending : (files.map Prod.fst).Pairwise (· < ·)
  /-- Each is read for the first type that leads to it. -/
  firsts : ∀ t p, (t, p) ∈ files ↔ t ∈ types ∧ First R w types t p
  /-- None is read twice. -/
  apart : files.Pairwise fun f g => ¬ R f.2 g.2
  /-- Every type leads to one that is read. -/
  all : ∀ t ∈ types, ∃ p, Seeks w t (.ok p) ∧ ∃ f ∈ files, R f.2 p

/-- The cause is the flaw of the smallest of these types that has one. -/
def Least (R : PathRel) (w : Workspace) (types : NameSet) (names : List String) (cause : Cause) :
    Prop :=
  ∃ t ∈ names, Flaw R w types t cause ∧
    ∀ u ∈ names, u < t → ∀ other, ¬ Flaw R w types u other

/-- What comes of loading: what the descriptors list, one behind the other, or the flaw of the
smallest type that has one. -/
inductive Loaded (R : PathRel) (w : Workspace) (types : NameSet) :
    Except BuildError (List ComponentInfo) → Prop
  | all {files : List (String × Path)} {parts : List (List ComponentInfo)}
      (once : Once R w types files)
      (lists : List.Forall₂ (fun f infos => Lists w f.2 infos) files parts) :
      Loaded R w types (.ok parts.flatten)
  | failed {cause : Cause} (least : Least R w types types.toList cause) :
      Loaded R w types (.error (.stage .extensions cause))

/-! ## The loop -/

section

variable {R : PathRel} {types : NameSet}

/-- `R` tells the descriptors that the types lead to apart as their paths do. -/
def Tells (R : PathRel) (w : Workspace) (types : NameSet) : Prop :=
  ∀ t ∈ types, ∀ u ∈ types, ∀ p q, Seeks w t (.ok p) → Seeks w u (.ok q) →
    (R p q ↔ p.same q = true)

/-- How the types are gone through: one fails, or leads to a descriptor that is read already, or is
the first to lead to one. -/
inductive Reads (R : PathRel) (w : Workspace) (types : NameSet) :
    List String → Except BuildError (List ComponentInfo) → Prop
  | done : Reads R w types [] (.ok [])
  | failed {t : String} {rest : List String} {cause : Cause} (flaw : Flaw R w types t cause) :
      Reads R w types (t :: rest) (.error (.stage .extensions cause))
  | again {t : String} {rest : List String} {p : Path}
      {result : Except BuildError (List ComponentInfo)} (seeks : Seeks w t (.ok p))
      (known : ¬ First R w types t p) (later : Reads R w types rest result) :
      Reads R w types (t :: rest) result
  | read {t : String} {rest : List String} {p : Path} {infos : List ComponentInfo}
      {result : Except BuildError (List ComponentInfo)} (first : First R w types t p)
      (lists : Lists w p infos) (later : Reads R w types rest result) :
      Reads R w types (t :: rest) (result.map (infos ++ ·))

/-- The paths that were read are those that the types before lead to. -/
structure Covered (w : Workspace) (before : List String) (seen : List Path) : Prop where
  sound : ∀ q ∈ seen, ∃ u ∈ before, Seeks w u (.ok q)
  covers : ∀ u ∈ before, ∀ q, Seeks w u (.ok q) → ∃ p ∈ seen, p.same q = true

theorem Covered.again (h : Covered w before seen) (seeks : Seeks w t (.ok p))
    (hseen : seen.any p.same = true) : Covered w (before ++ [t]) seen := by
  constructor
  case sound =>
    intro q hq
    obtain ⟨u, hu, hseeks⟩ := h.sound q hq
    exact ⟨u, List.mem_append_left [t] hu, hseeks⟩
  case covers =>
    intro u hu q hq
    rcases List.mem_append.1 hu with hu | hu
    · exact h.covers u hu q hq
    · cases List.mem_singleton.1 hu
      cases hq.unique seeks
      obtain ⟨p', hp', hsame⟩ := List.any_eq_true.1 hseen
      exact ⟨p', hp', Path.same_iff.2 (Path.same_iff.1 hsame).symm⟩

theorem Covered.read (h : Covered w before seen) (seeks : Seeks w t (.ok p)) :
    Covered w (before ++ [t]) (p :: seen) := by
  constructor
  case sound =>
    intro q hq
    rcases List.mem_cons.1 hq with rfl | hq
    · exact ⟨t, by simp, seeks⟩
    · obtain ⟨u, hu, hseeks⟩ := h.sound q hq
      exact ⟨u, List.mem_append_left [t] hu, hseeks⟩
  case covers =>
    intro u hu q hq
    rcases List.mem_append.1 hu with hu | hu
    · obtain ⟨p', hp', hsame⟩ := h.covers u hu q hq
      exact ⟨p', List.mem_cons_of_mem p hp', hsame⟩
    · cases List.mem_singleton.1 hu
      cases hq.unique seeks
      exact ⟨p, List.mem_cons_self, Path.same_iff.2 rfl⟩

/-- No name of an ascending list is smaller than the first. -/
theorem not_lt_first (h : (t :: rest).Pairwise (· < ·)) (hu : u ∈ t :: rest) : ¬ u < t := by
  intro hlt
  rcases List.mem_cons.1 hu with rfl | hu
  · exact String.lt_irrefl u hlt
  · exact String.lt_irrefl u (String.lt_trans hlt ((List.pairwise_cons.1 h).1 u hu))

/-- In an ascending list the smaller names are those before. -/
theorem mem_before (htypes : types.toList = before ++ t :: rest) :
    t ∈ types ∧ ∀ u, u ∈ before ↔ u ∈ types ∧ u < t := by
  have hascending := types.ascending
  simp only [NameSet.mem_def]
  rw [htypes] at hascending ⊢
  obtain ⟨-, hrest, hbefore⟩ := List.pairwise_append.1 hascending
  refine ⟨by simp, fun u => ⟨fun hu => ?_, ?_⟩⟩
  · exact ⟨List.mem_append_left _ hu, hbefore u hu t List.mem_cons_self⟩
  · rintro ⟨hu, hlt⟩
    rcases List.mem_append.1 hu with hu | hu
    · exact hu
    · exact absurd hlt (not_lt_first hrest hu)

/-- A type is the first to lead to its descriptor just when that was not read for another one. -/
theorem first_iff (hR : Tells R w types) (htypes : types.toList = before ++ t :: rest)
    (hcovered : Covered w before seen) (seeks : Seeks w t (.ok p)) :
    First R w types t p ↔ seen.any p.same = false := by
  obtain ⟨ht, hbefore⟩ := mem_before htypes
  rw [← Bool.not_eq_true, List.any_eq_true, not_exists]
  constructor
  · rintro ⟨-, hfirst⟩ q ⟨hq, hsame⟩
    obtain ⟨u, hu, hseeks⟩ := hcovered.sound q hq
    obtain ⟨huses, hlt⟩ := (hbefore u).1 hu
    refine hfirst u huses hlt q hseeks ((hR u huses t ht q p hseeks seeks).2 ?_)
    exact Path.same_iff.2 (Path.same_iff.1 hsame).symm
  · intro hnone
    refine ⟨seeks, fun u huses hlt q hseeks hq => ?_⟩
    have hsame := (hR u huses t ht q p hseeks seeks).1 hq
    obtain ⟨p', hp', hsame'⟩ := hcovered.covers u ((hbefore u).2 ⟨huses, hlt⟩) q hseeks
    have hparts := (Path.same_iff.1 hsame').trans (Path.same_iff.1 hsame)
    exact hnone p' ⟨hp', Path.same_iff.2 hparts.symm⟩

theorem run_loadInfos_cons (t : String) (rest : List String) (seen : List Path) (v : Workspace) :
    (loadInfos (t :: rest) seen).run v = match (Locator.descriptor t).run v with
      | (.error e, v') => (.error (.stage .extensions (.locator e)), v')
      | (.ok p, v') =>
        if seen.any p.same then (loadInfos rest seen).run v'
        else match v'.tree.readText v'.start p with
          | .error fault => (.error (.stage .extensions (.files (.notRead p fault))), v')
          | .ok text =>
            match ComponentInfo.parseDescriptor p.text text with
            | .error e => (.error (.stage .extensions (.catalog e)), v')
            | .ok infos => (((loadInfos rest (p :: seen)).run v').1.map (infos ++ ·),
                ((loadInfos rest (p :: seen)).run v').2) := by
  conv_lhs => unfold loadInfos
  simp only
  rw [run_bind, Task.run_explain]
  rcases (Locator.descriptor t).run v with ⟨e | p, v'⟩
  · rfl
  simp only [Except.mapError]
  split
  · rfl
  rw [run_bind, Task.run_explain, Task.run_readText]
  cases v'.tree.readText v'.start p with
  | error fault => rfl
  | ok text =>
    simp only [Except.mapError]
    cases ComponentInfo.parseDescriptor p.text text with
    | error e => rfl
    | ok infos =>
      simp only
      rw [run_bind]
      rcases (loadInfos rest (p :: seen)).run v' with ⟨e | later, v''⟩
      · rfl
      · rfl

/-- The loop goes through the types that are left, whatever is remembered of those before. -/
theorem reads_loadInfos (hR : Tells R w types) (htypes : types.toList = before ++ rest)
    (hcovered : Covered w before seen) (halike : Alike w v rest) :
    Reads R w types rest ((loadInfos rest seen).run v).1 := by
  -- on what is left: `Covered` says which descriptors were read, and by `Alike` nothing that was
  -- remembered on the way changes where the types that are left lead
  induction rest generalizing before seen v with
  | nil => exact .done
  | cons t rest ih =>
    have htypes' : types.toList = (before ++ [t]) ++ rest := by simp [htypes]
    have hdistinct : t ∉ rest := by
      have hascending := types.ascending
      rw [htypes, List.pairwise_append, List.pairwise_cons] at hascending
      exact fun ht => String.lt_irrefl t (hascending.2.1.1 t ht)
    have hseeks := halike.seeks List.mem_cons_self (seeks_run t v)
    have hafter := halike.after hdistinct
    rw [run_loadInfos_cons]
    rcases hrun : (Locator.descriptor t).run v with ⟨e | p, v'⟩
    all_goals rw [hrun] at hseeks hafter
    · exact .failed (.unresolved hseeks)
    simp only at hseeks hafter ⊢
    have hfirst := first_iff hR htypes hcovered hseeks
    split
    · rename_i hseen
      have hknown : ¬ First R w types t p := by simp [hfirst, hseen]
      exact .again hseeks hknown (ih htypes' (hcovered.again hseeks hseen) hafter)
    rename_i hseen
    have hfirst' := hfirst.2 (by simpa using hseen)
    rw [hafter.tree, hafter.start]
    cases hreads : w.tree.readText w.start p with
    | error fault => exact .failed (.unread hfirst' hreads)
    | ok text =>
      simp only
      cases hparses : ComponentInfo.parseDescriptor p.text text with
      | error e => exact .failed (.unparsed hfirst' hreads hparses)
      | ok infos =>
        exact .read hfirst' ⟨text, hreads, hparses⟩ (ih htypes' (hcovered.read hseeks) hafter)

/-! ## The whole list -/

/-- A type that leads to a descriptor has no flaw unless it is the first to lead there. -/
theorem not_flaw_of_again (seeks : Seeks w t (.ok p)) (known : ¬ First R w types t p)
    (cause : Cause) : ¬ Flaw R w types t cause := by
  intro h
  cases h with
  | unresolved seeks' => cases seeks.unique seeks'
  | unread first _ =>
    cases seeks.unique first.1
    exact known first
  | unparsed first _ _ =>
    cases seeks.unique first.1
    exact known first

theorem not_flaw_of_lists {infos : List ComponentInfo} (first : First R w types t p)
    (lists : Lists w p infos) (cause : Cause) : ¬ Flaw R w types t cause := by
  intro h
  obtain ⟨text, hreads, hparses⟩ := lists
  cases h with
  | unresolved seeks => cases first.1.unique seeks
  | unread first' hreads' =>
    cases first.1.unique first'.1
    rw [hreads] at hreads'
    cases hreads'
  | unparsed first' hreads' hparses' =>
    cases first.1.unique first'.1
    rw [hreads] at hreads'
    cases hreads'
    rw [hparses] at hparses'
    cases hparses'

/-- A type without a flaw in front changes nothing. -/
theorem Least.cons {cause : Cause} (h : Least R w types rest cause)
    (hnone : ∀ other, ¬ Flaw R w types t other) : Least R w types (t :: rest) cause := by
  obtain ⟨u, hu, hflaw, hleast⟩ := h
  refine ⟨u, List.mem_cons_of_mem t hu, hflaw, fun x hx hlt => ?_⟩
  rcases List.mem_cons.1 hx with rfl | hx
  · exact hnone
  · exact hleast x hx hlt

theorem Reads.error {e : BuildError} (h : Reads R w types names (.error e))
    (hascending : names.Pairwise (· < ·)) :
    ∃ cause, e = .stage .extensions cause ∧ Least R w types names cause := by
  generalize hresult : (Except.error e : Except BuildError (List ComponentInfo)) = result at h
  induction h with
  | done => cases hresult
  | @failed t rest cause flaw =>
    cases hresult
    exact ⟨cause, rfl, t, List.mem_cons_self, flaw, fun u hu hlt =>
      absurd hlt (not_lt_first hascending hu)⟩
  | again seeks known later ih =>
    obtain ⟨cause, he, hleast⟩ := ih (List.pairwise_cons.1 hascending).2 hresult
    exact ⟨cause, he, hleast.cons (not_flaw_of_again seeks known)⟩
  | @read t rest p infos result first lists later ih =>
    cases result with
    | ok back => cases hresult
    | error e =>
      cases hresult
      obtain ⟨cause, he, hleast⟩ := ih (List.pairwise_cons.1 hascending).2 rfl
      exact ⟨cause, he, hleast.cons (not_flaw_of_lists first lists)⟩

/-- The descriptors that are read are those of the first types. -/
theorem Reads.ok {infos : List ComponentInfo} (h : Reads R w types names (.ok infos)) :
    ∃ files parts, (files.map Prod.fst).Sublist names ∧
      (∀ t p, (t, p) ∈ files ↔ t ∈ names ∧ First R w types t p) ∧
      List.Forall₂ (fun f infos => Lists w f.2 infos) files parts ∧ infos = parts.flatten ∧
      ∀ t ∈ names, ∃ p, Seeks w t (.ok p) := by
  generalize hresult : (Except.ok infos : Except BuildError (List ComponentInfo)) = result at h
  induction h generalizing infos with
  | done =>
    cases hresult
    exact ⟨[], [], List.Sublist.refl _, by simp, .nil, rfl, by simp⟩
  | failed flaw => cases hresult
  | @again t rest p result seeks known later ih =>
    obtain ⟨files, parts, hsublist, hmem, hlists, hinfos, hall⟩ := ih hresult
    refine ⟨files, parts, hsublist.cons t, fun u q => ?_, hlists, hinfos, ?_⟩
    · rw [hmem, List.mem_cons]
      refine ⟨fun h => ⟨Or.inr h.1, h.2⟩, ?_⟩
      rintro ⟨rfl | hu, hfirst⟩
      · cases seeks.unique hfirst.1
        exact absurd hfirst known
      · exact ⟨hu, hfirst⟩
    · exact List.forall_mem_cons.2 ⟨⟨p, seeks⟩, hall⟩
  | @read t rest p front result first lists later ih =>
    cases result with
    | error e => cases hresult
    | ok back =>
      cases hresult
      obtain ⟨files, parts, hsublist, hmem, hlists, rfl, hall⟩ := ih rfl
      refine ⟨(t, p) :: files, front :: parts, hsublist.cons_cons t, fun u q => ?_,
        .cons lists hlists, rfl, List.forall_mem_cons.2 ⟨⟨p, first.1⟩, hall⟩⟩
      rw [List.mem_cons, List.mem_cons, hmem, Prod.mk.injEq]
      constructor
      · rintro (⟨rfl, rfl⟩ | ⟨hu, hfirst⟩)
        · exact ⟨Or.inl rfl, first⟩
        · exact ⟨Or.inr hu, hfirst⟩
      · rintro ⟨rfl | hu, hfirst⟩
        · cases first.1.unique hfirst.1
          exact Or.inl ⟨rfl, rfl⟩
        · exact Or.inr ⟨hu, hfirst⟩

/-- Of the names of a list with a property one is the first. -/
theorem exists_first {P : String → Prop} (hascending : names.Pairwise (· < ·))
    (h : ∃ t ∈ names, P t) : ∃ t ∈ names, P t ∧ ∀ u ∈ names, u < t → ¬ P u := by
  induction names with
  | nil => simp at h
  | cons t rest ih =>
    by_cases ht : P t
    · exact ⟨t, List.mem_cons_self, ht, fun u hu hlt => absurd hlt (not_lt_first hascending hu)⟩
    · obtain ⟨x, hx, hPx⟩ := h
      have hlater : x ∈ rest := by
        rcases List.mem_cons.1 hx with rfl | hx
        · exact absurd hPx ht
        · exact hx
      obtain ⟨u, hu, hPu, hfirst⟩ := ih (List.pairwise_cons.1 hascending).2 ⟨x, hlater, hPx⟩
      refine ⟨u, List.mem_cons_of_mem t hu, hPu, List.forall_mem_cons.2 ⟨fun _ => ht, hfirst⟩⟩

theorem once_of_firsts {files : List (String × Path)} (hR : Tells R w types)
    (hsublist : (files.map Prod.fst).Sublist types.toList)
    (hfirsts : ∀ t p, (t, p) ∈ files ↔ t ∈ types ∧ First R w types t p)
    (hall : ∀ t ∈ types, ∃ p, Seeks w t (.ok p)) : Once R w types files := by
  have hascending := types.ascending.sublist hsublist
  constructor
  case ascending => exact hascending
  case firsts => exact hfirsts
  case apart =>
    rw [List.pairwise_map] at hascending
    refine hascending.imp_of_mem fun {f g} hf hg hlt => ?_
    obtain ⟨huses, hseeks, -⟩ := (hfirsts f.1 f.2).1 hf
    exact ((hfirsts g.1 g.2).1 hg).2.2 f.1 huses hlt f.2 hseeks
  case all =>
    intro t ht
    obtain ⟨p, hp⟩ := hall t ht
    have hself : R p p := (hR t ht t ht p p hp hp).2 (Path.same_iff.2 rfl)
    have hleads : ∃ u ∈ types.toList, ∃ q, Seeks w u (.ok q) ∧ R q p := ⟨t, ht, p, hp, hself⟩
    obtain ⟨u, hu, ⟨q, hq, hqp⟩, hfirst⟩ := exists_first types.ascending hleads
    refine ⟨p, hp, (u, q), (hfirsts u q).2 ⟨hu, hq, fun x hx hlt y hy hyq => ?_⟩, hqp⟩
    refine hfirst x hx hlt ⟨y, hy, (hR x hx t ht y p hy hp).2 (Path.same_iff.2 ?_)⟩
    exact (Path.same_iff.1 ((hR x hx u hu y q hy hq).1 hyq)).trans
      (Path.same_iff.1 ((hR u hu t ht q p hq hp).1 hqp))

/-- Loading does what it should whenever descriptors are told apart as their paths are. -/
theorem loaded_of_tells (hR : Tells R w types) :
    Loaded R w types ((loadInfos types.toList []).run w).1 := by
  have hcovered : Covered w [] [] := ⟨by simp, by simp⟩
  have halike : Alike w w types.toList := ⟨rfl, rfl, rfl, fun _ _ => rfl⟩
  have hreads := reads_loadInfos hR rfl hcovered halike
  cases hresult : ((loadInfos types.toList []).run w).1 with
  | error e =>
    rw [hresult] at hreads
    obtain ⟨cause, rfl, hleast⟩ := hreads.error types.ascending
    exact .failed hleast
  | ok infos =>
    rw [hresult] at hreads
    obtain ⟨files, parts, hsublist, hfirsts, hlists, rfl, hall⟩ := hreads.ok
    exact .all (once_of_firsts hR hsublist hfirsts hall) hlists

end

/-! ## Files -/

/-- Two paths name one file. -/
def SameFile (w : Workspace) : PathRel := fun p q =>
  w.tree.stat w.start p = w.tree.stat w.start q

/-- The types lead to each file by one path. -/
def OneWay (w : Workspace) (types : NameSet) : Prop :=
  ∀ t ∈ types, ∀ u ∈ types, ∀ p q, Seeks w t (.ok p) → Seeks w u (.ok q) →
    SameFile w p q → p.same q = true

theorem stat_place {place : Place} {entry : Entry}
    (h : w.tree.stat w.start p = .ok (place, entry)) :
    place = p.place w.start ∧ w.tree.at? place = some entry := by
  obtain ⟨a, hwalk, rfl, hat, -⟩ := FileTree.stat_eq_ok.1 h
  exact ⟨FileTree.walk_place hwalk, hat⟩

/-- The parts of a path tell which file it names. -/
theorem sameFile_of_same (hp : w.tree.isFile w.start p = true)
    (hq : w.tree.isFile w.start q = true) (h : p.same q = true) : SameFile w p q := by
  obtain ⟨place, content, executable, hstat⟩ := FileTree.isFile_iff.1 hp
  obtain ⟨place', content', executable', hstat'⟩ := FileTree.isFile_iff.1 hq
  obtain ⟨rfl, hat⟩ := stat_place hstat
  obtain ⟨rfl, hat'⟩ := stat_place hstat'
  have hplace : p.place w.start = q.place w.start := by
    rw [← Path.goes_eq_place, ← Path.goes_eq_place, Path.goes, Path.goes, Path.same_iff.1 h]
  rw [hplace, hat', Option.some.injEq] at hat
  unfold SameFile
  rw [hstat, hstat', hplace, hat]

theorem tells_sameFile {types : NameSet} (h : OneWay w types) : Tells (SameFile w) w types :=
  fun t ht u hu p q hp hq => ⟨h t ht u hu p q hp hq, sameFile_of_same hp.isFile hq.isFile⟩

/-! ## Ordinary types -/

/-- The directory is one in which the extension is looked for. -/
def IsCandidate (w : Workspace) (t : String) (dir : Path) : Prop :=
  dir = w.locator.root.join t ∨
    ∃ package, InPackage t package ∧ dir = w.locator.root.join package

/-- What is remembered of extensions are directories in which they are looked for. -/
def RemembersCandidates (w : Workspace) : Prop :=
  ∀ t dir, w.locator.found.lookup t = some dir → IsCandidate w t dir

/-- A type whose name is a single name of a file that is not hidden. -/
def IsOrdinary (t : String) : Prop := Path.IsPlain t ∧ t.toList.head? ≠ some '.'

instance (t : String) : Decidable (IsOrdinary t) := inferInstanceAs (Decidable (_ ∧ _))

theorem candidate_of_located (hw : RemembersCandidates w) {dir : Path}
    (h : ((locate t).run w).1 = .ok dir) : IsCandidate w t dir := by
  have hlooks := looks_run t w
  rw [h] at hlooks
  generalize ((locate t).run w).2 = w' at hlooks
  cases hlooks with
  | known there => exact hw t dir there
  | own _ _ _ => exact Or.inl rfl
  | shared _ within _ _ => exact Or.inr ⟨_, within, rfl⟩

/-- The package of an ordinary type is a single name as well. -/
theorem IsOrdinary.package {package : String} (h : IsOrdinary t) (within : InPackage t package) :
    Path.IsPlain package := by
  obtain ⟨⟨hslash, -⟩, hhead⟩ := h
  obtain ⟨name, rfl, -⟩ := within
  have hne : package ≠ "" := by
    rintro rfl
    simp at hhead
  have hhead' : package.toList.head? ≠ some '.' := by
    intro hdot
    exact hhead (by simp [List.head?_append, hdot])
  refine ⟨fun hmem => hslash (by simp [hmem]), ?_, ?_⟩
  · simp only [Path.isIdle, Bool.or_eq_false_iff, beq_eq_false_iff_ne]
    refine ⟨hne, ?_⟩
    rintro rfl
    simp at hhead'
  · rintro rfl
    simp at hhead'

/-- An ordinary type leads to a descriptor two names below the place of all extensions. -/
theorem descriptor_of_ordinary (hw : RemembersCandidates w) (ht : IsOrdinary t)
    (h : Seeks w t (.ok p)) : ∃ dir name, Path.IsPlain dir ∧ Path.IsPlain name ∧
      p = ((w.locator.root.join dir).join "files").join name ∧
      p.place w.start = w.locator.root.place w.start ++ [dir, "files", name] := by
  have hdir : ∃ dir name, Path.IsPlain dir ∧ Path.IsPlain name ∧
      p = ((w.locator.root.join dir).join "files").join name := by
    cases h with
    | @described base _ located there =>
      have hname : ∃ name, Path.IsPlain name ∧ p = (base.join "files").join name := by
        rcases there with ⟨rfl, -⟩ | ⟨-, rfl, -⟩
        · exact ⟨_, by decide, rfl⟩
        · exact ⟨_, by decide, rfl⟩
      obtain ⟨name, hname, rfl⟩ := hname
      rcases candidate_of_located hw located with rfl | ⟨package, within, rfl⟩
      · exact ⟨t, name, ht.1, hname, rfl⟩
      · exact ⟨package, name, ht.package within, hname, rfl⟩
  obtain ⟨dir, name, hdir, hname, rfl⟩ := hdir
  have hplain : Path.IsPlain "files" := by decide
  refine ⟨dir, name, hdir, hname, rfl, ?_⟩
  rw [Path.place_join hname.staysBelow.1, Path.place_join hplain.staysBelow.1,
    Path.place_join hdir.staysBelow.1, Text.split_of_not_mem hname.1,
    Text.split_of_not_mem hplain.1, Text.split_of_not_mem hdir.1]
  simp [Path.onward_of_isName hdir.2, Path.onward_of_isName hplain.2,
    Path.onward_of_isName hname.2]

theorem oneWay_of_ordinary {types : NameSet} (hw : RemembersCandidates w)
    (htypes : ∀ t ∈ types, IsOrdinary t) : OneWay w types := by
  intro t ht u hu p q hp hq hfile
  obtain ⟨dir, name, -, -, hpath, hplace⟩ := descriptor_of_ordinary hw (htypes t ht) hp
  obtain ⟨dir', name', -, -, hpath', hplace'⟩ := descriptor_of_ordinary hw (htypes u hu) hq
  obtain ⟨place, content, executable, hstat⟩ := FileTree.isFile_iff.1 hp.isFile
  have hstat' := hfile.symm.trans hstat
  have hplaces : p.place w.start = q.place w.start :=
    (stat_place hstat).1.symm.trans (stat_place hstat').1
  rw [hplace, hplace', List.append_cancel_left_eq] at hplaces
  simp only [List.cons.injEq, and_true, true_and] at hplaces
  rw [hpath, hpath', hplaces.1, hplaces.2]
  exact Path.same_iff.2 rfl

/-! ## The laws -/

/-- What is loaded of the extensions of an app. -/
structure Loads (w : Workspace) (sets : ComponentSets) : Prop where
  /-- Each path is read once, for the smallest type that leads to it. -/
  paths : Loaded (fun p q => p.same q = true) w sets.extensions ((extensionInfos sets).run w).1
  /-- Each file is read once, for the smallest type that leads to it, when all types lead to it by
  one path. -/
  files : OneWay w sets.extensions →
    Loaded (SameFile w) w sets.extensions ((extensionInfos sets).run w).1
  /-- Ordinary types lead to each file by one path. -/
  ordinary : RemembersCandidates w → (∀ t ∈ sets.extensions, IsOrdinary t) →
    OneWay w sets.extensions

/-- The descriptors are read in the order of the smallest types that lead to them, each once, and
the smallest type with a flaw is the one that is told. -/
theorem each_descriptor_is_read_for_its_first_type (w : Workspace) (sets : ComponentSets) :
    Loads w sets := by
  constructor
  case paths => exact loaded_of_tells fun _ _ _ _ _ _ _ _ => Iff.rfl
  case files => exact fun h => loaded_of_tells (tells_sameFile h)
  case ordinary => exact oneWay_of_ordinary

/-- A host with a bundle of two components and another one of that package. -/
def bundleHost : Workspace :=
  let bundle := "[\x7b\"type\": \"com.ext.One\"\x7d, \x7b\"type\": \"com.ext.Two\"\x7d]"
  let single := "\x7b\"type\": \"com.ext.Own\"\x7d"
  { start := []
    tree := (FileTree.host.putWithParents
      ["app", "external_comps", "com.ext", "files", "component_build_infos.json"]
      (.file (Utf8.encode bundle) false)).putWithParents
      ["app", "external_comps", "com.ext.Own", "files", "component_build_info.json"]
      (.file (Utf8.encode single) false)
    resources := default
    locator := Locator.ofAssets ⟨"/app"⟩ }

/-- An app that uses extensions of these types. -/
def extensionSets (types : List String) : ComponentSets := ⟨.empty, NameSet.ofList types⟩

/-- The types of the components that are loaded for some types of extensions. -/
def loadedTypes (w : Workspace) (types : List String) : Option (List String) :=
  ((extensionInfos (extensionSets types)).run w).1.toOption.map (List.map ComponentInfo.typeName)

/-- A type of its own stands between the types of a bundle, which is read once all the same. -/
theorem types_of_a_bundle_share_its_descriptor :
    let sets := extensionSets ["com.ext.Two", "com.ext.Own", "com.ext.One"]
    RemembersCandidates bundleHost ∧ (∀ t ∈ sets.extensions, IsOrdinary t) ∧
      Loaded (SameFile bundleHost) bundleHost sets.extensions
        ((extensionInfos sets).run bundleHost).1 ∧
      loadedTypes bundleHost ["com.ext.Two", "com.ext.Own", "com.ext.One"] =
        some ["com.ext.One", "com.ext.Two", "com.ext.Own"] := by
  intro sets
  have hremembers : RemembersCandidates bundleHost := by
    intro t dir h
    cases h
  have hordinary : ∀ t ∈ sets.extensions, IsOrdinary t := by
    change ∀ t ∈ sets.extensions.toList, IsOrdinary t
    decide +kernel
  have hloads := each_descriptor_is_read_for_its_first_type bundleHost sets
  exact ⟨hremembers, hordinary, hloads.files (hloads.ordinary hremembers hordinary),
    by decide +kernel⟩

/-- A type that leads to a bundle by a step up has it read a second time: its path is another one,
the file that it names is the same. -/
theorem a_bundle_can_be_read_twice :
    let first : Path := ⟨"/app/external_comps/com.ext/files/component_build_infos.json"⟩
    let again : Path :=
      ⟨"/app/external_comps/com.ext/../com.ext/files/component_build_infos.json"⟩
    let place := ["app", "external_comps", "com.ext", "files", "component_build_infos.json"]
    ((Locator.descriptor "com.ext.One").run bundleHost).1 = .ok first ∧
      ((Locator.descriptor "com.ext/../com.ext.Two").run bundleHost).1 = .ok again ∧
      (bundleHost.tree.stat [] first).toOption.map Prod.fst = some place ∧
      (bundleHost.tree.stat [] again).toOption.map Prod.fst = some place ∧
      loadedTypes bundleHost ["com.ext.One", "com.ext/../com.ext.Two"] =
        some ["com.ext.One", "com.ext.Two", "com.ext.One", "com.ext.Two"] := by
  decide +kernel

end Components

end ApkForge
