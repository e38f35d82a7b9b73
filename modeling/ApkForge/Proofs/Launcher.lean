-- The screens that an app is started from. Each source becomes one screen of the manifest, and the
-- desk starts those named like the main class. Names of directories and files are joined by dots;
-- two files have one name only where a dot stands within a name on the way to them.
import ApkForge.Proofs.Classpath
import ApkForge.Proofs.ManifestReading

namespace ApkForge

namespace Text

theorem eq_of_cutLast {sep : Char} {cs before after : List Char}
    (h : cutLast sep cs = some (before, after)) : cs = before ++ sep :: after := by
  induction cs generalizing before with
  | nil => cases h
  | cons c rest ih =>
    rw [cutLast] at h
    split at h
    · rename_i head tail hrest
      cases h
      rw [ih hrest]
      rfl
    · split at h
      · rename_i hc
        cases h
        rw [hc]
        rfl
      · cases h

end Text

/-! ## Trees that list each place once -/

namespace FileTree

/-- Each place is listed once. -/
def Proper (t : FileTree) : Prop := (t.entries.map Prod.fst).Nodup

theorem Proper.put {t : FileTree} (h : t.Proper) (place : Place) (entry : Entry) :
    (t.put place entry).Proper := by
  unfold Proper FileTree.put at *
  rw [List.map_cons, List.nodup_cons]
  refine ⟨by simp, h.sublist (List.filter_sublist.map _)⟩

theorem Proper.putWithParents {t : FileTree} (h : t.Proper) (place : Place) (entry : Entry) :
    (t.putWithParents place entry).Proper := by
  unfold FileTree.putWithParents
  refine Proper.put ?_ place entry
  generalize (List.range place.length).map (fun n => place.take n) = above
  induction above generalizing t with
  | nil => exact h
  | cons p rest ih =>
    refine ih ?_
    simp only
    split
    · exact h
    · exact h.put p .dir

/-- A directory of a proper tree has no name twice. -/
theorem nodup_children {t : FileTree} (h : t.Proper) (place : Place) :
    (t.children place).Nodup := by
  unfold children List.Nodup
  rw [List.pairwise_filterMap]
  refine (List.pairwise_map.1 h).imp fun {e e'} hne name hname name' hname' heq => hne ?_
  subst heq
  split at hname
  · rename_i hdrop
    cases hname
    split at hname'
    · rename_i hdrop'
      cases hname'
      rw [Text.dropHead?_eq_some.1 hdrop, Text.dropHead?_eq_some.1 hdrop']
    · cases hname'
  · cases hname

end FileTree

namespace SourceFile

/-- Files below a directory are named from where the walk began. -/
theorem prefix_of_mem_filesBelow {t : FileTree} {fuel : Nat} {place : Place}
    {names file : List String} (h : file ∈ filesBelow t fuel place names) : names <+: file := by
  induction fuel generalizing place names with
  | zero => cases h
  | succ fuel ih =>
    unfold filesBelow at h
    obtain ⟨name, -, hfile⟩ := List.mem_flatMap.1 h
    split at hfile
    · exact (List.prefix_append names [name]).trans (ih hfile)
    · rw [List.mem_singleton.1 hfile]
      exact List.prefix_append names [name]
    · cases hfile

/-- The files of a name in a directory. -/
def filesAt (t : FileTree) (fuel : Nat) (place : Place) (names : List String) (name : String) :
    List (List String) :=
  match t.at? (place ++ [name]) with
  | some .dir => filesBelow t fuel (place ++ [name]) (names ++ [name])
  | some (.file _ _) => [names ++ [name]]
  | _ => []

/-- A file is told apart by the name that follows those the walk has come by. -/
theorem prefix_of_mem_filesAt {t : FileTree} {fuel : Nat} {place : Place} {names : List String}
    {name : String} {file : List String} (h : file ∈ filesAt t fuel place names name) :
    names ++ [name] <+: file := by
  unfold filesAt at h
  split at h
  · exact prefix_of_mem_filesBelow h
  · rw [List.mem_singleton.1 h]
  · cases h

theorem nodup_filesBelow {t : FileTree} (h : t.Proper) (fuel : Nat) (place : Place)
    (names : List String) : (filesBelow t fuel place names).Nodup := by
  induction fuel generalizing place names with
  | zero => exact List.nodup_nil
  | succ fuel ih =>
    change ((sortBy (fun m n => m < n) (t.children place)).flatMap
      (filesAt t fuel place names)).Nodup
    rw [List.nodup_flatMap]
    refine ⟨fun name _ => ?_, ?_⟩
    · unfold filesAt
      split
      · exact ih _ _
      · exact List.nodup_singleton _
      · exact List.nodup_nil
    · have hchildren := (sortBy_perm (fun m n => decide (m < n)) (t.children place)).nodup_iff.2
        (FileTree.nodup_children h place)
      refine hchildren.imp fun {m n} hne file hm hn => hne ?_
      have hsame := List.prefix_of_prefix_length_le (prefix_of_mem_filesAt hm)
        (prefix_of_mem_filesAt hn) (by simp)
      simpa using hsame.eq_of_length (by simp)

/-- The sources below a place, by their names from it down. -/
def found (t : FileTree) (place : Place) : List (List String) :=
  (filesBelow t (t.entries.length + 1) place []).filter fun names =>
    (names.getLast?.bind fun name => (Path.cutExtension name).2) == some sourceExtension

theorem nodup_found {t : FileTree} (h : t.Proper) (place : Place) : (found t place).Nodup :=
  (nodup_filesBelow h _ place []).filter _

theorem discover_eq_ok {t : FileTree} {start : Place} {dir : Path} {sources : List SourceFile}
    (h : discover t start dir = .ok sources) :
    ∃ place, t.stat start dir = .ok (place, .dir) ∧ sources.Perm
      ((found t place).map fun names => ⟨qualifiedNameOf names, dir.joinAll names⟩) := by
  unfold discover at h
  split at h
  · rename_i place hstat
    cases h
    exact ⟨place, hstat, sortBy_perm _ _⟩
  · cases h

/-! ## Names without dots -/

/-- The names of a file, the last without its extension. -/
def stems (names : List String) : List String :=
  names.dropLast ++ [(Path.cutExtension (names.getLast?.getD "")).1]

/-- There is no dot on the way to a file but that of its extension. -/
def Undotted (names : List String) : Prop := ∀ n ∈ stems names, '.' ∉ n.toList

theorem qualifiedNameOf_of_undotted {names : List String} (h : Undotted names) :
    qualifiedNameOf names = Text.join "." (stems names) := by
  have hstem : (Path.cutExtension (names.getLast?.getD "")).1 ≠ "." := by
    intro heq
    exact h "." (by simp [stems, heq]) (by decide)
  unfold qualifiedNameOf stems
  simp [hstem]

theorem eq_of_cutExtension {name ext : String} (h : (Path.cutExtension name).2 = some ext) :
    name = (Path.cutExtension name).1 ++ "." ++ ext := by
  unfold Path.cutExtension at h ⊢
  cases hcut : Text.cutLast? '.' name with
  | none =>
    rw [hcut] at h
    cases h
  | some parts =>
    obtain ⟨before, after⟩ := parts
    rw [hcut] at h
    simp only at h ⊢
    split at h
    · cases h
    · rename_i hne
      cases h
      obtain ⟨⟨cs, ds⟩, hlast, hpair⟩ := Option.map_eq_some_iff.1 hcut
      cases hpair
      have hdot : ".".toList = ['.'] := by decide
      rw [if_neg hne, ← String.toList_inj]
      simp [hdot, Text.eq_of_cutLast hlast]

/-- The last name of a source is its stem with the extension. -/
theorem getLast_of_found {t : FileTree} {place : Place} {names : List String}
    (h : names ∈ found t place) : names = names.dropLast ++
      [(Path.cutExtension (names.getLast?.getD "")).1 ++ "." ++ sourceExtension] := by
  have hext := (List.mem_filter.1 h).2
  rcases List.eq_nil_or_concat names with rfl | ⟨above, name, rfl⟩
  · cases hext
  · have hcut : (Path.cutExtension name).2 = some sourceExtension := by simpa using hext
    simp [← eq_of_cutExtension hcut]

/-- The names of a source are got back from its stems. -/
theorem eq_of_stems_eq {t : FileTree} {place : Place} {a b : List String} (ha : a ∈ found t place)
    (hb : b ∈ found t place) (h : stems a = stems b) : a = b := by
  obtain ⟨habove, hstem⟩ := List.append_inj' h rfl
  rw [getLast_of_found ha, getLast_of_found hb, habove, List.singleton_inj.1 hstem]

/-- Sources without dots in their names have qualified names of their own. -/
theorem eq_of_qualifiedNameOf_eq {t : FileTree} {place : Place} {a b : List String}
    (ha : a ∈ found t place) (hb : b ∈ found t place) (hda : Undotted a) (hdb : Undotted b)
    (h : qualifiedNameOf a = qualifiedNameOf b) : a = b := by
  have hdot : ".".toList = ['.'] := by decide
  rw [qualifiedNameOf_of_undotted hda, qualifiedNameOf_of_undotted hdb] at h
  have hstems := congrArg (Text.split '.') h
  rw [Text.split_join hdot (by simp [stems]) hda, Text.split_join hdot (by simp [stems]) hdb]
    at hstems
  exact eq_of_stems_eq ha hb hstems

end SourceFile

/-! ## Screens -/

namespace Markup.Node

/-- What stands directly in an element. -/
def inner : Node → List Node
  | .element _ _ children => children
  | _ => []

/-- The element is an activity that the desk starts: one of its filters is of the launcher. -/
def isLauncher (node : Node) : Bool :=
  node.name? == some "activity" && node.inner.any fun filter =>
    filter.name? == some "intent-filter" && filter.inner.any fun part =>
      value? "category" "android:name" part == some "android.intent.category.LAUNCHER"

end Markup.Node

namespace Manifest

open Markup

/-- What the manifest writes for a source. -/
def screenText (m : Manifest) (s : SourceFile) : String := String.join ((m.screen s).map Mark.write)

/-- How many of the screens of sources the desk starts. -/
def launchers (m : Manifest) : Nat := (m.project.sources.map m.screenNode).countP Node.isLauncher

theorem read_screenText (m : Manifest) (s : SourceFile) :
    read (m.screenText s) = some [m.screenNode s] := by
  obtain ⟨tokens, hreads, hbuilds⟩ := shows_screen m s
  exact read_eq hreads hbuilds

/-- The screens of the sources are written side by side. -/
theorem render_eq_around_screens (m : Manifest) (h : m.robot = none) :
    ∃ before after,
      m.render = before ++ String.join (m.project.sources.map m.screenText) ++ after := by
  have hmarks : ∃ above below, m.marks = above ++ m.project.sources.flatMap m.screen ++ below := by
    unfold marks applicationMarks
    rw [h]
    refine ⟨.opens 0 m.manifestTag :: (m.features ++
      m.permissions.map (naming 2 "uses-permission") ++ m.systems ++
      [.opens 2 m.applicationTag]), m.fragments .activities ++
      (m.fragments .broadcastReceivers ++ (m.legacyReceivers.flatMap LegacyReceiver.marks ++
        [.closes 2 "application", .closes 0 "manifest"])), ?_⟩
    simp only [List.append_assoc, List.cons_append, List.nil_append]
  obtain ⟨above, below, hmarks⟩ := hmarks
  have hscreens : String.join ((m.project.sources.flatMap m.screen).map Mark.write) =
      String.join (m.project.sources.map m.screenText) := by
    induction m.project.sources with
    | nil => rfl
    | cons s rest ih =>
      rw [List.flatMap_cons, List.map_append, String.join_append, ih, List.map_cons,
        String.join_cons]
      rfl
  refine ⟨Mark.declaration ++ String.join (above.map Mark.write),
    String.join (below.map Mark.write), ?_⟩
  unfold render Mark.document
  rw [hmarks, List.map_append, List.map_append, String.join_append, String.join_append, hscreens]
  simp only [String.append_assoc]

theorem isLauncher_screenNode (m : Manifest) (s : SourceFile) :
    (m.screenNode s).isLauncher = m.project.isMain s := by
  unfold Node.isLauncher screenNode
  cases m.project.isMain s <;> cases m.nearField <;>
    simp [Node.name?, Node.inner, startNode, named, Node.value?, nearFieldNode]

theorem launchers_eq (m : Manifest) :
    m.launchers = m.project.sources.countP m.project.isMain := by
  unfold launchers
  rw [List.countP_map]
  exact List.countP_congr fun s _ => by simp [isLauncher_screenNode]

end Manifest

/-- A project that loads has the sources below a directory, one of the main class among them. -/
theorem Project.load_eq_ok {tree : FileTree} {start : Place} {root : Path} {p : Project}
    (h : load tree start root = .ok p) :
    (∃ dir, SourceFile.discover tree start dir = .ok p.sources) ∧
      ∃ s ∈ p.sources, p.isMain s = true := by
  unfold load at h
  simp only at h
  split at h
  · cases h
  rw [FileTree.bind_eq_ok] at h
  obtain ⟨text, -, h⟩ := h
  rw [FileTree.bind_eq_ok] at h
  obtain ⟨mainClass, -, h⟩ := h
  split at h
  · cases h
  rw [FileTree.bind_eq_ok] at h
  obtain ⟨sources, hsources, h⟩ := h
  split at h
  · cases h
  rename_i hany
  rw [FileTree.bind_eq_ok] at h
  obtain ⟨name, -, h⟩ := h
  cases h
  refine ⟨⟨_, Task.mapError_eq_ok.1 hsources⟩, ?_⟩
  simpa [isMain] using hany

/-! ## The law -/

/-- Where one thing is counted at least, it is the only one when no two that count differ. -/
theorem countP_eq_one_iff {α : Type} {q : α → Bool} {xs : List α} (h : xs.Nodup)
    (hsome : 1 ≤ xs.countP q) :
    xs.countP q = 1 ↔ ∀ a ∈ xs, ∀ b ∈ xs, q a = true → q b = true → a = b := by
  have hnodup : (xs.filter q).Nodup := h.filter q
  have hall : (∀ a ∈ xs, ∀ b ∈ xs, q a = true → q b = true → a = b) ↔
      ∀ a ∈ xs.filter q, ∀ b ∈ xs.filter q, a = b := by
    simp only [List.mem_filter]
    exact ⟨fun h a ha b hb => h a ha.1 b hb.1 ha.2 hb.2,
      fun h a ha b hb hqa hqb => h a ⟨ha, hqa⟩ b ⟨hb, hqb⟩⟩
  rw [hall, List.countP_eq_length_filter] at *
  match hf : xs.filter q with
  | [] => simp [hf] at hsome
  | [a] => simp
  | a :: b :: rest =>
    rw [hf] at hnodup
    have hne : a ≠ b := fun heq => (List.nodup_cons.1 hnodup).1 (heq ▸ List.mem_cons_self)
    refine ⟨fun hone => by simp at hone, fun heq => absurd (heq a (by simp) b (by simp)) hne⟩

namespace Manifest

open Markup SourceFile

/-- Of a project that loads, the sources are the files found, and each has its screen in the
manifest of an app that is no robot controller. The desk starts those of the main class: at least
one, and exactly one just when no two files are named like it, so in any case when there are no dots
in the names on the way to such a file. -/
theorem launchers_are_the_files_of_the_main_class {tree : FileTree} {start : Place} {root : Path}
    {p : Project} (hproper : tree.Proper) (hload : Project.load tree start root = .ok p)
    (m : Manifest) (hproject : m.project = p) (hplain : m.robot = none) :
    (∃ before after, m.render = before ++ String.join (p.sources.map m.screenText) ++ after) ∧
    (∀ s, read (m.screenText s) = some [m.screenNode s] ∧
      ((m.screenNode s).isLauncher = true ↔ s.qualifiedName = p.mainClass)) ∧
    m.launchers = p.sources.countP p.isMain ∧ 1 ≤ m.launchers ∧
    ∃ dir place, tree.stat start dir = .ok (place, .dir) ∧
      p.sources.Perm ((found tree place).map fun names =>
        ⟨qualifiedNameOf names, dir.joinAll names⟩) ∧
      (m.launchers = 1 ↔ ∀ a ∈ found tree place, ∀ b ∈ found tree place,
        qualifiedNameOf a = p.mainClass → qualifiedNameOf b = p.mainClass → a = b) ∧
      ((∀ names ∈ found tree place, qualifiedNameOf names = p.mainClass → Undotted names) →
        m.launchers = 1) := by
  subst hproject
  obtain ⟨⟨dir, hdiscover⟩, s, hs, hmain⟩ := Project.load_eq_ok hload
  obtain ⟨place, hstat, hperm⟩ := discover_eq_ok hdiscover
  have hsome : 1 ≤ m.launchers := by
    rw [launchers_eq]
    exact List.countP_pos_iff.2 ⟨s, hs, hmain⟩
  have hcount : m.launchers =
      (found tree place).countP fun names => qualifiedNameOf names == m.project.mainClass := by
    rw [launchers_eq, hperm.countP_eq, List.countP_map]
    rfl
  have hone : m.launchers = 1 ↔ ∀ a ∈ found tree place, ∀ b ∈ found tree place,
      qualifiedNameOf a = m.project.mainClass → qualifiedNameOf b = m.project.mainClass →
        a = b := by
    rw [hcount] at hsome ⊢
    simpa using countP_eq_one_iff (nodup_found hproper place) hsome
  refine ⟨render_eq_around_screens m hplain, fun s => ⟨read_screenText m s, ?_⟩, launchers_eq m,
    hsome, dir, place, hstat, hperm, hone, fun hundotted => ?_⟩
  · simp [isLauncher_screenNode, Project.isMain]
  · exact hone.2 fun a ha b hb hqa hqb => eq_of_qualifiedNameOf_eq ha hb (hundotted a ha hqa)
      (hundotted b hb hqb) (hqa.trans hqb.symm)

/-- A host with a project of the main class `a.b.Hello` and the given files among its sources. -/
def hostOf (sources : List Place) : FileTree :=
  sources.foldl (fun t names => t.putWithParents (["app", "src"] ++ names) (.file [] false))
    (FileTree.host.putWithParents ["app", "youngandroidproject", "project.properties"]
      (.file (Utf8.encode "main=a.b.Hello\nname=Hello\n") false))

theorem proper_hostOf (sources : List Place) : (hostOf sources).Proper := by
  have hfiles : ∀ t : FileTree, t.Proper → (sources.foldl (fun t names =>
      t.putWithParents (["app", "src"] ++ names) (.file [] false)) t).Proper := by
    induction sources with
    | nil => exact fun _ h => h
    | cons names rest ih => exact fun t h => ih _ (h.putWithParents _ _)
  have hhost : FileTree.host.Proper := by
    unfold FileTree.Proper
    decide
  exact hfiles _ (hhost.putWithParents _ _)

/-- A manifest of a project of which nothing else is known. -/
def plain (p : Project) : Manifest := ⟨p, ComponentSets.none, Requirements.none, false, none⟩

/-- How many sources of the main class a project with the given files has, if it loads. -/
def mainsOf (sources : List Place) : Option Nat :=
  match Project.load (hostOf sources) [] ⟨"/app"⟩ with
  | .ok p => some (p.sources.countP p.isMain)
  | .error _ => none

theorem load_of_mainsOf {sources : List Place} {n : Nat} (h : mainsOf sources = some n) :
    ∃ p, Project.load (hostOf sources) [] ⟨"/app"⟩ = .ok p ∧ p.sources.countP p.isMain = n := by
  unfold mainsOf at h
  split at h
  · rename_i p hload
    exact ⟨p, hload, Option.some.inj h⟩
  · cases h

/-- A screen beside the main screen is not started from the desk. -/
theorem one_of_two_screens_is_a_launcher :
    ∃ p, Project.load (hostOf [["a", "b", "Hello.yail"], ["a", "b", "Other.yail"]]) [] ⟨"/app"⟩ =
      .ok p ∧ (plain p).launchers = 1 := by
  obtain ⟨p, hload, hcount⟩ := load_of_mainsOf (n := 1) (by decide +kernel :
    mainsOf [["a", "b", "Hello.yail"], ["a", "b", "Other.yail"]] = some 1)
  obtain ⟨-, -, hlaunchers, -⟩ := launchers_are_the_files_of_the_main_class
    (proper_hostOf _) hload (plain p) rfl rfl
  exact ⟨p, hload, hlaunchers.trans hcount⟩

/-- Two files whose names are joined alike are both screens of the main class, and the desk starts
both. -/
theorem two_files_named_alike_are_both_launchers :
    ∃ p, Project.load (hostOf [["a", "b", "Hello.yail"], ["a.b.Hello.yail"]]) [] ⟨"/app"⟩ = .ok p ∧
      ∀ m : Manifest, m.project = p → m.robot = none → m.launchers = 2 ∧
        (∃ before after, m.render = before ++ String.join (p.sources.map m.screenText) ++ after) ∧
        ∀ s, read (m.screenText s) = some [m.screenNode s] := by
  obtain ⟨p, hload, hcount⟩ := load_of_mainsOf (n := 2) (by decide +kernel :
    mainsOf [["a", "b", "Hello.yail"], ["a.b.Hello.yail"]] = some 2)
  refine ⟨p, hload, fun m hproject hplain => ?_⟩
  subst hproject
  exact ⟨(launchers_eq m).trans hcount, render_eq_around_screens m hplain, read_screenText m⟩

end Manifest

end ApkForge
