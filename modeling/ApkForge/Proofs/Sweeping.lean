-- Cleaning goes by what is there. Of each generated name that the build directory holds it takes
-- the entry with all below it and reports the name as taken, any other it reports as skipped.
-- Nothing else in the tree changes, and cleaning again finds nothing to take.
import ApkForge.Proofs.Clearing

namespace ApkForge

/-! ## What is there -/

namespace FileTree

variable {t t' : FileTree} {start : Place} {p : Path}

theorem hasEntry_of_stat {found : Place × Entry} (h : t.stat start p = .ok found) :
    t.hasEntry start p = true := by
  unfold hasEntry
  rw [h]

/-- Where nothing stands a path names nothing. -/
theorem hasEntry_of_none (h : t.at? (p.place start) = none) : t.hasEntry start p = false := by
  unfold hasEntry
  cases hstat : t.stat start p with
  | error fault => rfl
  | ok found =>
    obtain ⟨place, entry⟩ := found
    have hat := (place_of_stat hstat).2
    rw [h] at hat
    cases hat

/-- That a path names something is told by what stands on the way to it. -/
theorem hasEntry_congr (h : ∀ place, p.Along start place → t'.at? place = t.at? place) :
    t'.hasEntry start p = t.hasEntry start p := by
  unfold hasEntry
  rw [stat_congr h]

/-- A directory is removed with all below it, if the way to it does not lead through that. -/
theorem removeDir_of_stat {place : Place} (hends : p.EndsInName)
    (hway : ∀ q, p.Along start q → ¬ Below (p.place start) q)
    (hstat : t.stat start p = .ok (place, .dir)) : t.removeDir start p =
      (.ok (), (t.hollow (p.place start)).drop (p.place start)) := by
  obtain ⟨rfl, -⟩ := place_of_stat hstat
  have hhollow : (t.hollow (p.place start)).stat start p = .ok (p.place start, .dir) := by
    rw [stat_congr fun q hq => at?_hollow_of_not_below t (hway q hq)]
    exact hstat
  unfold removeDir
  rw [hstat]
  simp only
  rw [removeEmpty_of_stat hends hhollow (children_hollow t _)]

end FileTree

/-! ## Ways that lead past a name -/

namespace Path

variable {dir : Path} {start q : Place} {name other : String}

/-- The way to a name below a directory does not lead through another name there, if the way to the
directory does not. -/
theorem not_prefix_of_along_join (hother : IsPlain other) (hne : other ≠ name)
    (hway : ∀ q, dir.Along start q → ¬ dir.place start ++ [name] <+: q)
    (hq : (dir.join other).Along start q) : ¬ dir.place start ++ [name] <+: q := by
  rcases along_join hother.staysBelow hq with hq | ⟨-, hq⟩
  · exact hway q hq
  · intro hin
    rw [place_join_name hother] at hq
    have hboth := (List.prefix_append_right_inj _).1 (hin.trans hq)
    exact hne (List.cons_prefix_cons.1 hboth).1.symm

/-- The way to a name below a directory does not lead below the name. -/
theorem not_below_of_along_join (hname : IsPlain name)
    (hway : ∀ q, dir.Along start q → ¬ dir.place start ++ [name] <+: q)
    (hq : (dir.join name).Along start q) : ¬ Below ((dir.join name).place start) q := by
  intro hbelow
  rcases along_join hname.staysBelow hq with hq | ⟨-, hq⟩
  · rw [place_join_name hname] at hbelow
    exact hway q hq hbelow.1
  · exact (hbelow.deepen hq).2 rfl

end Path

/-! ## One sweep -/

namespace Clean

variable {w : Workspace} {p buildDir : Path}

/-- Something of this name is in the build directory. -/
def holds (w : Workspace) (buildDir : Path) (name : String) : Bool :=
  w.tree.hasEntry w.start (buildDir.join name)

/-- What is there is taken with all below it. Where nothing is, the tree stays. -/
theorem run_cleanOne (hrooted : w.tree.Rooted) (hends : p.EndsInName)
    (hway : ∀ q, p.Along w.start q → ¬ Below (p.place w.start) q)
    (hsink : w.tree.at? (p.place w.start) ≠ some .sink) :
    ∃ tree, (cleanOne p).run w = (.ok (w.tree.hasEntry w.start p), { w with tree }) ∧
      (w.tree.hasEntry w.start p = true → w.tree.Cleared (fun q => p.place w.start <+: q) tree) ∧
      (w.tree.hasEntry w.start p = false → tree = w.tree) := by
  unfold cleanOne
  rw [run_bind, Task.run_isDir]
  simp only
  cases hstat : w.tree.stat w.start p with
  | error fault =>
    have hnone : w.tree.hasEntry w.start p = false := by simp [FileTree.hasEntry, hstat]
    have hdir : w.tree.isDir w.start p = false := by simp [FileTree.isDir, hstat]
    have hfile : w.tree.isFile w.start p = false := by simp [FileTree.isFile, hstat]
    rw [hdir, if_neg Bool.false_ne_true, run_bind, Task.run_isFile]
    simp only
    rw [hfile, if_neg Bool.false_ne_true, hnone]
    refine ⟨w.tree, rfl, fun htrue => ?_, fun _ => rfl⟩
    cases htrue
  | ok found =>
    obtain ⟨place, entry⟩ := found
    obtain ⟨rfl, hat⟩ := FileTree.place_of_stat hstat
    have hsome := FileTree.hasEntry_of_stat hstat
    rw [hsome]
    cases entry with
    | sink => exact absurd hat hsink
    | dir =>
      have hroot : p.place w.start ≠ [] := by
        obtain ⟨last, hlast, hname⟩ := hends
        intro hnil
        have hshort := Path.getLast?_place hlast hname w.start
        rw [hnil] at hshort
        cases hshort
      have hdir : w.tree.isDir w.start p = true := by simp [FileTree.isDir, hstat]
      rw [if_pos hdir, run_bind, Task.run_clearAway,
        FileTree.removeDir_of_stat hends hway hstat]
      refine ⟨_, rfl, fun _ => w.tree.cleared_drop_hollow hroot, fun hfalse => ?_⟩
      cases hfalse
    | file content executable =>
      have hdir : w.tree.isDir w.start p = false := by simp [FileTree.isDir, hstat]
      have hremove : w.tree.removeFile w.start p = .ok (w.tree.drop (p.place w.start)) := by
        unfold FileTree.removeFile
        rw [hstat]
        rfl
      rw [hdir, if_neg Bool.false_ne_true, run_bind, Task.run_isFile]
      simp only
      rw [if_pos (FileTree.isFile_iff.2 ⟨_, _, _, hstat⟩), run_bind, Task.run_change, hremove]
      refine ⟨_, rfl, fun _ => hrooted.cleared_drop hat, fun hfalse => ?_⟩
      cases hfalse

/-- Names of a build directory that a sweep can go over: plain and different ones, past which the
way to the build directory leads, with no device at their ends. -/
structure Sweepable (w : Workspace) (buildDir : Path) (names : List String) : Prop where
  rooted : w.tree.Rooted
  plain : ∀ name ∈ names, Path.IsPlain name
  nodup : names.Nodup
  way : ∀ name ∈ names, ∀ q, buildDir.Along w.start q → ¬ buildDir.place w.start ++ [name] <+: q
  sinks : ∀ name ∈ names, w.tree.at? (buildDir.place w.start ++ [name]) ≠ some .sink

/-- Something of the name is there, and this is it or lies below it. -/
def Swept (w : Workspace) (buildDir : Path) (names : List String) (q : Place) : Prop :=
  ∃ name ∈ names, holds w buildDir name = true ∧ buildDir.place w.start ++ [name] <+: q

section

variable {name : String} {rest : List String} {tree : FileTree}

/-- What one name stood for is taken if it was there, and nothing else. -/
theorem Sweepable.first (h : Sweepable w buildDir (name :: rest)) :
    ∃ tree, (cleanOne (buildDir.join name)).run w =
        (.ok (holds w buildDir name), { w with tree }) ∧
      w.tree.Cleared (Swept w buildDir [name]) tree ∧ tree.Rooted ∧
      (holds w buildDir name = false → tree = w.tree) := by
  have hplain := h.plain name List.mem_cons_self
  have hplace := Path.place_join_name hplain buildDir w.start
  obtain ⟨tree, hrun, htaken, hstays⟩ := run_cleanOne h.rooted
    (Path.endsInName_join hplain buildDir)
    (fun q hq => Path.not_below_of_along_join hplain (h.way name List.mem_cons_self) hq)
    (by rw [hplace]; exact h.sinks name List.mem_cons_self)
  rw [hplace] at htaken
  refine ⟨tree, hrun, ?_⟩
  by_cases hthere : holds w buildDir name = true
  · refine ⟨(htaken hthere).congr fun q => ?_, h.rooted.cleared (htaken hthere), hstays⟩
    simp [Swept, hthere]
  · have hsame := hstays (Bool.eq_false_iff.2 hthere)
    subst hsame
    exact ⟨w.tree.cleared_none.congr fun q => by simp [Swept, hthere], h.rooted, hstays⟩

/-- After one name the others are as much there as they were. -/
theorem Sweepable.holds_rest (h : Sweepable w buildDir (name :: rest))
    (hcleared : w.tree.Cleared (Swept w buildDir [name]) tree) {other : String}
    (hmem : other ∈ rest) : holds { w with tree } buildDir other = holds w buildDir other := by
  refine FileTree.hasEntry_congr fun q hq => hcleared.kept q ?_
  rintro ⟨taken, htaken, -, hin⟩
  obtain rfl := List.mem_singleton.1 htaken
  have hne : other ≠ taken := by
    rintro rfl
    exact (List.nodup_cons.1 h.nodup).1 hmem
  exact Path.not_prefix_of_along_join (h.plain other (List.mem_cons_of_mem _ hmem)) hne
    (h.way taken List.mem_cons_self) hq hin

theorem Sweepable.others (h : Sweepable w buildDir (name :: rest)) (hrooted : tree.Rooted)
    (hcleared : w.tree.Cleared (Swept w buildDir [name]) tree) :
    Sweepable { w with tree } buildDir rest := by
  refine ⟨hrooted, fun other hmem => h.plain other (List.mem_cons_of_mem _ hmem),
    (List.nodup_cons.1 h.nodup).2, fun other hmem => h.way other (List.mem_cons_of_mem _ hmem),
    fun other hmem => ?_⟩
  by_cases hin : Swept w buildDir [name] (buildDir.place w.start ++ [other])
  · rw [hcleared.gone _ hin]
    simp
  · rw [hcleared.kept _ hin]
    exact h.sinks other (List.mem_cons_of_mem _ hmem)

end

theorem shownName_join {name : String} (h : Path.IsPlain name) (buildDir : Path) :
    shownName buildDir (buildDir.join name) = name := by
  have hbelow : Path.below? buildDir (buildDir.join name) = some [.name name] := by
    unfold Path.below?
    rw [Path.parts_join h]
    exact Text.dropHead?_eq_some.2 rfl
  unfold shownName Path.relative?
  rw [hbelow]
  simp [Path.Part.text, Text.join]

/-- A sweep takes the names that are there and skips the others, in their order. -/
theorem Sweepable.run {names : List String} (h : Sweepable w buildDir names)
    (report : CleanReport) :
    ∃ tree, (cleanAll buildDir (names.map buildDir.join) report).run w =
        (.ok { removed := report.removed ++ names.filter (holds w buildDir)
               skipped := report.skipped ++ names.filter fun name => !holds w buildDir name },
          { w with tree }) ∧
      w.tree.Cleared (Swept w buildDir names) tree ∧
      ((∀ name ∈ names, holds w buildDir name = false) → tree = w.tree) := by
  -- over the names: what is taken of one leaves the others as much there as they were
  induction names generalizing w report with
  | nil =>
    refine ⟨w.tree, by simp [cleanAll, run_pure], ?_, fun _ => rfl⟩
    exact w.tree.cleared_none.congr fun q => by simp [Swept]
  | cons name rest ih =>
    obtain ⟨tree, hrun, hcleared, hrooted, hstays⟩ := h.first
    have hholds : ∀ other ∈ rest, holds { w with tree } buildDir other = holds w buildDir other :=
      fun _ hmem => h.holds_rest hcleared hmem
    have hswept : ∀ q, Swept { w with tree } buildDir rest q ↔ Swept w buildDir rest q := by
      intro q
      unfold Swept
      exact exists_congr fun other => and_congr_right fun hmem => by rw [hholds other hmem]
    have htaken : rest.filter (holds { w with tree } buildDir) =
        rest.filter (holds w buildDir) := List.filter_congr hholds
    have hleft : (rest.filter fun name => !holds { w with tree } buildDir name) =
        rest.filter fun name => !holds w buildDir name :=
      List.filter_congr fun other hmem => by rw [hholds other hmem]
    rw [List.map_cons]
    unfold cleanAll
    simp only
    rw [shownName_join (h.plain name List.mem_cons_self), run_bind, hrun]
    have hall : ∀ tree', tree.Cleared (Swept { w with tree } buildDir rest) tree' →
        w.tree.Cleared (Swept w buildDir (name :: rest)) tree' := by
      intro tree' hrest
      refine (hcleared.trans hrest).congr fun q => ?_
      rw [hswept q]
      simp [Swept]
    have hnone : ∀ tree', ((∀ other ∈ rest, holds { w with tree } buildDir other = false) →
        tree' = tree) → (∀ other ∈ name :: rest, holds w buildDir other = false) →
        tree' = w.tree := by
      intro tree' hrest hall
      rw [hrest fun other hmem => ?_, hstays (hall name List.mem_cons_self)]
      rw [hholds other hmem]
      exact hall other (List.mem_cons_of_mem _ hmem)
    have hnext := fun report => ih (h.others hrooted hcleared) report
    rw [htaken, hleft] at hnext
    cases hthere : holds w buildDir name with
    | true =>
      obtain ⟨tree', hrun', hcleared', hstays'⟩ := hnext
        { report with removed := report.removed ++ [name] }
      refine ⟨tree', ?_, hall tree' hcleared', hnone tree' hstays'⟩
      simpa [hthere] using hrun'
    | false =>
      obtain ⟨tree', hrun', hcleared', hstays'⟩ := hnext
        { report with skipped := report.skipped ++ [name] }
      refine ⟨tree', ?_, hall tree' hcleared', hnone tree' hstays'⟩
      simpa [hthere] using hrun'

/-! ## Cleaning -/

/-- A build directory that a cleaning can be told about: directories go all the way in the tree,
the path does not run through what cleaning takes, and no device has a generated name. -/
structure Cleanable (w : Workspace) (buildDir : Path) : Prop where
  rooted : w.tree.Rooted
  way : ∀ q, buildDir.Along w.start q → ¬ BuildLayout.Generated (buildDir.place w.start) q
  sinks : ∀ name ∈ BuildLayout.generatedNames,
    w.tree.at? (buildDir.place w.start ++ [name]) ≠ some .sink

theorem Cleanable.sweepable (h : Cleanable w buildDir) :
    Sweepable w buildDir BuildLayout.generatedNames :=
  ⟨h.rooted, fun _ hname => isPlain_of_generated hname, by decide,
    fun name hname q hq hin => h.way q hq ⟨name, hname, hin⟩, h.sinks⟩

/-- A path that takes no step up does not run through what lies below it. -/
theorem past_generated_of_straight {start : Place} (hup : ".." ∉ Text.split '/' buildDir.text) :
    ∀ q, buildDir.Along start q → ¬ BuildLayout.Generated (buildDir.place start) q := by
  rintro q hq ⟨name, -, hin⟩
  have hlong := (hin.trans (Path.prefix_of_along hup hq)).length_le
  rw [List.length_append, List.length_singleton] at hlong
  omega

theorem hasArtifacts_iff :
    hasArtifacts w.tree w.start buildDir = true ↔
      BuildLayout.generatedNames.filter (holds w buildDir) ≠ [] := by
  unfold hasArtifacts BuildLayout.generated
  rw [List.any_map, List.any_eq_true, ne_eq, List.filter_eq_nil_iff]
  simp only [not_forall, not_not, exists_prop]
  exact Iff.rfl

/-- What a cleaning leaves of the generated names: nothing. -/
theorem Sweepable.gone {names : List String} (h : Sweepable w buildDir names) {tree : FileTree}
    (hcleared : w.tree.Cleared (Swept w buildDir names) tree) {name : String}
    (hname : name ∈ names) : holds { w with tree } buildDir name = false := by
  have hplain := h.plain name hname
  by_cases hthere : holds w buildDir name = true
  · refine FileTree.hasEntry_of_none (hcleared.gone _ ⟨name, hname, hthere, ?_⟩)
    rw [Path.place_join_name hplain]
  · -- what was taken of other names is not on the way to this one
    rw [Bool.not_eq_true] at hthere
    rw [← hthere]
    refine FileTree.hasEntry_congr fun q hq => hcleared.kept q ?_
    rintro ⟨other, hother, htaken, hin⟩
    have hne : name ≠ other := by
      rintro rfl
      rw [hthere] at htaken
      cases htaken
    exact Path.not_prefix_of_along_join hplain hne (h.way other hother) hq hin

/-- What a cleaning comes to: what it reports, and what it leaves of the tree. -/
structure Cleaning (w : Workspace) (buildDir : Path) (report : CleanReport) (w' : Workspace) :
    Prop where
  /-- Nothing but the tree is touched. -/
  site : w' = { w with tree := w'.tree }
  /-- None of the generated paths is there any more. -/
  gone : ∀ name ∈ BuildLayout.generatedNames, holds w' buildDir name = false
  /-- What one of them stood for is gone with all below it. -/
  emptied : ∀ name ∈ BuildLayout.generatedNames, holds w buildDir name = true →
    ∀ q, buildDir.place w.start ++ [name] <+: q → w'.tree.at? q = none
  /-- All else stands as it stood. -/
  kept : ∀ q, ¬ BuildLayout.Generated (buildDir.place w.start) q → w'.tree.at? q = w.tree.at? q
  /-- Below any other name of the build directory all is kept, whatever it is called. -/
  siblings : ∀ other ∉ BuildLayout.generatedNames, ∀ below,
    w'.tree.at? (buildDir.place w.start ++ other :: below) =
      w.tree.at? (buildDir.place w.start ++ other :: below)
  /-- A path that does not lead through what is generated names what it named. -/
  named : ∀ p : Path, (∀ q, p.Along w.start q →
    ¬ BuildLayout.Generated (buildDir.place w.start) q) → w'.tree.stat w.start p =
      w.tree.stat w.start p
  removed : report.removed = BuildLayout.generatedNames.filter (holds w buildDir)
  skipped : report.skipped =
    BuildLayout.generatedNames.filter fun name => !holds w buildDir name
  /-- There was something to clean exactly if something was taken. -/
  artifacts : hasArtifacts w.tree w.start buildDir = true ↔ report.removed ≠ []
  spotless : hasArtifacts w'.tree w.start buildDir = false
  /-- Cleaning again takes nothing and changes nothing. -/
  again : (run buildDir).run w' =
    (.ok { removed := [], skipped := BuildLayout.generatedNames }, w')

/-- Cleaning takes the generated entries that are there and nothing else, says which these were,
and leaves nothing to clean. -/
theorem cleaning_takes_the_generated_entries_and_no_others (w : Workspace) (buildDir : Path)
    (h : Cleanable w buildDir) :
    ∃ report w', (run buildDir).run w = (.ok report, w') ∧ Cleaning w buildDir report w' := by
  have hsweep := h.sweepable
  obtain ⟨tree, hrun, hcleared, -⟩ := hsweep.run {}
  have hgone : ∀ name ∈ BuildLayout.generatedNames, holds { w with tree } buildDir name = false :=
    fun _ hname => hsweep.gone hcleared hname
  have hkept : ∀ q, ¬ BuildLayout.Generated (buildDir.place w.start) q →
      tree.at? q = w.tree.at? q := by
    intro q hq
    refine hcleared.kept q ?_
    rintro ⟨name, hname, -, hin⟩
    exact hq ⟨name, hname, hin⟩
  have htaken : BuildLayout.generatedNames.filter (holds { w with tree } buildDir) = [] :=
    List.filter_eq_nil_iff.2 fun name hname => by simp [hgone name hname]
  have hleft : (BuildLayout.generatedNames.filter fun name =>
      !holds { w with tree } buildDir name) = BuildLayout.generatedNames :=
    List.filter_eq_self.2 fun name hname => by simp [hgone name hname]
  refine ⟨_, { w with tree }, hrun, ?_⟩
  constructor
  case site => rfl
  case gone => exact hgone
  case emptied => exact fun name hname hthere q hin => hcleared.gone q ⟨name, hname, hthere, hin⟩
  case kept => exact hkept
  case siblings =>
    intro other hother below
    refine hkept _ ?_
    rintro ⟨name, hname, hin⟩
    have hsame := (List.cons_prefix_cons.1 ((List.prefix_append_right_inj _).1 hin)).1
    exact hother (hsame ▸ hname)
  case named => exact fun p hp => FileTree.stat_congr fun q hq => hkept q (hp q hq)
  case removed => rfl
  case skipped => rfl
  case artifacts => exact hasArtifacts_iff
  case spotless =>
    rw [Bool.eq_false_iff, ne_eq]
    intro hdirty
    exact (hasArtifacts_iff (w := { w with tree })).1 hdirty htaken
  case again =>
    have hrooted : tree.Rooted := by
      refine h.rooted.cleared_of_upward hcleared ?_
      rintro place q hpq ⟨name, hname, hthere, hin⟩
      exact ⟨name, hname, hthere, hin.trans hpq⟩
    have hsinks : ∀ name ∈ BuildLayout.generatedNames,
        tree.at? (buildDir.place w.start ++ [name]) ≠ some .sink := by
      intro name hname
      by_cases hin : Swept w buildDir BuildLayout.generatedNames (buildDir.place w.start ++ [name])
      · rw [hcleared.gone _ hin]
        simp
      · rw [hcleared.kept _ hin]
        exact h.sinks name hname
    have hagain : Cleanable { w with tree } buildDir := ⟨hrooted, h.way, hsinks⟩
    obtain ⟨tree', hrun', -, hstays⟩ := hagain.sweepable.run {}
    have hsame : tree' = tree := hstays hgone
    rw [htaken, hleft, hsame] at hrun'
    exact hrun'

/-- A build directory with a generated directory and a generated file, beside a directory whose
name only begins like a generated one and one that holds an entry of a generated name. -/
def littered : Workspace :=
  Workspace.opened [] ⟨[(["b"], .dir), (["b", "res"], .dir), (["b", "res", "x"], .file [1] false),
    (["b", "AndroidManifest.xml"], .file [2] false), (["b", "resources"], .dir),
    (["b", "resources", "y"], .file [3] false), (["b", "kept"], .dir),
    (["b", "kept", "res"], .file [4] false)]⟩ ⟨"/rt"⟩ ⟨"/tmp/r"⟩

/-- Of a littered build directory the litter is taken. -/
theorem the_litter_is_taken : ∃ report w', (run ⟨"/b"⟩).run littered = (.ok report, w') ∧
    Cleaning littered ⟨"/b"⟩ report w' ∧ report.removed = ["res", "AndroidManifest.xml"] ∧
    w'.tree.at? ["b", "resources", "y"] = some (.file [3] false) := by
  have hclean : Cleanable littered ⟨"/b"⟩ :=
    ⟨FileTree.rooted_of_entries (by decide +kernel), past_generated_of_straight (by decide),
      by decide +kernel⟩
  obtain ⟨report, w', hrun, h⟩ :=
    cleaning_takes_the_generated_entries_and_no_others littered ⟨"/b"⟩ hclean
  refine ⟨report, w', hrun, h, ?_, ?_⟩
  · rw [h.removed]
    decide +kernel
  · exact h.siblings "resources" (by decide) ["y"]

end Clean

end ApkForge
