-- The sources of a project and their class files. A walk below the source directory comes by every
-- file once, whatever the tree, and a file on whose way there is no dot is got back from its
-- qualified name; so its class file stands below the classes where it stands below the sources.
import ApkForge.Proofs.Clearing
import ApkForge.Proofs.Launcher
import ApkForge.Proofs.Lookups

namespace ApkForge

/-! ## Names below a path -/

namespace Path

variable {p : Path} {s : String} {names : List String} {start : Place}

theorem place_joinAll (h : ∀ n ∈ names, IsPlain n) (p : Path) (start : Place) :
    (p.joinAll names).place start = p.place start ++ names := by
  induction names generalizing p with
  | nil => exact (List.append_nil _).symm
  | cons n rest ih =>
    rw [List.forall_mem_cons] at h
    have hjoin : p.joinAll (n :: rest) = (p.join n).joinAll rest := rfl
    rw [hjoin, ih h.2, place_join h.1.staysBelow.1, Text.split_of_not_mem h.1.1, onwards_cons,
      onward_of_isName h.1.2, onwards_nil, List.append_assoc]
    rfl

/-- Behind a name at its end, a text is written on with a slash. -/
theorem text_join_of_name (h : ∃ last, (Text.split '/' p.text).getLast? = some last ∧ last ≠ "")
    (hs : IsPlain s) : p.join s = ⟨p.text ++ "/" ++ s⟩ := by
  obtain ⟨last, hlast, hne⟩ := h
  have hempty : p.text ≠ "" := by
    intro hempty
    rw [hempty] at hlast
    cases hlast
    exact hne rfl
  have hslash : ¬ Text.endsWith "/" p.text = true := by
    intro hslash
    obtain ⟨front, hfront⟩ := Text.endsWith_slash hslash
    rw [hfront, Text.split_slash, List.getLast?_concat] at hlast
    cases hlast
    exact hne rfl
  unfold join
  rw [hs.staysBelow.1]
  simp [hempty, hslash]

/-- Names laid on a path that ends in one are its segments behind those of the path. -/
theorem split_joinAll (h : ∃ last, (Text.split '/' p.text).getLast? = some last ∧ last ≠ "")
    (hnames : ∀ n ∈ names, IsPlain n) :
    Text.split '/' (p.joinAll names).text = Text.split '/' p.text ++ names := by
  induction names generalizing p with
  | nil => exact (List.append_nil _).symm
  | cons n rest ih =>
    rw [List.forall_mem_cons] at hnames
    have hsplit : Text.split '/' (p.join n).text = Text.split '/' p.text ++ [n] := by
      rw [text_join_of_name h hnames.1, Text.split_append_slash, Text.split_of_not_mem hnames.1.1]
    have hjoin : p.joinAll (n :: rest) = (p.join n).joinAll rest := rfl
    rw [hjoin, ih ⟨n, by rw [hsplit, List.getLast?_concat], hnames.1.ne_empty⟩ hnames.2, hsplit,
      List.append_assoc]
    rfl

/-- A path of names alone has them as its segments. -/
theorem split_joinAll_empty (hne : names ≠ []) (hnames : ∀ n ∈ names, IsPlain n) :
    Text.split '/' (Path.joinAll ⟨""⟩ names).text = names := by
  obtain ⟨n, rest, rfl⟩ := List.exists_cons_of_ne_nil hne
  rw [List.forall_mem_cons] at hnames
  have hjoin : Path.joinAll ⟨""⟩ (n :: rest) = Path.joinAll ⟨n⟩ rest := by
    have hfirst : (Path.mk "").join n = ⟨n⟩ := by simp [join, hnames.1.staysBelow.1]
    rw [← hfirst]
    rfl
  have hsplit := Text.split_of_not_mem hnames.1.1
  rw [hjoin, split_joinAll ⟨n, by rw [hsplit]; rfl, hnames.1.ne_empty⟩ hnames.2, hsplit]
  rfl

/-- The last of the names takes an extension as the text says it. -/
theorem withExtension_of_split {above : List String} {stem ext : String}
    (hsplit : Text.split '/' p.text = above ++ [stem]) (hstem : IsPlain stem)
    (hdot : '.' ∉ stem.toList) (hext : ext ≠ "") :
    p.withExtension ext = ⟨Text.join "/" (above ++ [stem ++ "." ++ ext])⟩ := by
  have hname : p.name? = some stem := by
    have hlast : p.parts.getLast? = some (.name stem) := by
      rw [parts, hsplit]
      have hpart := partOf_of_isName hstem.2
      cases above with
      | nil =>
        rw [List.nil_append, partsOf_cons (.inl hstem.ne_empty),
          headOf_of_ne hstem.ne_empty hstem.ne_dot, hpart]
        rfl
      | cons s rest =>
        rw [List.cons_append, partsOf_cons (.inr (by simp)), List.filterMap_append,
          List.filterMap_cons_some hpart, List.filterMap_nil, ← List.append_assoc,
          List.getLast?_concat]
    rw [name?, hlast]
  have hcut : (cutExtension stem).1 = stem := by
    rw [cutExtension, Text.cutLast?, Text.cutLast_eq_none.2 hdot]
    rfl
  have hdrop : dropIdle (Text.split '/' p.text).reverse = stem :: above.reverse := by
    rw [hsplit, List.reverse_append, List.reverse_singleton, List.singleton_append]
    cases above.reverse with
    | nil => rfl
    | cons s rest => rw [dropIdle, hstem.2.1]; rfl
  unfold withExtension
  rw [hname, hdrop]
  simp [hcut, hext]

end Path

/-! ## Files below a place -/

namespace FileTree

variable {t : FileTree} {place : Place}

/-- Whatever stands somewhere has a name, and so has all above it. -/
def Plain (t : FileTree) : Prop := ∀ e ∈ t.entries, ∀ n ∈ e.1, Path.IsPlain n

theorem mem_entries_of_at? {entry : Entry} (hroot : place ≠ []) (h : t.at? place = some entry) :
    (place, entry) ∈ t.entries := by
  cases place with
  | nil => exact absurd rfl hroot
  | cons n ns =>
    obtain ⟨front, back, hentries, -⟩ := List.lookup_eq_some_iff.1 h
    simp [hentries]

theorem Plain.of_at? (h : t.Plain) {entry : Entry} (hat : t.at? place = some entry) :
    ∀ n ∈ place, Path.IsPlain n := by
  by_cases hroot : place = []
  · simp [hroot]
  · exact h _ (mem_entries_of_at? hroot hat)

/-- The names in a directory are those of what stands in it. -/
theorem mem_children {name : String} :
    name ∈ t.children place ↔ ∃ entry, t.at? (place ++ [name]) = some entry := by
  have hne : place ++ [name] ≠ [] := by simp
  unfold children
  rw [List.mem_filterMap]
  constructor
  · rintro ⟨e, he, hname⟩
    split at hname
    · rename_i n hdrop
      cases hname
      have hsome : (t.entries.lookup (place ++ [name])).isSome = true :=
        List.lookup_isSome_iff.2 ⟨e, he, by simp [Text.dropHead?_eq_some.1 hdrop]⟩
      obtain ⟨entry, hentry⟩ := Option.isSome_iff_exists.1 hsome
      refine ⟨entry, ?_⟩
      unfold at?
      split
      · rename_i hnil
        exact absurd hnil hne
      · exact hentry
    · cases hname
  · rintro ⟨entry, hat⟩
    have hdrop : Text.dropHead? place (place ++ [name]) = some [name] :=
      Text.dropHead?_eq_some.2 rfl
    exact ⟨_, mem_entries_of_at? hne hat, by simp only [hdrop]⟩

/-- Nothing stands deeper than the tree has entries. -/
theorem Rooted.length_le (h : t.Rooted) {rest : List String} {entry : Entry}
    (hat : t.at? (place ++ rest) = some entry) : rest.length ≤ t.entries.length := by
  -- what stands on the way there is an entry each, and the way is as long as `rest`
  let way := (List.range rest.length).map fun n => place ++ rest.take (n + 1)
  have hnodup : way.Nodup := by
    refine (List.nodup_map_iff_inj_on List.nodup_range).2 fun m hm n hn heq => ?_
    have hlength := congrArg List.length (List.append_cancel_left heq)
    rw [List.mem_range] at hm hn
    rw [List.length_take, List.length_take] at hlength
    omega
  have hentries : way ⊆ t.entries.map Prod.fst := by
    intro q hq
    obtain ⟨n, hn, rfl⟩ := List.mem_map.1 hq
    rw [List.mem_range] at hn
    have hroot : place ++ rest.take (n + 1) ≠ [] := by
      intro hnil
      have htake := congrArg List.length (List.append_eq_nil_iff.1 hnil).2
      rw [List.length_take, List.length_nil] at htake
      omega
    have hprefix : place ++ rest.take (n + 1) <+: place ++ rest :=
      (List.prefix_append_right_inj place).2 (List.take_prefix _ _)
    rcases h.dir_of_prefix hat hprefix with heq | hdir
    · rw [heq] at hroot ⊢
      exact List.mem_map.2 ⟨_, mem_entries_of_at? hroot hat, rfl⟩
    · exact List.mem_map.2 ⟨_, mem_entries_of_at? hroot hdir, rfl⟩
  have hlength := hnodup.length_le_of_subset hentries
  simpa [way] using hlength

end FileTree

/-! ## The walk -/

namespace SourceFile

variable {t : FileTree} {place : Place} {names : List String}

/-- A walk as long as `fuel` comes by the files no deeper than that. -/
theorem mem_filesBelow (h : t.Rooted) {fuel : Nat} {place : Place} {names file : List String} :
    file ∈ filesBelow t fuel place names ↔ ∃ rest, file = names ++ rest ∧ rest ≠ [] ∧
      rest.length ≤ fuel ∧ t.HasFile (place ++ rest) := by
  induction fuel generalizing place names with
  | zero =>
    simp only [filesBelow, List.not_mem_nil, false_iff]
    rintro ⟨rest, -, hne, hlength, -⟩
    exact hne (List.length_eq_zero_iff.1 (Nat.le_zero.1 hlength))
  | succ fuel ih =>
    have hwalk : file ∈ filesBelow t (fuel + 1) place names ↔
        ∃ name ∈ t.children place, file ∈ filesAt t fuel place names name := by
      change file ∈ (sortBy _ (t.children place)).flatMap (filesAt t fuel place names) ↔ _
      simp only [List.mem_flatMap, (sortBy_perm _ (t.children place)).mem_iff]
    rw [hwalk]
    constructor
    · rintro ⟨name, -, hfile⟩
      unfold filesAt at hfile
      split at hfile
      · obtain ⟨rest, rfl, -, hlength, hat⟩ := ih.1 hfile
        exact ⟨name :: rest, by simp, by simp, by simpa using hlength, by simpa using hat⟩
      · rename_i content executable hat
        rw [List.mem_singleton.1 hfile]
        exact ⟨[name], rfl, by simp, by simp, content, executable, hat⟩
      · cases hfile
    · rintro ⟨rest, rfl, hne, hlength, content, executable, hat⟩
      obtain ⟨name, below, rfl⟩ := List.exists_cons_of_ne_nil hne
      have hsplit : place ++ name :: below = place ++ [name] ++ below := by simp
      rw [hsplit] at hat
      cases below with
      | nil =>
        rw [List.append_nil] at hat
        refine ⟨name, FileTree.mem_children.2 ⟨_, hat⟩, ?_⟩
        rw [filesAt, hat]
        exact List.mem_singleton_self _
      | cons next below =>
        have hdir : t.at? (place ++ [name]) = some .dir :=
          (h.dir_of_prefix hat (List.prefix_append _ _)).resolve_left (by simp)
        refine ⟨name, FileTree.mem_children.2 ⟨_, hdir⟩, ?_⟩
        rw [filesAt, hdir]
        refine ih.2 ⟨next :: below, by simp, by simp, ?_, content, executable, hat⟩
        simpa using hlength

theorem cutExtension_append {stem ext : String} (hstem : stem ≠ "") (hext : '.' ∉ ext.toList) :
    Path.cutExtension (stem ++ "." ++ ext) = (stem, some ext) := by
  have hdot : ".".toList = ['.'] := by decide
  have hcut : Text.cutLast? '.' (stem ++ "." ++ ext) = some (stem, ext) := by
    rw [Text.cutLast?, String.toList_append, String.toList_append, hdot, List.append_assoc,
      List.singleton_append, Text.cutLast_append hext]
    simp
  rw [Path.cutExtension, hcut]
  simp [hstem]

theorem cutExtension_source {stem : String} (hstem : stem ≠ "") :
    Path.cutExtension (stem ++ ".yail") = (stem, some "yail") := by
  rw [show ".yail" = "." ++ "yail" from rfl, ← String.append_assoc,
    cutExtension_append hstem (by decide)]

/-- The names from a place down to a source: a file there whose last name has the extension of
sources behind something. -/
structure IsSource (t : FileTree) (place : Place) (names : List String) : Prop where
  file : t.HasFile (place ++ names)
  last : ∃ above stem, names = above ++ [stem ++ ".yail"] ∧ stem ≠ ""

/-- The sources are found, and nothing else. -/
theorem mem_found (h : t.Rooted) : names ∈ found t place ↔ IsSource t place names := by
  have hext : sourceExtension = "yail" := rfl
  unfold found
  rw [List.mem_filter, mem_filesBelow h, beq_iff_eq, hext]
  constructor
  · rintro ⟨⟨rest, heq, hne, -, hfile⟩, hlast⟩
    rw [List.nil_append] at heq
    subst heq
    obtain ⟨above, name, hconcat⟩ := (List.eq_nil_or_concat names).resolve_left hne
    rw [List.concat_eq_append] at hconcat
    subst hconcat
    rw [List.getLast?_concat, Option.bind_some] at hlast
    refine ⟨hfile, above, (Path.cutExtension name).1, ?_, ?_⟩
    · conv_lhs => rw [eq_of_cutExtension hlast]
      rw [String.append_assoc]
      rfl
    · intro hempty
      unfold Path.cutExtension at hlast hempty
      split at hlast
      · split at hlast
        · cases hlast
        · rename_i hcut hne
          rw [hcut] at hempty
          simp only [hne] at hempty
          exact hne (by simpa using hempty)
      · cases hlast
  · rintro ⟨hfile, above, stem, rfl, hstem⟩
    obtain ⟨content, executable, hat⟩ := hfile
    refine ⟨⟨_, (List.nil_append _).symm, by simp, ?_, content, executable, hat⟩, ?_⟩
    · have hlength := h.length_le hat
      exact Nat.le_succ_of_le hlength
    · rw [List.getLast?_concat, Option.bind_some, cutExtension_source hstem]

/-! ## Names and class files -/

/-- The source that a file below the source directory is. -/
def sourceAt (dir : Path) (names : List String) : SourceFile :=
  ⟨qualifiedNameOf names, dir.joinAll names⟩

theorem eq_of_append_eq {s s' ending : String} (h : s ++ ending = s' ++ ending) : s = s' := by
  have hlist := congrArg String.toList h
  rw [String.toList_append, String.toList_append] at hlist
  exact String.toList_injective (List.append_cancel_right hlist)

theorem stems_append {above : List String} {stem : String} (hstem : stem ≠ "") :
    stems (above ++ [stem ++ ".yail"]) = above ++ [stem] := by
  simp [stems, cutExtension_source hstem]

/-- What a source without dots is named by are names of files and directories too. -/
theorem IsSource.isPlain_stems (hplain : t.Plain) {above : List String} {stem : String}
    (h : IsSource t place (above ++ [stem ++ ".yail"])) (hstem : stem ≠ "")
    (hdot : '.' ∉ stem.toList) : ∀ n ∈ above ++ [stem], Path.IsPlain n := by
  obtain ⟨content, executable, hat⟩ := h.file
  have hnames : ∀ n ∈ above ++ [stem ++ ".yail"], Path.IsPlain n :=
    fun n hn => hplain.of_at? hat n (List.mem_append_right _ hn)
  intro n hn
  rcases List.mem_append.1 hn with habove | hlast
  · exact hnames n (List.mem_append_left _ habove)
  · rw [List.mem_singleton.1 hlast]
    have hslash : '/' ∉ (stem ++ ".yail").toList := (hnames _ (by simp)).1
    rw [String.toList_append, List.mem_append, not_or] at hslash
    refine ⟨hslash.1, ?_, fun heq => hdot (by rw [heq]; decide)⟩
    rw [Path.isIdle, Bool.or_eq_false_iff, beq_eq_false_iff_ne, beq_eq_false_iff_ne]
    exact ⟨hstem, fun heq => hdot (by rw [heq]; decide)⟩

/-- Of a file on whose way there is no dot, the class file stands where the file does. -/
theorem classFile_of_undotted (hplain : t.Plain) {above : List String} {stem : String}
    (h : IsSource t place (above ++ [stem ++ ".yail"]))
    (hundotted : Undotted (above ++ [stem ++ ".yail"])) (dir : Path) :
    (sourceAt dir (above ++ [stem ++ ".yail"])).classFile =
      ⟨Text.join "/" (above ++ [stem ++ ".class"])⟩ := by
  have hstem : stem ≠ "" := by
    obtain ⟨above', stem', heq, hne⟩ := h.last
    rwa [eq_of_append_eq (List.singleton_inj.1 (List.append_inj' heq rfl).2)]
  have hdots : ∀ n ∈ above ++ [stem], '.' ∉ n.toList := by
    rw [← stems_append hstem]
    exact hundotted
  have hnames := h.isPlain_stems hplain hstem (hdots stem (by simp))
  have hqualified : Text.split '.' (qualifiedNameOf (above ++ [stem ++ ".yail"])) =
      above ++ [stem] := by
    rw [qualifiedNameOf_of_undotted hundotted, stems_append hstem,
      Text.split_join (by decide) (by simp) hdots]
  have hsplit := Path.split_joinAll_empty (by simp) hnames
  rw [classFile, sourceAt, hqualified, Path.withExtension_of_split hsplit
    (hnames stem (by simp)) (hdots stem (by simp)) (by decide), String.append_assoc]
  rfl

/-! ## Order -/

theorem isOrder_qualifiedName :
    IsOrder fun s t : SourceFile => decide (s.qualifiedName < t.qualifiedName) := by
  refine ⟨fun hlt => ?_, fun hyx hzy => ?_⟩
  · simp only [decide_eq_true_eq, decide_eq_false_iff_not] at hlt ⊢
    exact String.lt_asymm hlt
  · simp only [decide_eq_false_iff_not, String.not_lt] at hyx hzy ⊢
    exact String.le_trans hyx hzy

/-- The directory of sources is read: there is one source for each file found, in order. -/
theorem discover_of_dir {start : Place} {dir : Path} (h : t.stat start dir = .ok (place, .dir)) :
    ∃ sources, discover t start dir = .ok sources ∧
      (sources.Pairwise fun s s' => s.qualifiedName ≤ s'.qualifiedName) ∧
      sources.Perm ((found t place).map (sourceAt dir)) := by
  refine ⟨sortBy (fun s t => s.qualifiedName < t.qualifiedName)
    ((found t place).map (sourceAt dir)), ?_, ?_, sortBy_perm _ _⟩
  · rw [discover, h]
    rfl
  · refine (pairwise_sortBy isOrder_qualifiedName _).imp fun hle => ?_
    exact String.not_lt.1 (of_decide_eq_false hle)

end SourceFile

/-! ## The law -/

namespace SourceFile

open Compiler

/-- A directory has the class file of a source, at the same names from it down. -/
def HoldsClass (w : Workspace) (classesDir : Path) (names : List String) : Prop :=
  ∃ above stem, names = above ++ [stem ++ ".yail"] ∧
    w.tree.isFile w.start (classesDir.join (Text.join "/" (above ++ [stem ++ ".class"]))) = true

/-- What sources have to do with the files below a place. -/
structure SourcesOf (t : FileTree) (start place : Place) (dir : Path)
    (files : List (List String)) (sources : List SourceFile) : Prop where
  /-- The files are those with the extension of sources, each once. -/
  nodup : files.Nodup
  mem : ∀ names, names ∈ files ↔ IsSource t place names
  /-- Each file has one source, which leads to it. -/
  perm : sources.Perm (files.map (sourceAt dir))
  leads : ∀ names ∈ files, (sourceAt dir names).path.place start = place ++ names
  /-- They come in the order of their names. -/
  ascending : sources.Pairwise fun s s' => s.qualifiedName ≤ s'.qualifiedName

/-- Files on whose way there are no dots have qualified names of their own, and class files where
they stand. -/
structure ClassesOf (dir : Path) (files : List (List String)) : Prop where
  distinct : ∀ a ∈ files, ∀ b ∈ files, Undotted a → Undotted b →
    (sourceAt dir a).qualifiedName = (sourceAt dir b).qualifiedName → a = b
  classFile : ∀ above stem, above ++ [stem ++ ".yail"] ∈ files →
    Undotted (above ++ [stem ++ ".yail"]) →
    (sourceAt dir (above ++ [stem ++ ".yail"])).classFile =
      ⟨Text.join "/" (above ++ [stem ++ ".class"])⟩

/-- No class is missing when each file has its own; and else the file of the smallest name is told
of those that have none. -/
structure Judged (dir : Path) (files : List (List String)) (w : Workspace) (classesDir : Path)
    (missing : Option SourceFile) : Prop where
  none_iff : missing = none ↔ ∀ names ∈ files, HoldsClass w classesDir names
  smallest : ∀ s, missing = some s → ∃ names ∈ files, s = sourceAt dir names ∧
    ¬ HoldsClass w classesDir names ∧ ∀ other ∈ files, ¬ HoldsClass w classesDir other →
      s.qualifiedName ≤ (sourceAt dir other).qualifiedName

variable {start : Place} {dir : Path} {files : List (List String)} {sources : List SourceFile}

theorem hasClass_iff (hfiles : ClassesOf dir files) (hmem : names ∈ files)
    (hundotted : Undotted names) (hsource : IsSource t place names) (w : Workspace)
    (classesDir : Path) :
    HasClass w classesDir (sourceAt dir names) ↔ HoldsClass w classesDir names := by
  obtain ⟨above, stem, rfl, -⟩ := hsource.last
  rw [HasClass, hfiles.classFile above stem hmem hundotted]
  refine ⟨fun h => ⟨above, stem, rfl, h⟩, ?_⟩
  rintro ⟨above', stem', heq, h⟩
  obtain ⟨rfl, hlast⟩ := List.append_inj' heq rfl
  rwa [eq_of_append_eq (List.singleton_inj.1 hlast)]

/-- In a list in order, what is found first is below all else that could have been found. -/
theorem below_of_find? {α : Type} {below : α → α → Prop} {l : List α} (hl : l.Pairwise below)
    (hrefl : ∀ a, below a a) {p : α → Bool} {a b : α} (h : l.find? p = some a) (hb : b ∈ l)
    (hp : p b = true) : below a b := by
  induction l with
  | nil => cases hb
  | cons c rest ih =>
    rw [List.pairwise_cons] at hl
    rw [List.find?_cons] at h
    cases hc : p c with
    | true =>
      rw [hc] at h
      cases h
      rcases List.mem_cons.1 hb with rfl | hrest
      · exact hrefl b
      · exact hl.1 b hrest
    | false =>
      rw [hc] at h
      rcases List.mem_cons.1 hb with rfl | hrest
      · rw [hp] at hc
        cases hc
      · exact ih hl.2 h hrest

/-- The first source in order that has no class is the one of the smallest name. -/
theorem judged_of_undotted (hsources : SourcesOf t start place dir files sources)
    (hfiles : ClassesOf dir files) (hundotted : ∀ names ∈ files, Undotted names) (w : Workspace)
    (classesDir : Path) :
    Judged dir files w classesDir (missingClass w.tree w.start sources classesDir) := by
  have hclass : ∀ names ∈ files,
      (HasClass w classesDir (sourceAt dir names) ↔ HoldsClass w classesDir names) :=
    fun names hmem => hasClass_iff hfiles hmem (hundotted names hmem) ((hsources.mem names).1 hmem)
      w classesDir
  have hmem : ∀ s, s ∈ sources ↔ ∃ names ∈ files, sourceAt dir names = s := by
    intro s
    rw [hsources.perm.mem_iff, List.mem_map]
  have hmissing : ∀ names ∈ files, (!w.tree.isFile w.start
      (classesDir.join (sourceAt dir names).classFile.text)) = true ↔
        ¬ HoldsClass w classesDir names := by
    intro names hnames
    rw [← hclass names hnames, HasClass, Bool.not_eq_true', Bool.not_eq_true]
  constructor
  · rw [missingClass_eq_none]
    constructor
    · exact fun h names hnames => (hclass names hnames).1 (h _ ((hmem _).2 ⟨names, hnames, rfl⟩))
    · intro h s hs
      obtain ⟨names, hnames, rfl⟩ := (hmem s).1 hs
      exact (hclass names hnames).2 (h names hnames)
  · intro s hs
    unfold missingClass at hs
    obtain ⟨names, hnames, rfl⟩ := (hmem s).1 (List.mem_of_find?_eq_some hs)
    have hno := List.find?_some hs
    refine ⟨names, hnames, rfl, (hmissing names hnames).1 hno, fun other hother hnot => ?_⟩
    have hin : sourceAt dir other ∈ sources := (hmem _).2 ⟨other, hother, rfl⟩
    exact below_of_find? hsources.ascending (fun s => String.le_refl s.qualifiedName) hs hin
      ((hmissing other hother).2 hnot)

/-- The sources below a directory are its files with their extension, each once and in the order of
their names. Where there is no dot on the way to them, they have names of their own and class files
where they stand, and if that is so of them all, a class is missing just where a file has none. -/
theorem sources_are_the_files_and_classes_stand_beside_them (hproper : t.Proper)
    (hrooted : t.Rooted) (hplain : t.Plain) (hdir : t.stat start dir = .ok (place, .dir)) :
    ∃ sources files, discover t start dir = .ok sources ∧
      SourcesOf t start place dir files sources ∧ ClassesOf dir files ∧
      ((∀ names ∈ files, Undotted names) → ∀ w classesDir,
        Judged dir files w classesDir (missingClass w.tree w.start sources classesDir)) := by
  obtain ⟨sources, hdiscover, hascending, hperm⟩ := discover_of_dir hdir
  have hmem : ∀ names, names ∈ found t place ↔ IsSource t place names := fun names =>
    mem_found hrooted
  have hsources : SourcesOf t start place dir (found t place) sources := by
    refine ⟨nodup_found hproper place, hmem, hperm, fun names hnames => ?_, hascending⟩
    obtain ⟨content, executable, hat⟩ := ((hmem names).1 hnames).file
    have hstart : place = dir.place start := by
      obtain ⟨a, hwalk, rfl, -⟩ := FileTree.stat_eq_ok.1 hdir
      exact FileTree.walk_place hwalk
    rw [hstart, sourceAt]
    exact Path.place_joinAll (fun n hn => hplain.of_at? hat n (List.mem_append_right _ hn)) _ _
  have hclasses : ClassesOf dir (found t place) := by
    refine ⟨fun a ha b hb hda hdb heq => eq_of_qualifiedNameOf_eq ha hb hda hdb heq, ?_⟩
    intro above stem hfile hundotted
    exact classFile_of_undotted hplain ((hmem _).1 hfile) hundotted dir
  exact ⟨sources, found t place, hdiscover, hsources, hclasses,
    fun hundotted w classesDir => judged_of_undotted hsources hclasses hundotted w classesDir⟩

/-- Two files of three are sources, and for them any classes are judged as the law says. -/
theorem two_files_of_three_are_sources :
    ∃ sources files, discover (Manifest.hostOf
        [["a", "b", "Hello.yail"], ["a", "Help.yail"], ["a", "notes.txt"]]) [] ⟨"/app/src"⟩ =
          .ok sources ∧
      ["a", "b", "Hello.yail"] ∈ files ∧ ["a", "notes.txt"] ∉ files ∧
      ∀ w classesDir, Judged ⟨"/app/src"⟩ files w classesDir
        (missingClass w.tree w.start sources classesDir) := by
  generalize hhost : Manifest.hostOf
    [["a", "b", "Hello.yail"], ["a", "Help.yail"], ["a", "notes.txt"]] = host
  have hrooted : host.Rooted := by
    subst hhost
    exact FileTree.rooted_of_entries (by decide +kernel)
  have hplain : host.Plain := by
    subst hhost
    unfold FileTree.Plain
    decide +kernel
  have hdir : host.stat [] ⟨"/app/src"⟩ = .ok (["app", "src"], .dir) := by
    subst hhost
    rfl
  obtain ⟨sources, files, hdiscover, hsources, -, hjudged⟩ :=
    sources_are_the_files_and_classes_stand_beside_them (hhost ▸ Manifest.proper_hostOf _) hrooted
      hplain hdir
  have hundotted : ∀ e ∈ host.entries, e.2 = .dir ∨ e.2 = .sink ∨
      ∀ n ∈ stems (e.1.drop 2), '.' ∉ n.toList := by
    subst hhost
    decide +kernel
  refine ⟨sources, files, hdiscover, (hsources.mem _).2 ⟨⟨[], false, ?_⟩, ["a", "b"], "Hello", rfl,
    by decide⟩, fun hnotes => ?_, hjudged fun names hnames => ?_⟩
  · subst hhost
    rfl
  · obtain ⟨above, stem, heq, hstem⟩ := ((hsources.mem _).1 hnotes).last
    have hname := (List.append_inj' (show ["a"] ++ ["notes.txt"] = _ from heq) rfl).2
    have hcut : (Path.cutExtension "notes.txt").2 = some "yail" := by
      rw [List.singleton_inj.1 hname, cutExtension_source hstem]
    exact absurd hcut (by decide)
  · obtain ⟨content, executable, hat⟩ := ((hsources.mem names).1 hnames).file
    rcases hundotted _ (FileTree.mem_entries_of_at? (by simp) hat) with hdir | hsink | hdots
    · cases hdir
    · cases hsink
    · exact hdots

end SourceFile

end ApkForge
