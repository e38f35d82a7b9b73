-- What cleaning does to a tree. Of a tree in which whatever stands stands in a directory, cleaning
-- takes the generated entries of a build directory with all below them and nothing else.
import ApkForge.Layout
import ApkForge.Proofs.Readiness
import ApkForge.Proofs.Ways

namespace ApkForge

variable {ε α : Type}

/-! ## Trees with directories all the way -/

namespace FileTree

variable {t t' t'' : FileTree} {S S' : Place → Prop}

/-- Whatever stands somewhere stands in a directory. -/
def Rooted (t : FileTree) : Prop :=
  ∀ place entry, t.at? place = some entry → t.at? place.dropLast = some .dir

/-- A tree is as the list of its entries is. -/
theorem rooted_of_entries (h : ∀ e ∈ t.entries, t.at? e.1.dropLast = some .dir) : t.Rooted := by
  intro place entry hat
  cases place with
  | nil => rfl
  | cons n ns =>
    obtain ⟨front, back, hentries, -⟩ := List.lookup_eq_some_iff.1 hat
    exact h (n :: ns, entry) (by simp [hentries])

/-- Above whatever stands there are directories. -/
theorem Rooted.dir_of_prefix (h : t.Rooted) {place above : Place} {entry : Entry}
    (hat : t.at? place = some entry) (habove : above <+: place) :
    above = place ∨ t.at? above = some .dir := by
  obtain ⟨rest, rfl⟩ := habove
  induction rest using List.reverseRecOn generalizing entry with
  | nil => simp
  | append_singleton rest last ih =>
    have hdir := h _ _ hat
    rw [← List.append_assoc, List.dropLast_concat] at hdir
    rcases ih hdir with heq | hdir'
    · rw [← heq] at hdir
      exact .inr hdir
    · exact .inr hdir'

/-- Of the places in `S` nothing is left, and all others are as they were. -/
structure Cleared (S : Place → Prop) (t t' : FileTree) : Prop where
  gone : ∀ place, S place → t'.at? place = none
  kept : ∀ place, ¬ S place → t'.at? place = t.at? place

theorem cleared_none (t : FileTree) : Cleared (fun _ => False) t t :=
  ⟨fun _ h => h.elim, fun _ _ => rfl⟩

theorem Cleared.trans (h : Cleared S t t') (h' : Cleared S' t' t'') :
    Cleared (fun place => S place ∨ S' place) t t'' := by
  refine ⟨fun place hin => ?_, fun place hout => ?_⟩
  · by_cases hlater : S' place
    · exact h'.gone place hlater
    · rw [h'.kept place hlater, h.gone place (hin.resolve_right hlater)]
  · rw [not_or] at hout
    rw [h'.kept place hout.2, h.kept place hout.1]

theorem Cleared.congr (h : Cleared S t t') (hS : ∀ place, S place ↔ S' place) :
    Cleared S' t t' :=
  ⟨fun place hin => h.gone place ((hS place).2 hin),
    fun place hout => h.kept place fun hin => hout ((hS place).1 hin)⟩

/-- Where all below what goes goes too, directories still go all the way. -/
theorem Rooted.cleared_of_upward (h : t.Rooted) (hcleared : Cleared S t t')
    (hupward : ∀ place q, place <+: q → S place → S q) : t'.Rooted := by
  intro q entry hat
  have hq : ¬ S q := by
    intro hin
    rw [hcleared.gone q hin] at hat
    cases hat
  rw [hcleared.kept q hq] at hat
  have habove : ¬ S q.dropLast := fun hin => hq (hupward _ _ (List.dropLast_prefix q) hin)
  rw [hcleared.kept _ habove]
  exact h q entry hat

theorem Rooted.cleared {place : Place} (h : t.Rooted)
    (hcleared : Cleared (fun q => place <+: q) t t') : t'.Rooted :=
  h.cleared_of_upward hcleared fun _ _ habove hin => hin.trans habove

/-! ## Removing -/

theorem lookup_filter_key (keep : Place → Bool) (place : Place) (es : List (Place × Entry)) :
    (es.filter fun e => keep e.1).lookup place =
      if keep place = true then es.lookup place else none := by
  induction es with
  | nil => simp
  | cons e es ih =>
    obtain ⟨key, entry⟩ := e
    by_cases hkey : place = key
    · subst hkey
      by_cases hkeep : keep place = true
      · simp [hkeep]
      · simp only [Bool.not_eq_true] at hkeep
        simp [hkeep, ih]
    · have hne : (place == key) = false := beq_false_of_ne hkey
      by_cases hkeep : keep key = true
      · simp [hkeep, List.lookup_cons, hne, ih]
      · simp only [Bool.not_eq_true] at hkeep
        simp [hkeep, List.lookup_cons, hne, ih]

theorem dropHead?_isNone_iff {place q : Place} :
    (Text.dropHead? place q).isNone = true ↔ ¬ place <+: q := by
  rw [Option.isNone_iff_eq_none]
  constructor
  · rintro hnone ⟨rest, hrest⟩
    rw [Text.dropHead?_eq_some.2 hrest.symm] at hnone
    cases hnone
  · intro hout
    cases hdrop : Text.dropHead? place q with
    | none => rfl
    | some rest => exact absurd ⟨rest, (Text.dropHead?_eq_some.1 hdrop).symm⟩ hout

theorem at?_hollow_of_not_below {place q : Place} (t : FileTree) (h : ¬ Below place q) :
    (t.hollow place).at? q = t.at? q := by
  cases q with
  | nil => rfl
  | cons n ns =>
    have hkeep : ((n :: ns) == place || (Text.dropHead? place (n :: ns)).isNone) = true := by
      rw [Bool.or_eq_true, beq_iff_eq, dropHead?_isNone_iff]
      by_cases heq : n :: ns = place
      · exact .inl heq
      · exact .inr fun hin => h ⟨hin, heq⟩
    refine (lookup_filter_key (fun q => q == place || (Text.dropHead? place q).isNone) _ _).trans ?_
    rw [if_pos hkeep]
    rfl

theorem at?_hollow_of_below {place q : Place} (t : FileTree) (h : Below place q) :
    (t.hollow place).at? q = none := by
  cases q with
  | nil => exact absurd (List.prefix_nil.1 h.1) (fun hnil => h.2 hnil.symm)
  | cons n ns =>
    have hkeep : ¬ ((n :: ns) == place || (Text.dropHead? place (n :: ns)).isNone) = true := by
      rw [Bool.or_eq_true, beq_iff_eq, dropHead?_isNone_iff, not_or, not_not]
      exact ⟨h.2, h.1⟩
    refine (lookup_filter_key (fun q => q == place || (Text.dropHead? place q).isNone) _ _).trans ?_
    rw [if_neg hkeep]

/-- A hollow directory has nothing in it. -/
theorem children_hollow (t : FileTree) (place : Place) : (t.hollow place).children place = [] := by
  unfold children hollow
  rw [List.filterMap_eq_nil_iff]
  intro e he
  have hkeep := (List.mem_filter.1 he).2
  rw [Bool.or_eq_true, beq_iff_eq, Option.isNone_iff_eq_none] at hkeep
  rcases hkeep with heq | hnone
  · have hself : Text.dropHead? place e.1 = some [] :=
      Text.dropHead?_eq_some.2 (by rw [heq, List.append_nil])
    rw [hself]
  · rw [hnone]

theorem at?_drop_self (t : FileTree) {place : Place} (h : place ≠ []) :
    (t.drop place).at? place = none := by
  cases place with
  | nil => exact absurd rfl h
  | cons n ns =>
    refine (lookup_filter_key (fun q => q != n :: ns) _ _).trans ?_
    simp

/-- A hollow directory that is dropped is gone with all below it. -/
theorem cleared_drop_hollow (t : FileTree) {place : Place} (h : place ≠ []) :
    Cleared (fun q => place <+: q) t ((t.hollow place).drop place) := by
  refine ⟨fun q hin => ?_, fun q hout => ?_⟩
  · by_cases heq : q = place
    · subst heq
      exact at?_drop_self _ h
    · rw [at?_drop_of_ne _ heq]
      exact at?_hollow_of_below t ⟨hin, heq⟩
  · have hne : q ≠ place := by
      rintro rfl
      exact hout List.prefix_rfl
    rw [at?_drop_of_ne _ hne]
    exact at?_hollow_of_not_below t fun hbelow => hout hbelow.1

/-- Below a file there is nothing. -/
theorem Rooted.cleared_drop (h : t.Rooted) {place : Place} {content : Bytes} {executable : Bool}
    (hat : t.at? place = some (.file content executable)) :
    Cleared (fun q => place <+: q) t (t.drop place) := by
  have hroot : place ≠ [] := by
    rintro rfl
    cases hat
  refine ⟨fun q hin => ?_, fun q hout => ?_⟩
  · by_cases heq : q = place
    · subst heq
      exact at?_drop_self t hroot
    · rw [at?_drop_of_ne t heq]
      cases hq : t.at? q with
      | none => rfl
      | some entry =>
        rcases h.dir_of_prefix hq hin with heq' | hdir
        · exact absurd heq'.symm heq
        · rw [hat] at hdir
          cases hdir
  · refine at?_drop_of_ne t ?_
    rintro rfl
    exact hout List.prefix_rfl

/-! ## Edits that keep directories all the way -/

/-- What is put in a directory, but over no directory, stands in one. -/
theorem Rooted.put (h : t.Rooted) {place : Place} {entry : Entry}
    (habove : t.at? place.dropLast = some .dir) (hnodir : t.at? place ≠ some .dir) :
    (t.put place entry).Rooted := by
  intro q found hat
  have hstays : ∀ dir, t.at? dir = some .dir → (t.put place entry).at? dir = some .dir :=
    (writes_put hnodir entry).dirs
  by_cases hq : q = place
  · subst hq
    exact hstays _ habove
  · rw [at?_put_of_ne t hq] at hat
    exact hstays _ (h q found hat)

theorem Rooted.drop (h : t.Rooted) {place : Place} (hnodir : t.at? place ≠ some .dir) :
    (t.drop place).Rooted := by
  intro q found hat
  by_cases hq : q = place
  · subst hq
    have hroot : q ≠ [] := by
      rintro rfl
      exact hnodir rfl
    rw [at?_drop_self t hroot] at hat
    cases hat
  · rw [at?_drop_of_ne t hq] at hat
    have habove := h q found hat
    have hne : q.dropLast ≠ place := by
      rintro heq
      rw [heq] at habove
      exact hnodir habove
    rwa [at?_drop_of_ne t hne]

/-- A file can only be where a directory holds it. -/
theorem Takes.above {place : Place} (htakes : t.Takes place) (h : t.Rooted) :
    t.at? place.dropLast = some .dir := by
  rcases htakes with ⟨content, executable, hat⟩ | ⟨-, habove⟩
  · exact h place _ hat
  · exact habove

/-- A tree that a file was written to. -/
theorem Rooted.written (h : t.Rooted) {start : Place} {p : Path}
    {content : Bytes} (hwrite : t.write start p content = .ok t') : t'.Rooted ∧
      ∀ place, t'.at? place ≠ t.at? place → place = p.place start ∧ t'.at? place ≠ some .sink := by
  unfold write at hwrite
  rw [bind_eq_ok] at hwrite
  obtain ⟨⟨place, entry⟩, hwritable, hwrite⟩ := hwrite
  cases hwrite
  obtain ⟨rfl, ⟨rfl, hsink⟩ | ⟨old, executable, rfl, htakes, -⟩⟩ := takes_of_writable hwritable
  · have hsame : ∀ place, (t.put (p.place start) (holding content .sink)).at? place = t.at? place :=
      at?_put_same hsink
    refine ⟨fun place entry hat => ?_, fun place hne => absurd (hsame place) hne⟩
    rw [hsame] at hat ⊢
    exact h place entry hat
  · refine ⟨h.put (htakes.above h) htakes.not_dir, fun place hne => ?_⟩
    have hself : place = p.place start := by
      by_contra hother
      exact hne (at?_put_of_ne t hother _)
    subst hself
    have hroot : p.place start ≠ [] := by
      intro hnil
      exact htakes.not_dir (by rw [hnil]; rfl)
    refine ⟨rfl, ?_⟩
    rw [at?_put_self t hroot]
    simp [holding]

/-! ## Reaching -/

/-- A step that the host takes from a place can be taken wherever a directory is there. -/
theorem step_of_dir {place place' : Place} {segment : String}
    (h : t.step place segment = .ok place') (hdir : t'.at? place = some .dir) :
    t'.step place segment = .ok place' := by
  unfold step at h ⊢
  split
  · rename_i hempty
    rwa [if_pos hempty] at h
  · rename_i hempty
    rw [if_neg hempty, bind_eq_ok] at h
    obtain ⟨_, -, h⟩ := h
    refine bind_eq_ok.2 ⟨(), ?_, h⟩
    unfold stand
    rw [hdir]

theorem foldlM_step_of_dir {segments : List String} {place place' : Place}
    (h : segments.foldlM t.step place = .ok place') (hup : ".." ∉ segments)
    (hdir : ∀ q, place <+: q → q <+: place' → t'.at? q = some .dir) :
    segments.foldlM t'.step place = .ok place' := by
  induction segments generalizing place with
  | nil => exact h
  | cons s rest ih =>
    rw [List.foldlM_cons, bind_eq_ok] at h ⊢
    obtain ⟨next, hstep, h⟩ := h
    rw [List.mem_cons, not_or] at hup
    have hnext : place <+: next := by
      rw [step_eq_ok hstep]
      have hfirst : ".." ∉ [s] := by simpa using hup.1
      exact Path.prefix_onwards hfirst place
    have hend : next <+: place' := by
      rw [foldlM_step_eq_ok h]
      exact Path.prefix_onwards hup.2 next
    refine ⟨next, step_of_dir hstep (hdir place List.prefix_rfl (hnext.trans hend)), ?_⟩
    exact ih h hup.2 fun q hq => hdir q (hnext.trans hq)

/-- The host takes a path: in some tree it leads somewhere. -/
def Reachable (start : Place) (p : Path) : Prop :=
  ∃ (t : FileTree) (a : Arrival), t.walk start p = .ok a

/-- A path that takes no step up and ends in a name leads to what stands at its place. -/
theorem Rooted.stat (h : t.Rooted) {start : Place} {p : Path} {entry : Entry}
    (hreach : Reachable start p) (hup : ".." ∉ Text.split '/' p.text) (hends : p.EndsInName)
    (hat : t.at? (p.place start) = some entry) :
    t.stat start p = .ok (p.place start, entry) := by
  obtain ⟨t₀, a, hwalk⟩ := hreach
  have hplace := walk_place hwalk
  obtain ⟨hwalkable, hsteps, last, hlast, hwants⟩ := walk_eq_ok.1 hwalk
  obtain ⟨last', hlast', hname⟩ := hends
  rw [hlast] at hlast'
  cases hlast'
  obtain ⟨front, hfront⟩ := List.getLast?_eq_some_iff.1 hlast
  have hwants' : a.wantsDir = false := by
    have hidle := hname.1
    simp only [Path.isIdle, Bool.or_eq_false_iff] at hidle
    simp [hwants, hidle.1, hidle.2, hname.2]
  refine stat_eq_ok.2 ⟨a, walk_eq_ok.2 ⟨hwalkable, ?_, last, hlast, hwants⟩, hplace, hat,
    .inr hwants'⟩
  rw [hfront, List.mem_append, not_or] at hup
  rw [hfront, List.foldlM_append, bind_eq_ok] at hsteps ⊢
  obtain ⟨dir, hdirsteps, hlaststep⟩ := hsteps
  have hdir : a.place = dir ++ [last] := by
    rw [foldlM_step_eq_ok hlaststep, Path.onwards_cons, Path.onward_of_isName hname,
      Path.onwards_nil]
  rw [← hplace] at hat
  have hstands : ∀ q, q <+: dir → t.at? q = some .dir := by
    intro q hq
    have hq' : q <+: a.place := by
      rw [hdir]
      exact hq.trans (List.prefix_append _ _)
    refine (h.dir_of_prefix hat hq').resolve_left ?_
    rintro rfl
    have hlong := hq.length_le
    rw [hdir, List.length_append, List.length_singleton] at hlong
    omega
  refine ⟨dir, foldlM_step_of_dir hdirsteps hup.1 fun q _ hq => hstands q hq, ?_⟩
  rw [List.foldlM_cons, bind_eq_ok] at hlaststep ⊢
  obtain ⟨next, hstep, hnil⟩ := hlaststep
  exact ⟨next, step_of_dir hstep (hstands dir List.prefix_rfl), hnil⟩

theorem Rooted.hollow (h : t.Rooted) (place : Place) : (t.hollow place).Rooted := by
  intro q entry hat
  have hq : ¬ Below place q := by
    intro hbelow
    rw [at?_hollow_of_below t hbelow] at hat
    cases hat
  rw [at?_hollow_of_not_below t hq] at hat
  have habove : ¬ Below place q.dropLast := by
    rintro ⟨hin, hne⟩
    have hin' := hin.trans (List.dropLast_prefix q)
    refine hq ⟨hin', ?_⟩
    rintro rfl
    exact hne ((List.dropLast_prefix q).eq_of_length_le hin.length_le)
  rw [at?_hollow_of_not_below t habove]
  exact h q entry hat

/-- An empty directory is removed by a path that ends in a name. -/
theorem removeEmpty_of_stat {start : Place} {p : Path} {place : Place} (hends : p.EndsInName)
    (hstat : t.stat start p = .ok (place, .dir)) (hempty : t.children place = []) :
    t.removeEmpty start p = .ok (t.drop place) := by
  obtain ⟨last, hlast, hidle, hup⟩ := hends
  simp only [Path.isIdle, Bool.or_eq_false_iff, beq_eq_false_iff_ne] at hidle
  obtain ⟨front, hfront⟩ := List.getLast?_eq_some_iff.1 hlast
  have hsegments : (Text.split '/' p.text).reverse.dropWhile (fun segment => segment == "") =
      last :: front.reverse := by
    rw [hfront, List.reverse_append, List.reverse_singleton, List.singleton_append]
    exact List.dropWhile_cons_of_neg (by simpa using hidle.1)
  unfold removeEmpty
  rw [hsegments]
  simp [hidle.2, hup, hstat, hempty, bind, Except.bind]

/-- A directory is removed with all below it. -/
theorem Rooted.removeDir (h : t.Rooted) {start : Place} {p : Path} (hreach : Reachable start p)
    (hup : ".." ∉ Text.split '/' p.text) (hends : p.EndsInName)
    (hat : t.at? (p.place start) = some .dir) : t.removeDir start p =
      (.ok (), (t.hollow (p.place start)).drop (p.place start)) := by
  have hself : ¬ Below (p.place start) (p.place start) := fun hbelow => hbelow.2 rfl
  have hstat := (h.hollow (p.place start)).stat hreach hup hends
    (by rw [at?_hollow_of_not_below t hself, hat])
  unfold FileTree.removeDir
  rw [h.stat hreach hup hends hat]
  simp only
  rw [removeEmpty_of_stat hends hstat (children_hollow t _)]

theorem Rooted.isDir_iff (h : t.Rooted) {start : Place} {p : Path} (hreach : Reachable start p)
    (hup : ".." ∉ Text.split '/' p.text) (hends : p.EndsInName) :
    t.isDir start p = true ↔ t.at? (p.place start) = some .dir := by
  unfold FileTree.isDir
  constructor
  · intro hdir
    split at hdir
    · rename_i place hstat
      exact (place_of_stat hstat).2
    · cases hdir
  · intro hat
    rw [h.stat hreach hup hends hat]

end FileTree

/-! ## Cleaning -/

/-- What a build made in the build directory of this place, or what stands below it. -/
def BuildLayout.Generated (build place : Place) : Prop :=
  ∃ name ∈ generatedNames, build ++ [name] <+: place

namespace Task

theorem run_isDir (p : Path) (w : Workspace) :
    (isDir p : Task ε Bool).run w = (.ok (w.tree.isDir w.start p), w) := rfl

theorem run_clearAway (p : Path) (w : Workspace) : (clearAway p).run w =
    ((w.tree.removeDir w.start p).1.mapError (.dirNotRemoved p),
      { w with tree := (w.tree.removeDir w.start p).2 }) := by
  unfold clearAway
  rw [run_bind, run_get]
  simp only
  rcases w.tree.removeDir w.start p with ⟨fault | _, tree⟩
  · rfl
  · rfl

end Task

namespace Clean

variable {w : Workspace} {p : Path}

/-- A path that cleaning reaches in every tree with directories all the way. -/
structure Reaches (start : Place) (p : Path) : Prop where
  walk : FileTree.Reachable start p
  straight : ".." ∉ Text.split '/' p.text
  ends : p.EndsInName

/-- An entry is cleared with all below it. -/
theorem clears_cleanOne (hrooted : w.tree.Rooted) (hp : Reaches w.start p)
    (hsink : w.tree.at? (p.place w.start) ≠ some .sink) :
    ∃ found tree, (cleanOne p).run w = (.ok found, { w with tree }) ∧
      w.tree.Cleared (fun q => p.place w.start <+: q) tree := by
  have hroot : p.place w.start ≠ [] := by
    obtain ⟨last, hlast, hname⟩ := hp.ends
    intro hnil
    have hshort := Path.getLast?_place hlast hname w.start
    rw [hnil] at hshort
    cases hshort
  have hdir := hrooted.isDir_iff hp.walk hp.straight hp.ends
  unfold cleanOne
  rw [run_bind, Task.run_isDir]
  simp only
  cases hat : w.tree.at? (p.place w.start) with
  | none =>
    have hfile : ¬ w.tree.isFile w.start p = true := by
      intro hfile
      obtain ⟨place, content, executable, hstat⟩ := FileTree.isFile_iff.1 hfile
      obtain ⟨rfl, hat'⟩ := FileTree.place_of_stat hstat
      rw [hat] at hat'
      cases hat'
    rw [if_neg (by rw [hdir, hat]; simp), run_bind, Task.run_isFile]
    simp only
    rw [if_neg hfile]
    refine ⟨false, w.tree, rfl, fun q hq => ?_, fun _ _ => rfl⟩
    cases hthere : w.tree.at? q with
    | none => rfl
    | some entry =>
      rcases hrooted.dir_of_prefix hthere hq with rfl | habove
      · rw [hat] at hthere
        cases hthere
      · rw [hat] at habove
        cases habove
  | some entry =>
    cases entry with
    | sink => exact absurd hat hsink
    | dir =>
      rw [if_pos (hdir.2 hat), run_bind, Task.run_clearAway,
        hrooted.removeDir hp.walk hp.straight hp.ends hat]
      exact ⟨true, _, rfl, w.tree.cleared_drop_hollow hroot⟩
    | file content executable =>
      have hstat := hrooted.stat hp.walk hp.straight hp.ends hat
      have hremove : w.tree.removeFile w.start p = .ok (w.tree.drop (p.place w.start)) := by
        unfold FileTree.removeFile
        rw [hstat]
        rfl
      rw [if_neg (by rw [hdir, hat]; simp), run_bind, Task.run_isFile]
      simp only
      rw [if_pos (FileTree.isFile_iff.2 ⟨_, _, _, hstat⟩), run_bind, Task.run_change, hremove]
      exact ⟨true, _, rfl, hrooted.cleared_drop hat⟩

/-- Entries are cleared one after the other, those of a list and no others. -/
theorem clears_cleanAll (buildDir : Path) {paths : List Path} (report : CleanReport)
    (hrooted : w.tree.Rooted) (hpaths : ∀ p ∈ paths, Reaches w.start p)
    (hsinks : ∀ p ∈ paths, w.tree.at? (p.place w.start) ≠ some .sink) :
    ∃ report' tree, (cleanAll buildDir paths report).run w = (.ok report', { w with tree }) ∧
      w.tree.Cleared (fun q => ∃ p ∈ paths, p.place w.start <+: q) tree := by
  induction paths generalizing w report with
  | nil => exact ⟨report, w.tree, rfl, w.tree.cleared_none.congr fun q => by simp⟩
  | cons p rest ih =>
    obtain ⟨found, tree, hrun, hcleared⟩ := clears_cleanOne hrooted
      (hpaths p List.mem_cons_self) (hsinks p List.mem_cons_self)
    have hsinks' : ∀ q ∈ rest, tree.at? (q.place w.start) ≠ some .sink := by
      intro q hq
      by_cases hin : p.place w.start <+: q.place w.start
      · rw [hcleared.gone _ hin]
        simp
      · rw [hcleared.kept _ hin]
        exact hsinks q (List.mem_cons_of_mem _ hq)
    have hrest := fun report => ih (w := { w with tree }) report (hrooted.cleared hcleared)
      (fun q hq => hpaths q (List.mem_cons_of_mem _ hq)) hsinks'
    have hall : ∀ tree', tree.Cleared (fun q => ∃ p ∈ rest, p.place w.start <+: q) tree' →
        w.tree.Cleared (fun q => ∃ r ∈ p :: rest, r.place w.start <+: q) tree' :=
      fun tree' h => (hcleared.trans h).congr fun q => by simp
    unfold cleanAll
    simp only
    rw [run_bind, hrun]
    cases found with
    | true =>
      obtain ⟨report', tree', hrun', hcleared'⟩ := hrest _
      exact ⟨report', tree', hrun', hall tree' hcleared'⟩
    | false =>
      obtain ⟨report', tree', hrun', hcleared'⟩ := hrest _
      exact ⟨report', tree', hrun', hall tree' hcleared'⟩

theorem isPlain_of_generated {name : String} (h : name ∈ BuildLayout.generatedNames) :
    Path.IsPlain name := by
  simp only [BuildLayout.generatedNames, List.mem_cons, List.not_mem_nil, or_false] at h
  rcases h with rfl | rfl | rfl | rfl | rfl | rfl | rfl
  all_goals exact ⟨by decide, by decide, by decide⟩

/-- A path below a build directory that takes no step up is reached if the host takes it. -/
theorem reaches_join {buildDir : Path} {start : Place} (hup : ".." ∉ Text.split '/' buildDir.text)
    {name : String} (hname : name ∈ BuildLayout.generatedNames)
    (hwalk : FileTree.Reachable start (buildDir.join name)) :
    Reaches start (buildDir.join name) := by
  have hplain := isPlain_of_generated hname
  exact ⟨hwalk, Path.straight_join hup hplain.staysBelow, Path.endsInName_join hplain buildDir⟩

theorem place_generated {name : String} (h : name ∈ BuildLayout.generatedNames) (buildDir : Path)
    (start : Place) : (buildDir.join name).place start = buildDir.place start ++ [name] :=
  Path.place_join_name (isPlain_of_generated h) buildDir start

/-- A build directory that cleaning gets at: the host takes the paths below it that are generated,
these go straight there, and no device stands at their ends. -/
structure Ready (w : Workspace) (buildDir : Path) : Prop where
  rooted : w.tree.Rooted
  straight : ".." ∉ Text.split '/' buildDir.text
  walks : ∀ name ∈ BuildLayout.generatedNames,
    FileTree.Reachable w.start (buildDir.join name)
  sinks : ∀ name ∈ BuildLayout.generatedNames,
    w.tree.at? (buildDir.place w.start ++ [name]) ≠ some .sink

/-- Cleaning takes all that is generated and nothing else. -/
theorem Ready.clears {buildDir : Path} (h : Ready w buildDir) :
    ∃ report tree, (run buildDir).run w = (.ok report, { w with tree }) ∧
      w.tree.Cleared (BuildLayout.Generated (buildDir.place w.start)) tree := by
  have hpaths : ∀ p ∈ BuildLayout.generated ⟨buildDir⟩, ∃ name ∈ BuildLayout.generatedNames,
      p = buildDir.join name := by
    intro p hp
    obtain ⟨name, hname, rfl⟩ := List.mem_map.1 hp
    exact ⟨name, hname, rfl⟩
  have hreaches : ∀ p ∈ BuildLayout.generated ⟨buildDir⟩, Reaches w.start p := by
    intro p hp
    obtain ⟨name, hname, rfl⟩ := hpaths p hp
    exact reaches_join h.straight hname (h.walks name hname)
  have hsinks : ∀ p ∈ BuildLayout.generated ⟨buildDir⟩,
      w.tree.at? (p.place w.start) ≠ some .sink := by
    intro p hp
    obtain ⟨name, hname, rfl⟩ := hpaths p hp
    rw [place_generated hname]
    exact h.sinks name hname
  obtain ⟨report, tree, hrun, hcleared⟩ :=
    clears_cleanAll buildDir {} h.rooted hreaches hsinks
  refine ⟨report, tree, hrun, hcleared.congr fun q => ⟨?_, ?_⟩⟩
  · rintro ⟨p, hp, hq⟩
    obtain ⟨name, hname, rfl⟩ := hpaths p hp
    rw [place_generated hname] at hq
    exact ⟨name, hname, hq⟩
  · rintro ⟨name, hname, hq⟩
    refine ⟨buildDir.join name, List.mem_map_of_mem hname, ?_⟩
    rwa [place_generated hname]

end Clean

end ApkForge
