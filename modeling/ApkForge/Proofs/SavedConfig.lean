-- Configurations that come back. A configuration is written as a document and read from one, and
-- the two agree for every setting, set or not, whatever its text holds. What no document holds is
-- not written at all, and then the file that was there before is still there.
import ApkForge.Proofs.Encoding
import ApkForge.Proofs.Lookups
import ApkForge.Proofs.Tasks
import ApkForge.Proofs.Toml.Documents
import ApkForge.Proofs.Upkeep
import Mathlib.Data.List.Forall2

namespace ApkForge

namespace Config

open Toml

variable {α : Type} {c : Config} {key : String} {write : α → String} {value : α → Toml}
  {setting : Option α}

/-! ## What is written -/

/-- The field of a setting that is set. -/
def field (key : String) (value : α → Toml) (setting : Option α) : List (String × Toml) :=
  match setting with
  | some v => [(key, value v)]
  | none => []

/-- A path as a value. -/
def pathValue (p : Path) : Toml := .str p.text

/-- A whole number as a value. -/
def numberValue (n : Nat) : Toml := .int n

/-- Texts as a value. -/
def textsValue (texts : List String) : Toml := .array (texts.map .str)

/-- The fields of the runtime. -/
def runtimeFields (s : RuntimeSettings) : List (String × Toml) :=
  field "files_dir" pathValue s.filesDir ++ field "java_home" pathValue s.javaHome

/-- The fields of memory limits. -/
def memoryFields (s : MemorySettings) : List (String × Toml) :=
  field "child_process_ram_mb" numberValue s.perTool ++
    field "memory_budget_mb" numberValue s.budget

/-- The fields of conversion. The libraries are always among them. -/
def dexFields (s : DexSettings) : List (String × Toml) :=
  field "first_dex_cap" numberValue s.firstCap ++
    field "startup_libraries" textsValue (some s.startupLibraries) ++
    field "cache" pathValue s.cache

/-- The fields of timeouts. -/
def timeoutFields (s : TimeoutSettings) : List (String × Toml) :=
  field "compile" numberValue s.compile ++ field "dex" numberValue s.dex ++
    field "package" numberValue s.package ++ field "sign" numberValue s.sign

/-- The fields of the robot controller. -/
def robotFields (s : RobotSettings) : List (String × Toml) :=
  field "package" .str s.package ++ field "version_code" .str s.versionCode ++
    field "version_name" .str s.versionName ++ field "min_sdk" .str s.minSdk ++
    field "target_sdk" .str s.targetSdk

/-- The fields of each section. -/
def fields (c : Config) : List (String × List (String × Toml)) :=
  [("runtime", runtimeFields c.runtime), ("limits", memoryFields c.memory),
    ("dex", dexFields c.dex), ("timeouts", timeoutFields c.timeouts),
    ("robot", robotFields c.robot)]

theorem spells_row (hkey : IsBare key)
    (h : ∀ v, setting = some v → Spells (write v) (value v)) :
    List.Forall₂ SpellsRow (row key write setting) (field key value setting) := by
  cases setting with
  | none => exact .nil
  | some v => exact .cons ⟨rfl, hkey, h v rfl⟩ .nil

theorem spells_path (hkey : IsBare key) (setting : Option Path) :
    List.Forall₂ SpellsRow (row key writePath setting) (field key pathValue setting) :=
  spells_row hkey fun p _ => spells_writeString p.text

theorem spells_text (hkey : IsBare key) (setting : Option String) :
    List.Forall₂ SpellsRow (row key writeString setting) (field key .str setting) :=
  spells_row hkey fun s _ => spells_writeString s

theorem spells_number (hkey : IsBare key) {setting : Option Nat}
    (h : ∀ n, setting = some n → (int64? n).isSome = true) :
    List.Forall₂ SpellsRow (row key writeNumber setting) (field key numberValue setting) :=
  spells_row hkey fun n hn => spells_toString (h n hn)

theorem isSome_of_fits (h : c.fits = true) {setting : Option Nat}
    (hsetting : setting ∈ [c.memory.perTool, c.memory.budget, c.dex.firstCap, c.timeouts.compile,
      c.timeouts.dex, c.timeouts.package, c.timeouts.sign]) (n : Nat) (hn : setting = some n) :
    (int64? n).isSome = true :=
  List.all_eq_true.1 h n (List.mem_filterMap.2 ⟨setting, hsetting, hn⟩)

theorem spells_texts (hkey : IsBare key) (texts : List String) :
    List.Forall₂ SpellsRow [(key, writeStrings texts)] (field key textsValue (some texts)) :=
  .cons ⟨rfl, hkey, spells_writeStrings texts⟩ .nil

theorem spells_section {rows : List (String × String)} {fields : List (String × Toml)}
    (hkey : IsBare key) (h : List.Forall₂ SpellsRow rows fields) :
    SpellsTable (key, rows) (key, fields) :=
  ⟨rfl, hkey, h⟩

/-- Each section is written as its fields. -/
theorem spells_rows (h : c.fits = true) : List.Forall₂ SpellsTable c.rows c.fields := by
  have hnumber : ∀ {key : String} {setting : Option Nat}, IsBare key →
      setting ∈ [c.memory.perTool, c.memory.budget, c.dex.firstCap, c.timeouts.compile,
        c.timeouts.dex, c.timeouts.package, c.timeouts.sign] →
      List.Forall₂ SpellsRow (row key writeNumber setting) (field key numberValue setting) :=
    fun hkey hsetting => spells_number hkey (isSome_of_fits h hsetting)
  refine .cons (spells_section (by decide) ?_) (.cons (spells_section (by decide) ?_)
    (.cons (spells_section (by decide) ?_) (.cons (spells_section (by decide) ?_)
      (.cons (spells_section (by decide) ?_) .nil))))
  · exact List.rel_append (spells_path (by decide) _) (spells_path (by decide) _)
  · exact List.rel_append (hnumber (by decide) (by simp)) (hnumber (by decide) (by simp))
  · exact List.rel_append (List.rel_append (hnumber (by decide) (by simp))
      (spells_texts (by decide) _)) (spells_path (by decide) _)
  · exact List.rel_append (List.rel_append (List.rel_append (hnumber (by decide) (by simp))
      (hnumber (by decide) (by simp))) (hnumber (by decide) (by simp)))
      (hnumber (by decide) (by simp))
  · exact List.rel_append (List.rel_append (List.rel_append (List.rel_append
      (spells_text (by decide) _) (spells_text (by decide) _)) (spells_text (by decide) _))
      (spells_text (by decide) _)) (spells_text (by decide) _)

/-! ## What is read -/

theorem lookup_field (k : String) (rest : List (String × Toml)) :
    (field key value setting ++ rest).lookup k =
      if k = key then (setting.map value).or (rest.lookup k) else rest.lookup k := by
  cases setting with
  | none => simp [field]
  | some v =>
    by_cases hk : k = key
    · simp [field, hk]
    · simp [field, hk, List.lookup_cons, beq_false_of_ne hk]

theorem lookup_last_field (k : String) :
    (field key value setting).lookup k = if k = key then setting.map value else none := by
  rw [← List.append_nil (field key value setting), lookup_field k []]
  simp

/-- A setting is read as it is in its fields. -/
theorem optional_eq {fields : List (String × Toml)} {position : Nat} {read : Toml → Option α}
    (hlookup : fields.lookup key = setting.map value)
    (hread : ∀ v, setting = some v → read (value v) = some v) :
    optional (.table fields) position key read = some setting := by
  unfold optional
  simp only [hlookup]
  cases setting with
  | none => rfl
  | some v => simp [hread v rfl]

section

variable {fields : List (String × Toml)} {position : Nat}

theorem optional_path {setting : Option Path}
    (hlookup : fields.lookup key = setting.map pathValue) :
    optional (.table fields) position key path? = some setting :=
  optional_eq hlookup fun _ _ => rfl

theorem optional_text {setting : Option String} (hlookup : fields.lookup key = setting.map .str) :
    optional (.table fields) position key text? = some setting :=
  optional_eq hlookup fun _ _ => rfl

theorem optional_number {setting : Option Nat} {bound : Nat}
    (hlookup : fields.lookup key = setting.map numberValue)
    (hbound : ∀ n, setting = some n → n < bound) :
    optional (.table fields) position key (below? bound) = some setting :=
  optional_eq hlookup fun n hn => by simp [below?, numberValue, hbound n hn]

end

theorem texts?_textsValue (texts : List String) : texts? (textsValue texts) = some texts := by
  simp only [texts?, textsValue]
  induction texts with
  | nil => rfl
  | cons s texts ih => simp [List.mapM_cons, ih, text?]

theorem runtime?_fields (s : RuntimeSettings) :
    runtime? (.table (runtimeFields s)) = some s := by
  have hfiles : optional (.table (runtimeFields s)) 0 "files_dir" path? = some s.filesDir :=
    optional_path (by simp [runtimeFields, lookup_field, lookup_last_field])
  have hhome : optional (.table (runtimeFields s)) 1 "java_home" path? = some s.javaHome :=
    optional_path (by simp [runtimeFields, lookup_field, lookup_last_field])
  rw [runtime?, hfiles, hhome]
  rfl

theorem memory?_fields {s : MemorySettings} (hperTool : ∀ n, s.perTool = some n → n < 4294967296)
    (hbudget : ∀ n, s.budget = some n → n < 4294967296) :
    memory? (.table (memoryFields s)) = some s := by
  have hone : optional (.table (memoryFields s)) 0 "child_process_ram_mb" word? = some s.perTool :=
    optional_number (by simp [memoryFields, lookup_field, lookup_last_field]) hperTool
  have hall : optional (.table (memoryFields s)) 1 "memory_budget_mb" word? = some s.budget :=
    optional_number (by simp [memoryFields, lookup_field, lookup_last_field]) hbudget
  rw [memory?, hone, hall]
  rfl

theorem dex?_fields {s : DexSettings}
    (hcap : ∀ n, s.firstCap = some n → n < 18446744073709551616) :
    dex? (.table (dexFields s)) = some s := by
  have hfirst : optional (.table (dexFields s)) 0 "first_dex_cap" long? = some s.firstCap :=
    optional_number (by simp [dexFields, lookup_field, lookup_last_field]) hcap
  have hlibraries : orElse (.table (dexFields s)) 1 "startup_libraries" texts? [] =
      some s.startupLibraries := by
    have hlookup : (dexFields s).lookup "startup_libraries" =
        some (textsValue s.startupLibraries) := by
      simp [dexFields, lookup_field, lookup_last_field]
    simp only [orElse, hlookup, texts?_textsValue]
  have hcache : optional (.table (dexFields s)) 2 "cache" path? = some s.cache :=
    optional_path (by simp [dexFields, lookup_field, lookup_last_field])
  rw [dex?, hfirst, hlibraries, hcache]
  rfl

theorem timeouts?_fields {s : TimeoutSettings}
    (h : ∀ n, some n ∈ [s.compile, s.dex, s.package, s.sign] → n < 18446744073709551616) :
    timeouts? (.table (timeoutFields s)) = some s := by
  have hcompile : optional (.table (timeoutFields s)) 0 "compile" long? = some s.compile :=
    optional_number (by simp [timeoutFields, lookup_field, lookup_last_field])
      fun n hn => h n (by simp [hn])
  have hdex : optional (.table (timeoutFields s)) 1 "dex" long? = some s.dex :=
    optional_number (by simp [timeoutFields, lookup_field, lookup_last_field])
      fun n hn => h n (by simp [hn])
  have hpackage : optional (.table (timeoutFields s)) 2 "package" long? = some s.package :=
    optional_number (by simp [timeoutFields, lookup_field, lookup_last_field])
      fun n hn => h n (by simp [hn])
  have hsign : optional (.table (timeoutFields s)) 3 "sign" long? = some s.sign :=
    optional_number (by simp [timeoutFields, lookup_field, lookup_last_field])
      fun n hn => h n (by simp [hn])
  rw [timeouts?, hcompile, hdex, hpackage, hsign]
  rfl

theorem robot?_fields (s : RobotSettings) : robot? (.table (robotFields s)) = some s := by
  have hpackage : optional (.table (robotFields s)) 0 "package" text? = some s.package :=
    optional_text (by simp [robotFields, lookup_field, lookup_last_field])
  have hcode : optional (.table (robotFields s)) 1 "version_code" text? = some s.versionCode :=
    optional_text (by simp [robotFields, lookup_field, lookup_last_field])
  have hname : optional (.table (robotFields s)) 2 "version_name" text? = some s.versionName :=
    optional_text (by simp [robotFields, lookup_field, lookup_last_field])
  have hmin : optional (.table (robotFields s)) 3 "min_sdk" text? = some s.minSdk :=
    optional_text (by simp [robotFields, lookup_field, lookup_last_field])
  have htarget : optional (.table (robotFields s)) 4 "target_sdk" text? = some s.targetSdk :=
    optional_text (by simp [robotFields, lookup_field, lookup_last_field])
  rw [robot?, hpackage, hcode, hname, hmin, htarget]
  rfl

/-- The limits of memory are numbers of 32 bits. -/
def InBits (c : Config) : Prop :=
  ∀ n, c.memory.perTool = some n ∨ c.memory.budget = some n → n < 4294967296

theorem fits_iff : c.fits = true ↔ ∀ n ∈ c.numbers, n < 9223372036854775808 := by
  unfold fits
  rw [List.all_eq_true]
  refine forall₂_congr fun n _ => ?_
  simp only [int64?, Bool.and_eq_true, decide_eq_true_eq]
  split
  · rename_i h
    simp only [Option.isSome_some, true_iff]
    omega
  · rename_i h
    simp only [Option.isSome_none, Bool.false_eq_true, false_iff]
    omega

theorem ofToml?_fields (hbits : c.InBits) (hfits : c.fits = true) :
    ofToml? (.table (c.fields.map fun f => (f.1, .table f.2))) = some c := by
  have hlong : ∀ n, some n ∈ [c.dex.firstCap, c.timeouts.compile, c.timeouts.dex,
      c.timeouts.package, c.timeouts.sign] → n < 18446744073709551616 := by
    intro n hn
    have hmem : n ∈ c.numbers :=
      List.mem_filterMap.2 ⟨some n, List.mem_cons_of_mem _ (List.mem_cons_of_mem _ hn), rfl⟩
    exact Nat.lt_trans (fits_iff.1 hfits n hmem) (by decide)
  have hmemory := memory?_fields (fun n hn => hbits n (.inl hn)) fun n hn => hbits n (.inr hn)
  have hdex : dex? (.table (dexFields c.dex)) = some c.dex :=
    dex?_fields fun n hn => hlong n (by simp [hn])
  have htimeouts : timeouts? (.table (timeoutFields c.timeouts)) = some c.timeouts :=
    timeouts?_fields fun n hn => hlong n (List.mem_cons_of_mem _ hn)
  simp only [ofToml?, sectionOf, field?, fields, List.map_cons, List.map_nil, List.lookup_cons]
  simp [runtime?_fields, hmemory, hdex, htimeouts, robot?_fields]

theorem keys_field : ((field key value setting).map Prod.fst).Sublist [key] := by
  cases setting with
  | none => exact List.nil_sublist _
  | some v => exact List.Sublist.refl _

theorem keys_append {front back : List (String × Toml)} {keys more : List String}
    (hfront : (front.map Prod.fst).Sublist keys) (hback : (back.map Prod.fst).Sublist more) :
    ((front ++ back).map Prod.fst).Sublist (keys ++ more) := by
  rw [List.map_append]
  exact hfront.append hback

/-- No section has a key twice. -/
theorem nodup_keys (c : Config) : ∀ f ∈ c.fields, (f.2.map Prod.fst).Nodup := by
  intro f hf
  simp only [fields, List.mem_cons, List.not_mem_nil, or_false] at hf
  rcases hf with rfl | rfl | rfl | rfl | rfl
  · exact List.Nodup.sublist (keys_append keys_field keys_field) (by decide)
  · exact List.Nodup.sublist (keys_append keys_field keys_field) (by decide)
  · exact List.Nodup.sublist (keys_append (keys_append keys_field keys_field) keys_field)
      (by decide)
  · exact List.Nodup.sublist (keys_append (keys_append (keys_append keys_field keys_field)
      keys_field) keys_field) (by decide)
  · exact List.Nodup.sublist (keys_append (keys_append (keys_append (keys_append keys_field
      keys_field) keys_field) keys_field) keys_field) (by decide)

/-- A configuration that a document holds is read from its own. -/
theorem parse?_write (hbits : c.InBits) (hfits : c.fits = true) : parse? c.write = some c := by
  have hnames : (c.fields.map Prod.fst).Nodup := by simp [fields]
  rw [parse?, write, parse?_writeTables (spells_rows hfits) hnames (nodup_keys c),
    Option.bind_some, ofToml?_fields hbits hfits]

/-! ## Files -/

variable {path : Path} {w w' : Workspace}

/-- What making the directory of a file gives, and the tree then. -/
def room (path : Path) (w : Workspace) : Except FileFault Unit × FileTree :=
  match path.parent? with
  | none => (.ok (), w.tree)
  | some parent => w.tree.makeDirs w.start parent

/-- No file is touched where room is made. -/
theorem writes_room (path : Path) (w : Workspace) :
    FileTree.Writes (fun _ => False) w.tree (room path w).2 := by
  unfold room
  split
  · exact FileTree.writes_refl _ _
  · exact FileTree.writes_makeDirs _ _ _

theorem run_makeRoom (path : Path) (w : Workspace) : (makeRoom path).run w =
    ((room path w).1.mapError (.unwritable (path.parent?.getD path)),
      { w with tree := (room path w).2 }) := by
  unfold makeRoom room
  cases path.parent? with
  | none => rfl
  | some parent =>
    rw [run_bind, Task.run_get]
    simp only
    rcases w.tree.makeDirs w.start parent with ⟨fault | _, tree⟩
    · rfl
    · rfl

theorem run_makeParent (path : Path) (w : Workspace) : (Task.makeParent path).run w =
    ((room path w).1.mapError (.notMade (path.parent?.getD path)),
      { w with tree := (room path w).2 }) := by
  unfold Task.makeParent room
  cases path.parent? with
  | none => rfl
  | some parent => exact Task.run_makeDirs parent w

/-- Where a file can be written, there is room for it. -/
theorem room_of_writeBytes {content : Bytes}
    (h : (Task.writeBytes path content).run w = (.ok (), w')) : (room path w).1 = .ok () ∧
      ∃ t, (room path w).2.write w.start path content = .ok t ∧ w' = { w with tree := t } := by
  unfold Task.writeBytes at h
  rw [run_bind, run_makeParent] at h
  cases hroom : (room path w).1 with
  | error fault =>
    rw [hroom] at h
    cases h
  | ok u =>
    rw [hroom] at h
    simp only [Except.mapError] at h
    rw [Task.run_change] at h
    simp only at h
    cases hwrite : (room path w).2.write w.start path content with
    | error fault =>
      rw [hwrite] at h
      cases h
    | ok t =>
      rw [hwrite] at h
      cases h
      exact ⟨rfl, t, rfl, rfl⟩

/-- Behind the room for it, a configuration that a document holds is written. -/
theorem run_save_of_fits (hfits : c.fits = true) (hroom : (room path w).1 = .ok ()) {t : FileTree}
    (hwrite : (room path w).2.write w.start path (Utf8.encode c.write) = .ok t) :
    (c.save path).run w = (.ok (), { w with tree := t }) := by
  unfold save
  rw [run_bind, run_makeRoom, hroom]
  simp only [Except.mapError, if_pos hfits]
  rw [Task.run_change]
  simp only [hwrite]

/-- A configuration that no document holds is refused, with room or without. -/
theorem run_save_of_not_fits (hfits : c.fits = false) (path : Path) (w : Workspace) :
    ∃ e, (c.save path).run w = (.error e, { w with tree := (room path w).2 }) := by
  unfold save
  rw [run_bind, run_makeRoom]
  cases (room path w).1 with
  | error fault => exact ⟨_, rfl⟩
  | ok u =>
    simp only [Except.mapError, hfits]
    exact ⟨_, rfl⟩

theorem readText_of_read {tree : FileTree} {start : Place} {text : String}
    (h : tree.read start path = .ok (Utf8.encode text)) : tree.readText start path = .ok text := by
  rw [FileTree.readText, h]
  simp only [bind, Except.bind, Utf8.decode?_encode]

theorem load_of_stat {tree : FileTree} {start place : Place} {executable : Bool}
    (hbits : c.InBits) (hfits : c.fits = true)
    (hstat : tree.stat start path = .ok (place, .file (Utf8.encode c.write) executable)) :
    load tree start path = .ok c := by
  have hentry : tree.hasEntry start path = true := by rw [FileTree.hasEntry, hstat]
  rw [load, if_pos hentry, readText_of_read (FileTree.read_of_stat hstat)]
  simp only [parse?_write hbits hfits]

/-- A path that names the sink has nothing to be read. -/
theorem load_of_sink {tree : FileTree} {start place : Place}
    (hstat : tree.stat start path = .ok (place, .sink)) : load tree start path = .ok {} := by
  have hentry : tree.hasEntry start path = true := by rw [FileTree.hasEntry, hstat]
  have hread : tree.read start path = .ok (Utf8.encode "") := by
    rw [FileTree.read, hstat]
    rfl
  rw [load, if_pos hentry, readText_of_read hread]
  rfl

/-! ## The law -/

/-- What saving a configuration at a path does, and what is loaded from the path then. -/
structure Saved (c : Config) (path : Path) (w : Workspace) : Prop where
  /-- Where a file can be written, a configuration whose numbers have 64 bits with a sign is written
  and loaded as it was. -/
  loads : (∀ n ∈ c.numbers, n < 9223372036854775808) → ∀ w₁ : Workspace,
    (Task.writeBytes path []).run w = (.ok (), w₁) → w₁.tree.isFile w.start path = true →
      ∃ w' : Workspace, (c.save path).run w = (.ok (), w') ∧ load w'.tree w'.start path = .ok c
  /-- The sink takes the configuration and keeps none of it. -/
  sinks : (∀ n ∈ c.numbers, n < 9223372036854775808) → ∀ w₁ : Workspace,
    (Task.writeBytes path []).run w = (.ok (), w₁) → w₁.tree.isFile w.start path = false →
      ∃ w' : Workspace, (c.save path).run w = (.ok (), w') ∧ load w'.tree w'.start path = .ok {}
  /-- With a longer number saving fails, and every file is as it was. -/
  refuses : (∃ n ∈ c.numbers, 9223372036854775808 ≤ n) → ∃ e, ∃ w' : Workspace,
    (c.save path).run w = (.error e, w') ∧ (∀ place, w'.tree.file? place = w.tree.file? place) ∧
      ∀ bytes, w.tree.isFile w.start path = true → w.tree.read w.start path = .ok bytes →
        w'.tree.read w.start path = .ok bytes

/-- Whatever is written where a file can be, the file is there with it. -/
theorem save_of_writeBytes (hfits : c.fits = true) {w₁ : Workspace}
    (h : (Task.writeBytes path []).run w = (.ok (), w₁)) : ∃ w' : Workspace,
      (c.save path).run w = (.ok (), w') ∧ w'.start = w.start ∧ ∃ place,
        (∃ executable, w₁.tree.stat w.start path = .ok (place, .file [] executable) ∧
          w'.tree.stat w.start path = .ok (place, .file (Utf8.encode c.write) executable)) ∨
        w₁.tree.stat w.start path = .ok (place, .sink) ∧
          w'.tree.stat w.start path = .ok (place, .sink) := by
  obtain ⟨hroom, t, hwrite, rfl⟩ := room_of_writeBytes h
  unfold FileTree.write at hwrite
  rw [FileTree.bind_eq_ok] at hwrite
  obtain ⟨⟨place, entry⟩, hwritable, hwrite⟩ := hwrite
  cases hwrite
  have hsave : (room path w).2.write w.start path (Utf8.encode c.write) =
      .ok ((room path w).2.put place (FileTree.holding (Utf8.encode c.write) entry)) := by
    rw [FileTree.write, hwritable]
    rfl
  refine ⟨_, run_save_of_fits hfits hroom hsave, rfl, place, ?_⟩
  obtain ⟨a, hwalk, hplace, hwants, hdir, hthere⟩ := FileTree.writable_eq_ok hwritable
  cases entry with
  | dir => exact absurd rfl hdir
  | file content executable =>
    exact .inl ⟨executable, FileTree.stat_put_of_writable hwritable _ _,
      FileTree.stat_put_of_writable hwritable _ _⟩
  | sink =>
    have hsink : (room path w).2.at? place = some .sink :=
      hthere.resolve_right fun hnone => by cases hnone.2
    have hstat : ((room path w).2.put place .sink).stat w.start path = .ok (place, .sink) := by
      have hdirs := (FileTree.writes_put (by rw [hsink]; simp) .sink).dirs
      refine FileTree.stat_eq_ok.2 ⟨a, FileTree.walk_of_dirs hdirs hwalk, hplace, ?_, .inr hwants⟩
      rw [FileTree.at?_put_same hsink, hsink]
    exact .inr ⟨hstat, hstat⟩

/-- A configuration is loaded as it was saved, whatever its texts hold and whichever settings are
set; and one with a number too long for a document is refused before any file is touched. -/
theorem a_configuration_is_loaded_as_it_was_saved (hbits : c.InBits) (path : Path) (w : Workspace) :
    Saved c path w := by
  constructor
  · intro hnumbers w₁ hwrite hfile
    have hfits := fits_iff.2 hnumbers
    obtain ⟨w', hsave, hstart, place, ⟨executable, -, hstat⟩ | ⟨hsink, -⟩⟩ :=
      save_of_writeBytes hfits hwrite
    · exact ⟨w', hsave, load_of_stat hbits hfits (by rwa [hstart])⟩
    · rw [FileTree.isFile, hsink] at hfile
      cases hfile
  · intro hnumbers w₁ hwrite hfile
    obtain ⟨w', hsave, hstart, place, ⟨executable, hstat, -⟩ | ⟨-, hsink⟩⟩ :=
      save_of_writeBytes (fits_iff.2 hnumbers) hwrite
    · rw [FileTree.isFile, hstat] at hfile
      cases hfile
    · exact ⟨w', hsave, load_of_sink (by rwa [hstart])⟩
  · rintro ⟨n, hn, hlong⟩
    have hfits : c.fits = false := by
      rw [← Bool.not_eq_true, fits_iff]
      intro hnumbers
      exact absurd (hnumbers n hn) (Nat.not_lt.2 hlong)
    obtain ⟨e, hsave⟩ := run_save_of_not_fits hfits path w
    have hwrites := writes_room path w
    refine ⟨e, _, hsave, fun place => hwrites.files place not_false, fun bytes hfile hread => ?_⟩
    obtain ⟨place, content, executable, hstat⟩ := FileTree.isFile_iff.1 hfile
    rw [FileTree.read_of_stat hstat] at hread
    cases hread
    exact FileTree.read_of_stat (hwrites.stat_file hstat not_false)

/-- A configuration whose texts hold what the forms of strings have to look out for. -/
def awkward : Config :=
  { runtime := { javaHome := some ⟨"C:\\jdk \"8\"/'"⟩ }
    dex :=
      { firstCap := some 9223372036854775807
        startupLibraries := ["", "\"\"\"\n'''", "\x07\"\"\"\"", "a\tb\r\n# c"] }
    timeouts := { sign := some 0 }
    robot := { package := some "'''\"\"\"\\", targetSdk := some "\n" } }

/-- Below a directory that is not there yet it is saved and loaded all the same. -/
theorem an_awkward_configuration_is_loaded_as_it_was_saved :
    ∃ w : Workspace,
      (awkward.save ⟨"/home/me/config/config.toml"⟩).run Locator.bareHost = (.ok (), w) ∧
        load w.tree w.start ⟨"/home/me/config/config.toml"⟩ = .ok awkward := by
  have hbits : awkward.InBits := by
    rintro n (h | h) <;> cases h
  have hsaved := a_configuration_is_loaded_as_it_was_saved hbits ⟨"/home/me/config/config.toml"⟩
    Locator.bareHost
  have hnumbers : ∀ n ∈ awkward.numbers, n < 9223372036854775808 := by decide
  let written := (Task.writeBytes ⟨"/home/me/config/config.toml"⟩ []).run Locator.bareHost
  have hwrite : written.1 = .ok () := by rfl
  have hfile : written.2.tree.isFile Locator.bareHost.start ⟨"/home/me/config/config.toml"⟩ =
      true := by
    rfl
  exact hsaved.loads hnumbers _ (Prod.ext hwrite rfl) hfile

end Config

end ApkForge
