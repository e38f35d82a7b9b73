-- The permissions that a manifest asks for: those that some component needs, and for a companion
-- app the log. The needs of all components are one set, so each is asked for once; but the log is
-- asked for without a look at the set.
import ApkForge.Proofs.ManifestReading
import Mathlib.Data.List.Nodup

namespace ApkForge

/-! ## Asking -/

/-- The tag of a mark that opens one or stands alone. -/
def Mark.tag? : Mark → Option Tag
  | .opens _ tag => some tag
  | .stands _ tag => some tag
  | _ => none

/-- The permission that a mark asks for. -/
def Mark.permission? (mark : Mark) : Option String :=
  mark.tag?.bind fun tag =>
    if tag.name = "uses-permission" then tag.attrs.lookup "android:name" else none

namespace Manifest

open Markup

variable {m : Manifest} {p : String}

/-- The permission to read the log. -/
def readLogs : String := "android.permission.READ_LOGS"

/-- Some component that the requirements know needs the permission. -/
def Needs (m : Manifest) (p : String) : Prop :=
  ∃ names ∈ (m.requirements.of .permissions).values, p ∈ names

instance (m : Manifest) (p : String) : Decidable (m.Needs p) :=
  decidable_of_iff (p ∈ (m.requirements.union .permissions).toList) mem_union

/-- What the manifest writes to ask for a permission. -/
def permissionText (p : String) : String := (naming 2 "uses-permission" p).write

theorem read_permissionText (p : String) :
    read (permissionText p) = some [named "uses-permission" p] := by
  have hnames : areNames "uses-permission" ["android:name"] = true := by decide
  obtain ⟨tokens, hreads, hbuilds⟩ := shows_naming hnames 2 p
  have hone : String.join ([naming 2 "uses-permission" p].map Mark.write) = permissionText p := by
    simp [permissionText]
  rw [hone] at hreads
  exact read_eq hreads hbuilds

/-- Permissions that are written alike are one. -/
theorem permissionText_injective : Function.Injective permissionText := by
  intro p q h
  have hread := read_permissionText p
  rw [h, read_permissionText q] at hread
  simpa [named] using hread.symm

/-! ## Where it is asked -/

/-- No mark asks for a permission. -/
def Silent (marks : List Mark) : Prop := marks.filterMap Mark.permission? = []

instance (marks : List Mark) : Decidable (Silent marks) := inferInstanceAs (Decidable (_ = _))

theorem Silent.append {as bs : List Mark} (ha : Silent as) (hb : Silent bs) :
    Silent (as ++ bs) := by
  unfold Silent at *
  rw [List.filterMap_append, ha, hb, List.append_nil]

theorem silent_of_forall {marks : List Mark} (h : ∀ mark ∈ marks, mark.permission? = none) :
    Silent marks := List.filterMap_eq_nil_iff.2 h

/-- A mark whose tag has another name asks for nothing. -/
theorem permission?_of_name {mark : Mark} {tag : Tag} (h : mark.tag? = some tag)
    (hname : tag.name ≠ "uses-permission") : mark.permission? = none := by
  unfold Mark.permission?
  rw [h, Option.bind_some, if_neg hname]

theorem silent_features (m : Manifest) : Silent m.features := by
  have hcompanion : Silent companionFeatures := by decide
  have hrobot : Silent robotFeatures := by decide
  unfold features
  refine Silent.append ?_ ?_
  · split
    · exact hcompanion
    · rfl
  · split
    · exact hrobot
    · rfl

theorem silent_systems (m : Manifest) : Silent m.systems := by
  unfold systems
  cases m.robot with
  | none => rfl
  | some robot => rfl

theorem silent_screen (m : Manifest) (s : SourceFile) : Silent (m.screen s) := by
  have hstart : ∀ isMain, Silent (startFilter isMain) := by decide
  have hnear : Silent (if m.nearField && m.project.isMain s then nearFieldFilter else []) := by
    split
    · decide
    · rfl
  have hinside : Silent (startFilter (m.project.isMain s) ++
      (if m.nearField && m.project.isMain s then nearFieldFilter else []) ++
        [.closes 4 "activity"]) := ((hstart _).append hnear).append rfl
  have hopens : Mark.permission? (.opens 4 (m.screenTag s)) = none :=
    permission?_of_name rfl (by simp [screenTag, Tag.tight, Tag.inline])
  unfold screen Silent
  rw [List.filterMap_cons, hopens]
  exact hinside

theorem silent_application (m : Manifest) : Silent m.applicationMarks := by
  unfold applicationMarks
  cases m.robot with
  | some robot =>
    have hrobot : RobotApplication.marks.all (fun mark => mark.permission? == none) = true := by
      decide +kernel
    exact silent_of_forall fun mark hmark => by simpa using List.all_eq_true.1 hrobot mark hmark
  | none =>
    have hopens : Mark.permission? (.opens 2 m.applicationTag) = none :=
      permission?_of_name rfl (by simp [applicationTag, Tag.inline])
    have hscreens : Silent (m.project.sources.flatMap m.screen) := by
      refine silent_of_forall fun mark hmark => ?_
      obtain ⟨s, _, hmark⟩ := List.mem_flatMap.1 hmark
      exact List.filterMap_eq_nil_iff.1 (silent_screen m s) mark hmark
    simp only [Silent]
    rw [List.filterMap_cons, hopens]
    exact hscreens

theorem silent_fragments (m : Manifest) (c : Category) : Silent (m.fragments c) := by
  refine silent_of_forall fun mark hmark => ?_
  obtain ⟨names, _, hmark⟩ := List.mem_flatMap.1 hmark
  obtain ⟨text, _, rfl⟩ := List.mem_map.1 hmark
  rfl

theorem silent_receiver (r : LegacyReceiver) : Silent r.marks := by
  have hopens : Mark.permission? (.opens 0 (Tag.inline "receiver" [("android:name", r.name)])) =
      none := permission?_of_name rfl (by simp [Tag.inline])
  have hfilter : Silent (LegacyReceiver.filterMarks r.actions) := by
    unfold LegacyReceiver.filterMarks
    split
    · rfl
    · have hactions : Silent (r.actions.map fun a =>
          .stands 4 (Tag.inline "action" [("android:name", a)])) := by
        refine silent_of_forall fun mark hmark => ?_
        obtain ⟨action, _, rfl⟩ := List.mem_map.1 hmark
        exact permission?_of_name rfl (by simp [Tag.inline])
      have hclosed := hactions.append (rfl : Silent [.closes 2 "intent-filter"])
      unfold Silent
      rw [List.filterMap_cons, permission?_of_name rfl (by simp [Tag.tight, Tag.inline])]
      exact hclosed
  unfold LegacyReceiver.marks
  simp only [Silent]
  rw [List.filterMap_cons, hopens]
  exact hfilter.append rfl

/-- What is written below the permissions. -/
def belowPermissions (m : Manifest) : List Mark :=
  m.systems ++ m.applicationMarks ++ m.fragments .activities ++ m.fragments .broadcastReceivers ++
    (m.legacyReceivers.flatMap LegacyReceiver.marks ++
      [.closes 2 "application", .closes 0 "manifest"])

theorem marks_eq (m : Manifest) : m.marks = (.opens 0 m.manifestTag :: m.features) ++
    (m.permissions.map (naming 2 "uses-permission") ++ m.belowPermissions) := by
  simp [Manifest.marks, belowPermissions]

theorem silent_belowPermissions (m : Manifest) : Silent m.belowPermissions := by
  have hreceivers : Silent (m.legacyReceivers.flatMap LegacyReceiver.marks) := by
    refine silent_of_forall fun mark hmark => ?_
    obtain ⟨r, _, hmark⟩ := List.mem_flatMap.1 hmark
    exact List.filterMap_eq_nil_iff.1 (silent_receiver r) mark hmark
  have hend : Silent [.closes 2 "application", .closes 0 "manifest"] := rfl
  exact ((((silent_systems m).append (silent_application m)).append
    (silent_fragments m .activities)).append (silent_fragments m .broadcastReceivers)).append
    (hreceivers.append hend)

/-- Of all that is written, only what is written for permissions asks for any. -/
theorem filterMap_permission? (m : Manifest) :
    m.marks.filterMap Mark.permission? = m.permissions := by
  have hown : (m.permissions.map (naming 2 "uses-permission")).filterMap Mark.permission? =
      m.permissions := by
    rw [List.filterMap_map]
    exact List.filterMap_some
  have hopens : Silent [.opens 0 m.manifestTag] :=
    silent_of_forall fun mark hmark => by
      rw [List.mem_singleton.1 hmark]
      exact permission?_of_name rfl (by simp [manifestTag, Tag.inline])
  have habove : (.opens 0 m.manifestTag :: m.features).filterMap Mark.permission? = [] :=
    hopens.append (silent_features m)
  have hbelow : m.belowPermissions.filterMap Mark.permission? = [] := silent_belowPermissions m
  rw [marks_eq, List.filterMap_append, List.filterMap_append, habove, hown, hbelow,
    List.nil_append, List.append_nil]

/-- The permissions are written one below the other. -/
theorem render_eq_around_permissions (m : Manifest) : ∃ before after,
    m.render = before ++ String.join (m.permissions.map permissionText) ++ after := by
  have htexts : (m.permissions.map (naming 2 "uses-permission")).map Mark.write =
      m.permissions.map permissionText := List.map_map
  unfold render Mark.document
  rw [marks_eq, List.map_append, List.map_append, String.join_append, String.join_append, htexts,
    ← String.append_assoc, ← String.append_assoc]
  exact ⟨_, _, rfl⟩

/-! ## How often it is asked -/

theorem count_permissions (m : Manifest) (p : String) : m.permissions.count p =
    (if m.Needs p then 1 else 0) + (if m.companion = true ∧ p = readLogs then 1 else 0) := by
  have hunion : (m.requirements.union .permissions).toList.count p =
      if m.Needs p then 1 else 0 := by
    have hnodup : (m.requirements.union .permissions).toList.Nodup :=
      (m.requirements.union .permissions).ascending.imp String.ne_of_lt
    have hmem : p ∈ (m.requirements.union .permissions).toList ↔ m.Needs p := mem_union
    by_cases hneeds : m.Needs p
    · rw [if_pos hneeds, List.count_eq_one_of_mem hnodup (hmem.2 hneeds)]
    · rw [if_neg hneeds, List.count_eq_zero_of_not_mem fun h => hneeds (hmem.1 h)]
  have hlog : (if m.companion then [readLogs] else []).count p =
      if m.companion = true ∧ p = readLogs then 1 else 0 := by
    by_cases hp : p = readLogs
    · subst hp
      cases m.companion <;> simp
    · have hne : readLogs ≠ p := Ne.symm hp
      cases m.companion <;> simp [hp, hne]
  rw [← hunion, ← hlog, ← List.count_append]
  rfl

theorem mem_permissions {m : Manifest} {p : String} :
    p ∈ m.permissions ↔ m.Needs p ∨ m.companion = true ∧ p = readLogs := by
  rw [← List.count_pos_iff, count_permissions]
  by_cases hneeds : m.Needs p <;> by_cases hlog : m.companion = true ∧ p = readLogs <;>
    simp [hneeds, hlog]

theorem nodup_permissions_iff (m : Manifest) :
    m.permissions.Nodup ↔ ¬ (m.companion = true ∧ m.Needs readLogs) := by
  rw [List.nodup_iff_count_le_one]
  constructor
  · rintro h ⟨hcompanion, hneeds⟩
    have hle := h readLogs
    rw [count_permissions, if_pos hneeds, if_pos ⟨hcompanion, rfl⟩] at hle
    omega
  · intro h p
    rw [count_permissions]
    by_cases hlog : m.companion = true ∧ p = readLogs
    · obtain ⟨hcompanion, rfl⟩ := hlog
      rw [if_neg fun hneeds => h ⟨hcompanion, hneeds⟩]
      split <;> omega
    · rw [if_neg hlog]
      split <;> omega

/-- How a manifest asks for permissions. -/
structure Asks (m : Manifest) : Prop where
  /-- What is written for permissions stands in one place. -/
  written : ∃ before after,
    m.render = before ++ String.join (m.permissions.map permissionText) ++ after
  /-- Each is read as one element that names the permission, whatever characters that has. -/
  read : ∀ p, Markup.read (permissionText p) = some [named "uses-permission" p]
  /-- Nothing else that is written asks for one. -/
  alone : m.marks.filterMap Mark.permission? = m.permissions
  /-- They are the permissions that some component needs, and the log of a companion app. -/
  mem : ∀ p, p ∈ m.permissions ↔ m.Needs p ∨ m.companion = true ∧ p = readLogs
  /-- A permission is asked for once for all components, and the log once more by a companion
  app. -/
  count : ∀ p, m.permissions.count p =
    (if m.Needs p then 1 else 0) + (if m.companion = true ∧ p = readLogs then 1 else 0)
  /-- So each is asked for once, unless a component of a companion app needs the log. -/
  once : m.permissions.Nodup ↔ ¬ (m.companion = true ∧ m.Needs readLogs)
  /-- That is as true of what is written. -/
  once_written : (m.permissions.map permissionText).Nodup ↔ m.permissions.Nodup

/-- A manifest asks for what its components need, and as a companion for the log, and for each
permission once: only the log is asked for twice, just when a companion has a component that needs
it. -/
theorem each_permission_but_the_log_is_asked_for_once (m : Manifest) : m.Asks where
  written := render_eq_around_permissions m
  read := read_permissionText
  alone := filterMap_permission? m
  mem _ := mem_permissions
  count := count_permissions m
  once := nodup_permissions_iff m
  once_written := List.nodup_map_iff permissionText_injective

/-- A companion app with a component that reads the log itself. -/
def logging : Manifest where
  project := default
  components := ComponentSets.none
  requirements := Requirements.none.set .permissions
    (NameMap.empty.insert "a.Logger" (NameSet.ofList [readLogs]))
  companion := true
  robot := none

/-- The same permission is asked for by two elements, one below the other. -/
theorem a_companion_can_ask_for_the_log_twice :
    logging.Needs readLogs ∧ logging.marks.filterMap Mark.permission? = [readLogs, readLogs] ∧
    (∃ before after, logging.render =
      before ++ (permissionText readLogs ++ permissionText readLogs) ++ after) ∧
    read (permissionText readLogs) = some [named "uses-permission" readLogs] := by
  have htwice : logging.permissions = [readLogs, readLogs] := by decide
  obtain ⟨before, after, hrender⟩ := render_eq_around_permissions logging
  refine ⟨by decide, ?_, ⟨before, after, ?_⟩, read_permissionText readLogs⟩
  · rw [filterMap_permission?, htwice]
  · rw [hrender, htwice]
    simp

end Manifest

end ApkForge
