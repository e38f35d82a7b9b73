-- A manifest read back. Whatever characters the names and versions of a project are made of, the
-- text of its manifest is read as one element with one application in it, and the values in it are
-- those that were put in. Only the markup that components declare is taken as it is.
import ApkForge.Manifest
import ApkForge.Proofs.Markup.Written

namespace ApkForge.Manifest

open Markup

/-! ## What a manifest says -/

/-- A name with each ampersand spelt out. -/
def spelt (name : String) : String :=
  String.ofList (name.toList.flatMap fun c => if c = '&' then ['a', 'n', 'd'] else [c])

/-- An element that only names something. -/
def named (tag name : String) : Node := .element tag [("android:name", name)] []

/-- What the manifest as a whole says: its package and its version. -/
def identity (m : Manifest) : List (String × String) :=
  Mark.androidSpace :: match m.robot with
    | some robot => [("package", robot.package), ("android:versionCode", robot.versionCode),
        ("android:versionName", robot.versionName)]
    | none => [("package", m.project.packageName),
        ("android:versionCode", m.project.versionCodeOrDefault),
        ("android:versionName", (m.project.versionName.map spelt).getD "1.0")]

/-- The features that a companion app can do without, and the one it needs. -/
def companionNodes : List Node :=
  softFeatures.map (fun f =>
    .element "uses-feature" [("android:name", f), ("android:required", "false")] []) ++
    [named "uses-feature" "android.hardware.wifi"]

/-- The features of a robot controller. -/
def robotNodes : List Node :=
  [named "uses-feature" "android.hardware.usb.accessory",
    .element "uses-feature" [("android:glEsVersion", "0x00020000")] [],
    named "uses-feature" "android.hardware.camera",
    named "uses-feature" "android.hardware.bluetooth"]

/-- The features that the app uses. -/
def featureNodes (m : Manifest) : List Node :=
  (if m.companion then companionNodes else []) ++ (if m.robot.isSome then robotNodes else [])

/-- The systems that the app is made for. -/
def systemNodes (m : Manifest) : List Node :=
  .element "uses-sdk" [("android:minSdkVersion", m.minSdk)] [] ::
    (m.robot.map fun r => .element "uses-sdk" [("android:targetSdkVersion", r.targetSdk)] []).toList

/-- What stands above the application. -/
def above (m : Manifest) : List Node :=
  m.featureNodes ++ m.permissions.map (named "uses-permission") ++ m.systemNodes

/-- The filter by which a screen is started. -/
def startNode (isMain : Bool) : Node :=
  .element "intent-filter" [] (named "action" "android.intent.action.MAIN" ::
    if isMain then [named "category" "android.intent.category.LAUNCHER"] else [])

/-- The filter by which a tag near the device starts a screen. -/
def nearFieldNode : Node :=
  .element "intent-filter" [] [named "action" "android.nfc.action.NDEF_DISCOVERED",
    named "category" "android.intent.category.DEFAULT",
    .element "data" [("android:mimeType", "text/plain")] []]

/-- The screen of a source. -/
def screenNode (m : Manifest) (s : SourceFile) : Node :=
  .element "activity" (m.screenTag s).attrs (startNode (m.project.isMain s) ::
    if m.nearField && m.project.isMain s then [nearFieldNode] else [])

/-- A receiver with its actions. -/
def receiverNode (r : LegacyReceiver) : Node :=
  .element "receiver" [("android:name", r.name)]
    (if r.actions.isEmpty then []
      else [.element "intent-filter" [] (r.actions.map (named "action"))])

/-- The markup that components declare, in the order in which it is written. -/
def declared (m : Manifest) : List String :=
  [Category.activities, .broadcastReceivers].flatMap fun c =>
    (m.requirements.of c).values.flatMap NameSet.toList

/-- What a manifest says: what stands above its application, what the application is called, and the
screens in it. -/
structure Says (m : Manifest) (called : List (String × String)) (screens : List Node) : Prop where
  alone : ∀ node ∈ m.above, node.name? ≠ some "application"
  asks : ∃ asked : List String, asked.Pairwise (· < ·) ∧
    (∀ p, p ∈ asked ↔ ∃ names ∈ (m.requirements.of .permissions).values, p ∈ names) ∧
    m.above.filterMap (Node.value? "uses-permission" "android:name") =
      asked ++ if m.companion then ["android.permission.READ_LOGS"] else []
  oldest : m.above.filterMap (Node.value? "uses-sdk" "android:minSdkVersion") = [m.minSdk]
  called_eq : m.robot = none → called = [("android:debuggable", "false"),
    ("android:label", ((m.project.appName.map spelt).filter fun n => n != "").getD m.project.name),
    ("android:icon", "@drawable/ya"), ("android:name", m.application)]
  screens_eq : m.robot = none → screens = m.project.sources.map m.screenNode
  screens_named : m.robot = none → screens.map (Node.value? "activity" "android:name") =
    m.project.sources.map fun s =>
      some (if m.project.isMain s then "." ++ m.project.className else s.qualifiedName)

/-! ## Names -/

/-- Pieces without ampersands, joined by the word, spell out the ampersands between them. -/
theorem join_and {pieces : List (List Char)} (h : ∀ p ∈ pieces, '&' ∉ p) :
    Text.join "and" (pieces.map String.ofList) = spelt (String.ofList (Text.glue '&' pieces)) := by
  have hplain {p : List Char} (hp : '&' ∉ p) :
      (p.flatMap fun c => if c = '&' then ['a', 'n', 'd'] else [c]) = p := by
    induction p with
    | nil => rfl
    | cons c rest ih =>
      rw [List.mem_cons, not_or] at hp
      rw [List.flatMap_cons, if_neg (Ne.symm hp.1), ih hp.2]
      rfl
  unfold spelt
  rw [String.toList_ofList]
  induction pieces with
  | nil => rfl
  | cons p rest ih =>
    have hp : '&' ∉ p := h p (List.mem_cons_self ..)
    have hrest := ih fun q hq => h q (List.mem_cons_of_mem _ hq)
    cases rest with
    | nil =>
      simp only [List.map_cons, List.map_nil, Text.join, Text.glue]
      rw [hplain hp]
    | cons q qs =>
      simp only [List.map_cons, Text.join, Text.glue] at hrest ⊢
      rw [hrest, List.flatMap_append, hplain hp, List.flatMap_cons, if_pos rfl,
        String.ofList_append, String.ofList_append, String.append_assoc]

/-- Cutting a name at its ampersands and joining it again spells them out. -/
theorem cleanName_eq (name : String) : cleanName name = spelt name := by
  unfold cleanName Text.split
  rw [join_and fun p hp => Text.not_mem_of_mem_pieces hp, Text.glue_pieces, String.ofList_toList]

theorem mem_foldl_union {sets : List NameSet} {s : NameSet} {name : String} :
    name ∈ sets.foldl NameSet.union s ↔ name ∈ s ∨ ∃ names ∈ sets, name ∈ names := by
  induction sets generalizing s with
  | nil => simp
  | cons t rest ih =>
    rw [List.foldl_cons, ih, NameSet.mem_union, or_assoc]
    simp

theorem mem_union {r : Requirements} {c : Category} {name : String} :
    name ∈ r.union c ↔ ∃ names ∈ (r.of c).values, name ∈ names := by
  unfold Requirements.union
  rw [mem_foldl_union]
  have hempty : name ∉ NameSet.empty := List.not_mem_nil
  simp [hempty]

theorem manifestTag_attrs (m : Manifest) : m.manifestTag.attrs = m.identity := by
  have hclean : cleanName = spelt := funext cleanName_eq
  unfold identity manifestTag package versionCode versionName
  rw [hclean]
  cases m.robot with
  | none => rfl
  | some robot => rfl

theorem applicationTag_attrs (m : Manifest) : m.applicationTag.attrs =
    [("android:debuggable", "false"),
      ("android:label",
        ((m.project.appName.map spelt).filter fun n => n != "").getD m.project.name),
      ("android:icon", "@drawable/ya"), ("android:name", m.application)] := by
  have hclean : cleanName = spelt := funext cleanName_eq
  unfold applicationTag label
  rw [hclean]
  rfl

/-! ## Above the application -/

theorem attrs_inline (name : String) (attrs : List (String × String)) :
    (Tag.inline name attrs).attrs = attrs := by
  simp [Tag.inline, Tag.attrs]

theorem shows_alone {name : String} {attrs : List (String × String)}
    (h : areNames name (attrs.map Prod.fst) = true) (indent : Nat) :
    Shows [stands indent name attrs] [.element name attrs []] := by
  have htag : Sound (Tag.inline name attrs) := by
    unfold Sound
    rw [attrs_inline]
    exact h
  have hshows := shows_stands htag indent
  rw [attrs_inline] at hshows
  exact hshows

theorem shows_naming {tag : String} (h : areNames tag ["android:name"] = true) (indent : Nat)
    (name : String) : Shows [naming indent tag name] [named tag name] :=
  shows_alone h indent

theorem shows_features (m : Manifest) : Shows m.features m.featureNodes := by
  have hname : areNames "uses-feature" ["android:name"] = true := by decide
  have hsoft : areNames "uses-feature" ["android:name", "android:required"] = true := by
    decide
  have hgraphics : areNames "uses-feature" ["android:glEsVersion"] = true := by decide
  have hcompanion : Shows companionFeatures companionNodes := by
    have hall : Shows (softFeatures.map fun f =>
        stands 2 "uses-feature" [("android:name", f), ("android:required", "false")])
        (softFeatures.map fun f =>
          .element "uses-feature" [("android:name", f), ("android:required", "false")] []) :=
      shows_map fun f _ => shows_alone hsoft 2
    exact hall.append (shows_naming hname 2 _)
  have hrobot : Shows robotFeatures robotNodes := by
    have hrest := (shows_naming hname 2 "android.hardware.camera").append
      (shows_naming hname 2 "android.hardware.bluetooth")
    exact (shows_naming hname 2 _).append ((shows_alone hgraphics 2).append hrest)
  unfold features featureNodes
  refine Shows.append ?_ ?_
  · split
    · exact hcompanion
    · exact shows_nil
  · split
    · exact hrobot
    · exact shows_nil

theorem shows_systems (m : Manifest) : Shows m.systems m.systemNodes := by
  have hmin : areNames "uses-sdk" ["android:minSdkVersion"] = true := by decide
  have htarget : areNames "uses-sdk" ["android:targetSdkVersion"] = true := by decide
  unfold systems systemNodes
  cases m.robot with
  | none => exact shows_alone hmin 2
  | some r => exact (shows_alone hmin 2).append (shows_alone htarget 2)

theorem shows_permissions (m : Manifest) :
    Shows (m.permissions.map (naming 2 "uses-permission"))
      (m.permissions.map (named "uses-permission")) := by
  have hnames : areNames "uses-permission" ["android:name"] = true := by decide
  exact shows_map fun p _ => shows_naming hnames 2 p

/-! ## Screens -/

theorem shows_filter {marks : List Mark} {nodes : List Node} (h : Shows marks nodes)
    (indent : Nat) : Shows (.opens indent (Tag.inline "intent-filter" []).tight ::
      (marks ++ [.closes indent "intent-filter"])) [.element "intent-filter" [] nodes] := by
  have hnames : areNames "intent-filter" [] = true := by decide
  have htag : Sound (Tag.inline "intent-filter" []).tight := hnames
  exact h.element htag indent indent

theorem shows_action (name : String) (indent : Nat) :
    Shows [naming indent "action" name] [named "action" name] :=
  shows_naming (by decide) indent name

theorem shows_category (name : String) (indent : Nat) :
    Shows [naming indent "category" name] [named "category" name] :=
  shows_naming (by decide) indent name

theorem shows_startFilter (isMain : Bool) : Shows (startFilter isMain) [startNode isMain] := by
  have hmain := shows_action "android.intent.action.MAIN" 8
  cases isMain with
  | true =>
    have hboth := hmain.append (shows_category "android.intent.category.LAUNCHER" 8)
    simpa [startFilter, startNode] using shows_filter hboth 6
  | false => simpa [startFilter, startNode] using shows_filter hmain 6

theorem shows_nearFieldFilter : Shows nearFieldFilter [nearFieldNode] := by
  have hnames : areNames "data" ["android:mimeType"] = true := by decide
  have hdata : Shows [stands 8 "data" [("android:mimeType", "text/plain")]] _ :=
    shows_alone hnames 8
  have hall := ((shows_action "android.nfc.action.NDEF_DISCOVERED" 8).append
    (shows_category "android.intent.category.DEFAULT" 8)).append hdata
  simpa [nearFieldFilter, nearFieldNode] using shows_filter hall 6

theorem sound_screenTag (m : Manifest) (s : SourceFile) : Sound (m.screenTag s) := by
  have hplain : areNames "activity" ["android:name", "android:windowSoftInputMode",
      "android:configChanges"] = true := by decide
  have hmode : areNames "activity" ["android:name", "android:launchMode",
      "android:windowSoftInputMode", "android:configChanges"] = true := by decide
  unfold screenTag
  split
  · exact hmode
  · split
    · exact hmode
    · exact hplain

theorem shows_screen (m : Manifest) (s : SourceFile) : Shows (m.screen s) [m.screenNode s] := by
  have hnear : Shows (if m.nearField && m.project.isMain s then nearFieldFilter else [])
      (if m.nearField && m.project.isMain s then [nearFieldNode] else []) := by
    split
    · exact shows_nearFieldFilter
    · exact shows_nil
  have hfilters := (shows_startFilter (m.project.isMain s)).append hnear
  exact hfilters.element (sound_screenTag m s) 4 4

/-! ## What components declare -/

theorem shows_receiver (r : LegacyReceiver) : Shows r.marks [receiverNode r] := by
  have hnames : areNames "receiver" ["android:name"] = true := by decide
  have htag : Sound (Tag.inline "receiver" [("android:name", r.name)]) := hnames
  have hfilter : Shows (LegacyReceiver.filterMarks r.actions) (if r.actions.isEmpty then []
      else [.element "intent-filter" [] (r.actions.map (named "action"))]) := by
    unfold LegacyReceiver.filterMarks
    split
    · exact shows_nil
    · exact shows_filter (shows_map fun a _ => shows_action a 4) 2
  exact hfilter.element htag 0 0

theorem fragments_eq (m : Manifest) :
    m.fragments .activities ++ m.fragments .broadcastReceivers = m.declared.map Mark.verbatim := by
  simp [fragments, declared, List.map_flatMap]

theorem shows_declared (m : Manifest) (h : ∀ text ∈ m.declared, (read text).isSome) :
    Shows (m.declared.map Mark.verbatim)
      (m.declared.flatMap fun text => (read text).getD []) := by
  rw [List.map_eq_flatMap]
  apply shows_flatMap
  intro text htext
  obtain ⟨nodes, hread⟩ := Option.isSome_iff_exists.1 (h text htext)
  rw [hread]
  exact shows_verbatim hread

/-! ## The application of a robot controller -/

theorem keys_android (attrs : List (String × String)) :
    (RobotApplication.android attrs).map Prod.fst =
      (attrs.map Prod.fst).map fun key => "android:" ++ key := by
  simp [RobotApplication.android]

theorem sound_stacked {name : String} (attrs : List (String × String))
    (h : areNames name ((attrs.map Prod.fst).map fun key => "android:" ++ key) = true) :
    Sound (Tag.stacked name (RobotApplication.android attrs)) := by
  unfold Sound
  have hattrs : (Tag.stacked name (RobotApplication.android attrs)).attrs =
      RobotApplication.android attrs := by
    simp [Tag.stacked, Tag.attrs, ← List.flatMap_def]
  rw [hattrs, keys_android]
  exact h

theorem naming_eq (tag name : String) (indent : Nat) :
    RobotApplication.naming tag name indent = naming indent tag name := by
  simp [RobotApplication.naming, RobotApplication.android, naming, stands]

theorem exists_shows_screen {s : RobotApplication.Screen}
    (h : areNames "activity" ((("name", s.className) :: s.attrs).map fun a => "android:" ++ a.1) =
      true) : ∃ nodes, Shows s.marks nodes := by
  have htag : Sound (Tag.stacked "activity"
      (RobotApplication.android (("name", s.className) :: s.attrs))).tight := by
    refine Sound.tight (sound_stacked _ ?_)
    rw [List.map_map]
    exact h
  unfold RobotApplication.Screen.marks
  cases s.launchedBy with
  | none => exact ⟨_, shows_nil.element htag 4 4⟩
  | some className =>
    have hboth := (shows_action (className ++ ".intent.action.Launch") 8).append
      (shows_category "android.intent.category.DEFAULT" 8)
    have hfilter : Shows (RobotApplication.launchFilter className)
        [.element "intent-filter" [] [named "action" (className ++ ".intent.action.Launch"),
          named "category" "android.intent.category.DEFAULT"]] := by
      simpa [RobotApplication.launchFilter, naming_eq] using shows_filter hboth 6
    exact ⟨_, hfilter.element htag 4 4⟩

theorem exists_shows_editor (e : RobotApplication.Editor) : ∃ nodes, Shows e.marks nodes := by
  have hnames : areNames "activity" (["name", "configChanges", "label",
      "windowSoftInputMode"].map fun key => "android:" ++ key) = true := by decide
  unfold RobotApplication.Editor.marks
  refine ⟨_, shows_nil.element ?_ 4 4⟩
  exact sound_stacked _ hnames

theorem exists_shows_mainScreen : ∃ nodes, Shows RobotApplication.mainScreen nodes := by
  have hscreen : areNames "activity" (["name", "configChanges", "label", "launchMode"].map
      fun key => "android:" ++ key) = true := by decide
  have hdata : areNames "meta-data" (["name", "resource"].map fun key => "android:" ++ key) =
      true := by decide
  have hattached := shows_filter (shows_action RobotApplication.deviceAttached 8) 6
  have hdevices := shows_stands (sound_stacked
    [("name", RobotApplication.deviceAttached), ("resource", "@xml/device_filter")] hdata) 6
  have hinside := ((shows_startFilter true).append hattached).append hdevices
  have hmain := hinside.element (sound_stacked
    [("name", "org.firstinspires.ftc.robotcontroller.internal.FtcRobotControllerActivity"),
      RobotApplication.turns, RobotApplication.label "AI_app_name",
      ("launchMode", "singleTask")] hscreen) 4 4
  simp only [startFilter, ↓reduceIte, List.cons_append, List.nil_append] at hmain
  unfold RobotApplication.mainScreen
  simp only [naming_eq]
  exact ⟨_, hmain⟩

theorem exists_shows_robot : ∃ nodes, Shows RobotApplication.marks.tail nodes := by
  have hservice : areNames "service" (["name", "enabled"].map fun key => "android:" ++ key) =
      true := by decide
  have hreceiver : areNames "receiver" (["name", "enabled", "exported"].map
      fun key => "android:" ++ key) = true := by decide
  have hscreens : (RobotApplication.controllerScreens ++ RobotApplication.programScreens).all
      (fun s => areNames "activity" ((("name", s.className) :: s.attrs).map
        fun a => "android:" ++ a.1)) = true := by decide
  rw [List.all_append, Bool.and_eq_true, List.all_eq_true, List.all_eq_true] at hscreens
  obtain ⟨hcontroller, hprogram⟩ := hscreens
  obtain ⟨mainNodes, hmain⟩ := exists_shows_mainScreen
  have hserves := shows_stands (sound_stacked
    [("name", "com.qualcomm.ftccommon.FtcRobotControllerService"), ("enabled", "true")] hservice) 4
  obtain ⟨controllerNodes, hcontroller⟩ := exists_shows_flatMap fun s hs =>
    exists_shows_screen (hcontroller s hs)
  obtain ⟨editorNodes, heditors⟩ : ∃ nodes, Shows
      (RobotApplication.editors.flatMap RobotApplication.Editor.marks) nodes :=
    exists_shows_flatMap fun e _ => exists_shows_editor e
  obtain ⟨programNodes, hprogram⟩ := exists_shows_flatMap fun s hs =>
    exists_shows_screen (hprogram s hs)
  have hreceives := shows_nil.element (sound_stacked
    [("name", "org.firstinspires.inspection.DeviceNameReceiver"), ("enabled", "true"),
      RobotApplication.exported] hreceiver).tight 4 4
  have hscreens := ((hcontroller.append heditors).append hprogram).append hreceives
  have htail : RobotApplication.marks.tail = RobotApplication.mainScreen ++
      ([RobotApplication.service] ++
        (RobotApplication.controllerScreens.flatMap RobotApplication.Screen.marks ++
          RobotApplication.editors.flatMap RobotApplication.Editor.marks ++
          RobotApplication.programScreens.flatMap RobotApplication.Screen.marks ++
          RobotApplication.receiver)) := rfl
  rw [htail]
  exact ⟨_, hmain.append (hserves.append hscreens)⟩

theorem sound_robot : Sound RobotApplication.applicationTag := by
  have hnames : areNames "application" (["allowBackup", "largeHeap", "icon", "label", "theme",
      "name"].map fun key => "android:" ++ key) = true := by decide
  exact sound_stacked _ hnames

/-! ## The whole -/

theorem name?_of_mem_featureNodes {m : Manifest} {node : Node} (h : node ∈ m.featureNodes) :
    node.name? = some "uses-feature" := by
  unfold featureNodes at h
  rw [List.mem_append] at h
  rcases h with h | h
  · split at h
    · simp only [companionNodes, List.mem_append, List.mem_map, List.mem_singleton] at h
      rcases h with ⟨f, _, rfl⟩ | rfl
      · rfl
      · rfl
    · cases h
  · split at h
    · simp only [robotNodes, List.mem_cons, List.not_mem_nil, or_false] at h
      rcases h with rfl | rfl | rfl | rfl <;> rfl
    · cases h

theorem name?_of_mem_systemNodes {m : Manifest} {node : Node} (h : node ∈ m.systemNodes) :
    node.name? = some "uses-sdk" := by
  unfold systemNodes at h
  rcases List.mem_cons.1 h with rfl | h
  · rfl
  · rw [Option.mem_toList, Option.map_eq_some_iff] at h
    obtain ⟨r, _, rfl⟩ := h
    rfl

/-- Elements of one name say nothing under another. -/
theorem filterMap_value?_of_name? {nodes : List Node} {name key : String} (other : String)
    (h : ∀ node ∈ nodes, node.name? = some other) (hne : other ≠ name) :
    nodes.filterMap (Node.value? name key) = [] := by
  rw [List.filterMap_eq_nil_iff]
  intro node hnode
  have hname := h node hnode
  cases node with
  | element found attrs children =>
    rw [Node.name?, Option.some.injEq] at hname
    rw [Node.value?, if_neg (by rwa [hname])]
  | letter c => rfl
  | instruction text => rfl

theorem above_not_application {m : Manifest} {node : Node} (h : node ∈ m.above) :
    node.name? ≠ some "application" := by
  unfold above at h
  rw [List.mem_append, List.mem_append, List.mem_map] at h
  rcases h with (h | ⟨p, _, rfl⟩) | h
  · rw [name?_of_mem_featureNodes h]
    decide
  · simp [named, Node.name?]
  · rw [name?_of_mem_systemNodes h]
    decide

theorem above_permissions (m : Manifest) :
    m.above.filterMap (Node.value? "uses-permission" "android:name") = m.permissions := by
  have hfeatures : m.featureNodes.filterMap (Node.value? "uses-permission" "android:name") = [] :=
    filterMap_value?_of_name? _ (fun _ h => name?_of_mem_featureNodes h) (by decide)
  have hsystems : m.systemNodes.filterMap (Node.value? "uses-permission" "android:name") = [] :=
    filterMap_value?_of_name? _ (fun _ h => name?_of_mem_systemNodes h) (by decide)
  have hown : (m.permissions.map (named "uses-permission")).filterMap
      (Node.value? "uses-permission" "android:name") = m.permissions := by
    rw [List.filterMap_map]
    exact List.filterMap_some
  unfold above
  rw [List.filterMap_append, List.filterMap_append, hfeatures, hown, hsystems]
  simp

theorem above_minSdk (m : Manifest) :
    m.above.filterMap (Node.value? "uses-sdk" "android:minSdkVersion") = [m.minSdk] := by
  have hfeatures : m.featureNodes.filterMap (Node.value? "uses-sdk" "android:minSdkVersion") = [] :=
    filterMap_value?_of_name? _ (fun _ h => name?_of_mem_featureNodes h) (by decide)
  have hpermissions : (m.permissions.map (named "uses-permission")).filterMap
      (Node.value? "uses-sdk" "android:minSdkVersion") = [] := by
    refine filterMap_value?_of_name? "uses-permission" ?_ (by decide)
    intro node hnode
    obtain ⟨p, _, rfl⟩ := List.mem_map.1 hnode
    rfl
  have hsystems : m.systemNodes.filterMap (Node.value? "uses-sdk" "android:minSdkVersion") =
      [m.minSdk] := by
    unfold systemNodes
    cases m.robot with
    | none => rfl
    | some r => rfl
  unfold above
  rw [List.filterMap_append, List.filterMap_append, hfeatures, hpermissions, hsystems]
  rfl

theorem sound_applicationTag (m : Manifest) : Sound m.applicationTag := by
  have hnames : areNames "application" ["android:debuggable", "android:label", "android:icon",
      "android:name"] = true := by decide
  exact hnames

theorem sound_manifestTag (m : Manifest) : Sound m.manifestTag := by
  have hnames : areNames "manifest" ["xmlns:android", "package", "android:versionCode",
      "android:versionName"] = true := by decide
  exact hnames

/-- The application opens with its tag, and its own screens come first in it. -/
theorem exists_shows_screens (m : Manifest) : ∃ tag marks screens,
    m.applicationMarks = .opens 2 tag :: marks ∧ tag.name = "application" ∧ Sound tag ∧
      Shows marks screens ∧ (m.robot = none → tag = m.applicationTag ∧
        screens = m.project.sources.map m.screenNode) := by
  unfold applicationMarks
  cases m.robot with
  | some robot =>
    obtain ⟨screens, hshows⟩ := exists_shows_robot
    exact ⟨_, _, screens, rfl, rfl, sound_robot, hshows, by simp⟩
  | none =>
    refine ⟨_, _, _, rfl, rfl, sound_applicationTag m, ?_, fun _ => ⟨rfl, rfl⟩⟩
    rw [List.map_eq_flatMap]
    exact shows_flatMap fun s _ => shows_screen m s

theorem screens_named_of (m : Manifest) :
    (m.project.sources.map m.screenNode).map (Node.value? "activity" "android:name") =
      m.project.sources.map fun s =>
        some (if m.project.isMain s then "." ++ m.project.className else s.qualifiedName) := by
  rw [List.map_map]
  apply List.map_congr_left
  intro s _
  rfl

theorem says_of (m : Manifest) {called : List (String × String)} {screens : List Node}
    (h : m.robot = none → called = m.applicationTag.attrs ∧
      screens = m.project.sources.map m.screenNode) : m.Says called screens where
  alone _ hnode := above_not_application hnode
  asks := by
    refine ⟨(m.requirements.union .permissions).toList,
      (m.requirements.union .permissions).ascending, fun p => mem_union, ?_⟩
    rw [above_permissions]
    rfl
  oldest := above_minSdk m
  called_eq hrobot := by
    rw [(h hrobot).1, applicationTag_attrs]
  screens_eq hrobot := (h hrobot).2
  screens_named hrobot := by
    rw [(h hrobot).2, screens_named_of]

/-- A manifest whose names would end their attributes and their tags if they were written as they
are, with a screen that a component declares. -/
def hostile : Manifest where
  project := { (default : Project) with
    name := "\"><application>\n"
    mainClass := "<x>.Screen1"
    versionName := some "1 & <2>"
    sources := [⟨"<x>.Screen1", default⟩, ⟨"<x>.'Screen2'", default⟩] }
  components := ComponentSets.none
  requirements := Requirements.none.set .activities (NameMap.empty.insert "Camera"
    (NameSet.ofList ["<activity android:name='.Shot'> <meta-data a=\"1 &gt; 0\"/></activity>"]))
  companion := false
  robot := none

end ApkForge.Manifest
