-- What an app needs over all categories. They are collected one after the other, each from all
-- components whether these are used or not, so the first category in which a component has a flaw
-- ends the whole collection, on the first such component. Needs that were collected once are
-- collected again without any change.
import ApkForge.Proofs.Listings

namespace ApkForge

/-! ## The types of an app -/

namespace ComponentSets

theorem mem_foldl_add (catalog : Catalog) (types : List String) (s : ComponentSets) (n : String) :
    (n ∈ (types.foldl (add catalog) s).builtin ↔
      n ∈ types ∧ catalog.contains n = true ∨ n ∈ s.builtin) ∧
    (n ∈ (types.foldl (add catalog) s).extensions ↔
      n ∈ types ∧ catalog.contains n = false ∨ n ∈ s.extensions) := by
  induction types generalizing s with
  | nil => simp
  | cons m rest ih =>
    rw [List.foldl_cons]
    obtain ⟨hbuiltin, hextensions⟩ := ih (add catalog s m)
    rw [hbuiltin, hextensions]
    unfold add
    by_cases hn : n = m
    · subst hn
      cases hcatalog : catalog.contains n with
      | false => simp [NameSet.mem_insert]
      | true => simp [NameSet.mem_insert]
    · split
      · simp [NameSet.mem_insert, hn]
      · simp [NameSet.mem_insert, hn]

/-- A type is built in or of an extension, as the catalog says, and never both. -/
theorem mem_partition (types : List String) (catalog : Catalog) (n : String) :
    (n ∈ (partition types catalog).builtin ↔ n ∈ types ∧ catalog.contains n = true) ∧
    (n ∈ (partition types catalog).extensions ↔ n ∈ types ∧ catalog.contains n = false) := by
  obtain ⟨hbuiltin, hextensions⟩ := mem_foldl_add catalog types none n
  have hempty : ¬ n ∈ NameSet.empty := List.not_mem_nil
  unfold partition
  rw [hbuiltin, hextensions]
  exact ⟨or_iff_left hempty, or_iff_left hempty⟩

theorem uses_partition {types : List String} {catalog : Catalog} {n : String}
    (h : (partition types catalog).uses n = true) :
    n ∈ (partition types catalog).builtin ↔ n ∉ (partition types catalog).extensions := by
  obtain ⟨hbuiltin, hextensions⟩ := mem_partition types catalog n
  have hmem : n ∈ types := mem_of_uses h
  rw [hbuiltin, hextensions]
  cases catalog.contains n with
  | false => simp [hmem]
  | true => simp [hmem]

end ComponentSets

/-- A file of a component that is used comes from the runtime or from an extension. -/
theorem Components.failsOnly_resolve {sets : ComponentSets} {n : String} (h : sets.uses n = true)
    (relative : String) :
    FailsOnly (fun e => ∀ typeName, e ≠ .unknownType typeName) (resolve sets n relative) := by
  unfold resolve
  split
  · refine FailsOnly.bind ?_ fun path => failsOnly_pure _
    exact failsOnly_adapt fun e typeName => by simp
  · rename_i hbuiltin
    have hextension : sets.extensions.contains n = true := by
      rw [ComponentSets.uses, Bool.or_eq_true] at h
      exact h.resolve_left hbuiltin
    rw [if_pos hextension]
    refine FailsOnly.bind ?_ fun path => failsOnly_pure _
    exact failsOnly_adapt fun e typeName => by simp

theorem NameSet.isEmpty_of_mem {s : NameSet} {name : String} (h : name ∈ s) :
    s.isEmpty = false :=
  List.isEmpty_eq_false_iff_exists_mem.2 ⟨name, h⟩

namespace Requirements

/-! ## One category -/

/-- A table of permissions with those of the location. -/
def located (m : RequirementMap) : RequirementMap :=
  m.insert locationComponent
    (((m.get? locationComponent).getD NameSet.empty).union (NameSet.ofList locationPermissions))

theorem addLocation_eq (r : Requirements) :
    addLocation r = r.set .permissions (located (r.of .permissions)) := rfl

theorem get?_located (m : RequirementMap) (n : String) : (located m).get? n =
    if n = locationComponent then
      some (((m.get? n).getD NameSet.empty).union (NameSet.ofList locationPermissions))
    else m.get? n := by
  unfold located
  rw [NameMap.get?_insert]
  split
  · rename_i hn
    rw [hn]
  · rfl

/-- The permissions of the location are added once. -/
theorem located_located (m : RequirementMap) : located (located m) = located m := by
  refine NameMap.ext_get? fun n => ?_
  rw [get?_located (located m), get?_located m]
  split
  · rw [Option.getD_some, Option.some_inj]
    refine NameSet.ext_mem fun name => ?_
    simp only [NameSet.mem_union, or_assoc, or_self]
  · rfl

/-- What stands in a category once it has been collected from components without a flaw. -/
def gathered (infos : List ComponentInfo) (used : ComponentSets) (usesLocation : Bool)
    (c : Category) : RequirementMap :=
  if c == .permissions && usesLocation then
    located (infos.foldl (enter c used) NameMap.empty)
  else infos.foldl (enter c used) NameMap.empty

variable {infos : List ComponentInfo} {used : ComponentSets} {usesLocation : Bool} {c : Category}

theorem run_collectCategory (r : Requirements) :
    (collectCategory infos used usesLocation c).run r =
      match (collect c infos used).run r with
      | (.ok (), r') =>
        (.ok (), if c == .permissions && usesLocation then addLocation r' else r')
      | (.error e, r') => (.error (.stage c.stage (.catalog e)), r') := by
  have hadapt : (ExceptT.adapt (fun e => BuildError.stage c.stage (.catalog e))
      (collect c infos used)).run r =
      (((collect c infos used).run r).1.mapError fun e => .stage c.stage (.catalog e),
        ((collect c infos used).run r).2) := rfl
  unfold collectCategory
  rw [run_bind, hadapt]
  rcases (collect c infos used).run r with ⟨e | _, r'⟩
  · rfl
  · simp only [Except.mapError]
    split
    · rfl
    · rfl

/-- From components without a flaw a category is gathered. -/
theorem run_collectCategory_gathers (used : ComponentSets) (usesLocation : Bool)
    (h : ∀ info ∈ infos, info.Declares c) {r : Requirements} (hempty : (r.of c).isEmpty = true) :
    (collectCategory infos used usesLocation c).run r =
      (.ok (), r.set c (gathered infos used usesLocation c)) := by
  rw [run_collectCategory, run_collect_of_isEmpty hempty, run_forM_collectOne h]
  simp only
  rw [NameMap.eq_empty hempty]
  unfold gathered
  split
  · rename_i hlocation
    rw [Bool.and_eq_true, beq_iff_eq] at hlocation
    obtain ⟨rfl, -⟩ := hlocation
    rw [addLocation_eq, of_set, set_set]
  · rfl

/-- The first flaw in a category ends its collection. -/
theorem run_collectCategory_flaw (used : ComponentSets) (usesLocation : Bool)
    {before : List ComponentInfo} {info : ComponentInfo} {e : CatalogError}
    (h : FirstFlaw c infos before info e) {r : Requirements} (hempty : (r.of c).isEmpty = true) :
    ((collectCategory infos used usesLocation c).run r).1 =
      .error (.stage c.stage (.catalog e)) := by
  rw [run_collectCategory, run_collect_of_isEmpty hempty, run_forM_collectOne_flaw h]

/-- A category that has been gathered is gathered again without any change. -/
theorem run_collectCategory_again (h : ∀ info ∈ infos, info.Declares c) {r : Requirements}
    (hgathered : r.of c = gathered infos used usesLocation c) :
    (collectCategory infos used usesLocation c).run r = (.ok (), r) := by
  cases hempty : (r.of c).isEmpty with
  | true =>
    rw [run_collectCategory_gathers used usesLocation h hempty, ← hgathered, set_of]
  | false =>
    rw [run_collectCategory, run_collect_of_nonempty hempty]
    simp only
    split
    · rename_i hlocation
      unfold gathered at hgathered
      rw [if_pos hlocation] at hgathered
      rw [Bool.and_eq_true, beq_iff_eq] at hlocation
      obtain ⟨rfl, -⟩ := hlocation
      rw [addLocation_eq, hgathered, located_located, ← hgathered, set_of]
    · rfl

/-! ## All categories -/

/-- Categories that no component has a flaw in are all gathered. -/
theorem run_forM_gathers (used : ComponentSets) (usesLocation : Bool) {cs : List Category}
    (hdistinct : cs.Nodup) (h : ∀ c ∈ cs, ∀ info ∈ infos, info.Declares c) {r : Requirements}
    (hempty : ∀ c ∈ cs, (r.of c).isEmpty = true) :
    ∃ r', (cs.forM (collectCategory infos used usesLocation)).run r = (.ok (), r') ∧
      ∀ c, r'.of c = if c ∈ cs then gathered infos used usesLocation c else r.of c := by
  induction cs generalizing r with
  | nil => exact ⟨r, rfl, by simp⟩
  | cons d rest ih =>
    obtain ⟨hd, hrest⟩ := List.nodup_cons.1 hdistinct
    obtain ⟨hdeclares, hothers⟩ := List.forall_mem_cons.1 h
    have hfirst := run_collectCategory_gathers used usesLocation hdeclares
      (hempty d List.mem_cons_self)
    have hnext : ∀ c ∈ rest,
        ((r.set d (gathered infos used usesLocation d)).of c).isEmpty = true := by
      intro c hc
      have hne : c ≠ d := fun heq => hd (heq ▸ hc)
      rw [of_set_ne r hne]
      exact hempty c (List.mem_cons_of_mem d hc)
    obtain ⟨r', hrun, hof⟩ := ih hrest hothers hnext
    refine ⟨r', ?_, fun c => ?_⟩
    · rw [List.forM_eq_forM] at hrun ⊢
      rw [List.forM_cons, run_bind, hfirst]
      exact hrun
    · rw [hof]
      by_cases hc : c ∈ rest
      · simp [hc]
      · by_cases hcd : c = d
        · subst hcd
          simp [hc, of_set]
        · simp [hc, hcd, of_set_ne r hcd]

/-- The first category in which a component has a flaw ends the collection. -/
theorem run_forM_flaw {earlier later : List Category}
    (hdistinct : (earlier ++ c :: later).Nodup)
    (h : ∀ d ∈ earlier, ∀ info ∈ infos, info.Declares d) {before : List ComponentInfo}
    {info : ComponentInfo} {e : CatalogError} (hflaw : FirstFlaw c infos before info e)
    {r : Requirements} (hempty : ∀ d ∈ earlier ++ c :: later, (r.of d).isEmpty = true) :
    (((earlier ++ c :: later).forM (collectCategory infos used usesLocation)).run r).1 =
      .error (.stage c.stage (.catalog e)) := by
  rw [List.nodup_append] at hdistinct
  obtain ⟨hearlier, -, hapart⟩ := hdistinct
  obtain ⟨r', hrun, hof⟩ := run_forM_gathers used usesLocation hearlier h
    fun d hd => hempty d (List.mem_append_left _ hd)
  have hc : c ∉ earlier := fun hc => hapart c hc c List.mem_cons_self rfl
  have hnext : (r'.of c).isEmpty = true := by
    rw [hof, if_neg hc]
    exact hempty c (by simp)
  have hlast := run_collectCategory_flaw used usesLocation hflaw hnext
  rw [List.forM_eq_forM] at hrun ⊢
  rw [List.forM_append, run_bind, hrun]
  simp only
  rw [List.forM_cons, run_bind]
  rcases hend : (collectCategory infos used usesLocation c).run r' with ⟨e' | _, r''⟩
  · rw [hend] at hlast
    exact hlast
  · rw [hend] at hlast
    cases hlast

/-- Categories that have all been gathered are gathered again without any change. -/
theorem run_forM_again {cs : List Category} (h : ∀ c ∈ cs, ∀ info ∈ infos, info.Declares c)
    {r : Requirements} (hgathered : ∀ c ∈ cs, r.of c = gathered infos used usesLocation c) :
    (cs.forM (collectCategory infos used usesLocation)).run r = (.ok (), r) := by
  induction cs with
  | nil => rfl
  | cons d rest ih =>
    obtain ⟨hdeclares, hothers⟩ := List.forall_mem_cons.1 h
    obtain ⟨hd, hrest⟩ := List.forall_mem_cons.1 hgathered
    have hnext := ih hothers hrest
    rw [List.forM_eq_forM] at hnext ⊢
    rw [List.forM_cons, run_bind, run_collectCategory_again hdeclares hd]
    exact hnext

/-- Of categories that do not all go without a flaw, one is the first. -/
theorem exists_first_category (infos : List ComponentInfo) (cs : List Category) :
    (∀ c ∈ cs, ∀ info ∈ infos, info.Declares c) ∨
      ∃ earlier c later before info e, cs = earlier ++ c :: later ∧
        (∀ d ∈ earlier, ∀ i ∈ infos, i.Declares d) ∧ FirstFlaw c infos before info e := by
  induction cs with
  | nil => exact .inl (by simp)
  | cons d rest ih =>
    rcases exists_firstFlaw d infos with hd | ⟨before, info, e, hflaw⟩
    · rcases ih with hall | ⟨earlier, c, later, before, info, e, rfl, hearlier, hflaw⟩
      · exact .inl (List.forall_mem_cons.2 ⟨hd, hall⟩)
      · exact .inr ⟨d :: earlier, c, later, before, info, e, rfl,
          List.forall_mem_cons.2 ⟨hd, hearlier⟩, hflaw⟩
    · exact .inr ⟨[], d, rest, before, info, e, rfl, by simp, hflaw⟩

/-! ## What is gathered -/

/-- A row that is gathered is not empty, and stands for a type that is used or for the location. -/
theorem row_of_gathered {n : String} {names : NameSet}
    (h : (gathered infos used usesLocation c).get? n = some names) :
    names.isEmpty = false ∧ (used.uses n = true ∨
      c = .permissions ∧ usesLocation = true ∧ n = locationComponent) := by
  have hentered : ∀ names, (infos.foldl (enter c used) NameMap.empty).get? n = some names →
      names.isEmpty = false ∧ used.uses n = true := by
    intro names hnames
    rw [get?_foldl_enter_empty] at hnames
    split at hnames
    · rename_i hused
      rw [Option.map_eq_some_iff] at hnames
      obtain ⟨list, hlast, rfl⟩ := hnames
      obtain ⟨hne, -⟩ := mem_listings.1 (List.mem_of_getLast? hlast)
      rw [NameSet.isEmpty_ofList, List.isEmpty_eq_false_iff]
      exact ⟨hne, hused⟩
    · cases hnames
  unfold gathered at h
  split at h
  · rename_i hlocation
    rw [Bool.and_eq_true, beq_iff_eq] at hlocation
    rw [get?_located] at h
    split at h
    · rename_i hn
      cases h
      have hmem : "android.permission.ACCESS_FINE_LOCATION" ∈ locationPermissions :=
        List.mem_cons_self
      exact ⟨NameSet.isEmpty_of_mem (NameSet.mem_union.2 (.inr (NameSet.mem_ofList.2 hmem))),
        .inr ⟨hlocation.1, hlocation.2, hn⟩⟩
    · obtain ⟨hne, hused⟩ := hentered names h
      exact ⟨hne, .inl hused⟩
  · obtain ⟨hne, hused⟩ := hentered names h
    exact ⟨hne, .inl hused⟩

/-- With the location, its permissions are booked under its component. -/
theorem location_of_gathered (infos : List ComponentInfo) (used : ComponentSets) :
    ∃ names, (gathered infos used true .permissions).get? locationComponent = some names ∧
      ∀ p ∈ locationPermissions, p ∈ names := by
  have hlocated : gathered infos used true .permissions =
      located (infos.foldl (enter .permissions used) NameMap.empty) := rfl
  rw [hlocated, get?_located, if_pos rfl]
  refine ⟨_, rfl, fun p hp => ?_⟩
  exact NameSet.mem_union.2 (.inr (NameSet.mem_ofList.2 hp))

/-- A collection over all categories goes well exactly when no component has a flaw. -/
theorem run_collectAll (builtin extensions : List ComponentInfo) (used : ComponentSets)
    (usesLocation : Bool) :
    ((∀ c, ∀ info ∈ builtin ++ extensions, info.Declares c) ∧
      ∃ r, (collectAll builtin extensions used usesLocation).run Requirements.none = (.ok (), r) ∧
        ∀ c, r.of c = gathered (builtin ++ extensions) used usesLocation c) ∨
    ∃ earlier c later before info e, Category.all = earlier ++ c :: later ∧
      (∀ d ∈ earlier, ∀ i ∈ builtin ++ extensions, i.Declares d) ∧
      FirstFlaw c (builtin ++ extensions) before info e ∧
      ((collectAll builtin extensions used usesLocation).run Requirements.none).1 =
        .error (.stage c.stage (.catalog e)) := by
  have hdistinct : Category.all.Nodup := by decide
  unfold collectAll
  rcases exists_first_category (builtin ++ extensions) Category.all with
    hall | ⟨earlier, c, later, before, info, e, hsplit, hearlier, hflaw⟩
  · refine .inl ⟨fun c => hall c (Category.mem_all c), ?_⟩
    obtain ⟨r, hrun, hof⟩ := run_forM_gathers used usesLocation hdistinct hall
      (r := Requirements.none) fun _ _ => rfl
    exact ⟨r, hrun, fun c => by rw [hof, if_pos (Category.mem_all c)]⟩
  · refine .inr ⟨earlier, c, later, before, info, e, hsplit, hearlier, hflaw, ?_⟩
    rw [hsplit] at hdistinct ⊢
    exact run_forM_flaw hdistinct hearlier hflaw fun _ _ => rfl

/-! ## The law -/

/-- The needs of an app are collected from the catalog and the extensions exactly when no component,
used or not, has a flaw in any category; else the error is that of the first category with a flaw
and of the first component that has one there. Needs that are collected have no empty rows. Each row
stands for a type that was asked for, which is built in or of an extension and not both, so that its
files are always looked for in one of the two; only the location may be booked under a type that was
not asked for. Collected again, nothing changes. -/
theorem needs_are_collected_unless_a_component_has_a_flaw (types : List String) (catalog : Catalog)
    (builtin extensions : List ComponentInfo) (usesLocation : Bool) :
    let used := ComponentSets.partition types catalog
    let collecting := collectAll builtin extensions used usesLocation
    ((∃ e, (collecting.run Requirements.none).1 = .error e) ↔
      ∃ info ∈ builtin ++ extensions, ∃ c e, info.Flaw c e) ∧
    (∀ e, (collecting.run Requirements.none).1 = .error e →
      ∃ earlier c later before info flaw, Category.all = earlier ++ c :: later ∧
        (∀ d ∈ earlier, ∀ i ∈ builtin ++ extensions, i.Declares d) ∧
        FirstFlaw c (builtin ++ extensions) before info flaw ∧
        e = .stage c.stage (.catalog flaw)) ∧
    ∀ r, collecting.run Requirements.none = (.ok (), r) →
      (∀ c n names, (r.of c).get? n = some names → names.isEmpty = false ∧
        (n ∈ types ∧ (n ∈ used.builtin ↔ n ∉ used.extensions) ∨
          c = .permissions ∧ usesLocation = true ∧ n = locationComponent)) ∧
      (usesLocation = true → ∃ names, (r.of .permissions).get? locationComponent = some names ∧
        ∀ p ∈ locationPermissions, p ∈ names) ∧
      (∀ c ∈ [Category.assets, .libraries, .native], ∀ n names, (r.of c).get? n = some names →
        ∀ (relative : String) (w : Workspace) (typeName : String),
          ((Components.resolve used n relative).run w).1 ≠ .error (.unknownType typeName)) ∧
      collecting.run r = (.ok (), r) := by
  intro used collecting
  rcases run_collectAll builtin extensions used usesLocation with
    ⟨hdeclares, r, hrun, hof⟩ | ⟨earlier, c, later, before, info, e, hsplit, hearlier, hflaw, hend⟩
  · -- no component has a flaw
    refine ⟨⟨?_, ?_⟩, ?_, fun r' hr' => ?_⟩
    · rintro ⟨e, he⟩
      rw [hrun] at he
      cases he
    · rintro ⟨info, hinfo, c, e, hflaw⟩
      exact absurd hflaw (hdeclares c info hinfo e)
    · intro e he
      rw [hrun] at he
      cases he
    · obtain rfl : r = r' := congrArg Prod.snd (hrun.symm.trans hr')
      refine ⟨fun c n names hrow => ?_, fun hlocation => ?_, fun c hc n names hrow => ?_,
        run_forM_again (fun c _ => hdeclares c) fun c _ => hof c⟩
      · rw [hof] at hrow
        obtain ⟨hne, hused | hlocation⟩ := row_of_gathered hrow
        · exact ⟨hne, .inl ⟨ComponentSets.mem_of_uses hused, ComponentSets.uses_partition hused⟩⟩
        · exact ⟨hne, .inr hlocation⟩
      · subst hlocation
        rw [hof]
        exact location_of_gathered _ used
      · intro relative w typeName hfail
        rw [hof] at hrow
        obtain ⟨-, hused | ⟨rfl, -, -⟩⟩ := row_of_gathered hrow
        · exact Components.failsOnly_resolve hused relative w _ hfail typeName rfl
        · exact absurd hc (by decide)
  · -- the first flaw ends the collection
    refine ⟨⟨fun _ => ?_, fun _ => ⟨_, hend⟩⟩, fun e' he' => ?_, fun r hr => ?_⟩
    · obtain ⟨after, hfront⟩ := hflaw.front
      exact ⟨info, by simp [← hfront], c, e, hflaw.flaw⟩
    · rw [hend] at he'
      cases he'
      exact ⟨earlier, c, later, before, info, e, hsplit, hearlier, hflaw, rfl⟩
    · rw [hr] at hend
      cases hend

/-- A component that declares nothing, and its old receivers not as a list. -/
def odd : ComponentInfo := ⟨"b.Odd", [("broadcastReceiver", .null)]⟩

/-- A component that no one asked for stops a collection that goes well without it, twice. -/
theorem an_odd_component_stops_a_collection :
    (∃ e, ((collectAll [InspectReport.talker] [odd]
        (ComponentSets.partition ["a.Talker"] ⟨[InspectReport.talker]⟩) true).run
        Requirements.none).1 = .error e) ∧
    ∃ r, (collectAll [InspectReport.talker] []
        (ComponentSets.partition ["a.Talker"] ⟨[InspectReport.talker]⟩) true).run
        Requirements.none = (.ok (), r) ∧
      (collectAll [InspectReport.talker] []
        (ComponentSets.partition ["a.Talker"] ⟨[InspectReport.talker]⟩) true).run r = (.ok (), r) ∧
      ∃ names, (r.of .permissions).get? locationComponent = some names ∧
        ∀ p ∈ locationPermissions, p ∈ names := by
  constructor
  · refine (needs_are_collected_unless_a_component_has_a_flaw ["a.Talker"]
      ⟨[InspectReport.talker]⟩ [InspectReport.talker] [odd] true).1.2
      ⟨odd, by simp, .assets, _, .missing (by decide) ?_⟩
    decide
  · have htalker : ∀ c, InspectReport.talker.Declares c := fun c =>
      ComponentInfo.declares_iff.2 (by cases c <;> exact ⟨_, rfl⟩)
    obtain ⟨hfails, -, hgoes⟩ := needs_are_collected_unless_a_component_has_a_flaw ["a.Talker"]
      ⟨[InspectReport.talker]⟩ [InspectReport.talker] [] true
    rcases hrun : (collectAll [InspectReport.talker] []
      (ComponentSets.partition ["a.Talker"] ⟨[InspectReport.talker]⟩) true).run
      Requirements.none with ⟨e | _, r⟩
    · obtain ⟨info, hinfo, c, e', hflaw⟩ := hfails.1 ⟨e, congrArg Prod.fst hrun⟩
      rw [List.append_nil, List.mem_singleton] at hinfo
      subst hinfo
      exact absurd hflaw (htalker c e')
    · obtain ⟨-, hlocation, -, hagain⟩ := hgoes r hrun
      exact ⟨r, rfl, hagain, hlocation rfl⟩

end Requirements

end ApkForge
