-- Components that an app does not use leave no mark on its report, wherever they stand in the
-- catalog, and the catalog may list its components in any order. A survey asks the catalog for the
-- types it has and takes one row from each component that is used; rows of distinct components make
-- the same table in whatever order they come.
import ApkForge.Proofs.Reports
import Mathlib.Data.List.Sort

namespace ApkForge

variable {α : Type}

/-! ## Rows of distinct names -/

theorem mem_rows_iff {rows : List (String × α)} (h : (rows.map Prod.fst).Pairwise (· < ·))
    {row : String × α} : row ∈ rows ↔ rows.lookup row.1 = some row.2 := by
  induction rows with
  | nil => simp
  | cons first rest ih =>
    rw [List.map_cons, List.pairwise_cons] at h
    rw [lookup_row, List.mem_cons]
    by_cases hname : row.1 = first.1
    · have hlater : row ∉ rest := fun hmem =>
        String.lt_irrefl first.1 (hname ▸ h.1 row.1 (List.mem_map_of_mem hmem))
      simp [hname, Prod.ext_iff, hlater, eq_comm]
    · have hfirst : row ≠ first := fun heq => hname (congrArg Prod.fst heq)
      simp [hname, hfirst, ih h.2]

namespace NameMap

/-- A table is told by the values it has for names. -/
theorem ext_get? {m m' : NameMap α} (h : ∀ n, m.get? n = m'.get? n) : m = m' := by
  obtain ⟨rows, ascending⟩ := m
  obtain ⟨rows', ascending'⟩ := m'
  have hrows : rows = rows' := by
    have hirrefl : Std.Irrefl fun a b : String × α => a.1 < b.1 :=
      ⟨fun a => String.lt_irrefl a.1⟩
    have hanti : Std.Antisymm fun a b : String × α => a.1 < b.1 :=
      ⟨fun a b hab hba => absurd (String.lt_trans hab hba) (String.lt_irrefl a.1)⟩
    refine List.Pairwise.eq_of_mem_iff (List.pairwise_map.1 ascending)
      (List.pairwise_map.1 ascending') fun row => ?_
    have hrow : rows.lookup row.1 = rows'.lookup row.1 := h row.1
    rw [mem_rows_iff ascending, mem_rows_iff ascending', hrow]
  subst hrows
  rfl

/-- Rows of two names are set in either order. -/
theorem insert_comm (m : NameMap α) {n k : String} (h : n ≠ k) (v w : α) :
    (m.insert n v).insert k w = (m.insert k w).insert n v := by
  refine ext_get? fun j => ?_
  rw [get?_insert, get?_insert, get?_insert, get?_insert]
  by_cases hk : j = k
  · simp [hk, Ne.symm h]
  · simp [hk]

end NameMap

/-- Steps that may change places pairwise may be taken in any order. -/
theorem forM_eq_of_perm {m : Type → Type} [Monad m] [LawfulMonad m] {f : α → m PUnit}
    {xs ys : List α} (h : xs.Perm ys)
    (comm : ∀ x ∈ xs, ∀ y ∈ xs, (do f x; f y) = (do f y; f x)) : xs.forM f = ys.forM f := by
  simp only [List.forM_eq_forM]
  induction h with
  | nil => rfl
  | cons x _ ih =>
    rw [List.forM_cons, List.forM_cons,
      ih fun a ha b hb => comm a (List.mem_cons_of_mem x ha) b (List.mem_cons_of_mem x hb)]
  | swap x y rest =>
    have hswap := comm y (by simp) x (by simp)
    simp only [List.forM_cons, ← bind_assoc, hswap]
  | trans hxz _ ih ih' =>
    rw [ih comm, ih' fun a ha b hb => comm a (hxz.mem_iff.2 ha) b (hxz.mem_iff.2 hb)]

/-! ## What a component adds -/

namespace ComponentInfo

/-- The component declares every category that it must, as a list of names. -/
def WellFormed (info : ComponentInfo) : Prop := ∀ c, ∃ names, info.declared c = .ok names

end ComponentInfo

namespace Requirements

theorem of_set (r : Requirements) (c : Category) (m : RequirementMap) : (r.set c m).of c = m := by
  simp [set]

theorem set_set (r : Requirements) (c : Category) (m m' : RequirementMap) :
    (r.set c m).set c m' = r.set c m' := by
  unfold set
  congr 1
  funext d
  by_cases h : d = c <;> simp [h]

/-- The needs with one more row in a category, unless there is none. -/
def book (c : Category) (typeName : String) (row : Option NameSet) (r : Requirements) :
    Requirements :=
  match row with
  | some needed => r.set c ((r.of c).insert typeName needed)
  | Option.none => r

theorem book_comm (c : Category) {n k : String} (h : n ≠ k) (row row' : Option NameSet)
    (r : Requirements) : book c k row' (book c n row r) = book c n row (book c k row' r) := by
  cases row with
  | none => rfl
  | some needed =>
    cases row' with
    | none => rfl
    | some needed' =>
      unfold book
      simp only [of_set, set_set]
      rw [NameMap.insert_comm _ h]

/-- A well-formed component adds at most one row, which is under its own type. -/
theorem collectOne_eq_book (c : Category) (used : ComponentSets) {info : ComponentInfo}
    (h : info.WellFormed) :
    ∃ row, collectOne c used info = modify (book c info.typeName row) ∧
      (used.uses info.typeName = false → row = Option.none) := by
  obtain ⟨names, hnames⟩ := h c
  unfold collectOne
  rw [hnames]
  cases names with
  | none => exact ⟨Option.none, rfl, fun _ => rfl⟩
  | some names =>
    simp only
    cases hneeded : used.uses info.typeName && !(NameSet.ofList names).isEmpty with
    | false => exact ⟨Option.none, rfl, fun _ => rfl⟩
    | true =>
      refine ⟨some (NameSet.ofList names), rfl, fun hunused => ?_⟩
      rw [hunused] at hneeded
      cases hneeded

/-- A component that is not used adds nothing. -/
theorem collectOne_of_unused (c : Category) {used : ComponentSets} {info : ComponentInfo}
    (h : info.WellFormed) (hunused : used.uses info.typeName = false) :
    collectOne c used info = pure () := by
  obtain ⟨row, hrow, hnone⟩ := collectOne_eq_book c used h
  rw [hrow, hnone hunused]
  rfl

theorem collectOne_comm (c : Category) (used : ComponentSets) {a b : ComponentInfo}
    (ha : a.WellFormed) (hb : b.WellFormed) (h : a.typeName ≠ b.typeName) :
    (do collectOne c used a; collectOne c used b) =
      (do collectOne c used b; collectOne c used a) := by
  obtain ⟨row, hrow, -⟩ := collectOne_eq_book c used ha
  obtain ⟨row', hrow', -⟩ := collectOne_eq_book c used hb
  rw [hrow, hrow']
  funext r
  exact congrArg (fun r' => (Except.ok (), r')) (book_comm c h row row' r)

/-- Needs are collected alike from catalogs that add alike in every category. -/
theorem collectAll_congr {builtin builtin' : List ComponentInfo} {used : ComponentSets}
    (h : ∀ c, builtin.forM (collectOne c used) = builtin'.forM (collectOne c used))
    (extensions : List ComponentInfo) (usesLocation : Bool) :
    collectAll builtin extensions used usesLocation =
      collectAll builtin' extensions used usesLocation := by
  simp only [List.forM_eq_forM] at h
  unfold collectAll collectCategory collect
  simp only [List.forM_eq_forM, List.forM_append, h]

end Requirements

/-! ## Catalogs that serve alike -/

/-- Types are parted alike by catalogs that have the same of them. -/
theorem ComponentSets.partition_congr {types : List String} {catalog catalog' : Catalog}
    (h : ∀ n ∈ types, catalog.contains n = catalog'.contains n) :
    partition types catalog = partition types catalog' := by
  unfold partition
  generalize none = s
  induction types generalizing s with
  | nil => rfl
  | cons n rest ih =>
    have hadd : add catalog s n = add catalog' s n := by
      unfold add
      rw [h n (by simp)]
    rw [List.foldl_cons, List.foldl_cons, hadd, ih fun m hm => h m (by simp [hm])]

theorem ComponentSets.uses_add (catalog : Catalog) (s : ComponentSets) (m n : String) :
    (add catalog s m).uses n = true ↔ n = m ∨ s.uses n = true := by
  unfold add uses
  split
  · simp only [Bool.or_eq_true, NameSet.contains_iff, NameSet.mem_insert, or_assoc]
  · simp only [Bool.or_eq_true, NameSet.contains_iff, NameSet.mem_insert]
    exact or_left_comm

/-- Only types that were asked for are used. -/
theorem ComponentSets.mem_of_uses {types : List String} {catalog : Catalog} {n : String}
    (h : (partition types catalog).uses n = true) : n ∈ types := by
  have hfold : ∀ (ts : List String) (s : ComponentSets),
      (ts.foldl (add catalog) s).uses n = true → n ∈ ts ∨ s.uses n = true := by
    intro ts
    induction ts with
    | nil => exact fun _ h => .inr h
    | cons m rest ih =>
      intro s h
      rcases ih _ h with hrest | hadd
      · exact .inl (List.mem_cons_of_mem m hrest)
      · rcases (uses_add catalog s m n).1 hadd with rfl | hbefore
        · exact .inl List.mem_cons_self
        · exact .inr hbefore
  rcases hfold types none h with hmem | hnone
  · exact hmem
  · cases hnone

/-- A report is the same from catalogs that have the same of the requested types and add alike in
every category. -/
theorem InspectReport.make_congr {types : List String} {catalog catalog' : Catalog}
    (hcontains : ∀ n ∈ types, catalog.contains n = catalog'.contains n)
    (hadds : ∀ c, catalog.components.forM
        (Requirements.collectOne c (ComponentSets.partition types catalog)) =
      catalog'.components.forM
        (Requirements.collectOne c (ComponentSets.partition types catalog)))
    (project : Project) (identity : RobotIdentity) (companion withManifest : Bool) :
    make project types catalog identity companion withManifest =
      make project types catalog' identity companion withManifest := by
  have htake : Survey.take project types catalog companion =
      Survey.take project types catalog' companion := by
    unfold Survey.take Survey.collectNeeds
    simp only [← ComponentSets.partition_congr hcontains, Requirements.collectAll_congr hadds]
  unfold make
  rw [htake]

/-! ## The law -/

namespace InspectReport

/-- A component of a type that is not requested may stand anywhere in the catalog or be left out. -/
theorem make_insert {types : List String} {info : ComponentInfo} (h : info.WellFormed)
    (hunused : info.typeName ∉ types) (before after : List ComponentInfo) (project : Project)
    (identity : RobotIdentity) (companion withManifest : Bool) :
    make project types ⟨before ++ info :: after⟩ identity companion withManifest =
      make project types ⟨before ++ after⟩ identity companion withManifest := by
  refine make_congr (fun n hn => ?_) (fun c => ?_) project identity companion withManifest
  · have hne : (info.typeName == n) = false := by
      simpa using fun heq : info.typeName = n => hunused (heq ▸ hn)
    simp [Catalog.contains, hne]
  · have hnone : (ComponentSets.partition types ⟨before ++ info :: after⟩).uses info.typeName =
        false := by
      simpa using fun huses => hunused (ComponentSets.mem_of_uses huses)
    simp only [List.forM_eq_forM, List.forM_append, List.forM_cons,
      Requirements.collectOne_of_unused c h hnone, pure_bind]

/-- A catalog of distinct types may list its components in any order. -/
theorem make_perm {components components' : List ComponentInfo}
    (hperm : components.Perm components')
    (hdistinct : (components.map ComponentInfo.typeName).Nodup)
    (h : ∀ info ∈ components, info.WellFormed) (types : List String) (project : Project)
    (identity : RobotIdentity) (companion withManifest : Bool) :
    make project types ⟨components⟩ identity companion withManifest =
      make project types ⟨components'⟩ identity companion withManifest := by
  refine make_congr (fun n _ => ?_) (fun c => ?_) project identity companion withManifest
  · exact hperm.any_eq
  · refine forM_eq_of_perm hperm fun a ha b hb => ?_
    by_cases hab : a = b
    · rw [hab]
    · exact Requirements.collectOne_comm c _ (h a ha) (h b hb) fun htype =>
        hab (List.inj_on_of_nodup_map hdistinct ha hb htype)

/-- A report ends alike, on its error or with all that it tells, when a well-formed component of a
type that is not requested is put anywhere into the catalog, and when a catalog of distinct types
and well-formed components is listed in another order. -/
theorem components_not_requested_leave_no_mark (project : Project) (types : List String)
    (identity : RobotIdentity) (companion withManifest : Bool) (w : Workspace) :
    (∀ (before after : List ComponentInfo) (info : ComponentInfo),
      info.WellFormed → info.typeName ∉ types →
        (make project types ⟨before ++ info :: after⟩ identity companion withManifest).run w =
          (make project types ⟨before ++ after⟩ identity companion withManifest).run w) ∧
    ∀ components components' : List ComponentInfo,
      components.Perm components' → (components.map ComponentInfo.typeName).Nodup →
      (∀ info ∈ components, info.WellFormed) →
        (make project types ⟨components⟩ identity companion withManifest).run w =
          (make project types ⟨components'⟩ identity companion withManifest).run w := by
  constructor
  · intro before after info h hunused
    rw [make_insert h hunused]
  · intro components components' hperm hdistinct h
    rw [make_perm hperm hdistinct h]

/-- The component that the location is booked under, with a permission of its own. -/
def viewer : ComponentInfo where
  typeName := Requirements.locationComponent
  fields := Category.all.map fun c =>
    (c.field, .arr (if c = .permissions then [.str "p.NET"] else []))

/-- A project that uses the location and asks for the talker only. -/
def located : Project := { (default : Project) with usesLocation := true }

/-- The location is booked under the viewer, which is in the catalog but not requested; the report
is the one of a catalog without it, and of one that lists it last. -/
theorem a_viewer_leaves_no_mark_on_a_talker :
    ((make located ["a.Talker"] ⟨[viewer, talker]⟩ bare.robot false true).run
        talking.workspace =
      (make located ["a.Talker"] ⟨[talker]⟩ bare.robot false true).run talking.workspace ∧
    (make located ["a.Talker"] ⟨[viewer, talker]⟩ bare.robot false true).run
        talking.workspace =
      (make located ["a.Talker"] ⟨[talker, viewer]⟩ bare.robot false true).run
        talking.workspace) ∧
    (match ((make located ["a.Talker"] ⟨[talker]⟩ bare.robot false true).run
        talking.workspace).1 with
      | .ok r => (r.needed .permissions).values.map NameSet.toList
      | .error _ => []) =
      [["p.TALK"], (NameSet.ofList Requirements.locationPermissions).toList] := by
  have hviewer : viewer.WellFormed := fun c => by cases c <;> exact ⟨_, rfl⟩
  have htalker : talker.WellFormed := fun c => by cases c <;> exact ⟨_, rfl⟩
  have hlaw := components_not_requested_leave_no_mark located ["a.Talker"] bare.robot false true
    talking.workspace
  refine ⟨⟨hlaw.1 [] [talker] viewer hviewer (by decide), ?_⟩, by decide +kernel⟩
  refine hlaw.2 [viewer, talker] [talker, viewer] (List.Perm.swap _ _ _) (by decide) ?_
  simp [hviewer, htalker]

end InspectReport

end ApkForge
