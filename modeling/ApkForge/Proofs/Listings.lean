-- What components list in a category, and what a collection makes of it. Components are taken in
-- order. Each that is used puts its list under its own type, in place of a list that was there; the
-- first that does not declare the category as it must ends the collection where it stands.
import ApkForge.Proofs.Interference

namespace ApkForge

/-! ## What a component declares -/

/-- A list of texts. -/
def Json.IsTexts (v : Json) : Prop := ∃ names : List String, v = .arr (names.map .str)

theorem Json.mapM_string?_eq_some {items : List Json} {names : List String} :
    items.mapM string? = some names ↔ items = names.map .str := by
  induction items generalizing names with
  | nil =>
    cases names with
    | nil => simp
    | cons n rest => simp
  | cons item rest ih =>
    rw [List.mapM_cons, Option.bind_eq_bind, Option.bind_eq_some_iff]
    constructor
    · rintro ⟨name, hname, hrest⟩
      rw [Option.bind_eq_bind, Option.bind_eq_some_iff] at hrest
      obtain ⟨others, hothers, hnames⟩ := hrest
      obtain rfl : name :: others = names := Option.some.inj hnames
      cases item with
      | str s =>
        obtain rfl : s = name := Option.some.inj hname
        rw [List.map_cons, ih.1 hothers]
      | _ => cases hname
    · intro h
      cases names with
      | nil => cases h
      | cons name others =>
        rw [List.map_cons] at h
        obtain ⟨rfl, hrest⟩ := List.cons.inj h
        refine ⟨name, rfl, ?_⟩
        rw [ih.2 hrest]
        rfl

theorem Json.strings?_eq_some {v : Json} {names : List String} :
    v.strings? = some names ↔ v = .arr (names.map .str) := by
  unfold strings?
  cases v with
  | arr items =>
    rw [items?, Option.bind_some, mapM_string?_eq_some]
    simp
  | _ => simp [items?]

namespace ComponentInfo

/-- The value of a member. Of members of one name the last counts. -/
def Holds (info : ComponentInfo) (name : String) (value : Json) : Prop :=
  ∃ before after, info.fields = before ++ (name, value) :: after ∧ ∀ m ∈ after, m.1 ≠ name

/-- What is wrong with a component in a category: a member is missing that may not be left out, or
there is one that is no list of texts. -/
inductive Flaw (info : ComponentInfo) (c : Category) : CatalogError → Prop where
  | missing (needed : c ≠ .broadcastReceiver) (absent : ∀ m ∈ info.fields, m.1 ≠ c.field) :
      Flaw info c (.missingField info.typeName c.field)
  | garbled {value : Json} (holds : info.Holds c.field value) (odd : ¬ value.IsTexts) :
      Flaw info c (.notStrings info.typeName c.field)

/-- The component declares a category as it must, whether it is used or not. -/
def Declares (info : ComponentInfo) (c : Category) : Prop := ∀ e, ¬ info.Flaw c e

theorem lookup_eq_some_iff_holds {info : ComponentInfo} {name : String} {value : Json} :
    info.fields.reverse.lookup name = some value ↔ info.Holds name value := by
  rw [List.lookup_eq_some_iff]
  constructor
  · rintro ⟨l₁, l₂, hsplit, hfirst⟩
    refine ⟨l₂.reverse, l₁.reverse, ?_, fun m hm => ?_⟩
    · rw [← List.reverse_reverse info.fields, hsplit]
      simp
    · exact (bne_iff_ne.1 (hfirst m (List.mem_reverse.1 hm))).symm
  · rintro ⟨before, after, hsplit, hlast⟩
    refine ⟨after.reverse, before.reverse, ?_, fun m hm => ?_⟩
    · rw [hsplit]
      simp
    · exact bne_iff_ne.2 (hlast m (List.mem_reverse.1 hm)).symm

theorem lookup_eq_none_iff_absent {info : ComponentInfo} {name : String} :
    info.fields.reverse.lookup name = none ↔ ∀ m ∈ info.fields, m.1 ≠ name := by
  rw [List.lookup_eq_none_iff]
  constructor
  · intro h m hm
    exact (bne_iff_ne.1 (h m (List.mem_reverse.2 hm))).symm
  · intro h m hm
    exact bne_iff_ne.2 (h m (List.mem_reverse.1 hm)).symm

/-- Asking a component fails exactly on its flaw. -/
theorem declared_eq_error {info : ComponentInfo} {c : Category} {e : CatalogError} :
    info.declared c = .error e ↔ info.Flaw c e := by
  have hoptional : c.isOptional = true ↔ c = .broadcastReceiver := by
    cases c <;> decide
  unfold declared
  cases hfield : info.fields.reverse.lookup c.field with
  | none =>
    have habsent := lookup_eq_none_iff_absent.1 hfield
    constructor
    · intro h
      simp only at h
      split at h
      · cases h
      · rename_i hneeded
        cases h
        exact .missing (fun heq => hneeded (hoptional.2 heq)) habsent
    · intro h
      cases h with
      | missing needed absent =>
        have hneeded : ¬ c.isOptional = true := fun h => needed (hoptional.1 h)
        simp only
        rw [if_neg hneeded]
      | garbled holds odd =>
        rw [lookup_eq_some_iff_holds.2 holds] at hfield
        cases hfield
  | some value =>
    have hholds := lookup_eq_some_iff_holds.1 hfield
    constructor
    · intro h
      simp only at h
      split at h
      · cases h
      · rename_i hodd
        cases h
        refine .garbled hholds ?_
        rintro ⟨names, rfl⟩
        rw [Json.strings?_eq_some.2 rfl] at hodd
        cases hodd
    · intro h
      cases h with
      | missing needed absent =>
        rw [lookup_eq_none_iff_absent.2 absent] at hfield
        cases hfield
      | garbled holds odd =>
        rename_i value'
        rw [lookup_eq_some_iff_holds.2 holds] at hfield
        obtain rfl : value' = value := Option.some.inj hfield
        simp only
        split
        · rename_i names hnames
          exact absurd ⟨names, Json.strings?_eq_some.1 hnames⟩ odd
        · rfl

theorem declares_iff {info : ComponentInfo} {c : Category} :
    info.Declares c ↔ ∃ names, info.declared c = .ok names := by
  unfold Declares
  simp only [← declared_eq_error]
  cases info.declared c with
  | error e => simp
  | ok names => simp

/-- The names that a component lists in a category; none if it says nothing about it. -/
def listed (c : Category) (info : ComponentInfo) : List String :=
  match info.declared c with
  | .ok (some names) => names
  | _ => []

end ComponentInfo

/-- The first of several components that has a flaw in a category: all of `before` declare it as
they must. -/
structure FirstFlaw (c : Category) (infos before : List ComponentInfo) (info : ComponentInfo)
    (e : CatalogError) : Prop where
  front : before ++ [info] <+: infos
  declares : ∀ b ∈ before, b.Declares c
  flaw : info.Flaw c e

/-- Of components that do not all declare a category as they must, one is the first. -/
theorem exists_firstFlaw (c : Category) (infos : List ComponentInfo) :
    (∀ info ∈ infos, info.Declares c) ∨ ∃ before info e, FirstFlaw c infos before info e := by
  induction infos with
  | nil => exact .inl (by simp)
  | cons first rest ih =>
    by_cases hfirst : first.Declares c
    · rcases ih with hall | ⟨before, info, e, hfront, hdeclares, hflaw⟩
      · exact .inl (List.forall_mem_cons.2 ⟨hfirst, hall⟩)
      · refine .inr ⟨first :: before, info, e, ?_, ?_, hflaw⟩
        · rw [List.cons_append]
          exact (List.prefix_cons_inj first).2 hfront
        · exact List.forall_mem_cons.2 ⟨hfirst, hdeclares⟩
    · unfold ComponentInfo.Declares at hfirst
      rw [not_forall_not] at hfirst
      obtain ⟨e, hflaw⟩ := hfirst
      exact .inr ⟨[], first, e, by simp, by simp, hflaw⟩

/-! ## Lists of a type -/

/-- The lists for a type in a category, one from each component of the type that lists anything, in
the order of the components. -/
def listings (c : Category) (infos : List ComponentInfo) (typeName : String) :
    List (List String) :=
  ((infos.filter fun info => info.typeName == typeName).map
    (ComponentInfo.listed c)).filter fun names => !names.isEmpty

/-- The names that all components of a type list in a category together. -/
def listedTogether (c : Category) (infos : List ComponentInfo) (typeName : String) : NameSet :=
  NameSet.ofList ((infos.filter fun info => info.typeName == typeName).flatMap
    (ComponentInfo.listed c))

theorem mem_listings {c : Category} {infos : List ComponentInfo} {n : String}
    {names : List String} : names ∈ listings c infos n ↔
      names ≠ [] ∧ ∃ info ∈ infos, info.typeName = n ∧ info.listed c = names := by
  simp only [listings, List.mem_filter, List.mem_map, beq_iff_eq, Bool.not_eq_true',
    List.isEmpty_eq_false_iff, and_assoc]
  exact and_comm

theorem mem_listedTogether {c : Category} {infos : List ComponentInfo} {n name : String} :
    name ∈ listedTogether c infos n ↔ ∃ names ∈ listings c infos n, name ∈ names := by
  simp only [listedTogether, NameSet.mem_ofList, List.mem_flatMap, List.mem_filter, beq_iff_eq,
    mem_listings]
  constructor
  · rintro ⟨info, ⟨hinfo, htype⟩, hname⟩
    exact ⟨info.listed c, ⟨List.ne_nil_of_mem hname, info, hinfo, htype, rfl⟩, hname⟩
  · rintro ⟨_, ⟨-, info, hinfo, htype, rfl⟩, hname⟩
    exact ⟨info, ⟨hinfo, htype⟩, hname⟩

theorem isEmpty_listedTogether {c : Category} {infos : List ComponentInfo} {n : String} :
    (listedTogether c infos n).isEmpty = true ↔ listings c infos n = [] := by
  rw [NameSet.isEmpty, List.isEmpty_iff, List.eq_nil_iff_forall_not_mem,
    List.eq_nil_iff_forall_not_mem]
  simp only [← NameSet.mem_def, mem_listedTogether]
  constructor
  · intro h names hnames
    obtain ⟨hne, -⟩ := mem_listings.1 hnames
    obtain ⟨name, hname⟩ := List.exists_mem_of_ne_nil names hne
    exact h name ⟨names, hnames, hname⟩
  · rintro h name ⟨names, hnames, -⟩
    exact h names hnames

theorem listings_cons (c : Category) (info : ComponentInfo) (rest : List ComponentInfo)
    (n : String) : listings c (info :: rest) n =
      if info.typeName = n ∧ info.listed c ≠ [] then info.listed c :: listings c rest n
      else listings c rest n := by
  unfold listings
  by_cases htype : info.typeName = n
  · by_cases hlisted : info.listed c = []
    · simp [htype, hlisted]
    · simp [htype, hlisted]
  · simp [htype]

/-- A set is told by its members. -/
theorem NameSet.ext_mem {s t : NameSet} (h : ∀ name, name ∈ s ↔ name ∈ t) : s = t := by
  obtain ⟨names, ascending⟩ := s
  obtain ⟨names', ascending'⟩ := t
  have hnames : names = names' := by
    have hirrefl : Std.Irrefl fun a b : String => a < b := ⟨String.lt_irrefl⟩
    have hanti : Std.Antisymm fun a b : String => a < b :=
      ⟨fun a b hab hba => absurd (String.lt_trans hab hba) (String.lt_irrefl a)⟩
    exact List.Pairwise.eq_of_mem_iff ascending ascending' h
  subst hnames
  rfl

theorem NameSet.isEmpty_ofList (names : List String) :
    (NameSet.ofList names).isEmpty = names.isEmpty := by
  rw [Bool.eq_iff_iff, NameSet.isEmpty, List.isEmpty_iff, List.isEmpty_iff]
  simp only [List.eq_nil_iff_forall_not_mem, ← NameSet.mem_def, NameSet.mem_ofList]

namespace Requirements

/-! ## A collection -/

/-- A table with what one component lists in a category. It takes the place of what stood there for
the type. -/
def enter (c : Category) (used : ComponentSets) (m : RequirementMap) (info : ComponentInfo) :
    RequirementMap :=
  if used.uses info.typeName && !(info.listed c).isEmpty then
    m.insert info.typeName (NameSet.ofList (info.listed c))
  else m

theorem get?_enter_of_ne (c : Category) (used : ComponentSets) (m : RequirementMap)
    {info : ComponentInfo} {n : String} (h : info.typeName ≠ n) :
    (enter c used m info).get? n = m.get? n := by
  unfold enter
  split
  · rw [NameMap.get?_insert, if_neg h.symm]
  · rfl

/-- What a table holds for a type once components were entered: the last list of the type, if the
type is used and has a list, and else what it held before. -/
theorem get?_foldl_enter (c : Category) (used : ComponentSets) (infos : List ComponentInfo)
    (m : RequirementMap) (n : String) : (infos.foldl (enter c used) m).get? n =
      if used.uses n then ((listings c infos n).getLast?.map NameSet.ofList).or (m.get? n)
      else m.get? n := by
  induction infos generalizing m with
  | nil => simp [listings]
  | cons info rest ih =>
    rw [List.foldl_cons, ih, listings_cons]
    by_cases hn : info.typeName = n
    · subst hn
      unfold enter
      by_cases hlisted : info.listed c = []
      · simp [hlisted]
      · cases hused : used.uses info.typeName with
        | false => simp
        | true =>
          cases hlast : (listings c rest info.typeName).getLast? with
          | none =>
            rw [List.getLast?_eq_none_iff] at hlast
            simp [hlisted, hlast, NameMap.get?_insert]
          | some last =>
            simp [hlisted, hlast, List.getLast?_cons]
    · simp [get?_enter_of_ne c used m hn, hn]

/-- What an empty table holds for a type once components were entered. -/
theorem get?_foldl_enter_empty (c : Category) (used : ComponentSets) (infos : List ComponentInfo)
    (n : String) : (infos.foldl (enter c used) NameMap.empty).get? n =
      if used.uses n then (listings c infos n).getLast?.map NameSet.ofList else Option.none := by
  have hempty : NameMap.empty.get? n = (Option.none : Option NameSet) := rfl
  rw [get?_foldl_enter, hempty, Option.or_none]

theorem set_of (r : Requirements) (c : Category) : r.set c (r.of c) = r := by
  obtain ⟨needs⟩ := r
  unfold set
  congr 1
  funext d
  by_cases h : d = c
  · rw [if_pos h, h]
  · rw [if_neg h]

theorem of_set_ne (r : Requirements) {c d : Category} (h : d ≠ c) (m : RequirementMap) :
    (r.set c m).of d = r.of d := if_neg h

/-- A component that declares a category as it must is entered. -/
theorem run_collectOne {c : Category} {info : ComponentInfo} (h : info.Declares c)
    (used : ComponentSets) (r : Requirements) :
    (collectOne c used info).run r = (.ok (), r.set c (enter c used (r.of c) info)) := by
  obtain ⟨names, hnames⟩ := ComponentInfo.declares_iff.1 h
  unfold collectOne enter ComponentInfo.listed
  rw [hnames]
  cases names with
  | none =>
    simp only [List.isEmpty_nil, Bool.not_true, Bool.and_false, Bool.false_eq_true, if_false,
      set_of]
    rfl
  | some names =>
    simp only [NameSet.isEmpty_ofList]
    split
    · rfl
    · rw [set_of]
      rfl

/-- A component with a flaw ends the collection and enters nothing. -/
theorem run_collectOne_flaw {c : Category} {info : ComponentInfo} {e : CatalogError}
    (h : info.Flaw c e) (used : ComponentSets) (r : Requirements) :
    (collectOne c used info).run r = (.error e, r) := by
  unfold collectOne
  rw [ComponentInfo.declared_eq_error.2 h]
  rfl

/-- Components that all declare a category are entered one after the other. -/
theorem run_forM_collectOne {c : Category} {infos : List ComponentInfo}
    (h : ∀ info ∈ infos, info.Declares c) (used : ComponentSets) (r : Requirements) :
    (infos.forM (collectOne c used)).run r =
      (.ok (), r.set c (infos.foldl (enter c used) (r.of c))) := by
  induction infos generalizing r with
  | nil =>
    rw [List.foldl_nil, set_of]
    rfl
  | cons info rest ih =>
    obtain ⟨hinfo, hrest⟩ := List.forall_mem_cons.1 h
    rw [List.forM_eq_forM, List.forM_cons, run_bind, run_collectOne hinfo]
    simp only
    rw [← List.forM_eq_forM, ih hrest, of_set, set_set, List.foldl_cons]

/-- The components before the first flaw are entered, and no others. -/
theorem run_forM_collectOne_flaw {c : Category} {infos before : List ComponentInfo}
    {info : ComponentInfo} {e : CatalogError} (h : FirstFlaw c infos before info e)
    (used : ComponentSets) (r : Requirements) :
    (infos.forM (collectOne c used)).run r =
      (.error e, r.set c (before.foldl (enter c used) (r.of c))) := by
  obtain ⟨⟨after, hsplit⟩, hdeclares, hflaw⟩ := h
  have hbefore := run_forM_collectOne hdeclares used r
  rw [List.forM_eq_forM] at hbefore ⊢
  rw [← hsplit, List.append_assoc, List.forM_append, run_bind, hbefore]
  simp only
  rw [List.singleton_append, List.forM_cons, run_bind, run_collectOne_flaw hflaw]

/-- A category that has been collected is left alone. -/
theorem run_collect_of_nonempty {c : Category} {r : Requirements} (h : (r.of c).isEmpty = false)
    (infos : List ComponentInfo) (used : ComponentSets) :
    (collect c infos used).run r = (.ok (), r) := by
  unfold collect
  rw [run_bind]
  change (if (r.of c).isEmpty = true then infos.forM (collectOne c used) else pure ()).run r = _
  rw [h]
  rfl

/-- One that has not been collected is filled from the components. -/
theorem run_collect_of_isEmpty {c : Category} {r : Requirements} (h : (r.of c).isEmpty = true)
    (infos : List ComponentInfo) (used : ComponentSets) :
    (collect c infos used).run r = (infos.forM (collectOne c used)).run r := by
  unfold collect
  rw [run_bind]
  change (if (r.of c).isEmpty = true then infos.forM (collectOne c used) else pure ()).run r = _
  rw [if_pos h]

/-! ## Collections that fail -/

/-- Nothing is entered exactly when the components that are used list nothing. -/
theorem foldl_enter_eq_empty_iff {c : Category} {used : ComponentSets}
    {infos : List ComponentInfo} : infos.foldl (enter c used) NameMap.empty = NameMap.empty ↔
      ∀ info ∈ infos, used.uses info.typeName = true → info.listed c = [] := by
  constructor
  · intro h info hinfo hused
    have hget := get?_foldl_enter_empty c used infos info.typeName
    rw [h, if_pos hused] at hget
    -- the table is empty, so the type has no list
    cases hlast : (listings c infos info.typeName).getLast? with
    | some last =>
      rw [hlast] at hget
      cases hget
    | none =>
      rw [List.getLast?_eq_none_iff] at hlast
      by_contra hlisted
      have hmem := mem_listings.2 ⟨hlisted, info, hinfo, rfl, rfl⟩
      rw [hlast] at hmem
      cases hmem
  · intro h
    refine NameMap.ext_get? fun n => ?_
    rw [get?_foldl_enter_empty]
    split
    · rename_i hused
      have hnone : listings c infos n = [] := by
        refine List.eq_nil_iff_forall_not_mem.2 fun names hnames => ?_
        obtain ⟨hne, info, hinfo, rfl, rfl⟩ := mem_listings.1 hnames
        exact hne (h info hinfo hused)
      rw [hnone]
      rfl
    · rfl

/-- A collection that was not made before fails exactly when a component has a flaw, and its error
is that of the first. -/
theorem run_collect_eq_error {c : Category} {infos : List ComponentInfo} {used : ComponentSets}
    {r r' : Requirements} {e : CatalogError} :
    (collect c infos used).run r = (.error e, r') ↔ (r.of c).isEmpty = true ∧
      ∃ before info, FirstFlaw c infos before info e ∧
        r' = r.set c (before.foldl (enter c used) (r.of c)) := by
  constructor
  · intro h
    cases hempty : (r.of c).isEmpty with
    | false =>
      rw [run_collect_of_nonempty hempty] at h
      cases h
    | true =>
      rw [run_collect_of_isEmpty hempty] at h
      rcases exists_firstFlaw c infos with hall | ⟨before, info, e', hfirst⟩
      · rw [run_forM_collectOne hall] at h
        cases h
      · rw [run_forM_collectOne_flaw hfirst] at h
        cases h
        exact ⟨rfl, before, info, hfirst, rfl⟩
  · rintro ⟨hempty, before, info, hfirst, rfl⟩
    rw [run_collect_of_isEmpty hempty, run_forM_collectOne_flaw hfirst]

/-- A collection fails exactly when the category was not collected before and a component has a
flaw in it, used or not. It then keeps what the components before the first flaw list, so nothing
has changed only if those that are used list nothing. In that case a later collection from
components without a flaw is as good as a first one; in any other it goes well and does nothing. -/
theorem a_failed_collection_keeps_what_came_first (c : Category) (infos : List ComponentInfo)
    (used : ComponentSets) (r : Requirements) :
    ((∃ e, ((collect c infos used).run r).1 = .error e) ↔
      (r.of c).isEmpty = true ∧ ∃ info ∈ infos, ¬ info.Declares c) ∧
    ∀ e r', (collect c infos used).run r = (.error e, r') →
      ∃ before info, FirstFlaw c infos before info e ∧ (∀ d, d ≠ c → r'.of d = r.of d) ∧
        (∀ n, (r'.of c).get? n =
          if used.uses n then (listings c before n).getLast?.map NameSet.ofList
          else Option.none) ∧
        (r' = r ↔ ∀ b ∈ before, used.uses b.typeName = true → b.listed c = []) ∧
        ∀ (later : List ComponentInfo) (used' : ComponentSets),
          (∀ l ∈ later, l.Declares c) →
          ((collect c later used').run r').1 = .ok () ∧
          (r' = r → ((collect c later used').run r').2.of c =
            ((collect c later used').run Requirements.none).2.of c) ∧
          (r' ≠ r → ((collect c later used').run r').2 = r') := by
  constructor
  · constructor
    · rintro ⟨e, h⟩
      obtain ⟨hempty, before, info, hfirst, -⟩ := run_collect_eq_error.1 (Prod.ext h rfl)
      obtain ⟨after, rfl⟩ := hfirst.front
      exact ⟨hempty, info, by simp, fun h => h e hfirst.flaw⟩
    · rintro ⟨hempty, info, hinfo, hflaw⟩
      rcases exists_firstFlaw c infos with hall | ⟨before, first, e, hfirst⟩
      · exact absurd (hall info hinfo) hflaw
      · exact ⟨e, congrArg Prod.fst (run_collect_eq_error.2 ⟨hempty, before, first, hfirst, rfl⟩)⟩
  · intro e r' h
    obtain ⟨hempty, before, info, hfirst, rfl⟩ := run_collect_eq_error.1 h
    have hnone := NameMap.eq_empty hempty
    -- what stands in the category now tells whether anything has changed
    have hsame : r.set c (before.foldl (enter c used) (r.of c)) = r ↔
        before.foldl (enter c used) NameMap.empty = NameMap.empty := by
      rw [hnone]
      constructor
      · intro hr
        rw [← of_set r c (before.foldl (enter c used) NameMap.empty), hr, hnone]
      · intro hr
        rw [hr, ← hnone, set_of]
    refine ⟨before, info, hfirst, fun d hd => of_set_ne r hd _, fun n => ?_,
      hsame.trans foldl_enter_eq_empty_iff, fun later used' hlater => ?_⟩
    · rw [of_set, hnone, get?_foldl_enter_empty]
    · by_cases hr : r.set c (before.foldl (enter c used) (r.of c)) = r
      · rw [hr, run_collect_of_isEmpty hempty, run_forM_collectOne hlater,
          run_collect_of_isEmpty rfl, run_forM_collectOne hlater, of_set, of_set, hnone]
        exact ⟨rfl, fun _ => rfl, fun h => absurd rfl h⟩
      · have hfull : ((r.set c (before.foldl (enter c used) (r.of c))).of c).isEmpty = false := by
          rw [of_set, hnone, ← Bool.not_eq_true]
          exact fun h => hr (hsame.2 (NameMap.eq_empty h))
        rw [run_collect_of_nonempty hfull]
        exact ⟨rfl, fun h => absurd h hr, fun _ => rfl⟩

/-- A component that asks for permissions and says nothing else. -/
def asking (typeName : String) (permissions : List String) : ComponentInfo :=
  ⟨typeName, [("permissions", .arr (permissions.map .str))]⟩

theorem declares_asking (typeName : String) (permissions : List String) :
    (asking typeName permissions).Declares .permissions := by
  refine ComponentInfo.declares_iff.2 ⟨some permissions, ?_⟩
  have hfield : (asking typeName permissions).fields.reverse.lookup Category.permissions.field =
      some (.arr (permissions.map .str)) := rfl
  unfold ComponentInfo.declared
  rw [hfield]
  simp only
  rw [Json.strings?_eq_some.2 rfl]

/-- An app that talks and hears. -/
def talkingAndHearing : ComponentSets :=
  ⟨NameSet.ofList ["a.Talker", "a.Hearer"], NameSet.empty⟩

/-- A component that says nothing about permissions stops the collection after the talker is booked.
The table is not what it was, and a second collection, from components without a flaw, leaves out
what a first one finds. -/
theorem a_failed_collection_blocks_the_next :
    let failed := (collect .permissions [asking "a.Talker" ["p.TALK"], ⟨"a.Hearer", []⟩]
      talkingAndHearing).run Requirements.none
    let next := collect .permissions [asking "a.Hearer" ["p.HEAR"]] talkingAndHearing
    failed.1 = .error (.missingField "a.Hearer" "permissions") ∧
    failed.2.of .permissions ≠ Requirements.none.of .permissions ∧
    (asking "a.Hearer" ["p.HEAR"]).Declares .permissions ∧
    ((next.run failed.2).2.of .permissions).get? "a.Hearer" = Option.none ∧
    ((next.run Requirements.none).2.of .permissions).get? "a.Hearer" =
      some (NameSet.ofList ["p.HEAR"]) := by
  refine ⟨rfl, ?_, declares_asking _ _, rfl, rfl⟩
  intro h
  have := congrArg (fun m => m.get? "a.Talker") h
  cases this

/-- What the collection has before it stops is what the talker lists. -/
theorem a_failed_collection_keeps_the_talker :
    ∃ before info, FirstFlaw .permissions [asking "a.Talker" ["p.TALK"], ⟨"a.Hearer", []⟩] before
        info (.missingField "a.Hearer" "permissions") ∧
      (((collect .permissions [asking "a.Talker" ["p.TALK"], ⟨"a.Hearer", []⟩]
        talkingAndHearing).run Requirements.none).2.of .permissions).get? "a.Talker" =
      (listings .permissions before "a.Talker").getLast?.map NameSet.ofList := by
  obtain ⟨before, info, hfirst, -, hrows, -⟩ := (a_failed_collection_keeps_what_came_first
    .permissions [asking "a.Talker" ["p.TALK"], ⟨"a.Hearer", []⟩] talkingAndHearing
    Requirements.none).2 (.missingField "a.Hearer" "permissions") _ rfl
  exact ⟨before, info, hfirst, hrows "a.Talker"⟩

/-! ## Types that are described more than once -/

/-- From components that all declare a category as they must, a first collection goes well and
changes no other category. Of the lists of a type that is used the last one counts; a type that is
not used, or for which nothing is listed, gets no row. A row holds all that is listed for its type
exactly when the last list does. -/
theorem the_last_list_of_a_type_counts (c : Category) (infos : List ComponentInfo)
    (declares : ∀ info ∈ infos, info.Declares c) (used : ComponentSets) {r : Requirements}
    (fresh : (r.of c).isEmpty = true) :
    ∃ r', (collect c infos used).run r = (.ok (), r') ∧ (∀ d, d ≠ c → r'.of d = r.of d) ∧
      ∀ n,
        ((r'.of c).get? n =
          if used.uses n then (listings c infos n).getLast?.map NameSet.ofList
          else Option.none) ∧
        ((r'.of c).get? n = Option.none ↔
          used.uses n = false ∨ (listedTogether c infos n).isEmpty = true) ∧
        ∀ last, (listings c infos n).getLast? = some last → used.uses n = true →
          ((r'.of c).get? n = some (listedTogether c infos n) ↔
            ∀ names ∈ listings c infos n, names ⊆ last) := by
  refine ⟨r.set c (infos.foldl (enter c used) (r.of c)), ?_, fun d hd => of_set_ne r hd _,
    fun n => ?_⟩
  · rw [run_collect_of_isEmpty fresh, run_forM_collectOne declares]
  · rw [of_set, NameMap.eq_empty fresh, get?_foldl_enter_empty]
    refine ⟨rfl, ?_, fun last hlast hused => ?_⟩
    · rw [isEmpty_listedTogether]
      cases used.uses n with
      | false => simp
      | true => simp [List.getLast?_eq_none_iff]
    · rw [if_pos hused, hlast, Option.map_some, Option.some_inj]
      constructor
      · intro h names hnames name hname
        rw [← NameSet.mem_ofList, h, mem_listedTogether]
        exact ⟨names, hnames, hname⟩
      · intro h
        refine NameSet.ext_mem fun name => ?_
        rw [NameSet.mem_ofList, mem_listedTogether]
        constructor
        · intro hname
          exact ⟨last, List.mem_of_getLast? hlast, hname⟩
        · rintro ⟨names, hnames, hname⟩
          exact h names hnames hname

/-- The talker is described twice, and what its first description lists is lost. -/
theorem a_second_list_takes_the_place_of_the_first :
    ((((collect .permissions [asking "a.Talker" ["p.TALK"], asking "a.Talker" ["p.NET"]]
        talkingAndHearing).run Requirements.none).2.of .permissions).get? "a.Talker" =
      some (NameSet.ofList ["p.NET"])) ∧
    "p.TALK" ∈ listedTogether .permissions
      [asking "a.Talker" ["p.TALK"], asking "a.Talker" ["p.NET"]] "a.Talker" ∧
    "p.TALK" ∉ NameSet.ofList ["p.NET"] := by
  refine ⟨rfl, ?_, ?_⟩
  · exact mem_listedTogether.2 ⟨["p.TALK"], by decide, by decide⟩
  · rw [NameSet.mem_ofList]
    decide

/-- Of three descriptions of the talker the last lists all that the others do, and one is of a
component that is not used. -/
theorem a_last_list_that_holds_all :
    ∃ r', (collect .permissions [asking "a.Talker" ["p.NET"], asking "a.Silent" ["p.HUSH"],
        asking "a.Talker" [], asking "a.Talker" ["p.TALK", "p.NET"]] talkingAndHearing).run
        Requirements.none = (.ok (), r') ∧
      (r'.of .permissions).get? "a.Silent" = Option.none ∧
      (r'.of .permissions).get? "a.Talker" = some (NameSet.ofList ["p.TALK", "p.NET"]) ∧
      (r'.of .permissions).get? "a.Talker" = some (listedTogether .permissions
        [asking "a.Talker" ["p.NET"], asking "a.Silent" ["p.HUSH"], asking "a.Talker" [],
          asking "a.Talker" ["p.TALK", "p.NET"]] "a.Talker") := by
  obtain ⟨r', hrun, -, hrows⟩ := the_last_list_of_a_type_counts .permissions
    [asking "a.Talker" ["p.NET"], asking "a.Silent" ["p.HUSH"], asking "a.Talker" [],
      asking "a.Talker" ["p.TALK", "p.NET"]] (by simp [declares_asking]) talkingAndHearing
    (r := Requirements.none) rfl
  refine ⟨r', hrun, ?_, ?_, ?_⟩
  · rw [(hrows "a.Silent").1]
    rfl
  · rw [(hrows "a.Talker").1]
    rfl
  · refine ((hrows "a.Talker").2.2 ["p.TALK", "p.NET"] (by decide) (by decide)).2 ?_
    decide

end Requirements

end ApkForge
