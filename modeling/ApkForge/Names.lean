-- Sets of names and tables by name. Both are kept as ascending lists, so two of them with the same
-- members are the same value, whatever order they were filled in.

namespace ApkForge

/-! ## The order of names -/

/-- Names that are not below each other are one name. -/
theorem name_eq_of_not_lt {a b : String} (h : ¬ a < b) (g : ¬ b < a) : a = b :=
  String.le_antisymm (String.not_lt.1 g) (String.not_lt.1 h)

/-! ## Sets -/

/-- A name put into an ascending list; a name that is there stays once. -/
def insertName (n : String) : List String → List String
  | [] => [n]
  | m :: rest =>
    if n < m then n :: m :: rest else if m < n then m :: insertName n rest else m :: rest

theorem mem_insertName {n m : String} {l : List String} :
    m ∈ insertName n l ↔ m = n ∨ m ∈ l := by
  induction l with
  | nil => simp [insertName]
  | cons a rest ih =>
    simp only [insertName]
    split
    · simp
    · split
      · simp only [List.mem_cons, ih]
        constructor
        · rintro (h | h | h) <;> simp [h]
        · rintro (h | h | h) <;> simp [h]
      · rename_i h g
        have e := name_eq_of_not_lt h g
        subst e
        simp

theorem pairwise_insertName {n : String} {l : List String} (h : l.Pairwise (· < ·)) :
    (insertName n l).Pairwise (· < ·) := by
  induction l with
  | nil => simp [insertName]
  | cons a rest ih =>
    rw [List.pairwise_cons] at h
    simp only [insertName]
    split
    · rename_i hn
      rw [List.pairwise_cons]
      refine ⟨?_, List.pairwise_cons.2 h⟩
      intro b hb
      rcases List.mem_cons.1 hb with rfl | hb
      · exact hn
      · exact String.lt_trans hn (h.1 b hb)
    · split
      · rename_i hn
        rw [List.pairwise_cons]
        refine ⟨?_, ih h.2⟩
        intro b hb
        rcases mem_insertName.1 hb with rfl | hb
        · exact hn
        · exact h.1 b hb
      · exact List.pairwise_cons.2 h

/-- A set of names, in ascending order. -/
structure NameSet where
  toList : List String
  ascending : toList.Pairwise (· < ·)

namespace NameSet

/-- The set without names. -/
def empty : NameSet := ⟨[], List.Pairwise.nil⟩

instance : Inhabited NameSet := ⟨empty⟩

/-- The set with one more name. -/
def insert (s : NameSet) (n : String) : NameSet :=
  ⟨insertName n s.toList, pairwise_insertName s.ascending⟩

/-- The names of a list. -/
def ofList (names : List String) : NameSet := names.foldl insert empty

/-- The names of two sets. -/
def union (s t : NameSet) : NameSet := t.toList.foldl insert s

/-- A name is in the set. -/
def contains (s : NameSet) (n : String) : Bool := s.toList.contains n

/-- How many names there are. -/
def size (s : NameSet) : Nat := s.toList.length

/-- There are no names. -/
def isEmpty (s : NameSet) : Bool := s.toList.isEmpty

instance : Membership String NameSet := ⟨fun s n => n ∈ s.toList⟩

theorem mem_def {s : NameSet} {n : String} : n ∈ s ↔ n ∈ s.toList := Iff.rfl

theorem contains_iff {s : NameSet} {n : String} : s.contains n = true ↔ n ∈ s := by
  simp [contains, mem_def]

theorem mem_insert {s : NameSet} {n m : String} : m ∈ s.insert n ↔ m = n ∨ m ∈ s :=
  mem_insertName

theorem mem_foldl_insert {names : List String} {s : NameSet} {m : String} :
    m ∈ names.foldl insert s ↔ m ∈ names ∨ m ∈ s := by
  induction names generalizing s with
  | nil => simp
  | cons n rest ih =>
    simp only [List.foldl_cons, ih, mem_insert, List.mem_cons]
    constructor
    · rintro (h | h | h) <;> simp [h]
    · rintro ((h | h) | h) <;> simp [h]

/-- A set made of a list holds the names of the list. -/
theorem mem_ofList {names : List String} {m : String} : m ∈ ofList names ↔ m ∈ names := by
  refine mem_foldl_insert.trans ⟨fun h => h.resolve_right ?_, Or.inl⟩
  exact List.not_mem_nil

theorem mem_union {s t : NameSet} {m : String} : m ∈ s.union t ↔ m ∈ s ∨ m ∈ t := by
  exact mem_foldl_insert.trans Or.comm

end NameSet

/-! ## Tables -/

/-- A row put into a list of rows in ascending order of their names; it replaces a row of the
same name. -/
def insertRow {α : Type} (n : String) (v : α) : List (String × α) → List (String × α)
  | [] => [(n, v)]
  | (m, w) :: rest =>
    if n < m then (n, v) :: (m, w) :: rest
    else if m < n then (m, w) :: insertRow n v rest
    else (n, v) :: rest

theorem mem_keys_insertRow {α : Type} {n m : String} {v : α} {rows : List (String × α)} :
    m ∈ (insertRow n v rows).map Prod.fst ↔ m = n ∨ m ∈ rows.map Prod.fst := by
  induction rows with
  | nil => simp [insertRow]
  | cons row rest ih =>
    obtain ⟨a, w⟩ := row
    simp only [insertRow]
    split
    · simp
    · split
      · simp only [List.map_cons, List.mem_cons, ih]
        constructor
        · rintro (h | h | h) <;> simp [h]
        · rintro (h | h | h) <;> simp [h]
      · rename_i h g
        have e := name_eq_of_not_lt h g
        subst e
        simp

theorem ascending_insertRow {α : Type} {n : String} {v : α} {rows : List (String × α)}
    (h : (rows.map Prod.fst).Pairwise (· < ·)) :
    ((insertRow n v rows).map Prod.fst).Pairwise (· < ·) := by
  induction rows with
  | nil => simp [insertRow]
  | cons row rest ih =>
    obtain ⟨a, w⟩ := row
    simp only [List.map_cons, List.pairwise_cons] at h
    simp only [insertRow]
    split
    · rename_i hn
      simp only [List.map_cons, List.pairwise_cons]
      refine ⟨?_, h⟩
      intro b hb
      rcases List.mem_cons.1 hb with rfl | hb
      · exact hn
      · exact String.lt_trans hn (h.1 b hb)
    · split
      · rename_i hn
        simp only [List.map_cons, List.pairwise_cons]
        refine ⟨?_, ih h.2⟩
        intro b hb
        rcases mem_keys_insertRow.1 hb with rfl | hb
        · exact hn
        · exact h.1 b hb
      · rename_i hn hm
        have e := name_eq_of_not_lt hn hm
        subst e
        simpa only [List.map_cons, List.pairwise_cons] using h

/-- Values by name, in ascending order of the names. -/
structure NameMap (α : Type) where
  toList : List (String × α)
  ascending : (toList.map Prod.fst).Pairwise (· < ·)

namespace NameMap

variable {α : Type}

/-- The table without rows. -/
def empty : NameMap α := ⟨[], List.Pairwise.nil⟩

instance : Inhabited (NameMap α) := ⟨empty⟩

/-- The table with a row set. -/
def insert (m : NameMap α) (n : String) (v : α) : NameMap α :=
  ⟨insertRow n v m.toList, ascending_insertRow m.ascending⟩

/-- The value of a name. -/
def get? (m : NameMap α) (n : String) : Option α := m.toList.lookup n

/-- The names that have a value. -/
def keys (m : NameMap α) : List String := m.toList.map Prod.fst

/-- The values, in the order of their names. -/
def values (m : NameMap α) : List α := m.toList.map Prod.snd

/-- There are no rows. -/
def isEmpty (m : NameMap α) : Bool := m.toList.isEmpty

end NameMap

end ApkForge
