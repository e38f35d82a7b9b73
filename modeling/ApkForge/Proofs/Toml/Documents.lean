-- Documents read as they were written: a header and a line for each key, table after table. Each
-- line is read by itself, whatever the rest of the document is, so a document is read by an
-- induction on its lines; and since no key is given twice, its tables are all there in the end.
import ApkForge.Proofs.Toml.Values

namespace ApkForge.Toml

variable {c e : Char} {name text : String} {v : Toml} {rest x : List Char} {now : Section}
  {parts : List Section}

/-! ## Keys -/

/-- A key that is written without quotes. -/
def IsBare (name : String) : Prop := name.toList ≠ [] ∧ ∀ c ∈ name.toList, isBare c = true

instance (name : String) : Decidable (IsBare name) :=
  decidable_of_iff (name.toList ≠ [] ∧ name.toList.all isBare = true)
    (and_congr_right fun _ => List.all_eq_true)

theorem ne_of_isBare (h : isBare c = true) (he : isBare e = false) : c ≠ e := by
  rintro rfl
  rw [h] at he
  cases he

/-- A bare key begins a text with a character that is nothing else. -/
theorem IsBare.exists_cons (h : IsBare name) : ∃ c cs, name.toList = c :: cs ∧ isBare c = true := by
  obtain ⟨c, cs, hcs⟩ := List.exists_cons_of_ne_nil h.1
  exact ⟨c, cs, hcs, h.2 c (by simp [hcs])⟩

theorem simpleKey_of_isBare (h : IsBare name) (he : isBare e = false) (x : List Char) :
    simpleKey (name.toList ++ e :: x) = some (name, e :: x) := by
  have hspan : (name.toList ++ e :: x).span isBare = (name.toList, e :: x) := by
    rw [List.span_eq_takeWhile_dropWhile, List.takeWhile_append_of_pos h.2,
      List.dropWhile_append_of_pos h.2, List.takeWhile_cons_of_neg (by simp [he]),
      List.dropWhile_cons_of_neg (by simp [he]), List.append_nil]
  obtain ⟨c, cs, hcs, hc⟩ := h.exists_cons
  unfold simpleKey
  split
  · rename_i heq
    rw [hcs] at heq
    exact absurd (List.cons.inj heq).1 (ne_of_isBare hc (by decide))
  · rename_i heq
    rw [hcs] at heq
    exact absurd (List.cons.inj heq).1 (ne_of_isBare hc (by decide))
  · rw [hspan]
    have hne : name.toList.isEmpty = false := by simp [hcs]
    simp only [hne, Bool.false_eq_true, if_false, String.ofList_toList]

/-- A bare key is the whole key, if no dot comes behind it. -/
theorem key_of_isBare (h : IsBare name) (he : isBare e = false)
    (hdot : (skip (e :: x)).head? ≠ some '.') :
    key (name.toList ++ e :: x) = some ([name], skip (e :: x)) := by
  obtain ⟨c, cs, hcs, hc⟩ := h.exists_cons
  have hskip : skip (name.toList ++ e :: x) = name.toList ++ e :: x := by
    rw [hcs]
    exact skip_of_ne ⟨ne_of_isBare hc (by decide), ne_of_isBare hc (by decide)⟩ _
  rw [key, longestKey, keyParts, hskip, simpleKey_of_isBare h he]
  simp only
  split
  · rename_i heq
    rw [heq] at hdot
    exact absurd rfl hdot
  · rfl

/-! ## Lines -/

/-- A key and what it is given, on a line. -/
def rowLine (row : String × String) : List Char :=
  row.1.toList ++ ' ' :: '=' :: ' ' :: (row.2.toList ++ ['\n'])

theorem pair_read (hname : IsBare name) (htext : Spells text v) (rest : List Char) :
    pair (rowLine (name, text) ++ rest) = some (([name], v), '\n' :: rest) := by
  have hline : rowLine (name, text) ++ rest =
      name.toList ++ ' ' :: ('=' :: ' ' :: (text.toList ++ '\n' :: rest)) := by
    simp [rowLine]
  have hkey : key (name.toList ++ ' ' :: ('=' :: ' ' :: (text.toList ++ '\n' :: rest))) =
      some ([name], '=' :: ' ' :: (text.toList ++ '\n' :: rest)) :=
    key_of_isBare hname (show isBare ' ' = false by decide) (fun heq => absurd heq (by simp [skip]))
  have hskip : skip (' ' :: (text.toList ++ '\n' :: rest)) = text.toList ++ '\n' :: rest :=
    htext.start _
  have hvalue := htext.read (2 * (' ' :: (text.toList ++ '\n' :: rest)).length + 2) rest (by
    rw [List.length_cons, List.length_append]
    omega)
  have hequals : skip ('=' :: ' ' :: (text.toList ++ '\n' :: rest)) =
      '=' :: ' ' :: (text.toList ++ '\n' :: rest) := rfl
  rw [hline, pair, hkey]
  simp only [Option.bind_eq_bind, Option.bind_some, hequals, hskip, hvalue]

theorem header_read (hname : IsBare name) (x : List Char) :
    header ('[' :: (name.toList ++ ']' :: x)) = some (([name], false), x) := by
  have hkey : key (name.toList ++ ']' :: x) = some ([name], ']' :: x) :=
    key_of_isBare hname (show isBare ']' = false by decide) (by simp [skip])
  obtain ⟨c, cs, hcs, hc⟩ := hname.exists_cons
  unfold header
  split
  · rename_i heq
    rw [hcs] at heq
    exact absurd (List.cons.inj (List.cons.inj heq).2).1 (ne_of_isBare hc (by decide))
  · rename_i heq
    rw [← (List.cons.inj heq).2, hkey]
    rfl
  · rename_i hnone
    exact absurd rfl (hnone _)

/-! ## Sections -/

/-- A text is read as these parts, the section that is open there the first of them. -/
def Reads (now : Section) (cs : List Char) (parts : List Section) : Prop :=
  ∀ fuel, cs.length < fuel → sections fuel now cs = some parts

theorem reads_end (now : Section) : Reads now [] [now] := by
  intro fuel hfuel
  obtain ⟨fuel, rfl⟩ := Nat.exists_eq_succ_of_ne_zero (Nat.ne_of_gt hfuel)
  rfl

/-- A line with nothing on it is passed over. -/
theorem Reads.blank (h : Reads now rest parts) : Reads now ('\n' :: rest) parts := by
  intro fuel hfuel
  obtain ⟨fuel, rfl⟩ := Nat.exists_eq_succ_of_ne_zero (Nat.ne_of_gt (Nat.zero_lt_of_lt hfuel))
  exact h fuel (Nat.lt_of_succ_lt_succ hfuel)

/-- A line with a key adds to the section that is open. -/
theorem Reads.row (hname : IsBare name) (htext : Spells text v)
    (h : Reads { now with pairs := ([name], v) :: now.pairs } rest parts) :
    Reads now (rowLine (name, text) ++ rest) parts := by
  intro fuel hfuel
  obtain ⟨fuel, rfl⟩ := Nat.exists_eq_succ_of_ne_zero (Nat.ne_of_gt (Nat.zero_lt_of_lt hfuel))
  have hrest : rest.length < fuel := by
    rw [List.length_append] at hfuel
    have hline : 1 ≤ (rowLine (name, text)).length := by
      simp only [rowLine, List.length_append, List.length_cons]
      omega
    omega
  have hpair := pair_read hname htext rest
  obtain ⟨c, cs, hcs, hc⟩ := hname.exists_cons
  obtain ⟨more, hmore⟩ : ∃ more, rowLine (name, text) ++ rest = c :: more :=
    ⟨_, by rw [rowLine, hcs]; rfl⟩
  rw [hmore] at hpair ⊢
  have hblank : c ≠ ' ' ∧ c ≠ '\t' :=
    ⟨ne_of_isBare hc (by decide), ne_of_isBare hc (by decide)⟩
  have hbreak : lineBreak? (c :: more) = none := by
    unfold lineBreak?
    split
    · rename_i heq
      exact absurd (List.cons.inj heq).1 (ne_of_isBare hc (by decide))
    · rename_i heq
      exact absurd (List.cons.inj heq).1 (ne_of_isBare hc (by decide))
    · rfl
  rw [sections, skip_of_ne hblank]
  split
  · rename_i heq
    cases heq
  · rename_i heq
    exact absurd (List.cons.inj heq).1 (ne_of_isBare hc (by decide))
  · rename_i heq
    exact absurd (List.cons.inj heq).1 (ne_of_isBare hc (by decide))
  · rename_i heq
    rw [← heq, hbreak]
    simp only
    rw [hpair]
    exact h fuel hrest

/-- A header closes the section that is open. -/
theorem Reads.header (hname : IsBare name) (h : Reads ⟨[name], false, []⟩ rest parts) :
    Reads now ('[' :: (name.toList ++ ']' :: '\n' :: rest)) (now :: parts) := by
  intro fuel hfuel
  obtain ⟨fuel, rfl⟩ := Nat.exists_eq_succ_of_ne_zero (Nat.ne_of_gt (Nat.zero_lt_of_lt hfuel))
  have hrest : rest.length < fuel := by
    simp at hfuel
    omega
  have hskip : skip ('[' :: (name.toList ++ ']' :: '\n' :: rest)) =
      '[' :: (name.toList ++ ']' :: '\n' :: rest) := skip_of_ne (by decide) _
  have hend : lineEnd? ('\n' :: rest) = some rest := rfl
  rw [sections, hskip]
  simp only
  rw [header_read hname]
  simp only
  rw [hend]
  simp only
  rw [h fuel hrest]

/-! ## Tables -/

/-- A row and what it spells. -/
structure SpellsRow (row : String × String) (field : String × Toml) : Prop where
  name : row.1 = field.1
  bare : IsBare row.1
  text : Spells row.2 field.2

/-- The key of a field as it is read, and its value. -/
def pairOf (field : String × Toml) : List String × Toml := ([field.1], field.2)

theorem reads_rows {rows : List (String × String)} {fields : List (String × Toml)}
    (hrows : List.Forall₂ SpellsRow rows fields)
    (h : Reads { now with pairs := (fields.map pairOf).reverse ++ now.pairs } rest parts) :
    Reads now (rows.flatMap rowLine ++ rest) parts := by
  induction hrows generalizing now with
  | nil => exact h
  | @cons row field rows fields hrow _ ih =>
    obtain ⟨name, text⟩ := row
    obtain ⟨key, v⟩ := field
    obtain ⟨hname, hbare, htext⟩ := hrow
    simp only at hname hbare htext
    subst hname
    rw [List.flatMap_cons, List.append_assoc]
    refine Reads.row hbare htext (ih ?_)
    simpa [pairOf] using h

/-- A table and what it spells. -/
structure SpellsTable (table : String × List (String × String))
    (field : String × List (String × Toml)) : Prop where
  name : table.1 = field.1
  bare : IsBare table.1
  rows : List.Forall₂ SpellsRow table.2 field.2

/-- The section that a table is read as. -/
def tableSection (field : String × List (String × Toml)) : Section :=
  ⟨[field.1], false, (field.2.map pairOf).reverse⟩

theorem toList_writeTable (name : String) (rows : List (String × String)) :
    (writeTable name rows).toList =
      '[' :: (name.toList ++ ']' :: '\n' :: rows.flatMap rowLine) := by
  have hrow : ∀ row : String × String, (row.1 ++ " = " ++ row.2 ++ "\n").toList = rowLine row := by
    intro row
    simp [rowLine]
  rw [writeTable, String.toList_append, String.toList_join, List.flatMap_map]
  simp only [hrow]
  simp

theorem Reads.table {table : String × List (String × String)}
    {field : String × List (String × Toml)} (htable : SpellsTable table field)
    (h : Reads (tableSection field) rest parts) :
    Reads now ((writeTable table.1 table.2).toList ++ rest) (now :: parts) := by
  obtain ⟨hname, hbare, hrows⟩ := htable
  rw [toList_writeTable, List.cons_append, List.append_assoc]
  refine Reads.header hbare (reads_rows hrows ?_)
  rw [hname]
  simpa [tableSection] using h

/-- Tables are read one by one. -/
theorem reads_writeTables {tables : List (String × List (String × String))}
    {fields : List (String × List (String × Toml))}
    (h : List.Forall₂ SpellsTable tables fields) :
    Reads now (writeTables tables).toList (now :: fields.map tableSection) := by
  induction h generalizing now with
  | nil => exact reads_end now
  | @cons table field tables fields htable htables ih =>
    cases htables with
    | nil =>
      rw [← List.append_nil (writeTables [table]).toList]
      exact Reads.table htable (reads_end (tableSection field))
    | @cons table' field' tables fields htable' htables =>
      have hwrite : (writeTables (table :: table' :: tables)).toList =
          (writeTable table.1 table.2).toList ++
            '\n' :: (writeTables (table' :: tables)).toList := by
        simp [writeTables]
      rw [hwrite]
      exact Reads.table htable ih.blank

/-! ## The document -/

/-- A field that is not a table, while the document is read. -/
def valueNode (field : String × Toml) : String × Node := (field.1, .value field.2)

/-- A field that is a table, while the document is read. -/
def tableNode (field : String × List (String × Toml)) : String × Node :=
  (field.1, .table false false (field.2.map valueNode))

/-- Where every item adds a field of its own, the fields of all are there in the end. -/
theorem foldlM_fields {α : Type} {add : Fields → α → Option Fields} {node : α → String × Node}
    {items : List α} {root : Fields}
    (hadd : ∀ a ∈ items, ∀ root : Fields, root.lookup (node a).1 = none →
      add root a = some (root ++ [node a]))
    (hkeys : ((root ++ items.map node).map Prod.fst).Nodup) :
    items.foldlM add root = some (root ++ items.map node) := by
  induction items generalizing root with
  | nil => simp
  | cons a items ih =>
    rw [List.map_cons, List.append_cons] at hkeys
    have hnew : root.lookup (node a).1 = none := by
      rw [List.append_assoc, List.map_append, List.nodup_append] at hkeys
      rw [List.lookup_eq_none_iff]
      intro p hp
      have hne := hkeys.2.2 p.1 (List.mem_map.2 ⟨p, hp, rfl⟩) (node a).1 (by simp)
      simpa using Ne.symm hne
    rw [List.foldlM_cons, hadd a List.mem_cons_self root hnew, Option.bind_eq_bind,
      Option.bind_some, ih (fun b hb => hadd b (List.mem_cons_of_mem a hb)) hkeys,
      List.append_assoc]
    rfl

theorem defineAll_pairs {fields : List (String × Toml)} (h : (fields.map Prod.fst).Nodup) :
    defineAll [] (fields.map pairOf) = some (fields.map valueNode) := by
  have hdefine : ∀ (root : Fields) (field : String × Toml), root.lookup field.1 = none →
      define root (pairOf field).1 (.value (pairOf field).2) =
        some (root ++ [valueNode field]) := by
    intro root field hnew
    simp only [define, pairOf, List.getLast?_singleton, List.dropLast_singleton, descend, hnew]
    rfl
  rw [defineAll, List.foldlM_map]
  have hkeys : (([] ++ fields.map valueNode).map Prod.fst).Nodup := by
    rw [List.nil_append, List.map_map]
    exact h
  exact foldlM_fields (fun field _ root hnew => hdefine root field hnew) hkeys

theorem addSection_tableSection {root : Fields} {field : String × List (String × Toml)}
    (hnew : root.lookup field.1 = none) (h : (field.2.map Prod.fst).Nodup) :
    addSection root (tableSection field) = some (root ++ [tableNode field]) := by
  have hfields := defineAll_pairs h
  simp only [addSection, tableSection, addTable, List.reverse_reverse, List.getLast?_singleton,
    List.dropLast_singleton, descend, hnew, hfields]
  rfl

theorem finishFields_valueNode (fields : List (String × Toml)) :
    finishFields (fields.map valueNode) = fields := by
  induction fields with
  | nil => rfl
  | cons field fields ih => rw [List.map_cons, valueNode, finishFields, Node.finish, ih]

theorem finishFields_tableNode (fields : List (String × List (String × Toml))) :
    finishFields (fields.map tableNode) = fields.map fun field => (field.1, .table field.2) := by
  induction fields with
  | nil => rfl
  | cons field fields ih =>
    rw [List.map_cons, tableNode, finishFields, Node.finish, ih, finishFields_valueNode]
    rfl

/-- A text that begins with no mark of its encoding is read from its front. -/
theorem parse?_of_start (h : text.toList.head? ≠ some '\ufeff') :
    parse? text = (sections (text.toList.length + 1) ⟨[], false, []⟩ text.toList).bind fun parts =>
      (parts.foldlM addSection []).map fun fields => .table (finishFields fields) := by
  unfold parse?
  simp only [Option.bind_eq_bind, Option.map_eq_bind]
  cases hcs : text.toList with
  | nil => rfl
  | cons c cs =>
    have hc : (c == '\ufeff') = false := beq_false_of_ne fun heq => h (by rw [hcs, heq]; rfl)
    simp only [hc, Bool.false_eq_true, if_false]
    rfl

theorem head?_writeTables {tables : List (String × List (String × String))} {c : Char}
    (h : (writeTables tables).toList.head? = some c) : c = '[' := by
  match tables with
  | [] => cases h
  | [(name, rows)] =>
    rw [writeTables, toList_writeTable] at h
    exact (Option.some.inj h).symm
  | (name, rows) :: next :: tables =>
    rw [writeTables, String.append_assoc, String.toList_append, toList_writeTable] at h
    exact (Option.some.inj h).symm

/-- A document of tables is read as those tables, when no table and no key in one comes twice. -/
theorem parse?_writeTables {tables : List (String × List (String × String))}
    {fields : List (String × List (String × Toml))} (h : List.Forall₂ SpellsTable tables fields)
    (hnames : (fields.map Prod.fst).Nodup)
    (hkeys : ∀ field ∈ fields, (field.2.map Prod.fst).Nodup) :
    parse? (writeTables tables) =
      some (.table (fields.map fun field => (field.1, .table field.2))) := by
  have hreads : Reads ⟨[], false, []⟩ (writeTables tables).toList
      (⟨[], false, []⟩ :: fields.map tableSection) := reads_writeTables h
  have hread := hreads _ (Nat.lt_succ_self _)
  have hroot : addSection [] ⟨[], false, []⟩ = some [] := rfl
  have hadd : (fields.map tableSection).foldlM addSection [] = some (fields.map tableNode) := by
    rw [List.foldlM_map]
    refine foldlM_fields (fun field hfield root hnew =>
      addSection_tableSection hnew (hkeys field hfield)) ?_
    rw [List.nil_append, List.map_map]
    exact hnames
  rw [parse?_of_start (fun heq => absurd (head?_writeTables heq) (by decide)), hread,
    Option.bind_some, List.foldlM_cons, hroot, Option.bind_eq_bind, Option.bind_some, hadd,
    Option.map_some, finishFields_tableNode]

end ApkForge.Toml
