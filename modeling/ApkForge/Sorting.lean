-- Sorting by insertion. Items that are not below each other keep their order, and nothing is lost.

namespace ApkForge

/-- An item put before the first that is not below it. -/
def insertBy {α : Type} (below : α → α → Bool) (a : α) : List α → List α
  | [] => [a]
  | b :: rest => if below b a then b :: insertBy below a rest else a :: b :: rest

/-- Items in ascending order. Items that are not below each other keep their order. -/
def sortBy {α : Type} (below : α → α → Bool) (items : List α) : List α :=
  items.foldr (insertBy below) []

theorem insertBy_perm {α : Type} (below : α → α → Bool) (a : α) (l : List α) :
    (insertBy below a l).Perm (a :: l) := by
  induction l with
  | nil => exact List.Perm.refl _
  | cons b rest ih =>
    simp only [insertBy]
    split
    · exact (ih.cons b).trans (List.Perm.swap a b rest)
    · exact List.Perm.refl _

/-- Sorting loses nothing and adds nothing. -/
theorem sortBy_perm {α : Type} (below : α → α → Bool) (l : List α) :
    (sortBy below l).Perm l := by
  induction l with
  | nil => exact List.Perm.refl _
  | cons a rest ih => exact (insertBy_perm below a _).trans (ih.cons a)

/-- A way to order items: none is below one that it is above, and what is not below one is not below
anything under that. -/
structure IsOrder {α : Type} (below : α → α → Bool) : Prop where
  asymm : ∀ {x y}, below x y = true → below y x = false
  trans : ∀ {x y z}, below y x = false → below z y = false → below z x = false

theorem pairwise_insertBy {α : Type} {below : α → α → Bool} (hbelow : IsOrder below) (a : α)
    {l : List α} (h : l.Pairwise fun x y => below y x = false) :
    (insertBy below a l).Pairwise fun x y => below y x = false := by
  induction l with
  | nil => simp [insertBy]
  | cons b rest ih =>
    rw [List.pairwise_cons] at h
    simp only [insertBy]
    split
    · rename_i hlt
      refine List.pairwise_cons.2 ⟨fun c hc => ?_, ih h.2⟩
      have hmem := (insertBy_perm below a rest).mem_iff.1 hc
      rcases List.mem_cons.1 hmem with rfl | hrest
      · exact hbelow.asymm hlt
      · exact h.1 c hrest
    · rename_i hge
      rw [Bool.not_eq_true] at hge
      refine List.pairwise_cons.2 ⟨fun c hc => ?_, List.pairwise_cons.2 h⟩
      rcases List.mem_cons.1 hc with rfl | hrest
      · exact hge
      · exact hbelow.trans hge (h.1 c hrest)

/-- Sorting puts nothing before an item that is below it. -/
theorem pairwise_sortBy {α : Type} {below : α → α → Bool} (hbelow : IsOrder below) (l : List α) :
    (sortBy below l).Pairwise fun x y => below y x = false := by
  induction l with
  | nil => exact List.Pairwise.nil
  | cons a rest ih => exact pairwise_insertBy hbelow a ih

/-- Sorting by rank puts nothing before an item of a lower rank. -/
theorem pairwise_sortBy_rank {α : Type} (rank : α → Nat) (l : List α) :
    (sortBy (fun x y => decide (rank x < rank y)) l).Pairwise fun x y => rank x ≤ rank y := by
  have hrank : IsOrder fun x y => decide (rank x < rank y) :=
    ⟨by simp only [decide_eq_true_eq, decide_eq_false_iff_not]; omega,
      by simp only [decide_eq_false_iff_not]; omega⟩
  exact (pairwise_sortBy hrank l).imp fun hle => by simpa using hle

/-- An item passes no other of its kind, if none of a kind is below another. -/
theorem filter_insertBy {α : Type} {below : α → α → Bool} {p : α → Bool}
    (h : ∀ x y, p x = true → p y = true → below x y = false) (a : α) (l : List α) :
    (insertBy below a l).filter p = (a :: l).filter p := by
  induction l with
  | nil => rfl
  | cons b rest ih =>
    simp only [insertBy]
    split
    · rename_i hbelow
      rw [List.filter_cons, ih]
      by_cases ha : p a = true
      · have hb : ¬ p b = true := by
          intro hb
          rw [h b a hb ha] at hbelow
          cases hbelow
        simp [ha, hb]
      · simp [ha, List.filter_cons]
    · rfl

/-- Sorting is stable: items of one kind keep their order, if none of a kind is below another. -/
theorem filter_sortBy {α : Type} {below : α → α → Bool} {p : α → Bool}
    (h : ∀ x y, p x = true → p y = true → below x y = false) (l : List α) :
    (sortBy below l).filter p = l.filter p := by
  induction l with
  | nil => rfl
  | cons a rest ih =>
    change (insertBy below a (sortBy below rest)).filter p = _
    rw [filter_insertBy h, List.filter_cons, List.filter_cons, ih]

end ApkForge
