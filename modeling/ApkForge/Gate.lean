-- The memory gate: tools take their share of a budget before they start and give it back when they
-- end. A share is never more than the budget, so a tool that asks for too much runs alone.
import ApkForge.Total

namespace ApkForge

/-- A budget of memory in megabytes and the shares that are held, each under its own number. -/
structure Gate where
  budget : Nat
  held : List (Nat × Nat) := []
  issued : Nat := 0
  fits : total (held.map Prod.snd) ≤ budget := by simp

namespace Gate

/-- A gate over a budget. There is always a megabyte. -/
def ofBudget (budget : Nat) : Gate := { budget := max budget 1 }

instance : Inhabited Gate := ⟨ofBudget 1⟩

/-- What a tool takes: the heap it asks for, but at least a megabyte and at most the budget. -/
def share (g : Gate) (heap : Nat) : Nat := min (max heap 1) g.budget

/-- What all holders have together. -/
def taken (g : Gate) : Nat := total (g.held.map Prod.snd)

/-- What is left of the budget. -/
def available (g : Gate) : Nat := g.budget - g.taken

/-- How many tools of one heap can run at once. -/
def capacity (g : Gate) (heap : Nat) : Nat := g.budget / g.share heap

/-- The gate after a tool has taken its share, with the number the share is held under; none while
there is too little left. -/
def acquire? (g : Gate) (heap : Nat) : Option (Nat × Gate) :=
  if h : g.share heap ≤ g.available then
    some (g.issued,
      { g with
        held := (g.issued, g.share heap) :: g.held
        issued := g.issued + 1
        fits := by
          have := g.fits
          simp only [available, taken] at h
          simp only [List.map_cons, total_cons]
          omega })
  else none

theorem total_eraseP_le (p : Nat × Nat → Bool) (l : List (Nat × Nat)) :
    total ((l.eraseP p).map Prod.snd) ≤ total (l.map Prod.snd) := by
  induction l with
  | nil => simp
  | cons a rest ih =>
    by_cases h : p a
    · simp [h]
    · simp [h, ih]

/-- A number is held. -/
def holds (g : Gate) (slot : Nat) : Bool := g.held.any fun h => h.1 == slot

/-- The gate after a share was given back. A number that is not held changes nothing. -/
def release (g : Gate) (slot : Nat) : Gate :=
  { g with
    held := g.held.eraseP fun h => h.1 == slot
    fits := Nat.le_trans (total_eraseP_le _ _) g.fits }

/-- What is held and what is left make up the budget. -/
theorem available_add_taken (g : Gate) : g.available + g.taken = g.budget := by
  have := g.fits
  simp only [available, taken]
  omega

end Gate

end ApkForge
