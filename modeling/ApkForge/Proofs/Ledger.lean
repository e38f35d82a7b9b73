-- A book of all that the tools of a session do. The state of a runner is of any type, so there is a
-- runner that answers like another and books each run with the trees before and after it; nothing
-- but the book tells that it is kept.
import ApkForge.Proofs.Merging
import ApkForge.Proofs.Runs

namespace ApkForge

variable {ρ α β : Type}

/-- One run of a tool: what was asked and answered, and the tree before and after. -/
structure ToolRun where
  command : Command
  answer : Answer
  start : Place
  before : FileTree
  after : FileTree

/-- The tool ran to its end and said yes. -/
def ToolRun.succeeded (run : ToolRun) : Bool :=
  match run.answer with
  | .ok output => output.success
  | .error _ => false

/-- The runner that books what it does. -/
def Runner.booked (r : Runner ρ) : Runner (ρ × List ToolRun) where
  answer command limit start state tree :=
    let (answer, tools, after) := r.answer command limit start state.1 tree
    (answer, (tools, state.2 ++ [⟨command, answer, start, tree, after⟩]), after)

/-- A session with a book. -/
abbrev Booked (ρ : Type) := Session (ρ × List ToolRun)

/-- The book of a session. -/
def Session.book (σ : Booked ρ) : List ToolRun := σ.tools.2

/-- The session without its book. -/
def Session.unbooked (σ : Booked ρ) : Session ρ := { σ with tools := σ.tools.1 }

namespace Step

/-- `x` does on sessions with a book what `y` does on those without. -/
def Books (x : Step (ρ × List ToolRun) α) (y : Step ρ α) : Prop :=
  ∀ σ : Booked ρ, y.run σ.unbooked = ((x.run σ).1, (x.run σ).2.unbooked)

theorem books_pure (a : α) : Books (pure a : Step (ρ × List ToolRun) α) (pure a) := fun _ => rfl

theorem Books.bind {x : Step (ρ × List ToolRun) α} {y : Step ρ α}
    {f : α → Step (ρ × List ToolRun) β} {g : α → Step ρ β} (hx : Books x y)
    (hf : ∀ a, Books (f a) (g a)) : Books (x >>= f) (y >>= g) := by
  intro σ
  rw [run_bind, run_bind, hx σ]
  rcases x.run σ with ⟨e | a, σ'⟩
  · rfl
  · exact hf a σ'

theorem books_work (task : Task BuildError α) :
    Books (work task : Step (ρ × List ToolRun) α) (work task) := by
  intro σ
  rw [run_work, run_work]
  rfl

theorem books_onFiles (stage : Stage) (task : Task FilesError α) :
    Books (onFiles stage task : Step (ρ × List ToolRun) α) (onFiles stage task) :=
  books_work (Task.explain (.stage stage) (Task.explain .files task))

theorem books_call (r : Runner ρ) (stage : Stage) (command : Command) (seconds : Nat) :
    Books (call r.booked stage command seconds) (call r stage command seconds) := by
  intro σ
  rw [run_call, run_call]
  rfl

theorem Books.noting {x : Step (ρ × List ToolRun) α} {y : Step ρ α} (h : Books x y)
    (note : Except BuildError α → Event) : Books (noting note x) (noting note y) := by
  intro σ
  rw [run_noting, run_noting, h σ]
  rfl

theorem books_mapM {f : α → Step (ρ × List ToolRun) β} {g : α → Step ρ β}
    (h : ∀ a, Books (f a) (g a)) (as : List α) : Books (as.mapM f) (as.mapM g) := by
  induction as with
  | nil => exact books_pure _
  | cons a rest ih =>
    rw [List.mapM_cons, List.mapM_cons]
    exact (h a).bind fun _ => ih.bind fun _ => books_pure _

end Step

namespace DexMerger

theorem books_prepare (m : DexMerger) (r : Runner ρ) (input : Path) :
    Step.Books (m.prepare r.booked input) (m.prepare r input) := by
  unfold prepare
  split
  · exact Step.books_pure _
  · refine Step.Books.bind (fun _ => rfl) fun cacheable => ?_
    split
    · exact Step.books_pure _
    · refine (Step.books_work _).bind fun key => (Step.books_work _).bind fun there => ?_
      split
      · exact Step.books_pure _
      · refine (Step.books_onFiles _ _).bind fun _ => ?_
        refine (Step.books_call r _ _ _).bind fun output => ?_
        refine (Step.books_work _).bind fun made => ?_
        split
        · exact Step.books_pure _
        · exact Step.books_pure _

/-- Booking changes nothing about a merge. -/
theorem books_merge (m : DexMerger) (r : Runner ρ) (output : Path) (inputs : List Path) :
    Step.Books (m.merge r.booked output inputs) (m.merge r output inputs) := by
  unfold merge
  refine Step.Books.noting ?_ _
  refine (Step.books_mapM (fun input => books_prepare m r input) inputs).bind fun prepared => ?_
  exact (Step.books_call _ _ _ _).bind fun _ => Step.books_pure _

end DexMerger

end ApkForge
