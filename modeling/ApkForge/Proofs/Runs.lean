-- Where a step of a build leaves its session. A call leaves what the runner made of the tree, with
-- the call on record; the steps around a call only add to the record.
import ApkForge.Proofs.Records

namespace ApkForge

variable {ρ α : Type}

/-- What a runner answers to a session, and the session with what the runner left and with the call
on record. -/
def Runner.asked (r : Runner ρ) (command : Command) (seconds : Nat) (σ : Session ρ) :
    Answer × Session ρ :=
  let w := σ.workspace
  let (answer, tools, tree) := r.answer command (some (1000 * seconds)) w.start σ.tools w.tree
  (answer, { σ with workspace := { w with tree }, tools }.add (.called command seconds answer))

namespace Step

theorem run_call (runner : Runner ρ) (stage : Stage) (command : Command) (seconds : Nat)
    (σ : Session ρ) : (call runner stage command seconds).run σ =
      (callEnd stage (runner.asked command seconds σ).1, (runner.asked command seconds σ).2) := by
  obtain ⟨ask⟩ := runner
  unfold call Runner.asked
  rw [run_bind, run_get]
  simp only
  rcases ask command (some (1000 * seconds)) σ.workspace.start σ.tools σ.workspace.tree with
    ⟨answer, tools, tree⟩
  rw [run_bind, run_set]
  cases answer <;> rfl

theorem run_holding (heap : Nat) (step : Step ρ α) (σ : Session ρ) :
    (holding heap step).run σ = ((step.run (σ.add (.acquired heap))).1,
      (step.run (σ.add (.acquired heap))).2.add (.released heap)) := rfl

theorem run_noting (note : Except BuildError α → Event) (step : Step ρ α) (σ : Session ρ) :
    (noting note step).run σ = ((step.run σ).1, (step.run σ).2.add (note (step.run σ).1)) := rfl

end Step

end ApkForge
