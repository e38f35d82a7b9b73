-- What a step of a build leaves on record. A step only ever adds to the record of its session,
-- whatever the session, so a build can be described by what each of its steps adds and by how
-- the steps follow each other.
import ApkForge.Build

namespace ApkForge

variable {ρ α β : Type}

/-! ## Running a step -/

/-- A bind goes on from where its first part ended, unless that failed. It holds of the tasks on a
workspace and of the steps of a build alike. -/
theorem run_bind {ε S : Type} (x : ExceptT ε (StateM S) α) (f : α → ExceptT ε (StateM S) β)
    (σ : S) : (x >>= f).run σ = match x.run σ with
      | (.ok a, σ') => (f a).run σ'
      | (.error e, σ') => (.error e, σ') := by
  change (do let r ← x.run; ExceptT.bindCont f r : StateM S _) σ = _
  simp only [bind, StateT.bind]
  rcases x.run σ with ⟨_ | _, _⟩
  · rfl
  · rfl

/-- A bind either ends with the failure of its first part or goes on from where that ended. -/
theorem run_bind_cases {ε S : Type} {x : ExceptT ε (StateM S) α}
    {f : α → ExceptT ε (StateM S) β} {σ σ'' : S} {r : Except ε β}
    (h : (x >>= f).run σ = (r, σ'')) :
    (∃ e, x.run σ = (.error e, σ'') ∧ r = .error e) ∨
      ∃ a σ', x.run σ = (.ok a, σ') ∧ (f a).run σ' = (r, σ'') := by
  rw [run_bind] at h
  rcases hx : x.run σ with ⟨e | a, σ'⟩
  · rw [hx] at h
    cases h
    exact Or.inl ⟨e, rfl, rfl⟩
  · rw [hx] at h
    exact Or.inr ⟨a, σ', rfl, h⟩

theorem run_pure {ε S : Type} (a : α) (σ : S) :
    (pure a : ExceptT ε (StateM S) α).run σ = (.ok a, σ) := rfl

namespace Step

theorem run_throw (e : BuildError) (σ : Session ρ) :
    (throw e : Step ρ α).run σ = (.error e, σ) := rfl

theorem run_get (σ : Session ρ) : (MonadState.get : Step ρ (Session ρ)).run σ = (.ok σ, σ) := rfl

theorem run_set (σ' σ : Session ρ) : (MonadState.set σ' : Step ρ PUnit).run σ = (.ok ⟨⟩, σ') := rfl

theorem run_work (task : Task BuildError α) (σ : Session ρ) :
    (work task : Step ρ α).run σ =
      ((task.run σ.workspace).1, { σ with workspace := (task.run σ.workspace).2 }) := by
  unfold work
  rw [run_bind, run_get]
  simp only
  rcases task.run σ.workspace with ⟨_ | _, _⟩
  · rw [run_bind, run_set]
    rfl
  · rw [run_bind, run_set]
    rfl

/-- Works on files one after the other are one work on files. -/
theorem run_mapM_work (f : α → Task BuildError β) (as : List α) (σ : Session ρ) :
    (as.mapM fun a => work (f a) : Step ρ (List β)).run σ =
      (((as.mapM f).run σ.workspace).1,
        { σ with workspace := ((as.mapM f).run σ.workspace).2 }) := by
  induction as generalizing σ with
  | nil => rfl
  | cons a as ih =>
    rw [List.mapM_cons, List.mapM_cons, run_bind, run_bind, run_work]
    rcases (f a).run σ.workspace with ⟨e | b, w⟩
    · rfl
    · simp only
      rw [run_bind, run_bind, ih]
      rcases (as.mapM f).run w with ⟨e | bs, w'⟩
      · rfl
      · rfl

/-- Whatever the session, `P` holds of what the step gives. -/
def Yields (x : Step ρ α) (P : α → Prop) : Prop := ∀ σ a, (x.run σ).1 = .ok a → P a

theorem yields_pure {P : α → Prop} {a : α} (h : P a) : Yields (pure a : Step ρ α) P := by
  rintro σ _ ⟨⟩
  exact h

theorem Yields.bind {x : Step ρ α} {f : α → Step ρ β} {P : α → Prop} {Q : β → Prop}
    (hx : Yields x P) (hf : ∀ a, P a → Yields (f a) Q) : Yields (x >>= f) Q := by
  intro σ b hb
  rcases hr : (x >>= f).run σ with ⟨r, σ'⟩
  rw [hr] at hb
  rcases run_bind_cases hr with ⟨e, -, he⟩ | ⟨a, σ₁, ha, hf'⟩
  · rw [he] at hb
    cases hb
  · exact hf a (hx σ a (by rw [ha])) σ₁ b (by rw [hf']; exact hb)

/-- What a step gives is what its last part gives. -/
theorem yields_bind {x : Step ρ α} {f : α → Step ρ β} {P : β → Prop} (h : ∀ a, Yields (f a) P) :
    Yields (x >>= f) P :=
  Yields.bind (P := fun _ => True) (fun _ _ _ => trivial) fun a _ => h a

/-! ## Records -/

/-- Whatever the session, `x` adds events to the record, and `R` holds of how `x` ends and of the
events that it adds. -/
def Records (x : Step ρ α) (R : Except BuildError α → List Event → Prop) : Prop :=
  ∀ σ, ∃ added, (x.run σ).2.events = σ.events ++ added ∧ R (x.run σ).1 added

theorem Records.mono {x : Step ρ α} {R S : Except BuildError α → List Event → Prop}
    (h : Records x R) (himp : ∀ r added, R r added → S r added) : Records x S := by
  intro σ
  obtain ⟨added, hev, hr⟩ := h σ
  exact ⟨added, hev, himp _ _ hr⟩

theorem records_pure {R : Except BuildError α → List Event → Prop} {a : α} (h : R (.ok a) []) :
    Records (pure a : Step ρ α) R := by
  intro σ
  exact ⟨[], by simp [run_pure], h⟩

theorem records_throw {R : Except BuildError α → List Event → Prop} {e : BuildError}
    (h : R (.error e) []) : Records (throw e : Step ρ α) R := by
  intro σ
  exact ⟨[], by simp [run_throw], h⟩

/-- The record of two steps is the records of both, one after the other; that of the second is
missing when the first fails. Of the second no more is asked than what holds after the first. -/
theorem Records.bind_of {x : Step ρ α} {f : α → Step ρ β}
    {R : Except BuildError α → List Event → Prop}
    {S : α → Except BuildError β → List Event → Prop}
    {T : Except BuildError β → List Event → Prop}
    (hx : Records x R) (hf : ∀ a l, R (.ok a) l → Records (f a) (S a))
    (herr : ∀ e l, R (.error e) l → T (.error e) l)
    (hok : ∀ a l r m, R (.ok a) l → S a r m → T r (l ++ m)) : Records (x >>= f) T := by
  intro σ
  obtain ⟨l, hl, hr⟩ := hx σ
  rw [run_bind]
  rcases h : x.run σ with ⟨e | a, σ'⟩
  · rw [h] at hl hr
    exact ⟨l, hl, herr e l hr⟩
  · rw [h] at hl hr
    obtain ⟨m, hm, hs⟩ := hf a l hr σ'
    refine ⟨l ++ m, ?_, hok a l _ m hr hs⟩
    simp only at hl ⊢
    rw [hm, hl, List.append_assoc]

theorem Records.bind {x : Step ρ α} {f : α → Step ρ β}
    {R : Except BuildError α → List Event → Prop}
    {S : α → Except BuildError β → List Event → Prop}
    {T : Except BuildError β → List Event → Prop}
    (hx : Records x R) (hf : ∀ a, Records (f a) (S a))
    (herr : ∀ e l, R (.error e) l → T (.error e) l)
    (hok : ∀ a l r m, R (.ok a) l → S a r m → T r (l ++ m)) : Records (x >>= f) T :=
  hx.bind_of (fun a _ _ => hf a) herr hok

/-! ## The records of the single steps -/

theorem records_work (task : Task BuildError α) :
    Records (work task : Step ρ α) fun _ added => added = [] := by
  intro σ
  exact ⟨[], by simp [run_work], rfl⟩

theorem records_record (e : Event) :
    Records (record e : Step ρ Unit) fun r added => r = .ok () ∧ added = [e] := by
  intro σ
  exact ⟨[e], rfl, rfl, rfl⟩

theorem records_tool (stage : Stage) (find : FileTree → Place → Except ToolchainError α) :
    Records (tool stage find : Step ρ α) fun _ added => added = [] := by
  intro σ
  refine ⟨[], ?_, rfl⟩
  unfold tool
  rw [run_bind, run_get]
  simp only
  cases find σ.workspace.tree σ.workspace.start with
  | ok a => simp [run_pure]
  | error e => simp [run_throw]

/-- How a call ends for the step that makes it: only a tool without an answer fails it. -/
def callEnd (stage : Stage) : Answer → Except BuildError ToolOutput
  | .ok output => .ok output
  | .error fault => .error (.stage stage (.runner fault))

theorem records_call (runner : Runner ρ) (stage : Stage) (command : Command) (seconds : Nat) :
    Records (call runner stage command seconds) fun r added =>
      ∃ answer, added = [.called command seconds answer] ∧ r = callEnd stage answer := by
  intro σ
  obtain ⟨ask⟩ := runner
  unfold call
  rw [run_bind, run_get]
  simp only
  rcases ask command (some (1000 * seconds)) σ.workspace.start σ.tools σ.workspace.tree with
    ⟨answer, tools, tree⟩
  rw [run_bind, run_set]
  refine ⟨[.called command seconds answer], ?_, answer, rfl, ?_⟩
  · cases answer <;> rfl
  · cases answer <;> rfl

theorem Records.holding {x : Step ρ α} {R : Except BuildError α → List Event → Prop} (heap : Nat)
    (h : Records x R) : Records (holding heap x) fun r added =>
      ∃ l, R r l ∧ added = .acquired heap :: (l ++ [.released heap]) := by
  intro σ
  obtain ⟨l, hl, hr⟩ := h (σ.add (.acquired heap))
  refine ⟨_, ?_, l, hr, rfl⟩
  change (x.run (σ.add (.acquired heap))).2.events ++ [Event.released heap] = _
  rw [hl]
  simp [Session.add]

theorem Records.noting {x : Step ρ α} {R : Except BuildError α → List Event → Prop}
    (note : Except BuildError α → Event) (h : Records x R) : Records (noting note x) fun r added =>
      ∃ l, R r l ∧ added = l ++ [note r] := by
  intro σ
  obtain ⟨l, hl, hr⟩ := h σ
  refine ⟨_, ?_, l, hr, rfl⟩
  change (x.run σ).2.events ++ [note (x.run σ).1] = _
  rw [hl, List.append_assoc]
  rfl

end Step

/-! ## Steps without deeds -/

/-- An event that only tells how far a build has come. -/
def Event.isTelling : Event → Bool
  | .reached _ => true
  | .noted _ => true
  | _ => false

namespace Step

/-- The step adds nothing to the record but what it tells. -/
def Quiet (x : Step ρ α) : Prop := Records x fun _ added => ∀ e ∈ added, e.isTelling = true

theorem quiet_of_nil {x : Step ρ α} (h : Records x fun _ added => added = []) : Quiet x :=
  h.mono fun _ _ hnil => by simp [hnil]

theorem quiet_pure (a : α) : Quiet (pure a : Step ρ α) := records_pure (by simp)

theorem quiet_throw (e : BuildError) : Quiet (throw e : Step ρ α) := records_throw (by simp)

theorem Quiet.bind {x : Step ρ α} {f : α → Step ρ β} (hx : Quiet x) (hf : ∀ a, Quiet (f a)) :
    Quiet (x >>= f) := by
  refine Records.bind hx hf (fun _ _ h => h) ?_
  intro a l r m hl hm e he
  rcases List.mem_append.1 he with h | h
  · exact hl e h
  · exact hm e h

theorem quiet_work (task : Task BuildError α) : Quiet (work task : Step ρ α) :=
  quiet_of_nil (records_work task)

theorem quiet_within (stage : Stage) (task : Task Cause α) :
    Quiet (within stage task : Step ρ α) := quiet_work _

theorem quiet_onFiles (stage : Stage) (task : Task FilesError α) :
    Quiet (onFiles stage task : Step ρ α) := quiet_within stage _

theorem quiet_resource (stage : Stage) (logical : String) :
    Quiet (resource stage logical : Step ρ Path) := quiet_within stage _

theorem quiet_tool (stage : Stage) (find : FileTree → Place → Except ToolchainError α) :
    Quiet (tool stage find : Step ρ α) := quiet_of_nil (records_tool stage find)

theorem quiet_record {e : Event} (h : e.isTelling = true) : Quiet (record e : Step ρ Unit) := by
  refine (records_record e).mono ?_
  rintro _ _ ⟨-, rfl⟩ e' he
  rw [List.mem_singleton.1 he]
  exact h

theorem quiet_say (text : String) : Quiet (say text : Step ρ Unit) := quiet_record rfl

theorem quiet_sayTook (what : String) : Quiet (sayTook what : Step ρ Unit) := quiet_record rfl

theorem quiet_reach (percent : Nat) : Quiet (reach percent : Step ρ Unit) := quiet_record rfl

theorem quiet_get : Quiet (MonadState.get : Step ρ (Session ρ)) := by
  intro σ
  exact ⟨[], by simp [run_get], by simp⟩

theorem quiet_modify {f : Session ρ → Session ρ} (h : ∀ σ, (f σ).events = σ.events) :
    Quiet (modify f : Step ρ Unit) := by
  intro σ
  refine ⟨[], ?_, by simp⟩
  rw [List.append_nil]
  exact h σ

theorem quiet_mapM {f : α → Step ρ β} (hf : ∀ a, Quiet (f a)) (as : List α) :
    Quiet (as.mapM f) := by
  induction as with
  | nil => exact quiet_pure _
  | cons a as ih =>
    rw [List.mapM_cons]
    exact (hf a).bind fun _ => ih.bind fun _ => quiet_pure _

end Step

/-! ## Deeds -/

/-- The events that are more than telling: calls, merges, and shares of memory taken and given
back. -/
def Event.deeds (added : List Event) : List Event := added.filter fun e => !e.isTelling

@[simp] theorem Event.deeds_append (l m : List Event) :
    Event.deeds (l ++ m) = Event.deeds l ++ Event.deeds m := by
  simp [Event.deeds]

theorem Event.deeds_eq_nil {added : List Event} (h : ∀ e ∈ added, e.isTelling = true) :
    Event.deeds added = [] := by
  unfold Event.deeds
  rw [List.filter_eq_nil_iff]
  intro e he
  simp [h e he]

namespace Step

/-- Whatever the session, `R` holds of how `x` ends and of the deeds that it adds. -/
def Does (x : Step ρ α) (R : Except BuildError α → List Event → Prop) : Prop :=
  Records x fun r added => R r (Event.deeds added)

theorem Does.mono {x : Step ρ α} {R S : Except BuildError α → List Event → Prop}
    (h : Does x R) (himp : ∀ r l, R r l → S r l) : Does x S :=
  Records.mono h fun r _ => himp r _

theorem Does.bind_of {x : Step ρ α} {f : α → Step ρ β}
    {R : Except BuildError α → List Event → Prop}
    {S : α → Except BuildError β → List Event → Prop}
    {T : Except BuildError β → List Event → Prop}
    (hx : Does x R) (hf : ∀ a l, R (.ok a) l → Does (f a) (S a))
    (herr : ∀ e l, R (.error e) l → T (.error e) l)
    (hok : ∀ a l r m, R (.ok a) l → S a r m → T r (l ++ m)) : Does (x >>= f) T := by
  refine Records.bind_of hx (fun a l h => hf a _ h) (fun e l h => herr e _ h) ?_
  intro a l r m hl hm
  rw [Event.deeds_append]
  exact hok a _ r _ hl hm

theorem Does.bind {x : Step ρ α} {f : α → Step ρ β}
    {R : Except BuildError α → List Event → Prop}
    {S : α → Except BuildError β → List Event → Prop}
    {T : Except BuildError β → List Event → Prop}
    (hx : Does x R) (hf : ∀ a, Does (f a) (S a))
    (herr : ∀ e l, R (.error e) l → T (.error e) l)
    (hok : ∀ a l r m, R (.ok a) l → S a r m → T r (l ++ m)) : Does (x >>= f) T :=
  hx.bind_of (fun a _ _ => hf a) herr hok

/-- What is known of the result of a step may be used beside its record. -/
theorem Does.and_yields {x : Step ρ α} {R : Except BuildError α → List Event → Prop}
    {P : α → Prop} (h : Does x R) (hy : Yields x P) :
    Does x fun r l => R r l ∧ ∀ a, r = .ok a → P a := by
  intro σ
  obtain ⟨added, hev, hr⟩ := h σ
  exact ⟨added, hev, hr, hy σ⟩

theorem Quiet.does {x : Step ρ α} {R : Except BuildError α → List Event → Prop} (h : Quiet x)
    (hR : ∀ r, R r []) : Does x R := by
  refine Records.mono h fun r added hq => ?_
  rw [Event.deeds_eq_nil hq]
  exact hR r

/-- A quiet step in front adds no deeds; only it may fail on its own. -/
theorem Quiet.bind_does {x : Step ρ α} {f : α → Step ρ β}
    {R : Except BuildError β → List Event → Prop} (hx : Quiet x) (hf : ∀ a, Does (f a) R)
    (herr : ∀ e, R (.error e) []) : Does (x >>= f) R := by
  refine Does.bind (hx.does (R := fun _ l => l = []) fun _ => rfl) hf ?_ ?_
  · rintro e _ rfl
    exact herr e
  · rintro _ _ r m rfl hm
    exact hm

/-- What is told first never fails and adds no deeds. -/
theorem Does.after_record {e : Event} {f : Unit → Step ρ β}
    {R : Except BuildError β → List Event → Prop} (h : e.isTelling = true) (hf : Does (f ()) R) :
    Does (record e >>= f) R := by
  refine Does.bind (R := fun r l => r = .ok () ∧ l = []) (S := fun _ => R) ?_ (fun _ => hf) ?_ ?_
  · refine (records_record e).mono ?_
    rintro _ _ ⟨rfl, rfl⟩
    exact ⟨rfl, by simp [Event.deeds, h]⟩
  · rintro e' l ⟨hr, -⟩
    cases hr
  · rintro _ _ r l ⟨-, rfl⟩ hl
    exact hl

theorem does_pure {R : Except BuildError α → List Event → Prop} {a : α} (h : R (.ok a) []) :
    Does (pure a : Step ρ α) R := records_pure h

theorem does_throw {R : Except BuildError α → List Event → Prop} {e : BuildError}
    (h : R (.error e) []) : Does (throw e : Step ρ α) R := records_throw h

theorem does_call (runner : Runner ρ) (stage : Stage) (command : Command) (seconds : Nat) :
    Does (call runner stage command seconds) fun r l =>
      ∃ answer, l = [.called command seconds answer] ∧ r = callEnd stage answer := by
  refine (records_call runner stage command seconds).mono ?_
  rintro r added ⟨answer, rfl, hr⟩
  exact ⟨answer, rfl, hr⟩

/-- A call that must succeed fails in every other case. -/
theorem does_callSuccessfully (runner : Runner ρ) (stage : Stage) (command : Command)
    (seconds : Nat) :
    Does (callSuccessfully runner stage command seconds) fun r l =>
      ∃ answer, l = [.called command seconds answer] ∧
        (r = .ok () → ∃ output, answer = .ok output ∧ output.success = true) := by
  unfold callSuccessfully
  refine (does_call runner stage command seconds).bind
    (S := fun output r m => m = [] ∧ (r = .ok () → output.success = true)) ?_ ?_ ?_
  · intro output
    split
    · exact does_throw ⟨rfl, by simp⟩
    · rename_i hs
      exact does_pure ⟨rfl, fun _ => by simpa using hs⟩
  · rintro e l ⟨answer, hl, -⟩
    exact ⟨answer, hl, by simp⟩
  · rintro output l r m ⟨answer, rfl, ho⟩ ⟨rfl, hr⟩
    refine ⟨answer, rfl, fun hok => ⟨output, ?_, hr hok⟩⟩
    cases answer with
    | ok o => cases ho; rfl
    | error f => cases ho

theorem Does.holding {x : Step ρ α} {R : Except BuildError α → List Event → Prop} (heap : Nat)
    (h : Does x R) : Does (holding heap x) fun r l =>
      ∃ m, R r m ∧ l = .acquired heap :: (m ++ [.released heap]) := by
  refine (Records.holding heap h).mono ?_
  rintro r added ⟨m, hm, rfl⟩
  exact ⟨_, hm, by simp [Event.deeds, Event.isTelling]⟩

theorem Does.noting {x : Step ρ α} {R : Except BuildError α → List Event → Prop}
    {note : Except BuildError α → Event} (hn : ∀ r, (note r).isTelling = false) (h : Does x R) :
    Does (noting note x) fun r l => ∃ m, R r m ∧ l = m ++ [note r] := by
  refine (Records.noting note h).mono ?_
  rintro r added ⟨m, hm, rfl⟩
  exact ⟨_, hm, by simp [Event.deeds, hn]⟩

end Step

end ApkForge
