-- What a merge leaves on record: the conversions made beforehand, then the call that makes the
-- container. The call is missing when something before it failed, and a tool that gives no answer
-- is the last that is called.
import Mathlib.Data.List.Forall2
import ApkForge.Proofs.Records

namespace ApkForge

variable {ρ α : Type}

/-! ## Answers and merges on record -/

/-- A call without an answer is the only event that is not answered. -/
def Event.isAnswered : Event → Bool
  | .called _ _ (.error _) => false
  | _ => true

/-- A merge that was asked for, with all that it was to take in and how it ended. -/
structure Merge where
  output : Path
  inputs : List Path
  outcome : Except BuildError Bool

/-- The merge that an event notes. -/
def Event.merge? : Event → Option Merge
  | .merged output inputs outcome => some ⟨output, inputs, outcome⟩
  | _ => none

/-- The merges on record. -/
def Event.merges (added : List Event) : List Merge := added.filterMap Event.merge?

@[simp] theorem Event.merges_append (l m : List Event) :
    Event.merges (l ++ m) = Event.merges l ++ Event.merges m := by
  simp [Event.merges]

/-- What is only told holds no merge. -/
theorem Event.merges_deeds (added : List Event) :
    Event.merges (Event.deeds added) = Event.merges added := by
  have hnone : ∀ e : Event, e.isTelling = true → e.merge? = none := by
    intro e
    cases e <;> simp [Event.isTelling, Event.merge?]
  induction added with
  | nil => rfl
  | cons e rest ih =>
    simp only [Event.merges, Event.deeds] at ih ⊢
    cases ht : e.isTelling
    · simp [ht, List.filterMap_cons, ih]
    · simp [ht, hnone e ht, ih]

/-- What is only told needs no answer. -/
theorem Event.answered_deeds (added : List Event) :
    (∀ e ∈ Event.deeds added, e.isAnswered = true) ↔ ∀ e ∈ added, e.isAnswered = true := by
  constructor
  · intro h e he
    by_cases ht : e.isTelling = true
    · cases e <;> simp_all [Event.isTelling, Event.isAnswered]
    · exact h e (List.mem_filter.2 ⟨he, by simp [ht]⟩)
  · intro h e he
    exact h e (List.mem_filter.1 he).1

namespace DexMerger

variable (m : DexMerger)

/-! ## Conversions made beforehand -/

/-- The event is a conversion of one library into the cache. -/
def IsPredex (e : Event) : Prop :=
  ∃ cacheDir key input answer, m.cacheDir = some cacheDir ∧
    e = .called (m.command (cachedFile cacheDir key) [input]) m.seconds answer

/-- The path stands for an input: it is the input, or a file of the cache. -/
def StandsFor (input path : Path) : Prop :=
  path = input ∨ ∃ cacheDir key, m.cacheDir = some cacheDir ∧ path = cachedFile cacheDir key

/-- The events are conversions into the cache. All but the last have an answer, and the last has
one too when the step went well. -/
structure Prepares (r : Except BuildError α) (l : List Event) : Prop where
  predex : ∀ e ∈ l, m.IsPredex e
  answered_front : ∀ e ∈ l.dropLast, e.isAnswered = true
  answered : ∀ a, r = .ok a → ∀ e ∈ l, e.isAnswered = true

variable {m}

theorem prepares_nil (r : Except BuildError α) : Prepares m r [] :=
  ⟨by simp, by simp, by simp⟩

theorem Prepares.append {β : Type} {a : α} {r : Except BuildError β} {l l' : List Event}
    (h : Prepares m (.ok a) l) (h' : Prepares m r l') : Prepares m r (l ++ l') := by
  refine ⟨?_, ?_, ?_⟩
  · intro e he
    rcases List.mem_append.1 he with he | he
    · exact h.predex e he
    · exact h'.predex e he
  · intro e he
    rcases List.eq_nil_or_concat l' with rfl | ⟨front, last, rfl⟩
    · rw [List.append_nil] at he
      exact h.answered a rfl e (List.dropLast_subset l he)
    · rw [List.concat_eq_append, ← List.append_assoc, List.dropLast_concat] at he
      rcases List.mem_append.1 he with he | he
      · exact h.answered a rfl e he
      · exact h'.answered_front e (by simpa using he)
  · intro b hb e he
    rcases List.mem_append.1 he with he | he
    · exact h.answered a rfl e he
    · exact h'.answered b hb e he

theorem Prepares.of_error {β : Type} {f : BuildError} {l : List Event}
    (h : Prepares m (.error f : Except BuildError α) l) :
    Prepares m (.error f : Except BuildError β) l :=
  ⟨h.predex, h.answered_front, by simp⟩

theorem quiet_isCacheable (input : Path) : Step.Quiet (isCacheable input : Step ρ Bool) :=
  Step.quiet_get.bind fun _ => Step.quiet_pure _

/-- After the call: the file of the cache when it was made, and else the input. -/
theorem does_choose {cacheDir : Path} (h : m.cacheDir = some cacheDir) (key : String)
    (made : Bool) (input : Path) :
    Step.Does (ρ := ρ)
      (do
        if made && (← Step.work (Task.isFile (cachedFile cacheDir key))) then
          return cachedFile cacheDir key
        else return input)
      fun r l => l = [] ∧ ∀ path, r = .ok path → m.StandsFor input path := by
  refine Step.Quiet.bind_does (Step.quiet_work _) (fun there => ?_) (by simp)
  split
  · refine Step.does_pure ⟨rfl, ?_⟩
    rintro _ ⟨⟩
    exact Or.inr ⟨cacheDir, key, h, rfl⟩
  · refine Step.does_pure ⟨rfl, ?_⟩
    rintro _ ⟨⟩
    exact Or.inl rfl

/-- An input is replaced by nothing but a file of the cache, and at most one call makes that. -/
theorem does_prepare (runner : Runner ρ) (input : Path) :
    Step.Does (m.prepare runner input) fun r l =>
      Prepares m r l ∧ ∀ path, r = .ok path → m.StandsFor input path := by
  have hinput : Step.Does (pure input : Step ρ Path) fun r l =>
      Prepares m r l ∧ ∀ path, r = .ok path → m.StandsFor input path := by
    refine Step.does_pure ⟨prepares_nil _, ?_⟩
    rintro _ ⟨⟩
    exact Or.inl rfl
  have herr : ∀ e, Prepares m (.error e : Except BuildError Path) [] ∧
      ∀ path, (.error e : Except BuildError Path) = .ok path → m.StandsFor input path :=
    fun e => ⟨prepares_nil _, by simp⟩
  unfold prepare
  split
  · exact hinput
  · rename_i cacheDir hcache
    refine (quiet_isCacheable input).bind_does (fun cacheable => ?_) herr
    split
    · exact hinput
    · refine (Step.quiet_work _).bind_does (fun key => ?_) herr
      refine (Step.quiet_work _).bind_does (fun there => ?_) herr
      split
      · refine Step.does_pure ⟨prepares_nil _, ?_⟩
        rintro _ ⟨⟩
        exact Or.inr ⟨cacheDir, key, hcache, rfl⟩
      · refine (Step.quiet_onFiles _ _).bind_does (fun _ => ?_) herr
        refine (Step.does_call runner .dx _ m.seconds).bind
          (fun output => does_choose hcache key output.success input) ?_ ?_
        · rintro e l ⟨answer, rfl, hans⟩
          refine ⟨⟨?_, by simp, by simp⟩, by simp⟩
          intro e he
          rw [List.mem_singleton.1 he]
          exact ⟨cacheDir, key, input, answer, hcache, rfl⟩
        · rintro output l r l' ⟨answer, rfl, hans⟩ ⟨rfl, hstands⟩
          refine ⟨⟨?_, by simp, ?_⟩, hstands⟩
          · intro e he
            rw [List.append_nil] at he
            rw [List.mem_singleton.1 he]
            exact ⟨cacheDir, key, input, answer, hcache, rfl⟩
          · intro _ _ e he
            rw [List.append_nil] at he
            rw [List.mem_singleton.1 he]
            cases answer with
            | ok o => rfl
            | error f => cases hans

/-- The inputs of a merge are prepared one after the other, and something stands for each. -/
theorem does_prepareAll (runner : Runner ρ) (inputs : List Path) :
    Step.Does (inputs.mapM (m.prepare runner)) fun r l =>
      Prepares m r l ∧ ∀ prepared, r = .ok prepared → List.Forall₂ m.StandsFor inputs prepared := by
  induction inputs with
  | nil =>
    refine Step.does_pure ⟨prepares_nil _, ?_⟩
    rintro _ ⟨⟩
    exact List.Forall₂.nil
  | cons input rest ih =>
    rw [List.mapM_cons]
    -- each step says what it adds to the record and what has been prepared by then
    refine (does_prepare runner input).bind
      (S := fun path r l => Prepares m r l ∧
        ∀ prepared, r = .ok prepared → ∃ others, prepared = path :: others ∧
          List.Forall₂ m.StandsFor rest others) (fun path => ?_) ?_ ?_
    · refine ih.bind
        (S := fun others r l => r = .ok (path :: others) ∧ l = [])
        (fun others => Step.does_pure ⟨rfl, rfl⟩) ?_ ?_
      · rintro e l ⟨hl, -⟩
        exact ⟨hl.of_error, by simp⟩
      · rintro others l r l' ⟨hl, hothers⟩ ⟨rfl, rfl⟩
        refine ⟨hl.append (prepares_nil _), ?_⟩
        rintro _ ⟨⟩
        exact ⟨others, rfl, hothers _ rfl⟩
    · rintro e l ⟨hl, -⟩
      exact ⟨hl.of_error, by simp⟩
    · rintro path l r l' ⟨hl, hpath⟩ ⟨hl', hrest⟩
      refine ⟨hl.append hl', ?_⟩
      intro prepared hr
      obtain ⟨others, rfl, hothers⟩ := hrest prepared hr
      exact List.Forall₂.cons (hpath _ rfl) hothers

/-! ## A merge -/

/-- What a merge adds to the record: it breaks off before its call, or it makes its call and ends
as the tool says. -/
inductive Merges (m : DexMerger) (output : Path) (inputs : List Path) :
    Except BuildError Bool → List Event → Prop where
  | broken {pre : List Event} {e : BuildError}
      (front : Prepares m (.error e : Except BuildError (List Path)) pre) :
      Merges m output inputs (.error e) (pre ++ [.merged output inputs (.error e)])
  | called {pre : List Event} {prepared : List Path} (answer : Answer)
      (front : Prepares m (.ok prepared) pre)
      (stands : List.Forall₂ m.StandsFor inputs prepared) :
      Merges m output inputs ((Step.callEnd .dx answer).map ToolOutput.success)
        (pre ++ [.called (m.command output prepared) m.seconds answer,
          .merged output inputs ((Step.callEnd .dx answer).map ToolOutput.success)])

theorem does_merge (m : DexMerger) (runner : Runner ρ) (output : Path) (inputs : List Path) :
    Step.Does (m.merge runner output inputs) (Merges m output inputs) := by
  unfold merge
  refine (Step.Does.noting (R := fun r l =>
    (∃ e, r = .error e ∧ Prepares m (.error e : Except BuildError (List Path)) l) ∨
      ∃ pre prepared answer, Prepares m (.ok prepared) pre ∧
        List.Forall₂ m.StandsFor inputs prepared ∧
        r = (Step.callEnd .dx answer).map ToolOutput.success ∧
        l = pre ++ [.called (m.command output prepared) m.seconds answer])
    (fun _ => rfl) ?_).mono ?_
  · refine (does_prepareAll runner inputs).bind
      (S := fun prepared r l => ∃ answer, r = (Step.callEnd .dx answer).map ToolOutput.success ∧
        l = [.called (m.command output prepared) m.seconds answer]) (fun prepared => ?_) ?_ ?_
    · refine (Step.does_call runner .dx _ m.seconds).bind
        (S := fun result r l => r = .ok result.success ∧ l = [])
        (fun result => Step.does_pure ⟨rfl, rfl⟩) ?_ ?_
      · rintro e l ⟨answer, rfl, hans⟩
        exact ⟨answer, by rw [← hans]; rfl, rfl⟩
      · rintro result l r l' ⟨answer, rfl, hans⟩ ⟨rfl, rfl⟩
        exact ⟨answer, by rw [← hans]; rfl, by simp⟩
    · rintro e l ⟨hl, -⟩
      exact Or.inl ⟨e, rfl, hl⟩
    · rintro prepared l r l' ⟨hl, hstands⟩ ⟨answer, hr, rfl⟩
      exact Or.inr ⟨l, prepared, answer, hl, hstands _ rfl, hr, rfl⟩
  · rintro r _ ⟨l, ⟨e, rfl, hl⟩ | ⟨pre, prepared, answer, hl, hstands, rfl, rfl⟩, rfl⟩
    · exact Merges.broken hl
    · rw [List.append_assoc]
      exact Merges.called answer hl hstands

/-- A merge notes itself and no other. -/
theorem Merges.merges {output : Path} {inputs : List Path} {r : Except BuildError Bool}
    {l : List Event} (h : Merges m output inputs r l) :
    Event.merges l = [⟨output, inputs, r⟩] := by
  have hpre : ∀ pre, (∀ e ∈ pre, m.IsPredex e) → Event.merges pre = [] := by
    intro pre hall
    refine List.filterMap_eq_nil_iff.2 fun e he => ?_
    obtain ⟨_, _, _, _, -, rfl⟩ := hall e he
    rfl
  cases h with
  | broken front =>
    rw [Event.merges_append, hpre _ front.predex]
    rfl
  | called answer front stands =>
    rw [Event.merges_append, hpre _ front.predex]
    rfl

/-- Nothing was left without an answer by a merge that came to an end. -/
theorem Merges.answered {output : Path} {inputs : List Path} {made : Bool} {l : List Event}
    (h : Merges m output inputs (.ok made) l) : ∀ e ∈ l, e.isAnswered = true := by
  generalize hr : (.ok made : Except BuildError Bool) = r at h
  cases h with
  | broken front => cases hr
  | called answer front stands =>
    intro e he
    rcases List.mem_append.1 he with he | he
    · exact front.answered _ rfl e he
    · simp only [List.mem_cons, List.not_mem_nil, or_false] at he
      rcases he with rfl | rfl
      · cases answer with
        | ok result => rfl
        | error fault => cases hr
      · rfl

/-- Behind each merge on record that came to an end stands a call of the tool with something for
each input, and the merge ended as the tool said. -/
def Backed (m : DexMerger) (l : List Event) : Prop :=
  ∀ c ∈ Event.merges l, ∀ made, c.outcome = .ok made → ∃ prepared result,
    List.Forall₂ m.StandsFor c.inputs prepared ∧
    .called (m.command c.output prepared) m.seconds (.ok result) ∈ l ∧ result.success = made

theorem Backed.append {l l' : List Event} (h : Backed m l) (h' : Backed m l') :
    Backed m (l ++ l') := by
  intro c hc made hmade
  rw [Event.merges_append] at hc
  rcases List.mem_append.1 hc with hc | hc
  · obtain ⟨prepared, result, hs, hin, hmade⟩ := h c hc made hmade
    exact ⟨prepared, result, hs, List.mem_append_left _ hin, hmade⟩
  · obtain ⟨prepared, result, hs, hin, hmade⟩ := h' c hc made hmade
    exact ⟨prepared, result, hs, List.mem_append_right _ hin, hmade⟩

theorem Merges.backed {output : Path} {inputs : List Path} {r : Except BuildError Bool}
    {l : List Event} (h : Merges m output inputs r l) : Backed m l := by
  intro c hc made hmade
  rw [h.merges, List.mem_singleton] at hc
  subst hc
  cases h with
  | broken front => cases hmade
  | called answer front stands =>
    cases answer with
    | ok result =>
      cases hmade
      exact ⟨_, result, stands, by simp, rfl⟩
    | error fault => cases hmade

end DexMerger

end ApkForge
