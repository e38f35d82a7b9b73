-- The calls of a build as words. A letter is what a tool was called for and how the call ended; a
-- step follows a language when it makes a word of it, or breaks off within one.
import Mathlib.Computability.Language
import ApkForge.Proofs.Stages

open scoped Computability

namespace ApkForge

variable {ρ α β : Type}

/-! ## Letters -/

/-- How a call ends: with exit code 0, in another way, or without an answer. -/
inductive Fate where
  | well
  | badly
  | lost
deriving DecidableEq, Repr

/-- How a call with an answer ended. -/
def Fate.of : Answer → Fate
  | .ok output => if output.success then .well else .badly
  | .error _ => .lost

theorem Fate.of_eq_well {answer : Answer} :
    Fate.of answer = .well ↔ ∃ output, answer = .ok output ∧ output.success = true := by
  rcases answer with fault | output
  · simp [Fate.of]
  · cases h : output.success <;> simp [Fate.of, h]

theorem Fate.of_eq_lost {answer : Answer} :
    Fate.of answer = .lost ↔ ∃ fault, answer = .error fault := by
  rcases answer with fault | output
  · simp [Fate.of]
  · cases h : output.success <;> simp [Fate.of, h]

/-- A call: what the tool was called for and how that ended. -/
abbrev Call := Use × Fate

/-- The call that an event is. -/
def Event.call? (layout : BuildLayout) : Event → Option Call
  | .called command _ answer => some (.of layout command, .of answer)
  | _ => none

/-- The calls on record. -/
def Event.calls (layout : BuildLayout) (added : List Event) : List Call :=
  added.filterMap (Event.call? layout)

@[simp] theorem Event.calls_append (layout : BuildLayout) (l m : List Event) :
    Event.calls layout (l ++ m) = Event.calls layout l ++ Event.calls layout m := by
  simp [Event.calls]

/-- What is only told is no call. -/
theorem Event.calls_deeds (layout : BuildLayout) (added : List Event) :
    Event.calls layout (Event.deeds added) = Event.calls layout added := by
  have hnone : ∀ e : Event, e.isTelling = true → e.call? layout = none := by
    intro e
    cases e <;> simp [Event.isTelling, Event.call?]
  induction added with
  | nil => rfl
  | cons e rest ih =>
    simp only [Event.calls, Event.deeds] at ih ⊢
    cases ht : e.isTelling
    · simp [ht, List.filterMap_cons, ih]
    · simp [ht, hnone e ht, ih]

/-- Neither taking nor giving back a share of the memory is a call. -/
theorem Event.calls_held (layout : BuildLayout) (heap : Nat) (l : List Event) :
    Event.calls layout (.acquired heap :: (l ++ [.released heap])) = Event.calls layout l := by
  rw [← List.singleton_append, Event.calls_append, Event.calls_append]
  change [] ++ (Event.calls layout l ++ []) = Event.calls layout l
  rw [List.nil_append, List.append_nil]

/-! ## Words that break off -/

/-- The calls break off within a word: they are for the same as its first ones, and all but the last
of them ended as the word says. -/
def Cut (calls word : List Call) : Prop :=
  calls.map Prod.fst <+: word.map Prod.fst ∧ calls.dropLast <+: word

theorem Cut.nil (word : List Call) : Cut [] word :=
  ⟨List.nil_prefix, List.nil_prefix⟩

theorem Cut.refl (word : List Call) : Cut word word :=
  ⟨List.prefix_refl _, List.dropLast_prefix word⟩

theorem Cut.append_right {calls word : List Call} (h : Cut calls word) (more : List Call) :
    Cut calls (word ++ more) := by
  refine ⟨?_, h.2.trans (List.prefix_append _ _)⟩
  rw [List.map_append]
  exact h.1.trans (List.prefix_append _ _)

theorem Cut.append_left {calls word : List Call} (h : Cut calls word) (front : List Call) :
    Cut (front ++ calls) (front ++ word) := by
  refine ⟨?_, ?_⟩
  · rw [List.map_append, List.map_append]
    exact (List.prefix_append_right_inj _).2 h.1
  · rcases List.eq_nil_or_concat calls with rfl | ⟨init, last, rfl⟩
    · rw [List.append_nil]
      exact (List.dropLast_prefix front).trans (List.prefix_append _ _)
    · rw [List.concat_eq_append, ← List.append_assoc, List.dropLast_concat]
      refine (List.prefix_append_right_inj _).2 ?_
      simpa using h.2

/-- The last call may have ended in any way. -/
theorem Cut.last (front : List Call) (use : Use) (fate fate' : Fate) :
    Cut (front ++ [(use, fate)]) (front ++ [(use, fate')]) := by
  refine Cut.append_left ⟨?_, ?_⟩ front
  · simp
  · simp

/-! ## Languages of calls -/

/-- One call for `use`, with an end that is tolerated. -/
def once (use : Use) (tolerated : Fate → Bool) : Language Call :=
  {word | ∃ fate, tolerated fate = true ∧ word = [(use, fate)]}

/-- One call for `use` that ends well. -/
def succeeds (use : Use) : Language Call := once use (· == .well)

theorem mem_once {use : Use} {tolerated : Fate → Bool} {word : List Call} :
    word ∈ once use tolerated ↔ ∃ fate, tolerated fate = true ∧ word = [(use, fate)] := Iff.rfl

theorem mem_succeeds {use : Use} {word : List Call} :
    word ∈ succeeds use ↔ word = [(use, .well)] := by
  rw [succeeds, mem_once]
  constructor
  · rintro ⟨fate, hf, rfl⟩
    rw [eq_of_beq hf]
  · rintro rfl
    exact ⟨.well, rfl, rfl⟩

theorem exists_mem_succeeds (use : Use) : ∃ word, word ∈ succeeds use :=
  ⟨_, mem_succeeds.2 rfl⟩

theorem exists_mem_mul {L M : Language Call} (hL : ∃ word, word ∈ L) (hM : ∃ word, word ∈ M) :
    ∃ word, word ∈ L * M := by
  obtain ⟨u, hu⟩ := hL
  obtain ⟨v, hv⟩ := hM
  exact ⟨u ++ v, Language.append_mem_mul hu hv⟩

theorem exists_mem_prod {L : α → Language Call} (hL : ∀ a, ∃ word, word ∈ L a) (as : List α) :
    ∃ word, word ∈ (as.map L).prod := by
  induction as with
  | nil => exact ⟨[], rfl⟩
  | cons a as ih =>
    rw [List.map_cons, List.prod_cons]
    exact exists_mem_mul (hL a) ih

/-- Every call in every word is so. -/
def AllCalls (p : Call → Prop) (L : Language Call) : Prop := ∀ word ∈ L, ∀ c ∈ word, p c

section AllCalls

variable {p : Call → Prop} {L M : Language Call}

theorem allCalls_once {use : Use} {tolerated : Fate → Bool}
    (h : ∀ fate, tolerated fate = true → p (use, fate)) : AllCalls p (once use tolerated) := by
  rintro _ ⟨fate, hf, rfl⟩ c hc
  rw [List.mem_singleton.1 hc]
  exact h fate hf

theorem allCalls_succeeds {use : Use} (h : p (use, .well)) : AllCalls p (succeeds use) := by
  refine allCalls_once fun fate hf => ?_
  rw [eq_of_beq hf]
  exact h

theorem allCalls_one : AllCalls p 1 := by
  rintro _ rfl c hc
  cases hc

theorem AllCalls.mul (hL : AllCalls p L) (hM : AllCalls p M) : AllCalls p (L * M) := by
  rintro _ ⟨u, hu, v, hv, rfl⟩ c hc
  rcases List.mem_append.1 hc with hc | hc
  · exact hL u hu c hc
  · exact hM v hv c hc

theorem AllCalls.add (hL : AllCalls p L) (hM : AllCalls p M) : AllCalls p (L + M) := by
  rintro word (hw | hw)
  · exact hL word hw
  · exact hM word hw

theorem AllCalls.kstar (hL : AllCalls p L) : AllCalls p L∗ := by
  rintro _ ⟨words, rfl, hwords⟩ c hc
  obtain ⟨word, hword, hc⟩ := List.mem_flatten.1 hc
  exact hL word (hwords word hword) c hc

theorem allCalls_prod {L : α → Language Call} (hL : ∀ a, AllCalls p (L a)) (as : List α) :
    AllCalls p (as.map L).prod := by
  induction as with
  | nil => exact allCalls_one
  | cons a as ih =>
    rw [List.map_cons, List.prod_cons]
    exact (hL a).mul ih

end AllCalls

/-! ## Steps that follow a language -/

namespace Step

variable {layout : BuildLayout} {L M : Language Call}

/-- Whatever the session, the step makes the calls of a word when it goes well, and breaks off
within a word when it fails. -/
def Follows (layout : BuildLayout) (x : Step ρ α) (L : Language Call) : Prop :=
  Does x fun r l => (∀ a, r = .ok a → Event.calls layout l ∈ L) ∧
    ∀ e, r = .error e → ∃ word ∈ L, Cut (Event.calls layout l) word

/-- Steps one after the other follow languages one after the other. -/
theorem Follows.bind {x : Step ρ α} {f : α → Step ρ β} (hx : Follows layout x L)
    (hf : ∀ a, Follows layout (f a) M) (hM : ∃ word, word ∈ M) :
    Follows layout (x >>= f) (L * M) := by
  refine Does.bind hx hf ?_ ?_
  · rintro e l ⟨-, hcut⟩
    refine ⟨by simp, fun _ _ => ?_⟩
    obtain ⟨word, hword, hl⟩ := hcut e rfl
    obtain ⟨word', hword'⟩ := hM
    exact ⟨word ++ word', Language.append_mem_mul hword hword', hl.append_right word'⟩
  · rintro a l r m ⟨hl, -⟩ ⟨hm, hcut⟩
    refine ⟨?_, ?_⟩
    · intro b hb
      rw [Event.calls_append]
      exact Language.append_mem_mul (hl a rfl) (hm b hb)
    · intro e he
      obtain ⟨word, hword, hcut⟩ := hcut e he
      refine ⟨Event.calls layout l ++ word, Language.append_mem_mul (hl a rfl) hword, ?_⟩
      rw [Event.calls_append]
      exact hcut.append_left _

theorem Quiet.follows {x : Step ρ α} (h : Quiet x) : Follows layout x 1 :=
  h.does fun _ => ⟨fun _ _ => rfl, fun _ _ => ⟨[], rfl, Cut.nil _⟩⟩

/-- A quiet step in front changes no word. -/
theorem Quiet.bind_follows {x : Step ρ α} {f : α → Step ρ β} (hx : Quiet x)
    (hf : ∀ a, Follows layout (f a) L) (hL : ∃ word, word ∈ L) : Follows layout (x >>= f) L := by
  have := hx.follows.bind hf hL
  rwa [one_mul] at this

/-- A quiet step behind changes no word. -/
theorem Follows.bind_quiet {x : Step ρ α} {f : α → Step ρ β} (hx : Follows layout x L)
    (hf : ∀ a, Quiet (f a)) : Follows layout (x >>= f) L := by
  have := hx.bind (fun a => (hf a).follows) ⟨[], rfl⟩
  rwa [mul_one] at this

/-- Steps for the members of a list follow the languages of the members, in order. -/
theorem follows_forM {f : α → Step ρ PUnit} {L : α → Language Call}
    (hf : ∀ a, Follows layout (f a) (L a)) (hL : ∀ a, ∃ word, word ∈ L a) (as : List α) :
    Follows layout (as.forM f) (as.map L).prod := by
  induction as with
  | nil => exact (quiet_pure _).follows
  | cons a as ih =>
    rw [List.map_cons, List.prod_cons]
    exact (hf a).bind (fun _ => ih) (exists_mem_prod hL as)

/-- A step with one call for `use` makes that call and no other. -/
theorem CallsFor.follows {use : Use} {x : Step ρ α} (h : CallsFor layout use x) :
    Follows layout x (succeeds use) := by
  refine Does.mono h ?_
  rintro r l (⟨rfl, hne⟩ | ⟨command, seconds, answer, huse, rfl, hok⟩)
  · exact ⟨fun a ha => absurd ha (hne a), fun _ _ => ⟨_, mem_succeeds.2 rfl, Cut.nil _⟩⟩
  · have hcall : Event.calls layout [.called command seconds answer] =
        [(use, Fate.of answer)] := by
      rw [← huse]
      rfl
    rw [hcall]
    refine ⟨?_, fun _ _ => ⟨[(use, .well)], mem_succeeds.2 rfl, Cut.last [] use _ _⟩⟩
    intro a ha
    rw [mem_succeeds, Fate.of_eq_well.2 (hok a ha)]

end Step

end ApkForge
