-- Which libraries go into which container. Both attempts cut one arrangement of the libraries in
-- two: the full one at the cap, the conservative one behind the libraries that start the app. Which
-- of the two cuts comes first, the cap or the startup libraries decide.
import ApkForge.Proofs.Conversion
import Mathlib.Data.List.Infix

namespace ApkForge

/-! ## The first items that pass -/

/-- Where nothing that fails a test comes before what passes it, the first items that pass are all
that do. -/
theorem takeWhile_eq_filter {α : Type} {p : α → Bool} {l : List α}
    (h : l.Pairwise fun x y => p y = true → p x = true) :
    l.takeWhile p = l.filter p ∧ l.dropWhile p = l.filter fun x => !p x := by
  induction l with
  | nil => exact ⟨rfl, rfl⟩
  | cons a rest ih =>
    rw [List.pairwise_cons] at h
    by_cases ha : p a = true
    · have hrest := ih h.2
      simp [ha, hrest.1, hrest.2]
    · have hnone : ∀ x ∈ rest, p x = false := by
        intro x hx
        by_contra hpx
        exact ha (h.1 x hx (by simpa using hpx))
      simp only [Bool.not_eq_true] at ha
      have hfail : rest.filter p = [] := List.filter_eq_nil_iff.2 fun x hx => by simp [hnone x hx]
      have hpass : (rest.filter fun x => !p x) = rest :=
        List.filter_eq_self.2 fun x hx => by simp [hnone x hx]
      simp [ha, hfail, hpass]

/-! ## Libraries that start the app -/

namespace DexPolicy

variable {policy : DexPolicy} {l : Path} {i : Nat}

/-- The file name of the library is among those that start the app. -/
def Starts (policy : DexPolicy) (l : Path) : Prop := ∃ name ∈ policy.startup, l.name? = some name

/-- The file name of the library comes first in the list of those that start the app at `i`. -/
def FirstAt (policy : DexPolicy) (l : Path) (i : Nat) : Prop :=
  ∃ name, l.name? = some name ∧ policy.startup[i]? = some name ∧ name ∉ policy.startup.take i

theorem startupIndex?_eq_some : policy.startupIndex? l = some i ↔ policy.FirstAt l i := by
  unfold startupIndex? FirstAt
  rw [Option.bind_eq_some_iff]
  refine exists_congr fun name => and_congr_right fun _ => ?_
  rw [List.findIdx?_eq_some_iff_getElem]
  constructor
  · rintro ⟨hi, hname, hbefore⟩
    refine ⟨by rw [List.getElem?_eq_getElem hi, beq_iff_eq.1 hname], fun hmem => ?_⟩
    obtain ⟨j, hj, heq⟩ := List.mem_take_iff_getElem.1 hmem
    exact hbefore j (by omega) (beq_iff_eq.2 heq)
  · rintro ⟨hname, hbefore⟩
    obtain ⟨hi, hname⟩ := List.getElem?_eq_some_iff.1 hname
    refine ⟨hi, beq_iff_eq.2 hname, fun j hj heq => hbefore ?_⟩
    exact List.mem_take_iff_getElem.2 ⟨j, by omega, beq_iff_eq.1 heq⟩

theorem isStartup_iff : policy.isStartup l = true ↔ policy.Starts l := by
  unfold isStartup startupIndex? Starts
  cases l.name? with
  | none => simp
  | some name =>
    simp only [Option.bind_some, List.findIdx?_isSome, List.any_eq_true, beq_iff_eq,
      Option.some.injEq]
    exact exists_congr fun other => and_congr_right fun _ => eq_comm

instance (policy : DexPolicy) (l : Path) : Decidable (policy.Starts l) :=
  decidable_of_iff _ isStartup_iff

instance (policy : DexPolicy) (l : Path) (i : Nat) : Decidable (policy.FirstAt l i) :=
  decidable_of_iff _ startupIndex?_eq_some

theorem FirstAt.starts (h : policy.FirstAt l i) : policy.Starts l := by
  obtain ⟨name, hname, hat, -⟩ := h
  exact ⟨name, List.mem_of_getElem? hat, hname⟩

theorem FirstAt.rank (h : policy.FirstAt l i) : policy.rank l = i := by
  unfold DexPolicy.rank
  rw [startupIndex?_eq_some.2 h]
  rfl

theorem FirstAt.lt (h : policy.FirstAt l i) : i < policy.startup.length := by
  obtain ⟨name, -, hat, -⟩ := h
  exact (List.getElem?_eq_some_iff.1 hat).1

theorem rank_of_not_starts (h : ¬ policy.Starts l) : policy.rank l = policy.startup.length := by
  have hnone : policy.startupIndex? l = none := by
    rw [← isStartup_iff, isStartup, Option.not_isSome_iff_eq_none] at h
    exact h
  unfold rank
  rw [hnone]
  rfl

/-- A library starts the app when its rank is not the last one. -/
theorem rank_lt_iff : policy.rank l < policy.startup.length ↔ policy.Starts l := by
  constructor
  · intro hlt
    by_contra hnot
    rw [rank_of_not_starts hnot] at hlt
    omega
  · intro h
    rw [← isStartup_iff, isStartup, Option.isSome_iff_exists] at h
    obtain ⟨i, hi⟩ := h
    have hfirst := startupIndex?_eq_some.1 hi
    rw [hfirst.rank]
    exact hfirst.lt

/-! ## The arrangement -/

/-- How a policy arranges libraries: those that start the app as their names come first in its list,
then the others. Libraries that the list does not tell apart stay in their order. -/
structure Arranges (policy : DexPolicy) (libraries starting others : List Path) : Prop where
  perm : (starting ++ others).Perm libraries
  starts : ∀ l ∈ starting, policy.Starts l
  ascending : starting.Pairwise fun l m => ∀ i j, policy.FirstAt l i → policy.FirstAt m j → i ≤ j
  ties : ∀ i, (starting.filter fun l => policy.FirstAt l i) =
    libraries.filter fun l => policy.FirstAt l i
  others : others = libraries.filter fun l => ¬ policy.Starts l

theorem order_perm (policy : DexPolicy) (libraries : List Path) :
    (policy.order libraries).Perm libraries := sortBy_perm _ libraries

/-- The libraries in order, cut behind those that start the app. -/
theorem order_cut (policy : DexPolicy) (libraries : List Path) :
    (policy.order libraries).takeWhile policy.isStartup =
        (policy.order libraries).filter policy.isStartup ∧
      (policy.order libraries).dropWhile policy.isStartup =
        (policy.order libraries).filter fun l => !policy.isStartup l := by
  refine takeWhile_eq_filter
    ((pairwise_sortBy_rank policy.rank libraries).imp fun hle hstarts => ?_)
  rw [isStartup_iff, ← rank_lt_iff] at hstarts ⊢
  omega

theorem order_arranges (policy : DexPolicy) (libraries : List Path) :
    policy.Arranges libraries ((policy.order libraries).takeWhile policy.isStartup)
      ((policy.order libraries).dropWhile policy.isStartup) := by
  obtain ⟨hstarting, hothers⟩ := order_cut policy libraries
  have hties : ∀ p : Path → Bool, (∀ l m, p l = true → p m = true →
      policy.rank l = policy.rank m) → (policy.order libraries).filter p = libraries.filter p := by
    intro p hp
    refine filter_sortBy (fun l m hl hm => ?_) libraries
    rw [hp l m hl hm]
    simp
  constructor
  case perm =>
    rw [List.takeWhile_append_dropWhile]
    exact order_perm policy libraries
  case starts =>
    intro l hl
    rw [hstarting] at hl
    exact isStartup_iff.1 (List.mem_filter.1 hl).2
  case ascending =>
    rw [hstarting]
    refine ((pairwise_sortBy_rank policy.rank libraries).filter _).imp ?_
    intro l m hle i j hi hj
    rwa [hi.rank, hj.rank] at hle
  case ties =>
    intro i
    rw [hstarting, List.filter_filter]
    have hall : (fun l => decide (policy.FirstAt l i) && policy.isStartup l) =
        fun l => decide (policy.FirstAt l i) := by
      funext l
      by_cases h : policy.FirstAt l i
      · simp [h, isStartup_iff.2 h.starts]
      · simp [h]
    rw [hall]
    refine hties _ fun l m hl hm => ?_
    rw [(of_decide_eq_true hl).rank, (of_decide_eq_true hm).rank]
  case others =>
    have hsame : (fun l => !policy.isStartup l) = fun l => decide (¬ policy.Starts l) := by
      funext l
      rw [Bool.eq_iff_iff]
      simp [← isStartup_iff]
    rw [hothers, hsame]
    refine hties _ fun l m hl hm => ?_
    rw [rank_of_not_starts (of_decide_eq_true hl), rank_of_not_starts (of_decide_eq_true hm)]

/-- As many libraries come before the cut as start the app. -/
theorem Arranges.length_starting {libraries starting others : List Path}
    (h : policy.Arranges libraries starting others) :
    starting.length = libraries.countP fun l => policy.Starts l := by
  have hnone : others.countP (fun l => policy.Starts l) = 0 := by
    rw [List.countP_eq_zero]
    intro l hl
    rw [h.others] at hl
    simpa using (List.mem_filter.1 hl).2
  rw [← h.perm.countP_eq, List.countP_append, hnone, Nat.add_zero, eq_comm, List.countP_eq_length]
  intro l hl
  simpa using h.starts l hl

end DexPolicy

/-! ## The containers -/

namespace DexPlan

/-- The libraries have one order, whatever the attempt: those that start the app by the list of the
policy, then the others as they came. The first container holds the base and as many libraries from
the front as the cap allows, or just those that start the app; the second holds the rest. -/
theorem both_attempts_cut_one_order (policy : DexPolicy) (base libraries : List Path) :
    ∃ starting others, policy.Arranges libraries starting others ∧
      policy.order libraries = starting ++ others ∧
      (∀ attempt, (make base libraries policy attempt).primary ++
        (make base libraries policy attempt).secondary = base ++ policy.order libraries) ∧
      (∃ taken rest, policy.order libraries = taken ++ rest ∧
        taken.length = min libraries.length policy.firstCap ∧
        make base libraries policy .full = ⟨base ++ taken, rest⟩) ∧
      make base libraries policy .conservative = ⟨base ++ starting, others⟩ := by
  have hlength : (policy.order libraries).length = libraries.length :=
    (policy.order_perm libraries).length_eq
  refine ⟨_, _, policy.order_arranges libraries, List.takeWhile_append_dropWhile.symm, ?_, ?_, ?_⟩
  · intro attempt
    simp only [make, List.append_assoc, List.take_append_drop]
  · refine ⟨_, _, (List.take_append_drop (min libraries.length policy.firstCap) _).symm, ?_, ?_⟩
    · rw [List.length_take, hlength]
      omega
    · simp only [make, inFirst, hlength]
  · have hcut : ∀ {ordered front back : List Path}, ordered = front ++ back →
        (⟨base ++ ordered.take front.length, ordered.drop front.length⟩ : DexPlan) =
          ⟨base ++ front, back⟩ := by
      rintro _ front back rfl
      rw [List.take_left, List.drop_left]
    exact hcut List.takeWhile_append_dropWhile.symm

variable (policy : DexPolicy) (base libraries : List Path)

theorem primary_full : (make base libraries policy .full).primary =
    base ++ (policy.order libraries).take (min libraries.length policy.firstCap) := by
  rw [← (policy.order_perm libraries).length_eq]
  rfl

theorem primary_conservative : (make base libraries policy .conservative).primary =
    base ++ (policy.order libraries).take (libraries.countP fun l => policy.Starts l) := by
  rw [← (policy.order_arranges libraries).length_starting]
  rfl

end DexPlan

/-! ## The retry -/

namespace Build

variable {ρ : Type}

/-- After a refused attempt a conversion asks for the conservative first container. It takes no more
from the front of the order than the refused one did exactly when no more libraries start the app
than the cap allows; when more do, it takes more, whatever the refused one took. -/
theorem a_retry_is_no_larger_within_the_cap (s : Services ρ) (b : Build) (m : DexMerger)
    (base libraries : List Path) (σ : Session ρ) :
    let plan := DexPlan.make base libraries s.dexPolicy
    let starting := libraries.countP fun l => s.dexPolicy.Starts l
    ((plan .conservative).primary <+: (plan .full).primary ↔ starting ≤ s.dexPolicy.firstCap) ∧
    (s.dexPolicy.firstCap < starting → (plan .full).primary <+: (plan .conservative).primary) ∧
    (plan .full).primary.length = base.length + min libraries.length s.dexPolicy.firstCap ∧
    (plan .conservative).primary.length = base.length + starting ∧
    ∃ added, ((b.convertInTwo s m base libraries).run σ).2.events = σ.events ++ added ∧
      ∀ first retry, mergesInto b.primaryDex (Event.merges added) = [first, retry] →
        first.inputs = (plan .full).primary ∧ retry.inputs = (plan .conservative).primary := by
  intro plan starting
  have hlength := (s.dexPolicy.order_perm libraries).length_eq
  have hstarting : starting ≤ libraries.length := List.countP_le_length
  have hfull : (plan .full).primary = base ++ _ := DexPlan.primary_full s.dexPolicy base libraries
  have hretry : (plan .conservative).primary = base ++ _ :=
    DexPlan.primary_conservative s.dexPolicy base libraries
  refine ⟨?_, fun hmore => ?_, ?_, ?_, ?_⟩
  · rw [hfull, hretry, List.prefix_append_right_inj, List.take_isPrefix_take]
    omega
  · rw [hfull, hretry, List.prefix_append_right_inj, List.take_isPrefix_take]
    omega
  · rw [hfull, List.length_append, List.length_take]
    omega
  · rw [hretry, List.length_append, List.length_take]
    omega
  · obtain ⟨added, hevents, hconverts⟩ := b.does_convertInTwo m s base libraries σ
    refine ⟨added, hevents, fun first retry hboth => ?_⟩
    have hfirsts := (hconverts.conversion (DexPlan.make_perm base libraries s.dexPolicy)).firsts
    rw [Event.merges_deeds, hboth] at hfirsts
    simpa using hfirsts

end Build

/-- A cap that keeps every library out of the first container keeps none out of it the second time,
if they start the app. -/
theorem DexPlan.a_retry_exceeds_a_cap_of_zero :
    let plan := make [⟨"classes"⟩] [⟨"/l/s.jar"⟩] ⟨0, ["s.jar"]⟩
    (plan .full).primary = [⟨"classes"⟩] ∧
    (plan .conservative).primary = [⟨"classes"⟩, ⟨"/l/s.jar"⟩] ∧
    ¬ (plan .conservative).primary <+: (plan .full).primary := by
  decide

end ApkForge
