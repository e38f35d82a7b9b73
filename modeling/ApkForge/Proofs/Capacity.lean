-- How many tools run side by side. The gate lets tools of one heap in for as long as their shares
-- fit the budget. The doctor does not ask the gate: it divides the budget by the heap, and still
-- warns of as many tools as the gate lets in.
import ApkForge.Doctor
import ApkForge.Proofs.PrivateCopies
import ApkForge.Proofs.Waiting

namespace ApkForge

/-! ## Letting tools in -/

namespace Gate

/-- The gate after so many tools of one heap took their shares, one after the other; none when one
of them would have to wait. -/
def admit? (g : Gate) (heap : Nat) : Nat → Option Gate
  | 0 => some g
  | n + 1 => (g.acquire? heap).bind fun granted => granted.2.admit? heap n

/-- A share is granted when there is enough left of the budget, and only then. -/
theorem isSome_acquire?_iff {g : Gate} {heap : Nat} :
    (g.acquire? heap).isSome = true ↔ g.share heap ≤ g.available := by
  rw [Option.isSome_iff_exists]
  constructor
  · rintro ⟨⟨slot, g'⟩, h⟩
    exact (acquire?_eq_some h).1
  · exact acquire?_of_le

/-- Tools are let in while all their shares together fit what is left. -/
theorem isSome_admit?_iff (g : Gate) (heap n : Nat) :
    (g.admit? heap n).isSome = true ↔ n * g.share heap ≤ g.available := by
  induction n generalizing g with
  | zero => simp [admit?]
  | succ n ih =>
    rw [admit?, Nat.succ_mul]
    cases hacquire : g.acquire? heap with
    | none =>
      have hfull : ¬ g.share heap ≤ g.available := by
        rw [← isSome_acquire?_iff, hacquire]
        exact Bool.false_ne_true
      simp only [Option.bind_none, Option.isSome_none, Bool.false_eq_true, false_iff]
      omega
    | some granted =>
      obtain ⟨slot, g'⟩ := granted
      -- A share hangs on the budget alone, so the next tool takes as much as this one.
      obtain ⟨hroom, -, hbudget, -, -⟩ := acquire?_eq_some hacquire
      have hshare : g'.share heap = g.share heap := by rw [share, share, hbudget]
      rw [Option.bind_some, ih, hshare, available_acquire hacquire]
      omega

theorem share_pos (budget heap : Nat) : 0 < (ofBudget budget).share heap := by
  have hshare : (ofBudget budget).share heap = min (max heap 1) (max budget 1) := rfl
  omega

/-- A fresh gate lets in as many tools as its capacity says. -/
theorem isSome_admit?_ofBudget_iff (budget heap n : Nat) :
    ((ofBudget budget).admit? heap n).isSome = true ↔ n ≤ (ofBudget budget).capacity heap := by
  rw [isSome_admit?_iff, capacity, Nat.le_div_iff_mul_le (share_pos budget heap)]
  rfl

/-- The capacity is the plain quotient, and one where that is zero: a heap above the budget takes
all of it. -/
theorem capacity_ofBudget (budget heap : Nat) :
    (ofBudget budget).capacity heap = max (budget / max heap 1) 1 := by
  have hcapacity : (ofBudget budget).capacity heap =
      max budget 1 / min (max heap 1) (max budget 1) := rfl
  rw [hcapacity]
  -- Where the heap fits, no clamp does anything but the one to a megabyte; above the budget the
  -- share is the whole budget, and the quotient is zero.
  by_cases hfits : max heap 1 ≤ budget
  · have hone : 1 ≤ budget / max heap 1 := Nat.div_pos hfits (by omega)
    have hbudget : max budget 1 = budget := by omega
    rw [hbudget, Nat.min_eq_left hfits, Nat.max_eq_left hone]
  · have hzero : budget / max heap 1 = 0 := Nat.div_eq_of_lt (by omega)
    have hall : min (max heap 1) (max budget 1) = max budget 1 := by omega
    rw [hzero, hall, Nat.div_self (by omega)]
    rfl

/-- A heap above the budget, for which the quotient is zero. -/
example : (ofBudget 1024).capacity 4096 = 1 ∧ 1024 / max 4096 1 = 0 := by decide

end Gate

/-! ## What the doctor says -/

/-- A number is read off a text that goes on with something else. -/
theorem toString_append_inj {i j : Nat} {c : Char} {s t : List Char} (hc : c.isDigit = false)
    (h : (toString i).toList ++ c :: s = (toString j).toList ++ c :: t) : i = j ∧ s = t := by
  have hnumber : ∀ (n : Nat) (rest : List Char),
      ((toString n).toList ++ c :: rest).takeWhile Char.isDigit = (toString n).toList := by
    intro n rest
    rw [List.takeWhile_append_of_pos (isDigit_of_mem_toString n),
      List.takeWhile_cons_of_neg (by simp [hc]), List.append_nil]
  have hij : (toString i).toList = (toString j).toList := by
    rw [← hnumber i s, h, hnumber]
  refine ⟨toString_injective (String.toList_injective hij), ?_⟩
  rw [hij] at h
  exact (List.cons.inj (List.append_cancel_left h)).2

namespace Doctor

variable {c : Config} {cpus : Nat} {w : Workspace}

/-- The issue that more tools may run than the host has processors. -/
def crowdedIssue (tools cpus : Nat) : String :=
  "memory_budget_mb allows " ++ toString tools ++ " concurrent compiler JVMs but this host has " ++
    toString cpus ++ " CPUs"

/-- The issue that one tool may take more than the budget, so that no other runs beside it. -/
def aloneIssue (heap budget : Nat) : String :=
  "child_process_ram_mb (" ++ toString heap ++ ") exceeds memory_budget_mb (" ++ toString budget ++
    "); builds will run one tool at a time"

/-- The numbers are read off the issue. -/
theorem crowdedIssue_inj {tools cpus tools' cpus' : Nat}
    (h : crowdedIssue tools cpus = crowdedIssue tools' cpus') : tools = tools' ∧ cpus = cpus' := by
  have hmiddle : " concurrent compiler JVMs but this host has ".toList =
      ' ' :: "concurrent compiler JVMs but this host has ".toList := rfl
  have hend : " CPUs".toList = ' ' :: "CPUs".toList := rfl
  have hlist := congrArg String.toList h
  unfold crowdedIssue at hlist
  simp only [String.toList_append, List.append_assoc, hmiddle, hend, List.cons_append] at hlist
  obtain ⟨htools, hrest⟩ := toString_append_inj (by decide) (List.append_cancel_left hlist)
  obtain ⟨hcpus, -⟩ := toString_append_inj (by decide) (List.append_cancel_left hrest)
  exact ⟨htools, hcpus⟩

theorem head?_crowdedIssue (tools cpus : Nat) :
    (crowdedIssue tools cpus).toList.head? = some 'm' := by
  unfold crowdedIssue
  simp

theorem head?_aloneIssue (heap budget : Nat) :
    (aloneIssue heap budget).toList.head? = some 'c' := by
  unfold aloneIssue
  simp

/-- An issue is about memory, or it begins as no issue about memory does. -/
theorem cases_of_mem_configIssues {issue : String} (h : issue ∈ configIssues c cpus w) :
    (cpus < c.memoryBudget / max c.toolHeap 1 ∧
      issue = crowdedIssue (c.memoryBudget / max c.toolHeap 1) cpus) ∨
    (c.memoryBudget < c.toolHeap ∧ issue = aloneIssue c.toolHeap c.memoryBudget) ∨
    issue.toList.head? ∉ [some 'm', some 'c'] := by
  unfold configIssues at h
  simp only [List.mem_append, List.mem_ite_nil_left, List.mem_ite_nil_right,
    List.mem_singleton] at h
  rcases h with ((⟨-, rfl⟩ | halone) | hcrowded) | ⟨-, rfl⟩
  · exact .inr (.inr (by simp))
  · exact .inr (.inl halone)
  · exact .inl hcrowded
  · exact .inr (.inr (by simp))

/-- A host is said to be crowded with the plain quotient of the budget and the heap, when that is
above the number of processors. -/
theorem crowdedIssue_mem_iff {tools host : Nat} :
    crowdedIssue tools host ∈ configIssues c cpus w ↔
      (tools = c.memoryBudget / max c.toolHeap 1 ∧ host = cpus) ∧
        cpus < c.memoryBudget / max c.toolHeap 1 := by
  constructor
  · intro h
    have hhead := head?_crowdedIssue tools host
    rcases cases_of_mem_configIssues h with ⟨hmore, hissue⟩ | ⟨-, hissue⟩ | hother
    · exact ⟨crowdedIssue_inj hissue, hmore⟩
    · rw [hissue, head?_aloneIssue] at hhead
      exact absurd hhead (by decide)
    · rw [hhead] at hother
      exact absurd hother (by decide)
  · rintro ⟨⟨rfl, rfl⟩, hmore⟩
    unfold configIssues
    simp only [List.mem_append]
    refine .inl (.inr ?_)
    rw [if_pos hmore]
    exact List.mem_singleton_self _

theorem lt_of_aloneIssue_mem {heap budget : Nat}
    (h : aloneIssue heap budget ∈ configIssues c cpus w) : c.memoryBudget < c.toolHeap := by
  have hhead := head?_aloneIssue heap budget
  rcases cases_of_mem_configIssues h with ⟨-, hissue⟩ | ⟨hmore, -⟩ | hother
  · rw [hissue, head?_crowdedIssue] at hhead
    exact absurd hhead (by decide)
  · exact hmore
  · rw [hhead] at hother
    exact absurd hother (by decide)

/-- The doctor warns of what the gate does. A fresh gate lets tools of one heap in, without a wait,
up to its capacity for that heap, which is never less than one; no share is empty. On a host with a
processor, the doctor says that it is crowded exactly when that capacity is above the number of
processors, and names both numbers; and when it says that tools run one at a time, the capacity is
one. -/
theorem the_doctor_warns_of_what_the_gate_admits :
    (∀ budget heap n : Nat, ((Gate.ofBudget budget).admit? heap n).isSome = true ↔
      n ≤ (Gate.ofBudget budget).capacity heap) ∧
    (∀ budget heap : Nat, 0 < (Gate.ofBudget budget).share heap ∧
      1 ≤ (Gate.ofBudget budget).capacity heap) ∧
    ∀ (c : Config) (cpus : Nat) (w : Workspace), 1 ≤ cpus →
      let capacity := (Gate.ofBudget c.memoryBudget).capacity c.toolHeap
      ((∃ tools host, crowdedIssue tools host ∈ configIssues c cpus w) ↔ cpus < capacity) ∧
      (∀ tools host, crowdedIssue tools host ∈ configIssues c cpus w →
        tools = capacity ∧ host = cpus) ∧
      ((∃ heap budget, aloneIssue heap budget ∈ configIssues c cpus w) → capacity = 1) := by
  refine ⟨Gate.isSome_admit?_ofBudget_iff, fun budget heap => ⟨Gate.share_pos budget heap, ?_⟩,
    fun c cpus w hcpus => ?_⟩
  · rw [Gate.capacity_ofBudget]
    exact Nat.le_max_right _ _
  intro capacity
  -- With a processor at least, a capacity above the number of processors is the plain quotient.
  have hcapacity : capacity = max (c.memoryBudget / max c.toolHeap 1) 1 :=
    Gate.capacity_ofBudget c.memoryBudget c.toolHeap
  refine ⟨⟨?_, ?_⟩, ?_, ?_⟩
  · rintro ⟨tools, host, h⟩
    have hmore := (crowdedIssue_mem_iff.1 h).2
    omega
  · intro hmore
    exact ⟨_, _, crowdedIssue_mem_iff.2 ⟨⟨rfl, rfl⟩, by omega⟩⟩
  · intro tools host h
    obtain ⟨⟨htools, hhost⟩, hmore⟩ := crowdedIssue_mem_iff.1 h
    exact ⟨by omega, hhost⟩
  · rintro ⟨heap, budget, h⟩
    have hmore := lt_of_aloneIssue_mem h
    have hzero : c.memoryBudget / max c.toolHeap 1 = 0 := Nat.div_eq_of_lt (by omega)
    rw [hcapacity, hzero]
    rfl

/-- A budget for four tools. -/
def roomy : Config := { memory := { perTool := some 2048, budget := some 8192 } }

/-- The gate lets in four and no fifth, and a host with two processors is said to be crowded. -/
theorem four_tools_crowd_two_processors :
    1 ≤ 2 ∧ ((Gate.ofBudget 8192).admit? 2048 4).isSome = true ∧
      ((Gate.ofBudget 8192).admit? 2048 5).isSome = false ∧
      crowdedIssue 4 2 ∈ configIssues roomy 2 default := by
  obtain ⟨hadmits, -, hdoctor⟩ := the_doctor_warns_of_what_the_gate_admits
  obtain ⟨hcrowded, hnumbers, -⟩ := hdoctor roomy 2 default (by decide)
  obtain ⟨tools, host, h⟩ := hcrowded.2 (by decide)
  obtain ⟨htools, hhost⟩ := hnumbers tools host h
  have hfour : tools = 4 := htools.trans (by decide)
  subst hfour hhost
  have hfifth : ((Gate.ofBudget 8192).admit? 2048 5).isSome ≠ true := by
    rw [ne_eq, hadmits]
    decide
  exact ⟨by decide, (hadmits 8192 2048 4).2 (by decide), Bool.eq_false_iff.2 hfifth, h⟩

end Doctor

end ApkForge
