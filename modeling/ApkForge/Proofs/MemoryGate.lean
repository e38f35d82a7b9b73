-- Builds side by side at one gate. Each goes through its own record, in any order with the others;
-- a share is granted as soon as there is enough left of the budget, some of which may be put aside
-- for a build before. Whatever the order, the heaps of all running tools fit the budget, or else
-- one tool runs alone whose build asked for more.
import ApkForge.Proofs.Guarded

namespace ApkForge

/-! ## Builds at a gate -/

/-- A build that takes part, with the heap it asks for and all that will be on its record. -/
structure Client where
  layout : BuildLayout
  asked : Nat
  script : List Event
  guarded : Guarded layout asked false script

/-- How a build stands with the gate: it wants nothing, it waits with some megabytes put aside for
it, or it holds a share under a number. -/
inductive Standing where
  | away
  | queued (heap reserved : Nat)
  | inside (heap slot : Nat)

/-- A build under way, with what is still to come on its record and the tool that runs for it. -/
structure Seat where
  layout : BuildLayout
  asked : Nat
  script : List Event
  standing : Standing := .away
  child : Option Command := none

/-- All builds at one gate. -/
structure Crowd where
  gate : Gate
  seats : List Seat

/-- What may happen to a build: it goes on to its next event, some megabytes are put aside for it,
its share is granted, or its tool ends. -/
inductive Act where
  | proceed
  | reserve (megabytes : Nat)
  | grant
  | finish

namespace Seat

/-- The megabytes put aside for a build that waits. -/
def reserved (seat : Seat) : Nat :=
  match seat.standing with
  | .queued _ reserved => reserved
  | _ => 0

/-- The share that a build holds, with its number. -/
def hold? (gate : Gate) (seat : Seat) : Option (Nat × Nat) :=
  match seat.standing with
  | .inside heap slot => some (slot, gate.share heap)
  | _ => none

/-- What the gate has given to a build or put aside for it. -/
def has (gate : Gate) (seat : Seat) : Nat :=
  match seat.standing with
  | .away => 0
  | .queued _ reserved => reserved
  | .inside heap _ => gate.share heap

/-- The heap on the command line of the tool that runs for a build. -/
def heap (seat : Seat) : Nat := (seat.child.bind Command.heap?).getD 0

/-- The next event of a build for which no tool runs. While it waits, nothing happens. -/
def proceed (gate : Gate) (seat : Seat) : Option (Gate × Seat) :=
  match seat.script, seat.standing with
  | [], _ => none
  | .acquired heap :: rest, .away =>
    some (gate, { seat with script := rest, standing := .queued heap 0 })
  | .acquired _ :: _, _ => none
  | .released _ :: rest, .inside _ slot =>
    some (gate.release slot, { seat with script := rest, standing := .away })
  | .released _ :: _, _ => none
  | _ :: _, .queued _ _ => none
  | .called command _ _ :: rest, _ =>
    if (Use.of seat.layout command).isHeavy then
      some (gate, { seat with script := rest, child := some command })
    else some (gate, { seat with script := rest })
  | _ :: rest, _ => some (gate, { seat with script := rest })

/-- What an act makes of the gate and of a build, when `free` megabytes are left; none when the act
is not possible. -/
def act (gate : Gate) (free : Nat) (seat : Seat) : Act → Option (Gate × Seat)
  | .proceed => if seat.child.isSome then none else seat.proceed gate
  | .reserve n =>
    match seat.standing with
    | .queued heap reserved =>
      if n ≤ free ∧ reserved + n ≤ gate.share heap then
        some (gate, { seat with standing := .queued heap (reserved + n) })
      else none
    | _ => none
  | .grant =>
    match seat.standing with
    | .queued heap reserved =>
      if gate.share heap ≤ reserved + free then
        (gate.acquire? heap).map fun granted =>
          (granted.2, { seat with standing := .inside heap granted.1 })
      else none
    | _ => none
  | .finish => if seat.child.isSome then some (gate, { seat with child := none }) else none

end Seat

namespace Crowd

/-- A gate over a budget with all builds before it. -/
def start (budget : Nat) (clients : List Client) : Crowd where
  gate := Gate.ofBudget budget
  seats := clients.map fun c => { layout := c.layout, asked := c.asked, script := c.script }

/-- What is left of the budget: neither held nor put aside. -/
def free (c : Crowd) : Nat := c.gate.available - total (c.seats.map Seat.reserved)

/-- The crowd after an act of one of the builds, if that is possible. -/
def act? (c : Crowd) (k : Nat) (a : Act) : Option Crowd :=
  c.seats[k]?.bind fun seat =>
    (seat.act c.gate c.free a).map fun after => ⟨after.1, c.seats.set k after.2⟩

/-- The crowd after acts, in order. An act that is not possible changes nothing. -/
def after (c : Crowd) : List (Nat × Act) → Crowd
  | [] => c
  | (k, a) :: rest => ((c.act? k a).getD c).after rest

end Crowd

/-! ## What an act does -/

namespace Seat

/-- A tool runs only for a build that holds its share, and then it fits that share. What is to come
is guarded: while the share is asked for or held, it begins before the share is given back. -/
inductive Ok : Seat → Prop where
  | away {layout : BuildLayout} {asked : Nat} {script : List Event}
      (guarded : Guarded layout asked false script) : Ok ⟨layout, asked, script, .away, none⟩
  | queued {layout : BuildLayout} {asked reserved : Nat} {script : List Event}
      (guarded : Guarded layout asked true script) :
      Ok ⟨layout, asked, script, .queued asked reserved, none⟩
  | idle {layout : BuildLayout} {asked slot : Nat} {script : List Event}
      (guarded : Guarded layout asked true script) :
      Ok ⟨layout, asked, script, .inside asked slot, none⟩
  | busy {layout : BuildLayout} {asked slot : Nat} {script : List Event} {command : Command}
      (fits : command.Fits asked) (guarded : Guarded layout asked true script) :
      Ok ⟨layout, asked, script, .inside asked slot, some command⟩

/-- What an act may do: nothing to the gate and to what it has given; put megabytes aside; grant a
share; or give it back. -/
inductive Does (gate : Gate) (free : Nat) (seat : Seat) : Gate → Seat → Prop where
  | stays {seat' : Seat} (hold : seat'.hold? gate = seat.hold? gate)
      (same : seat'.reserved = seat.reserved) : Does gate free seat gate seat'
  | reserves {seat' : Seat} {n : Nat} (fits : n ≤ free)
      (hold : seat'.hold? gate = seat.hold? gate)
      (more : seat'.reserved = seat.reserved + n) : Does gate free seat gate seat'
  | grants {gate' : Gate} {seat' : Seat} {heap slot : Nat}
      (fits : gate.share heap ≤ seat.reserved + free) (before : seat.hold? gate = none)
      (acquire : gate.acquire? heap = some (slot, gate')) (noneLeft : seat'.reserved = 0)
      (hold : seat'.hold? gate = some (slot, gate.share heap)) : Does gate free seat gate' seat'
  | givesBack {seat' : Seat} {slot share : Nat} (before : seat.hold? gate = some (slot, share))
      (noneBefore : seat.reserved = 0) (noneLeft : seat'.reserved = 0)
      (hold : seat'.hold? gate = none) : Does gate free seat (gate.release slot) seat'

/-- An event that has nothing to do with memory is passed over by a build that does not wait. -/
theorem proceed_light {gate : Gate} {layout : BuildLayout} {asked : Nat} {e : Event}
    {rest : List Event} {standing : Standing} (h : e.isLight layout = true)
    (hs : ∀ heap reserved, standing ≠ .queued heap reserved) :
    proceed gate ⟨layout, asked, e :: rest, standing, none⟩ =
      some (gate, ⟨layout, asked, rest, standing, none⟩) := by
  cases standing with
  | queued heap reserved => exact absurd rfl (hs heap reserved)
  | away => cases e <;> simp_all [proceed, Event.isLight, Event.isShare, Event.isHeavy]
  | inside heap slot => cases e <;> simp_all [proceed, Event.isLight, Event.isShare, Event.isHeavy]

theorem proceed_queued {gate : Gate} {layout : BuildLayout} {asked heap reserved : Nat}
    {script : List Event} {child : Option Command} :
    proceed gate ⟨layout, asked, script, .queued heap reserved, child⟩ = none := by
  cases script with
  | nil => rfl
  | cons e rest => cases e <;> rfl

/-- Going on gives back a share or leaves the gate alone. -/
theorem proceed_does {gate gate' : Gate} {free : Nat} {seat seat' : Seat} (hok : seat.Ok)
    (hchild : seat.child = none) (h : seat.proceed gate = some (gate', seat')) :
    Does gate free seat gate' seat' ∧ seat'.Ok ∧ seat'.asked = seat.asked := by
  cases hok with
  | away guarded =>
    cases guarded with
    | done => cases h
    | take rest =>
      cases h
      exact ⟨.stays rfl rfl, .queued rest, rfl⟩
    | light light rest =>
      rw [proceed_light light (by simp)] at h
      cases h
      exact ⟨.stays rfl rfl, .away rest, rfl⟩
  | queued guarded =>
    rw [proceed_queued] at h
    cases h
  | idle guarded =>
    cases guarded with
    | giveBack rest =>
      cases h
      exact ⟨.givesBack rfl rfl rfl rfl, .away rest, rfl⟩
    | @heavy command seconds answer l fits rest =>
      simp only [proceed] at h
      split at h
      · cases h
        exact ⟨.stays rfl rfl, .busy fits rest, rfl⟩
      · cases h
        exact ⟨.stays rfl rfl, .idle rest, rfl⟩
    | light light rest =>
      rw [proceed_light light (by simp)] at h
      cases h
      exact ⟨.stays rfl rfl, .idle rest, rfl⟩
  | busy fits guarded => cases hchild

/-- Every act does one of these, and leaves the build as it should be. What it asks for stays. -/
theorem act_does {gate gate' : Gate} {free : Nat} {seat seat' : Seat} {a : Act} (hok : seat.Ok)
    (h : seat.act gate free a = some (gate', seat')) :
    Does gate free seat gate' seat' ∧ seat'.Ok ∧ seat'.asked = seat.asked := by
  cases a with
  | proceed =>
    simp only [act] at h
    split at h
    · cases h
    · rename_i hchild
      exact proceed_does hok (by simpa using hchild) h
  | reserve n =>
    cases hok with
    | @queued layout asked reserved script guarded =>
      simp only [act] at h
      split at h
      · rename_i hn
        cases h
        exact ⟨.reserves hn.1 rfl rfl, .queued guarded, rfl⟩
      · cases h
    | away guarded => cases h
    | idle guarded => cases h
    | busy fits guarded => cases h
  | grant =>
    cases hok with
    | @queued layout asked reserved script guarded =>
      simp only [act] at h
      split at h
      · rename_i hfits
        obtain ⟨⟨slot, gate₁⟩, hacquire, hgranted⟩ := Option.map_eq_some_iff.1 h
        cases hgranted
        exact ⟨.grants hfits rfl hacquire rfl rfl, .idle guarded, rfl⟩
      · cases h
    | away guarded => cases h
    | idle guarded => cases h
    | busy fits guarded => cases h
  | finish =>
    cases hok with
    | busy fits guarded =>
      cases h
      exact ⟨.stays rfl rfl, .idle guarded, rfl⟩
    | away guarded => cases h
    | queued guarded => cases h
    | idle guarded => cases h

end Seat

/-! ## The gate -/

namespace Gate

/-- A share that is granted was there, gets the next number and is held from then on. -/
theorem acquire?_eq_some {g g' : Gate} {heap slot : Nat} (h : g.acquire? heap = some (slot, g')) :
    g.share heap ≤ g.available ∧ slot = g.issued ∧ g'.budget = g.budget ∧
      g'.held = (g.issued, g.share heap) :: g.held ∧ g'.issued = g.issued + 1 := by
  unfold acquire? at h
  split at h
  · cases h
    exact ⟨‹_›, rfl, rfl, rfl, rfl⟩
  · cases h

theorem available_acquire {g g' : Gate} {heap slot : Nat} (h : g.acquire? heap = some (slot, g')) :
    g'.available = g.available - g.share heap := by
  obtain ⟨-, -, hbudget, hheld, -⟩ := acquire?_eq_some h
  simp only [available, taken, hheld, hbudget, List.map_cons, total_cons]
  omega

/-- A number that was never issued is held by nobody. -/
theorem nodup_acquire {g g' : Gate} {heap slot : Nat} (h : g.acquire? heap = some (slot, g'))
    (hnodup : (g.held.map Prod.fst).Nodup) (hissued : ∀ held ∈ g.held, held.1 < g.issued) :
    (g'.held.map Prod.fst).Nodup := by
  obtain ⟨-, -, -, hheld, -⟩ := acquire?_eq_some h
  rw [hheld, List.map_cons, List.nodup_cons]
  refine ⟨?_, hnodup⟩
  intro hmem
  obtain ⟨held, hin, heq⟩ := List.mem_map.1 hmem
  have := hissued held hin
  omega

theorem lt_issued_acquire {g g' : Gate} {heap slot : Nat} (h : g.acquire? heap = some (slot, g'))
    (hissued : ∀ held ∈ g.held, held.1 < g.issued) : ∀ held ∈ g'.held, held.1 < g'.issued := by
  obtain ⟨-, -, -, hheld, hnext⟩ := acquire?_eq_some h
  intro held hin
  rw [hheld, List.mem_cons] at hin
  rw [hnext]
  rcases hin with rfl | hin
  · exact Nat.lt_succ_self _
  · exact Nat.lt_succ_of_lt (hissued held hin)

theorem available_release_ge (g : Gate) (slot : Nat) :
    g.available ≤ (g.release slot).available := by
  have := total_eraseP_le (fun h => h.1 == slot) g.held
  simp only [available, taken, release]
  omega

/-- When numbers are held once, giving one back leaves the others. -/
theorem held_release {g : Gate} {slot share : Nat} {before after : List (Nat × Nat)}
    (hheld : g.held.Perm (before ++ (slot, share) :: after))
    (hnodup : (g.held.map Prod.fst).Nodup) :
    (g.release slot).held.Perm (before ++ after) := by
  have hperm : g.held.Perm ((slot, share) :: (before ++ after)) :=
    hheld.trans List.perm_middle
  have honce : g.held.Pairwise fun a b => (a.1 == slot) = true → (b.1 == slot) = true → False := by
    refine (List.pairwise_map.1 hnodup).imp ?_
    intro a b hne ha hb
    exact hne ((eq_of_beq ha).trans (eq_of_beq hb).symm)
  have := hperm.eraseP (fun h => h.1 == slot) honce
  rwa [List.eraseP_cons_of_pos (by simp)] at this

end Gate

theorem Seat.hold?_congr {g g' : Gate} (h : g'.budget = g.budget) :
    Seat.hold? g' = Seat.hold? g := by
  funext seat
  unfold Seat.hold? Gate.share
  rw [h]

/-! ## What every crowd keeps -/

namespace Crowd

/-- The gate holds the shares of the builds, each under its own number, and what is put aside is
left of the budget. -/
structure Sound (budget : Nat) (c : Crowd) : Prop where
  budget_eq : c.gate.budget = max budget 1
  seats_ok : ∀ seat ∈ c.seats, seat.Ok
  held : c.gate.held.Perm (c.seats.filterMap (Seat.hold? c.gate))
  numbers : (c.gate.held.map Prod.fst).Nodup
  issued : ∀ h ∈ c.gate.held, h.1 < c.gate.issued
  aside : total (c.seats.map Seat.reserved) ≤ c.gate.available

theorem sound_start (budget : Nat) (clients : List Client) :
    (start budget clients).Sound budget := by
  have haside : total ((start budget clients).seats.map Seat.reserved) = 0 := by
    simp only [start, List.map_map]
    induction clients with
    | nil => rfl
    | cons client rest ih => simpa [Seat.reserved] using ih
  have hnone : ((start budget clients).seats.filterMap
      (Seat.hold? (start budget clients).gate)) = [] := by
    refine List.filterMap_eq_nil_iff.2 fun seat hseat => ?_
    obtain ⟨client, -, rfl⟩ := List.mem_map.1 hseat
    rfl
  constructor
  case budget_eq => rfl
  case seats_ok =>
    intro seat hseat
    obtain ⟨client, -, rfl⟩ := List.mem_map.1 hseat
    exact .away client.guarded
  case held =>
    rw [hnone]
    exact List.Perm.refl _
  case numbers => exact List.nodup_nil
  case issued => simp [start, Gate.ofBudget]
  case aside => simp [haside]

/-- A possible act changes one build, and the gate as that act does. -/
theorem act?_eq_some {c c' : Crowd} {k : Nat} {a : Act} (h : c.act? k a = some c') :
    ∃ pre seat post gate' seat', c.seats = pre ++ seat :: post ∧
      seat.act c.gate c.free a = some (gate', seat') ∧ c' = ⟨gate', pre ++ seat' :: post⟩ := by
  unfold act? at h
  obtain ⟨seat, hseat, h⟩ := Option.bind_eq_some_iff.1 h
  obtain ⟨⟨gate', seat'⟩, hact, rfl⟩ := Option.map_eq_some_iff.1 h
  obtain ⟨hk, rfl⟩ := List.getElem?_eq_some_iff.1 hseat
  refine ⟨c.seats.take k, c.seats[k], c.seats.drop (k + 1), gate', seat', ?_, hact, ?_⟩
  · rw [List.getElem_cons_drop, List.take_append_drop]
  · rw [List.set_eq_take_append_cons_drop, if_pos hk]

theorem sound_act {budget : Nat} {c c' : Crowd} {k : Nat} {a : Act} (hs : c.Sound budget)
    (h : c.act? k a = some c') : c'.Sound budget := by
  obtain ⟨pre, seat, post, gate', seat', hseats, hact, rfl⟩ := act?_eq_some h
  have hok : seat.Ok := hs.seats_ok seat (by simp [hseats])
  obtain ⟨hdoes, hok', -⟩ := Seat.act_does hok hact
  have hseats_ok : ∀ s ∈ pre ++ seat' :: post, s.Ok := by
    intro s hmem
    simp only [List.mem_append, List.mem_cons] at hmem
    rcases hmem with hmem | rfl | hmem
    · exact hs.seats_ok s (by simp [hseats, hmem])
    · exact hok'
    · exact hs.seats_ok s (by simp [hseats, hmem])
  have hheld := hs.held
  have haside := hs.aside
  have hfree : c.free = c.gate.available - total (c.seats.map Seat.reserved) := rfl
  rw [hseats] at hheld haside hfree
  simp only [List.filterMap_append, List.filterMap_cons] at hheld
  simp only [List.map_append, List.map_cons, total_append, total_cons] at haside hfree
  cases hdoes with
  | stays hold same =>
    refine ⟨hs.budget_eq, hseats_ok, ?_, hs.numbers, hs.issued, ?_⟩
    · simpa only [List.filterMap_append, List.filterMap_cons, hold] using hheld
    · simp only [List.map_append, List.map_cons, total_append, total_cons, same]
      exact haside
  | @reserves _ n fits hold more =>
    refine ⟨hs.budget_eq, hseats_ok, ?_, hs.numbers, hs.issued, ?_⟩
    · simpa only [List.filterMap_append, List.filterMap_cons, hold] using hheld
    · simp only [List.map_append, List.map_cons, total_append, total_cons, more]
      omega
  | @grants _ _ heap slot fits before acquire noneLeft hold =>
    obtain ⟨-, rfl, hbudget, hheld', -⟩ := Gate.acquire?_eq_some acquire
    have htaken := Gate.available_acquire acquire
    rw [before] at hheld
    constructor
    case budget_eq => exact hbudget.trans hs.budget_eq
    case seats_ok => exact hseats_ok
    case held =>
      simp only [Seat.hold?_congr hbudget, hheld', List.filterMap_append, List.filterMap_cons, hold]
      exact (hheld.cons _).trans List.perm_middle.symm
    case numbers => exact Gate.nodup_acquire acquire hs.numbers hs.issued
    case issued => exact Gate.lt_issued_acquire acquire hs.issued
    case aside =>
      simp only [List.map_append, List.map_cons, total_append, total_cons, noneLeft]
      omega
  | @givesBack _ slot share before noneBefore noneLeft hold =>
    rw [before] at hheld
    have hback := Gate.held_release hheld hs.numbers
    have hsub : (c.gate.release slot).held.Sublist c.gate.held := List.eraseP_sublist
    constructor
    case budget_eq => exact hs.budget_eq
    case seats_ok => exact hseats_ok
    case held =>
      simp only [List.filterMap_append, List.filterMap_cons]
      have hsame : Seat.hold? (c.gate.release slot) = Seat.hold? c.gate := Seat.hold?_congr rfl
      rw [hsame, hold]
      exact hback
    case numbers => exact hs.numbers.sublist (hsub.map _)
    case issued =>
      intro h hin
      exact hs.issued h (hsub.subset hin)
    case aside =>
      have := c.gate.available_release_ge slot
      simp only [List.map_append, List.map_cons, total_append, total_cons, noneLeft]
      omega

/-- Whatever the builds do, and in any order, the crowd stays sound. -/
theorem sound_after {budget : Nat} {c : Crowd} (hs : c.Sound budget) (acts : List (Nat × Act)) :
    (c.after acts).Sound budget := by
  induction acts generalizing c with
  | nil => exact hs
  | cons step rest ih =>
    obtain ⟨k, a⟩ := step
    unfold after
    refine ih ?_
    cases h : c.act? k a with
    | none => exact hs
    | some c' => exact sound_act hs h

/-! ## Sums over the builds -/

theorem total_perm {l m : List Nat} (h : l.Perm m) : total l = total m := by
  induction h with
  | nil => rfl
  | cons n _ ih => rw [total_cons, total_cons, ih]
  | swap n k rest => simp only [total_cons]; omega
  | trans _ _ ih ih' => exact ih.trans ih'

theorem total_map_le {α : Type} {f g : α → Nat} {l : List α} (h : ∀ a ∈ l, f a ≤ g a) :
    total (l.map f) ≤ total (l.map g) := by
  induction l with
  | nil => exact Nat.le_refl _
  | cons a rest ih =>
    have ha := h a (List.mem_cons_self ..)
    have := ih fun b hb => h b (List.mem_cons_of_mem _ hb)
    simp only [List.map_cons, total_cons]
    omega

theorem total_map_eq_zero {α : Type} {f : α → Nat} {l : List α} (h : ∀ a ∈ l, f a = 0) :
    total (l.map f) = 0 := by
  induction l with
  | nil => rfl
  | cons a rest ih =>
    rw [List.map_cons, total_cons, h a (List.mem_cons_self ..),
      ih fun b hb => h b (List.mem_cons_of_mem _ hb)]

theorem le_total_of_mem {n : Nat} {l : List Nat} (h : n ∈ l) : n ≤ total l := by
  induction l with
  | nil => cases h
  | cons k rest ih =>
    rw [total_cons]
    rcases List.mem_cons.1 h with rfl | h
    · omega
    · have := ih h
      omega

/-- What builds have of a gate is what is put aside for them and what they hold. -/
theorem total_has (gate : Gate) (seats : List Seat) :
    total (seats.map (Seat.has gate)) = total (seats.map Seat.reserved) +
      total ((seats.filterMap (Seat.hold? gate)).map Prod.snd) := by
  induction seats with
  | nil => rfl
  | cons seat rest ih =>
    obtain ⟨layout, asked, script, standing, child⟩ := seat
    simp only [List.map_cons, total_cons, ih]
    cases standing with
    | away =>
      rw [List.filterMap_cons_none rfl]
      simp only [Seat.has, Seat.reserved]
      omega
    | queued heap reserved =>
      rw [List.filterMap_cons_none rfl]
      simp only [Seat.has, Seat.reserved]
      omega
    | inside heap slot =>
      rw [List.filterMap_cons_some (f := Seat.hold? gate) (b := (slot, gate.share heap)) rfl]
      simp only [Seat.has, Seat.reserved, List.map_cons, total_cons]
      omega

variable {budget : Nat} {c : Crowd}

/-- What is free and what builds have make up the budget. -/
theorem Sound.free_add_has (h : c.Sound budget) :
    c.free + total (c.seats.map (Seat.has c.gate)) = max budget 1 := by
  have htaken : c.gate.taken =
      total ((c.seats.filterMap (Seat.hold? c.gate)).map Prod.snd) := by
    exact total_perm (h.held.map Prod.snd)
  have hsum := c.gate.available_add_taken
  have haside := h.aside
  rw [h.budget_eq] at hsum
  rw [total_has, ← htaken]
  unfold free
  omega

/-- The heap of a running tool is within what its build holds, unless that is all there is. -/
theorem Sound.heap_le (h : c.Sound budget) {seat : Seat} (hseat : seat ∈ c.seats)
    (hasked : seat.child.isSome = true → seat.asked ≤ max budget 1) :
    seat.heap ≤ seat.has c.gate := by
  have hok := h.seats_ok seat hseat
  cases hok with
  | away guarded => exact Nat.zero_le _
  | queued guarded => exact Nat.zero_le _
  | idle guarded => exact Nat.zero_le _
  | busy fits guarded =>
    obtain ⟨heap, hheap, hle⟩ := fits
    have := hasked rfl
    simp only [Seat.heap, Option.bind_some, hheap, Option.getD_some, Seat.has, Gate.share,
      h.budget_eq]
    simp only at this
    omega

/-- A build for which a tool runs holds a megabyte at least, and all there is if it asked for so
much. -/
theorem Sound.has_of_running (h : c.Sound budget) {seat : Seat} (hseat : seat ∈ c.seats)
    (hchild : seat.child.isSome = true) : 1 ≤ seat.has c.gate ∧
      (max budget 1 < seat.asked → seat.has c.gate = max budget 1) := by
  have hok := h.seats_ok seat hseat
  cases hok with
  | away guarded => cases hchild
  | queued guarded => cases hchild
  | idle guarded => cases hchild
  | busy fits guarded =>
    simp only [Seat.has, Gate.share, h.budget_eq]
    omega

/-- When a build that asked for more than the budget has its tool running, no other tool runs. -/
theorem Sound.runs_alone (h : c.Sound budget) {seat : Seat} (hseat : seat ∈ c.seats)
    (hchild : seat.child.isSome = true) (hasked : max budget 1 < seat.asked) :
    c.seats.filter (fun s => s.child.isSome) = [seat] := by
  have hsum := h.free_add_has
  obtain ⟨pre, post, hseats⟩ := List.append_of_mem hseat
  have hhas := (h.has_of_running hseat hchild).2 hasked
  rw [hseats] at hsum ⊢
  simp only [List.map_append, List.map_cons, total_append, total_cons] at hsum
  -- nothing is left for the others
  have hothers : ∀ s ∈ pre ++ post, s.child.isSome = false := by
    intro s hs
    cases hrun : s.child.isSome
    · rfl
    · have hin : s ∈ c.seats := by
        rw [hseats]
        rcases List.mem_append.1 hs with hs | hs
        · exact List.mem_append_left _ hs
        · exact List.mem_append_right _ (List.mem_cons_of_mem _ hs)
      have hone := (h.has_of_running hin hrun).1
      have hle : s.has c.gate ≤ total (pre.map (Seat.has c.gate)) +
          total (post.map (Seat.has c.gate)) := by
        rw [← total_append, ← List.map_append]
        exact le_total_of_mem (List.mem_map.2 ⟨s, hs, rfl⟩)
      omega
  have hpre : pre.filter (fun s => s.child.isSome) = [] := by
    refine List.filter_eq_nil_iff.2 fun s hs => ?_
    simp [hothers s (List.mem_append_left _ hs)]
  have hpost : post.filter (fun s => s.child.isSome) = [] := by
    refine List.filter_eq_nil_iff.2 fun s hs => ?_
    simp [hothers s (List.mem_append_right _ hs)]
  rw [List.filter_append, hpre, List.filter_cons_of_pos (by simpa using hchild), hpost]
  rfl

/-- The heaps of running tools fit the budget, or one tool runs alone whose build asked for more. -/
theorem Sound.heaps_fit (h : c.Sound budget) :
    total (c.seats.map Seat.heap) ≤ max budget 1 ∨
      ∃ seat, c.seats.filter (fun s => s.child.isSome) = [seat] ∧ max budget 1 < seat.asked := by
  by_cases hbig : ∃ seat ∈ c.seats, seat.child.isSome = true ∧ max budget 1 < seat.asked
  · obtain ⟨seat, hseat, hchild, hasked⟩ := hbig
    exact Or.inr ⟨seat, h.runs_alone hseat hchild hasked, hasked⟩
  · left
    have hle : total (c.seats.map Seat.heap) ≤ total (c.seats.map (Seat.has c.gate)) := by
      refine total_map_le fun seat hseat => h.heap_le hseat fun hchild => ?_
      exact Nat.le_of_not_lt fun hlt => hbig ⟨seat, hseat, hchild, hlt⟩
    have := h.free_add_has
    omega

/-- Every running tool names its heap. -/
theorem Sound.names_heap (h : c.Sound budget) {seat : Seat} (hseat : seat ∈ c.seats)
    {command : Command} (hchild : seat.child = some command) : command.heap?.isSome = true := by
  have hok := h.seats_ok seat hseat
  cases hok with
  | away guarded => cases hchild
  | queued guarded => cases hchild
  | idle guarded => cases hchild
  | busy fits guarded =>
    cases hchild
    obtain ⟨heap, hheap, -⟩ := fits
    rw [hheap]
    rfl

/-- What the builds ask for stays the same. -/
theorem asked_after (h : c.Sound budget) (acts : List (Nat × Act)) :
    (c.after acts).seats.map Seat.asked = c.seats.map Seat.asked := by
  induction acts generalizing c with
  | nil => rfl
  | cons step rest ih =>
    obtain ⟨k, a⟩ := step
    unfold after
    cases hact : c.act? k a with
    | none => exact ih h
    | some c' =>
      rw [Option.getD_some, ih (sound_act h hact)]
      obtain ⟨pre, seat, post, gate', seat', hseats, hdone, rfl⟩ := act?_eq_some hact
      obtain ⟨-, -, hasked⟩ := Seat.act_does (h.seats_ok seat (by simp [hseats])) hdone
      simp [hseats, hasked]

/-! ## The law -/

/-- A build run to its end is a client of the gate that asks for the heap chosen for it. -/
theorem exists_client {ρ : Type} (s : Services ρ) (project : Project) (types : List String)
    (options : BuildOptions) (σ : Session ρ) : ∃ client : Client,
    client.layout = ⟨project.buildDir⟩ ∧ client.asked = options.heap ∧
      ((Build.run s project types options).run σ).2.events = σ.events ++ client.script := by
  obtain ⟨added, hev, hg⟩ := Build.guarded_run s project types options σ
  exact ⟨⟨_, _, added, hg⟩, rfl, rfl, hev⟩

/-- The heaps of running tools fit the budget. Every build is a client of the gate, whatever its
tools answer. After any acts of any clients, in any order, what is free and what the clients have
make up the budget, and the heaps on the command lines of all running tools come to no more than
the budget, or else just one such tool runs and its build asked for more than the budget. -/
theorem running_heaps_fit_the_budget :
    (∀ {ρ : Type} (s : Services ρ) (project : Project) (types : List String)
      (options : BuildOptions) (σ : Session ρ), ∃ client : Client,
      client.layout = ⟨project.buildDir⟩ ∧ client.asked = options.heap ∧
        ((Build.run s project types options).run σ).2.events = σ.events ++ client.script) ∧
    ∀ (budget : Nat) (clients : List Client) (acts : List (Nat × Act)),
      let c := (start budget clients).after acts
      c.seats.map Seat.asked = clients.map Client.asked ∧
      c.free + total (c.seats.map (Seat.has c.gate)) = max budget 1 ∧
      (∀ seat ∈ c.seats, ∀ command, seat.child = some command → command.heap?.isSome = true) ∧
      (total (c.seats.map Seat.heap) ≤ max budget 1 ∨
        ∃ seat, c.seats.filter (fun s => s.child.isSome) = [seat] ∧
          max budget 1 < seat.asked) := by
  refine ⟨exists_client, ?_⟩
  intro budget clients acts
  have hs := sound_after (sound_start budget clients) acts
  refine ⟨?_, hs.free_add_has, ?_, hs.heaps_fit⟩
  · rw [asked_after (sound_start budget clients) acts]
    simp [start]
  · intro seat hseat command hchild
    exact hs.names_heap hseat hchild

/-- Two builds that ask for 200 of 300: while the tool of the first runs, the second waits with the
rest put aside for it. -/
example :
    let command := DexMerger.command ⟨⟨"java"⟩, ⟨"dx.jar"⟩, 200, 60, none⟩ ⟨"out"⟩ []
    let client : Client :=
      { layout := ⟨⟨"build"⟩⟩, asked := 200
        script := [.acquired 200, .called command 60 (.ok {}), .released 200]
        guarded := .take (.heavy ⟨200, Command.heap?_dex .., Nat.le_max_left _ _⟩
          (.giveBack .done)) }
    let acts := [(0, .proceed), (1, .proceed), (0, .grant), (1, .reserve 100), (1, .grant),
      (0, .proceed), (1, .proceed)]
    ((start 300 [client, client]).after acts).seats.map (fun seat =>
      (seat.has (Gate.ofBudget 300), seat.child.isSome)) = [(200, true), (100, false)] := by
  decide

end Crowd

end ApkForge
