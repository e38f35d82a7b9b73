-- Who waits at the gate, and for whom. A build holds one share at a time and asks for none while it
-- holds one, so a build that waits does so for one that can go on, or for nothing at all. Where the
-- gate serves the waiting builds one at a time, every build comes to its end.
import ApkForge.Proofs.MemoryGate

namespace ApkForge

/-! ## What a build holds -/

/-- The shares held after an event, by the heaps they were taken for. -/
def Event.hold (held : List Nat) : Event → List Nat
  | .acquired heap => heap :: held
  | .released heap => held.erase heap
  | _ => held

/-- The shares held after events by a build that held none before. -/
def Event.heldAfter (events : List Event) : List Nat := events.foldl Event.hold []

/-- The event befits a build that asks for a heap and has shares: it takes a share when it has none
and for that heap, gives back the share that it has, and starts a machine with a heap of its own
over the share for that heap. -/
def Event.Befits (layout : BuildLayout) (asked : Nat) (held : List Nat) : Event → Prop
  | .acquired heap => heap = asked ∧ held = []
  | .released heap => held = [heap]
  | .called command _ _ => (Use.of layout command).isHeavy = true → held = [asked]
  | _ => True

/-- Every event of a record befits the build at that point, and at the end no share is left. -/
structure HoldsOneShare (layout : BuildLayout) (asked : Nat) (added : List Event) : Prop where
  befits : ∀ before e after, added = before ++ e :: after →
    e.Befits layout asked (Event.heldAfter before)
  none_left : Event.heldAfter added = []

namespace Guarded

variable {layout : BuildLayout} {asked : Nat}

/-- The shares held at a point of a guarded record. -/
def shares (asked : Nat) (held : Bool) : List Nat := if held then [asked] else []

/-- What befits event by event is known of the first event and of the rest. -/
theorem befits_cons {start : List Nat} {e : Event} {l : List Event}
    (he : e.Befits layout asked start)
    (hl : ∀ before d after, l = before ++ d :: after →
      d.Befits layout asked (before.foldl Event.hold (Event.hold start e))) :
    ∀ before d after, e :: l = before ++ d :: after →
      d.Befits layout asked (before.foldl Event.hold start) := by
  intro before d after hsplit
  cases before with
  | nil =>
    cases hsplit
    exact he
  | cons c before =>
    cases hsplit
    exact hl before d after rfl

theorem hold_light {start : List Nat} {e : Event} (h : e.isLight layout = true) :
    Event.hold start e = start := by
  cases e with
  | acquired heap => cases h
  | released heap => cases h
  | called command seconds answer => rfl
  | reached percent => rfl
  | noted notice => rfl
  | merged output inputs outcome => rfl

theorem befits_light {start : List Nat} {e : Event} (h : e.isLight layout = true) :
    e.Befits layout asked start := by
  cases e with
  | acquired heap => cases h
  | released heap => cases h
  | called command seconds answer =>
    intro hheavy
    simp [Event.isLight, Event.isHeavy, hheavy] at h
  | reached percent => trivial
  | noted notice => trivial
  | merged output inputs outcome => trivial

/-- A guarded record goes from what is held to nothing, and every event befits on the way. -/
theorem befits {held : Bool} {l : List Event} (h : Guarded layout asked held l) :
    (∀ before e after, l = before ++ e :: after →
      e.Befits layout asked (before.foldl Event.hold (shares asked held))) ∧
    l.foldl Event.hold (shares asked held) = [] := by
  induction h with
  | done =>
    refine ⟨fun before e after hnil => ?_, rfl⟩
    cases before <;> cases hnil
  | take rest ih => exact ⟨befits_cons ⟨rfl, rfl⟩ ih.1, ih.2⟩
  | @giveBack l rest ih =>
    have hback : Event.hold (shares asked true) (.released asked) = shares asked false := by
      simp [Event.hold, shares]
    refine ⟨befits_cons rfl ?_, ?_⟩
    · rw [hback]
      exact ih.1
    · rw [List.foldl_cons, hback]
      exact ih.2
  | heavy fits rest ih => exact ⟨befits_cons (fun _ => rfl) ih.1, ih.2⟩
  | light light rest ih =>
    refine ⟨befits_cons (befits_light light) ?_, ?_⟩
    · rw [hold_light light]
      exact ih.1
    · rw [List.foldl_cons, hold_light light]
      exact ih.2

theorem holdsOneShare {l : List Event} (h : Guarded layout asked false l) :
    HoldsOneShare layout asked l :=
  ⟨h.befits.1, h.befits.2⟩

end Guarded

/-! ## What is left to do -/

/-- The act does something for a build, and does not only put megabytes aside for it. -/
def Act.isProgress : Act → Bool
  | .reserve _ => false
  | _ => true

namespace Seat

/-- How much is left to do for a build: its events, its waiting, and the tool that runs for it. -/
def work (seat : Seat) : Nat :=
  3 * seat.script.length + (match seat.standing with | .queued _ _ => 1 | _ => 0) +
    (if seat.child.isSome then 1 else 0)

/-- A part of its share is put aside for a build that waits, and a part is missing. -/
def isServed (gate : Gate) (seat : Seat) : Bool :=
  match seat.standing with
  | .queued heap reserved => decide (0 < reserved ∧ reserved < gate.share heap)
  | _ => false

/-- The build has come to the end of its record, waits for nothing and holds nothing. -/
def IsDone (seat : Seat) : Prop :=
  seat.script = [] ∧ seat.standing = .away ∧ seat.child = none

theorem queued_of_isServed {gate : Gate} {seat : Seat} (h : seat.isServed gate = true) :
    ∃ heap reserved, seat.standing = .queued heap reserved := by
  cases hstanding : seat.standing with
  | queued heap reserved => exact ⟨heap, reserved, rfl⟩
  | away => simp [isServed, hstanding] at h
  | inside heap slot => simp [isServed, hstanding] at h

theorem child_of_away {seat : Seat} (hok : seat.Ok) (h : seat.standing = .away) :
    seat.child = none := by
  cases hok with
  | away guarded => rfl
  | queued guarded => rfl
  | idle guarded => rfl
  | busy fits guarded => cases h

theorem isServed_congr {g g' : Gate} (h : g'.budget = g.budget) :
    Seat.isServed g' = Seat.isServed g := by
  funext seat
  unfold isServed Gate.share
  rw [h]

theorem proceed_work {gate gate' : Gate} {seat seat' : Seat} (hok : seat.Ok)
    (hchild : seat.child = none) (h : seat.proceed gate = some (gate', seat')) :
    seat'.work < seat.work ∧ seat'.isServed gate' = false := by
  cases hok with
  | away guarded =>
    cases guarded with
    | done => cases h
    | take rest =>
      cases h
      exact ⟨by simp [work]; omega, by simp [isServed]⟩
    | light light rest =>
      rw [proceed_light light (by simp)] at h
      cases h
      exact ⟨by simp [work], rfl⟩
  | queued guarded =>
    rw [proceed_queued] at h
    cases h
  | idle guarded =>
    cases guarded with
    | giveBack rest =>
      cases h
      exact ⟨by simp [work], rfl⟩
    | @heavy command seconds answer l fits rest =>
      simp only [proceed] at h
      split at h
      · cases h
        exact ⟨by simp [work]; omega, rfl⟩
      · cases h
        exact ⟨by simp [work], rfl⟩
    | light light rest =>
      rw [proceed_light light (by simp)] at h
      cases h
      exact ⟨by simp [work], rfl⟩
  | busy fits guarded => cases hchild

/-- After an act of progress less is left to do for the build, and no part of a share is put aside
for it. -/
theorem act_work {gate gate' : Gate} {free : Nat} {seat seat' : Seat} {a : Act} (hok : seat.Ok)
    (ha : a.isProgress = true) (h : seat.act gate free a = some (gate', seat')) :
    seat'.work < seat.work ∧ seat'.isServed gate' = false := by
  cases a with
  | proceed =>
    simp only [act] at h
    split at h
    · cases h
    · rename_i hchild
      exact proceed_work hok (by simpa using hchild) h
  | reserve n => cases ha
  | grant =>
    cases hok with
    | @queued layout asked reserved script guarded =>
      simp only [act] at h
      split at h
      · obtain ⟨⟨slot, gate₁⟩, -, hgranted⟩ := Option.map_eq_some_iff.1 h
        cases hgranted
        exact ⟨by simp [work], rfl⟩
      · cases h
    | away guarded => cases h
    | idle guarded => cases h
    | busy fits guarded => cases h
  | finish =>
    cases hok with
    | busy fits guarded =>
      cases h
      exact ⟨by simp [work], rfl⟩
    | away guarded => cases h
    | queued guarded => cases h
    | idle guarded => cases h

/-- A build that holds its share can go on: its tool ends, or its next event comes. -/
theorem inside_goes_on (gate : Gate) (free : Nat) {seat : Seat} {heap slot : Nat} (hok : seat.Ok)
    (h : seat.standing = .inside heap slot) :
    ∃ a after, a.isProgress = true ∧ seat.act gate free a = some after := by
  cases hok with
  | away guarded => cases h
  | queued guarded => cases h
  | busy fits guarded => exact ⟨.finish, _, rfl, rfl⟩
  | idle guarded =>
    refine ⟨.proceed, ?_⟩
    cases guarded with
    | giveBack rest => exact ⟨_, rfl, rfl⟩
    | @heavy command seconds answer l fits rest =>
      simp only [act, proceed]
      split
      · rename_i hsome
        cases hsome
      · split
        · exact ⟨_, rfl, rfl⟩
        · exact ⟨_, rfl, rfl⟩
    | light light rest => exact ⟨_, rfl, proceed_light light (by simp)⟩

/-- A build that neither waits nor holds anything can go on to its next event. -/
theorem away_goes_on (gate : Gate) (free : Nat) {seat : Seat} (hok : seat.Ok)
    (h : seat.standing = .away) (hmore : seat.script ≠ []) :
    ∃ after, seat.act gate free .proceed = some after := by
  cases hok with
  | queued guarded => cases h
  | idle guarded => cases h
  | busy fits guarded => cases h
  | away guarded =>
    cases guarded with
    | done => exact absurd rfl hmore
    | take rest => exact ⟨_, rfl⟩
    | light light rest => exact ⟨_, proceed_light light (by simp)⟩

/-- Nothing is put aside for a build that does not wait, and none of a share but all of it for one
that is not served in part. -/
theorem reserved_eq_zero {gate : Gate} {seat : Seat} (hnot : seat.isServed gate = false)
    (hless : ∀ heap reserved, seat.standing = .queued heap reserved →
      ¬ gate.share heap ≤ reserved) : seat.reserved = 0 := by
  cases hstanding : seat.standing with
  | away => simp [reserved, hstanding]
  | inside heap slot => simp [reserved, hstanding]
  | queued heap reserved =>
    have hpart := hless heap reserved hstanding
    simp only [isServed, hstanding, decide_eq_false_iff_not] at hnot
    simp only [Seat.reserved, hstanding]
    omega

theorem Does.budget_eq {gate gate' : Gate} {free : Nat} {seat seat' : Seat}
    (h : Does gate free seat gate' seat') : gate'.budget = gate.budget := by
  cases h with
  | stays => rfl
  | reserves => rfl
  | grants fits before acquire noneLeft hold => exact (Gate.acquire?_eq_some acquire).2.2.1
  | givesBack => rfl

end Seat

theorem Gate.share_le_budget (g : Gate) (heap : Nat) : g.share heap ≤ g.budget :=
  Nat.min_le_right _ _

/-- What is left of the budget is enough for a share when nobody holds anything. -/
theorem Gate.acquire?_of_le {g : Gate} {heap : Nat} (h : g.share heap ≤ g.available) :
    ∃ granted, g.acquire? heap = some granted := by
  unfold acquire?
  rw [dif_pos h]
  exact ⟨_, rfl⟩

namespace Crowd

/-- How much is left to do for all builds. -/
def work (c : Crowd) : Nat := total (c.seats.map Seat.work)

/-- How many builds wait with a part of their share put aside. -/
def served (c : Crowd) : Nat := c.seats.countP (Seat.isServed c.gate)

/-- All builds have come to their end. -/
def IsDone (c : Crowd) : Prop := ∀ seat ∈ c.seats, seat.IsDone

/-- The waiting builds are served one by one: at no time do two of them have a part of their shares
put aside. -/
def oneByOne (c : Crowd) : List (Nat × Act) → Bool
  | [] => decide (c.served ≤ 1)
  | (k, a) :: rest => decide (c.served ≤ 1) && ((c.act? k a).getD c).oneByOne rest

theorem served_after {c : Crowd} {acts : List (Nat × Act)} (h : c.oneByOne acts = true) :
    (c.after acts).served ≤ 1 := by
  induction acts generalizing c with
  | nil => simpa [oneByOne, after] using h
  | cons step rest ih =>
    obtain ⟨k, a⟩ := step
    simp only [oneByOne, Bool.and_eq_true] at h
    exact ih h.2

variable {budget : Nat} {c : Crowd}

theorem act?_of_seat {k : Nat} {seat : Seat} {a : Act} {after : Gate × Seat}
    (hseat : c.seats[k]? = some seat) (h : seat.act c.gate c.free a = some after) :
    ∃ c', c.act? k a = some c' := by
  unfold act?
  rw [hseat, Option.bind_some, h]
  exact ⟨_, rfl⟩

/-- After an act of progress less is left to do, and no more builds have a part of a share. -/
theorem Sound.act_work (hs : c.Sound budget) {c' : Crowd} {k : Nat} {a : Act}
    (ha : a.isProgress = true) (h : c.act? k a = some c') :
    c'.work < c.work ∧ c'.served ≤ c.served := by
  obtain ⟨pre, seat, post, gate', seat', hseats, hact, rfl⟩ := act?_eq_some h
  have hok : seat.Ok := hs.seats_ok seat (by simp [hseats])
  obtain ⟨hless, hserved⟩ := Seat.act_work hok ha hact
  have hbudget := (Seat.act_does hok hact).1.budget_eq
  constructor
  · simp only [work, hseats, List.map_append, List.map_cons, total_append, total_cons]
    omega
  · simp only [served, hseats, List.countP_append, List.countP_cons,
      ← Seat.isServed_congr hbudget, hserved]
    simp

/-! ## Whom a build waits for -/

/-- When no build holds a share, the whole budget is there. -/
theorem Sound.available_of_none_inside (hs : c.Sound budget)
    (h : ∀ seat ∈ c.seats, ∀ heap slot, seat.standing ≠ .inside heap slot) :
    c.gate.available = max budget 1 := by
  have hnone : c.seats.filterMap (Seat.hold? c.gate) = [] := by
    refine List.filterMap_eq_nil_iff.2 fun seat hseat => ?_
    cases hstanding : seat.standing with
    | away => simp [Seat.hold?, hstanding]
    | queued heap reserved => simp [Seat.hold?, hstanding]
    | inside heap slot => exact absurd hstanding (h seat hseat heap slot)
  have hheld := hs.held
  rw [hnone, List.perm_nil] at hheld
  have := c.gate.available_add_taken
  rw [Gate.taken, hheld, hs.budget_eq] at this
  exact this

/-- A build that waits does so for another that holds a share and can go on, or the whole budget is
there and enough for it. -/
theorem Sound.waits_for (hs : c.Sound budget) {k : Nat} {seat : Seat} {heap reserved : Nat}
    (hseat : c.seats[k]? = some seat) (hwaits : seat.standing = .queued heap reserved) :
    (∃ j other heap' slot, j ≠ k ∧ c.seats[j]? = some other ∧
      other.standing = .inside heap' slot ∧ ∃ a c', c.act? j a = some c') ∨
    c.gate.available = max budget 1 ∧ c.gate.share heap ≤ max budget 1 := by
  by_cases hin : ∃ other ∈ c.seats, ∃ heap' slot, other.standing = .inside heap' slot
  · left
    obtain ⟨other, hother, heap', slot, hinside⟩ := hin
    obtain ⟨j, hj⟩ := List.mem_iff_getElem?.1 hother
    obtain ⟨a, after, -, hact⟩ := Seat.inside_goes_on c.gate c.free
      (hs.seats_ok other hother) hinside
    refine ⟨j, other, heap', slot, ?_, hj, hinside, a, act?_of_seat hj hact⟩
    rintro rfl
    rw [hseat, Option.some.injEq] at hj
    rw [hj, hinside] at hwaits
    cases hwaits
  · right
    refine ⟨hs.available_of_none_inside fun other hother heap' slot h => ?_, ?_⟩
    · exact hin ⟨other, hother, heap', slot, h⟩
    · rw [← hs.budget_eq]
      exact c.gate.share_le_budget heap

/-! ## All come to their end -/

/-- Where the waiting builds are served one by one, no other is served beside one. -/
theorem served_alone (hserved : c.served ≤ 1) {pre post : List Seat} {seat : Seat}
    (hseats : c.seats = pre ++ seat :: post) (hpart : seat.isServed c.gate = true) :
    ∀ other ∈ pre ++ post, other.isServed c.gate = false := by
  have hcount : (pre ++ post).countP (Seat.isServed c.gate) = 0 := by
    rw [served, hseats, List.countP_append, List.countP_cons_of_pos hpart] at hserved
    rw [List.countP_append]
    omega
  intro other hother
  simpa using List.countP_eq_zero.1 hcount other hother

/-- Where nobody holds a share and the waiting builds are served one by one, what is put aside is
all for one build, or some build has all of its share put aside. -/
theorem exists_next (hserved : c.served ≤ 1)
    (hwaits : ∃ seat ∈ c.seats, ∃ heap reserved, seat.standing = .queued heap reserved) :
    ∃ seat ∈ c.seats, ∃ heap reserved, seat.standing = .queued heap reserved ∧
      (c.gate.share heap ≤ reserved ∨ total (c.seats.map Seat.reserved) = reserved) := by
  by_cases hfull : ∃ seat ∈ c.seats, ∃ heap reserved, seat.standing = .queued heap reserved ∧
      c.gate.share heap ≤ reserved
  · obtain ⟨seat, hseat, heap, reserved, hqueued, hle⟩ := hfull
    exact ⟨seat, hseat, heap, reserved, hqueued, Or.inl hle⟩
  -- nothing is put aside for a build that is not served in part
  have hnothing : ∀ seat ∈ c.seats, seat.isServed c.gate = false → seat.reserved = 0 :=
    fun seat hseat hnot => Seat.reserved_eq_zero hnot fun heap reserved hqueued hle =>
      hfull ⟨seat, hseat, heap, reserved, hqueued, hle⟩
  by_cases hpart : ∃ seat ∈ c.seats, seat.isServed c.gate = true
  · obtain ⟨seat, hseat, hpart⟩ := hpart
    obtain ⟨heap, reserved, hqueued⟩ := Seat.queued_of_isServed hpart
    refine ⟨seat, hseat, heap, reserved, hqueued, Or.inr ?_⟩
    obtain ⟨pre, post, hseats⟩ := List.append_of_mem hseat
    have hothers : ∀ other ∈ pre ++ post, other.reserved = 0 := by
      intro other hother
      refine hnothing other ?_ (served_alone hserved hseats hpart other hother)
      rw [hseats]
      exact List.Perm.subset List.perm_middle.symm (List.mem_cons_of_mem _ hother)
    have hzero := total_map_eq_zero hothers
    simp only [List.map_append, total_append] at hzero
    have hreserved : seat.reserved = reserved := by simp [Seat.reserved, hqueued]
    simp only [hseats, List.map_append, List.map_cons, total_append, total_cons]
    omega
  · obtain ⟨seat, hseat, heap, reserved, hqueued⟩ := hwaits
    have hzero : ∀ other ∈ c.seats, other.reserved = 0 := fun other hother =>
      hnothing other hother (by simpa using fun h => hpart ⟨other, hother, h⟩)
    refine ⟨seat, hseat, heap, reserved, hqueued, Or.inr ?_⟩
    rw [total_map_eq_zero hzero, ← hzero seat hseat]
    simp [Seat.reserved, hqueued]

/-- With the whole budget there, a build is let in for which all of its share is put aside, or
besides which nothing is. -/
theorem Sound.lets_in (hs : c.Sound budget) (hall : c.gate.available = max budget 1) {seat : Seat}
    {heap reserved : Nat} (hqueued : seat.standing = .queued heap reserved)
    (hnext : c.gate.share heap ≤ reserved ∨ total (c.seats.map Seat.reserved) = reserved) :
    ∃ after, seat.act c.gate c.free .grant = some after := by
  have hshare := c.gate.share_le_budget heap
  rw [hs.budget_eq, ← hall] at hshare
  have henough : c.gate.share heap ≤ reserved + c.free := by
    have := hs.aside
    unfold free
    omega
  obtain ⟨granted, hgranted⟩ := Gate.acquire?_of_le hshare
  refine ⟨(granted.2, { seat with standing := .inside heap granted.1 }), ?_⟩
  simp only [Seat.act, hqueued, if_pos henough, hgranted, Option.map_some]

/-- Unless all builds are done, one of them can go on. -/
theorem Sound.progress (hs : c.Sound budget) (hserved : c.served ≤ 1) :
    c.IsDone ∨ ∃ k a c', a.isProgress = true ∧ c.act? k a = some c' := by
  by_cases hin : ∃ seat ∈ c.seats, ∃ heap slot, seat.standing = .inside heap slot
  · right
    obtain ⟨seat, hseat, heap, slot, hinside⟩ := hin
    obtain ⟨k, hk⟩ := List.mem_iff_getElem?.1 hseat
    obtain ⟨a, after, ha, hact⟩ := Seat.inside_goes_on c.gate c.free
      (hs.seats_ok seat hseat) hinside
    obtain ⟨c', hc'⟩ := act?_of_seat hk hact
    exact ⟨k, a, c', ha, hc'⟩
  have hall := hs.available_of_none_inside fun seat hseat heap slot h =>
    hin ⟨seat, hseat, heap, slot, h⟩
  by_cases hwaits : ∃ seat ∈ c.seats, ∃ heap reserved, seat.standing = .queued heap reserved
  · right
    obtain ⟨seat, hseat, heap, reserved, hqueued, hnext⟩ := exists_next hserved hwaits
    obtain ⟨k, hk⟩ := List.mem_iff_getElem?.1 hseat
    obtain ⟨after, hact⟩ := hs.lets_in hall hqueued hnext
    obtain ⟨c', hc'⟩ := act?_of_seat hk hact
    exact ⟨k, .grant, c', rfl, hc'⟩
  have haway : ∀ seat ∈ c.seats, seat.standing = .away := by
    intro seat hseat
    cases hstanding : seat.standing with
    | away => rfl
    | queued heap reserved => exact absurd ⟨seat, hseat, heap, reserved, hstanding⟩ hwaits
    | inside heap slot => exact absurd ⟨seat, hseat, heap, slot, hstanding⟩ hin
  by_cases hmore : ∃ seat ∈ c.seats, seat.script ≠ []
  · right
    obtain ⟨seat, hseat, hmore⟩ := hmore
    obtain ⟨k, hk⟩ := List.mem_iff_getElem?.1 hseat
    obtain ⟨after, hact⟩ := Seat.away_goes_on c.gate c.free (hs.seats_ok seat hseat)
      (haway seat hseat) hmore
    obtain ⟨c', hc'⟩ := act?_of_seat hk hact
    exact ⟨k, .proceed, c', rfl, hc'⟩
  · left
    intro seat hseat
    refine ⟨?_, haway seat hseat, ?_⟩
    · exact Classical.byContradiction fun h => hmore ⟨seat, hseat, h⟩
    · exact Seat.child_of_away (hs.seats_ok seat hseat) (haway seat hseat)

/-- Acts of progress lead to where all builds are done. -/
theorem Sound.comes_to_end (hs : c.Sound budget) (hserved : c.served ≤ 1) :
    ∃ more, c.oneByOne more = true ∧ (c.after more).IsDone := by
  induction hwork : c.work using Nat.strongRecOn generalizing c with
  | ind n ih =>
    rcases hs.progress hserved with hdone | ⟨k, a, c', ha, hact⟩
    · exact ⟨[], by simpa [oneByOne] using hserved, hdone⟩
    · obtain ⟨hless, hserved'⟩ := hs.act_work ha hact
      obtain ⟨more, hone, hdone⟩ := ih c'.work (hwork ▸ hless) (sound_act hs hact)
        (Nat.le_trans hserved' hserved) rfl
      refine ⟨(k, a) :: more, ?_, ?_⟩
      · simpa [oneByOne, hact, hserved] using hone
      · simpa [after, hact] using hdone

theorem Sound.available_of_done (hs : c.Sound budget) (h : c.IsDone) :
    c.gate.available = max budget 1 := by
  refine hs.available_of_none_inside fun seat hseat heap slot hinside => ?_
  rw [(h seat hseat).2.1] at hinside
  cases hinside

/-! ## The law -/

/-- No build waits for ever. Every build is a client of the gate that holds one share at a time, for
the heap it asks for, starts its machines over that share alone, and holds none at its end, whatever
its tools answer. After any acts of any clients, in any order, what is left and what is held make up
the budget, and a client that waits does so for another that holds a share and can go on, or the
whole budget is there and enough for it. Every act but putting megabytes aside leaves less to do,
and where the waiting clients are served one by one, there is always such an act until all are done;
then the whole budget is back. -/
theorem no_build_waits_for_ever :
    (∀ {ρ : Type} (s : Services ρ) (project : Project) (types : List String)
      (options : BuildOptions) (σ : Session ρ), ∃ client : Client,
      client.layout = ⟨project.buildDir⟩ ∧ client.asked = options.heap ∧
        ((Build.run s project types options).run σ).2.events = σ.events ++ client.script ∧
        HoldsOneShare client.layout client.asked client.script) ∧
    ∀ (budget : Nat) (clients : List Client) (acts : List (Nat × Act)),
      let c := (start budget clients).after acts
      c.gate.available + total ((c.seats.filterMap (Seat.hold? c.gate)).map Prod.snd) =
        max budget 1 ∧
      (∀ k seat heap reserved, c.seats[k]? = some seat → seat.standing = .queued heap reserved →
        (∃ j other heap' slot, j ≠ k ∧ c.seats[j]? = some other ∧
          other.standing = .inside heap' slot ∧ ∃ a c', c.act? j a = some c') ∨
        c.gate.available = max budget 1 ∧ c.gate.share heap ≤ max budget 1) ∧
      (∀ k a c', a.isProgress = true → c.act? k a = some c' → c'.work < c.work) ∧
      ((start budget clients).oneByOne acts = true →
        (c.IsDone ∨ ∃ k a c', a.isProgress = true ∧ c.act? k a = some c') ∧
        ∃ more, c.oneByOne more = true ∧ (c.after more).IsDone ∧
          (c.after more).gate.available = max budget 1) := by
  constructor
  · intro ρ s project types options σ
    obtain ⟨client, hlayout, hasked, hev⟩ := exists_client s project types options σ
    exact ⟨client, hlayout, hasked, hev, client.guarded.holdsOneShare⟩
  intro budget clients acts
  have hs := sound_after (sound_start budget clients) acts
  refine ⟨?_, ?_, ?_, ?_⟩
  · rw [← hs.budget_eq, ← Gate.available_add_taken]
    exact congrArg _ (total_perm (hs.held.map Prod.snd)).symm
  · intro k seat heap reserved hseat hwaits
    exact hs.waits_for hseat hwaits
  · intro k a c' ha hact
    exact (hs.act_work ha hact).1
  · intro hone
    have hserved := served_after hone
    obtain ⟨more, hmore, hdone⟩ := hs.comes_to_end hserved
    exact ⟨hs.progress hserved, more, hmore, hdone,
      (sound_after hs more).available_of_done hdone⟩

/-- A build that asks for 200 megabytes and converts once. -/
def converter : Client where
  layout := ⟨⟨"build"⟩⟩
  asked := 200
  script := [.acquired 200,
    .called (DexMerger.command ⟨⟨"java"⟩, ⟨"dx.jar"⟩, 200, 60, none⟩ ⟨"out"⟩ []) 60 (.ok {}),
    .released 200]
  guarded := .take (.heavy ⟨200, Command.heap?_dex .., Nat.le_max_left _ _⟩ (.giveBack .done))

/-- Two of them share 300 megabytes: the second waits with the rest put aside for it, and both come
to their end. -/
theorem a_second_build_waits_and_ends :
    let c := (start 300 [converter, converter]).after
      [(0, .proceed), (1, .proceed), (0, .grant), (1, .reserve 100)]
    c.seats.map (Seat.has c.gate) = [200, 100] ∧
      ∃ more, (c.after more).IsDone ∧ (c.after more).gate.available = 300 := by
  refine ⟨by decide, ?_⟩
  obtain ⟨-, -, -, hend⟩ := no_build_waits_for_ever.2 300 [converter, converter]
    [(0, .proceed), (1, .proceed), (0, .grant), (1, .reserve 100)]
  obtain ⟨-, more, -, hdone, hback⟩ := hend (by decide)
  exact ⟨more, hdone, hback⟩

end Crowd

end ApkForge
