-- What the receivers of a channel are told over a whole run, whoever sets, subscribes, copies,
-- looks and asks, in whatever order. A receiver that asks is told of the last setting if it has not
-- heard of it, and of nothing twice; looking tells nobody anything, and closing takes nothing back.
import ApkForge.Progress

namespace ApkForge.Progress

/-! ## Runs -/

/-- What is done with a channel. -/
inductive Act where
  | set (percent : Nat)
  | subscribe
  | clone (original : Nat)
  | current
  | changed (receiver : Nat)
  | close
deriving DecidableEq

/-- What came of an act. -/
inductive Event where
  | set (percent : Nat)
  | subscribed (receiver : Nat)
  | cloned (original receiver : Nat)
  | shown (value : Nat)
  | asked (receiver : Nat) (answer : Change)
  | closed
  | impossible
deriving DecidableEq

/-- One act on a channel. When the sender is gone, nobody sets the value or subscribes, and only a
receiver that is there is copied or asks. -/
def perform (p : Progress) : Act → Event × Progress
  | .set percent => if p.isOpen then (.set percent, p.set percent) else (.impossible, p)
  | .subscribe => if p.isOpen then (.subscribed p.subscribe.1, p.subscribe.2) else (.impossible, p)
  | .clone original =>
    if original < p.seen.length then (.cloned original (p.clone original).1, (p.clone original).2)
    else (.impossible, p)
  | .current => (.shown p.value, p)
  | .changed receiver =>
    if receiver < p.seen.length then
      (.asked receiver (p.changed receiver).1, (p.changed receiver).2)
    else (.impossible, p)
  | .close => (.closed, p.close)

/-- The events of a run on a new channel and the channel after it. Acts and events stand in the same
order, the last one first. -/
def run : List Act → List Event × Progress
  | [] => ([], fresh)
  | act :: earlier =>
    let (log, p) := run earlier
    ((p.perform act).1 :: log, (p.perform act).2)

/-! ## What the events say -/

/-- The value that was set last, or the first one. -/
def latest : List Event → Nat
  | [] => 10
  | .set percent :: _ => min percent 100
  | _ :: older => latest older

/-- How many receivers there are. -/
def receivers : List Event → Nat
  | [] => 1
  | .subscribed _ :: older => receivers older + 1
  | .cloned _ _ :: older => receivers older + 1
  | _ :: older => receivers older

/-- Something was set since the receiver was last told a value, or since it is there. A copy has
missed what its original had missed, and the first receiver is there before anything is set. -/
def Missed (receiver : Nat) : List Event → Prop
  | [] => False
  | .set _ :: _ => True
  | .subscribed r :: older => r ≠ receiver ∧ Missed receiver older
  | .cloned original r :: older =>
    if r = receiver then Missed original older else Missed receiver older
  | .asked r (.now _) :: older => r ≠ receiver ∧ Missed receiver older
  | _ :: older => Missed receiver older

theorem latest_le (log : List Event) : latest log ≤ 100 := by
  induction log with
  | nil => decide
  | cons event older ih =>
    cases event with
    | set percent => exact Nat.min_le_right percent 100
    | _ => exact ih

/-! ## A channel keeps track -/

/-- The channel knows what the events say. -/
structure Tracks (log : List Event) (p : Progress) : Prop where
  value : p.value = latest log
  isOpen : p.isOpen = true ↔ .closed ∉ log
  count : p.seen.length = receivers log
  position : ∀ receiver seen, p.seen[receiver]? = some seen →
    seen ≤ p.version ∧ (seen < p.version ↔ Missed receiver log)

variable {log older : List Event} {p : Progress} {receiver : Nat}

theorem tracks_fresh : Tracks [] fresh := by
  constructor
  case value => rfl
  case isOpen => simp [fresh]
  case count => rfl
  case position =>
    intro receiver seen hseen
    cases receiver with
    | zero =>
      cases hseen
      simp [fresh, Missed]
    | succ n => cases hseen

theorem Tracks.set (h : Tracks log p) (percent : Nat) :
    Tracks (.set percent :: log) (p.set percent) := by
  constructor
  case value => rfl
  case isOpen => simpa [Progress.set] using h.isOpen
  case count => exact h.count
  case position =>
    intro receiver seen hseen
    have hle := (h.position receiver seen hseen).1
    simp only [Progress.set, Missed, iff_true]
    omega

/-- A receiver that is put beside the others has the next number. -/
theorem Tracks.joined (h : Tracks log p) {event : Event} {seen : Nat}
    (hvalue : latest (event :: log) = latest log) (hclosed : event ≠ .closed)
    (hcount : receivers (event :: log) = receivers log + 1)
    (hold : ∀ receiver < p.seen.length, Missed receiver (event :: log) ↔ Missed receiver log)
    (hle : seen ≤ p.version) (hnew : seen < p.version ↔ Missed p.seen.length (event :: log)) :
    Tracks (event :: log) { p with seen := p.seen ++ [seen] } := by
  constructor
  case value => rw [hvalue]; exact h.value
  case isOpen => simpa [hclosed.symm] using h.isOpen
  case count => simp [hcount, h.count]
  case position =>
    intro receiver position hposition
    by_cases hlt : receiver < p.seen.length
    · rw [List.getElem?_append_left hlt] at hposition
      rw [hold receiver hlt]
      exact h.position receiver position hposition
    · rw [List.getElem?_append_right (by omega)] at hposition
      obtain ⟨hlast, rfl⟩ := List.getElem?_eq_some_iff.1 hposition
      have hreceiver : receiver = p.seen.length := by
        simp only [List.length_singleton] at hlast
        omega
      subst hreceiver
      simpa using ⟨hle, hnew⟩

theorem Tracks.subscribe (h : Tracks log p) :
    Tracks (.subscribed p.subscribe.1 :: log) p.subscribe.2 := by
  refine h.joined rfl (by simp) rfl (fun receiver hlt => ?_) (Nat.le_refl _) ?_
  · have hne : p.subscribe.1 ≠ receiver := Nat.ne_of_gt hlt
    simp [Missed, hne]
  · simp [Missed, Progress.subscribe]

theorem Tracks.clone (h : Tracks log p) {original : Nat} (hthere : original < p.seen.length) :
    Tracks (.cloned original (p.clone original).1 :: log) (p.clone original).2 := by
  have hseen : p.seen[original]? = some p.seen[original] := List.getElem?_eq_getElem hthere
  obtain ⟨hle, hmissed⟩ := h.position original _ hseen
  have hclone : (p.clone original).2 = { p with seen := p.seen ++ [p.seen[original]] } := by
    simp [Progress.clone, hseen]
  rw [hclone]
  refine h.joined rfl (by simp) rfl (fun receiver hlt => ?_) hle ?_
  · have hne : (p.clone original).1 ≠ receiver := Nat.ne_of_gt hlt
    simp [Missed, hne]
  · simpa [Missed, Progress.clone] using hmissed

theorem Tracks.changed_of_missed (h : Tracks log p) (hthere : receiver < p.seen.length)
    (hmissed : Missed receiver log) : p.changed receiver =
      (.now (latest log), { p with seen := p.seen.set receiver p.version }) := by
  have hseen : p.seen[receiver]? = some p.seen[receiver] := List.getElem?_eq_getElem hthere
  have hlt : p.seen[receiver] < p.version := (h.position receiver _ hseen).2.2 hmissed
  unfold Progress.changed
  rw [hseen, Option.getD_some, if_pos hlt, h.value]

theorem Tracks.changed_of_not_missed (h : Tracks log p) (hthere : receiver < p.seen.length)
    (hmissed : ¬ Missed receiver log) :
    p.changed receiver = (if p.isOpen then .waits else .finished, p) := by
  have hseen : p.seen[receiver]? = some p.seen[receiver] := List.getElem?_eq_getElem hthere
  have hlt : ¬ p.seen[receiver] < p.version := fun hlt =>
    hmissed ((h.position receiver _ hseen).2.1 hlt)
  unfold Progress.changed
  rw [hseen, Option.getD_some, if_neg hlt]
  cases p.isOpen <;> rfl

theorem Tracks.changed (h : Tracks log p) (hthere : receiver < p.seen.length) :
    Tracks (.asked receiver (p.changed receiver).1 :: log) (p.changed receiver).2 := by
  by_cases hmissed : Missed receiver log
  · rw [h.changed_of_missed hthere hmissed]
    refine ⟨h.value, by simpa using h.isOpen, by simpa [receivers] using h.count, ?_⟩
    intro other position hposition
    by_cases hother : receiver = other
    · subst hother
      simp only [List.getElem?_set_self hthere, Option.some.injEq] at hposition
      simp [Missed, ← hposition]
    · simp only [List.getElem?_set_ne hother] at hposition
      simpa [Missed, hother] using h.position other position hposition
  · rw [h.changed_of_not_missed hthere hmissed]
    -- Whether it waits or is at the end, the receiver has heard nothing new.
    cases p.isOpen with
    | true => exact ⟨h.value, by simpa using h.isOpen, h.count, h.position⟩
    | false => exact ⟨h.value, by simpa using h.isOpen, h.count, h.position⟩

theorem Tracks.close (h : Tracks log p) : Tracks (.closed :: log) p.close :=
  ⟨h.value, by simp [Progress.close], h.count, h.position⟩

theorem Tracks.perform (h : Tracks log p) (act : Act) :
    Tracks ((p.perform act).1 :: log) (p.perform act).2 := by
  have hidle : ∀ event, latest (event :: log) = latest log → event ≠ .closed →
      receivers (event :: log) = receivers log →
      (∀ receiver, Missed receiver (event :: log) ↔ Missed receiver log) →
      Tracks (event :: log) p := by
    intro event hvalue hclosed hcount hmissed
    refine ⟨hvalue ▸ h.value, by simpa [hclosed.symm] using h.isOpen, hcount ▸ h.count, ?_⟩
    intro receiver seen hseen
    rw [hmissed]
    exact h.position receiver seen hseen
  have himpossible : Tracks (.impossible :: log) p :=
    hidle .impossible rfl (by simp) rfl fun _ => Iff.rfl
  cases act with
  | set percent =>
    simp only [Progress.perform]
    split
    · exact h.set percent
    · exact himpossible
  | subscribe =>
    simp only [Progress.perform]
    split
    · exact h.subscribe
    · exact himpossible
  | clone original =>
    simp only [Progress.perform]
    split
    · rename_i hthere
      exact h.clone hthere
    · exact himpossible
  | current => exact hidle (.shown p.value) rfl (by simp) rfl fun _ => Iff.rfl
  | changed receiver =>
    simp only [Progress.perform]
    split
    · rename_i hthere
      exact h.changed hthere
    · exact himpossible
  | close => exact h.close

/-- After any run the channel knows what the events say. -/
theorem tracks_run (acts : List Act) : Tracks (run acts).1 (run acts).2 := by
  induction acts with
  | nil => exact tracks_fresh
  | cons act earlier ih => exact ih.perform act

/-! ## What receivers are told -/

/-- What a receiver has missed it has missed until it asks, whatever else is done. -/
theorem missed_perform (hthere : receiver < p.seen.length) (hmissed : Missed receiver log)
    {act : Act} (hact : act ≠ .changed receiver) :
    Missed receiver ((p.perform act).1 :: log) := by
  have hne : p.seen.length ≠ receiver := Nat.ne_of_gt hthere
  cases act with
  | set percent =>
    simp only [perform]
    split
    · trivial
    · exact hmissed
  | subscribe =>
    simp only [perform]
    split
    · exact ⟨hne, hmissed⟩
    · exact hmissed
  | clone original =>
    simp only [perform]
    split
    · simpa [Missed, Progress.clone, hne] using hmissed
    · exact hmissed
  | current => exact hmissed
  | changed other =>
    have hother : other ≠ receiver := fun heq => hact (by rw [heq])
    simp only [perform]
    split
    · cases (p.changed other).1 with
      | now value => exact ⟨hother, hmissed⟩
      | waits => exact hmissed
      | finished => exact hmissed
    · exact hmissed
  | close => exact hmissed

theorem receivers_le (event : Event) (log : List Event) :
    receivers log ≤ receivers (event :: log) := by
  cases event with
  | subscribed receiver => exact Nat.le_succ _
  | cloned original receiver => exact Nat.le_succ _
  | _ => exact Nat.le_refl _

/-- The event is a look at the value. -/
def Event.isShown : Event → Bool
  | .shown _ => true
  | _ => false

theorem isShown_perform (p : Progress) {act : Act} (hact : act ≠ .current) :
    (p.perform act).1.isShown = false := by
  cases act with
  | current => exact absurd rfl hact
  | close => rfl
  | _ =>
    simp only [perform]
    split
    · rfl
    · rfl

/-- A run without the looks at the value is the same run. -/
theorem run_filter (acts : List Act) : run (acts.filter fun act => act ≠ .current) =
    ((run acts).1.filter fun event => !event.isShown, (run acts).2) := by
  induction acts with
  | nil => rfl
  | cons act earlier ih =>
    by_cases hact : act = .current
    · subst hact
      simpa [run, perform, Event.isShown] using ih
    · have hshown := isShown_perform (run earlier).2 hact
      simp only [ne_eq, hact, not_false_eq_true, decide_true, List.filter_cons_of_pos, run]
      rw [show run (earlier.filter fun act => act ≠ .current) = _ from ih]
      simp [hshown]

/-- What is told after a run. -/
structure Told (acts : List Act) : Prop where
  /-- Whoever looks sees the value that was set last. -/
  current : (run acts).2.perform .current = (.shown (latest (run acts).1), (run acts).2)
  /-- No value is over 100. -/
  capped : latest (run acts).1 ≤ 100
  /-- A receiver that missed something and asks is told the value that was set last, and only that,
  whether the sender is there or gone. -/
  now : ∀ receiver < receivers (run acts).1, Missed receiver (run acts).1 →
    ((run acts).2.perform (.changed receiver)).1 = .asked receiver (.now (latest (run acts).1))
  /-- One that missed nothing waits as long as the sender is there. -/
  waits : ∀ receiver < receivers (run acts).1, ¬ Missed receiver (run acts).1 →
    .closed ∉ (run acts).1 →
    (run acts).2.perform (.changed receiver) = (.asked receiver .waits, (run acts).2)
  /-- When the sender is gone, it has heard everything. -/
  finished : ∀ receiver < receivers (run acts).1, ¬ Missed receiver (run acts).1 →
    .closed ∈ (run acts).1 →
    (run acts).2.perform (.changed receiver) = (.asked receiver .finished, (run acts).2)
  /-- As long as the sender is there, values are set and receivers subscribe; each has a number of
  its own. -/
  served : .closed ∉ (run acts).1 →
    (∀ percent, ((run acts).2.perform (.set percent)).1 = .set percent) ∧
    ((run acts).2.perform .subscribe).1 = .subscribed (receivers (run acts).1)
  /-- Receivers are copied at any time. -/
  cloned : ∀ original < receivers (run acts).1, ((run acts).2.perform (.clone original)).1 =
    .cloned original (receivers (run acts).1)
  /-- What a receiver missed it is told of when it asks next, whatever is done before that. -/
  kept : ∀ receiver < receivers (run acts).1, Missed receiver (run acts).1 →
    ∀ later, .changed receiver ∉ later → Missed receiver (run (later ++ acts)).1
  /-- Looking at the value changes nothing for anybody. -/
  unseen : run (acts.filter fun act => act ≠ .current) =
    ((run acts).1.filter fun event => !event.isShown, (run acts).2)

/-- Over every run of a channel, each receiver that asks is told the value that was set last if
something was set since it was told a value, and only then; what was set before the sender went is
told nevertheless. -/
theorem receivers_are_told_of_the_last_setting (acts : List Act) : Told acts := by
  have htracks := tracks_run acts
  have hcount := htracks.count
  constructor
  case current => rw [← htracks.value]; rfl
  case capped => exact latest_le _
  case now =>
    intro receiver hthere hmissed
    rw [← hcount] at hthere
    simp only [perform, if_pos hthere, htracks.changed_of_missed hthere hmissed]
  case waits =>
    intro receiver hthere hmissed hopen
    rw [← hcount] at hthere
    simp only [perform, if_pos hthere, htracks.changed_of_not_missed hthere hmissed,
      if_pos (htracks.isOpen.2 hopen)]
  case finished =>
    intro receiver hthere hmissed hclosed
    rw [← hcount] at hthere
    have hopen : ¬ (run acts).2.isOpen = true := fun hopen => htracks.isOpen.1 hopen hclosed
    simp only [perform, if_pos hthere, htracks.changed_of_not_missed hthere hmissed,
      if_neg hopen]
  case served =>
    intro hopen
    have hsender := htracks.isOpen.2 hopen
    constructor
    · intro percent
      simp only [perform, if_pos hsender]
    · simp only [perform, if_pos hsender, ← hcount]
      rfl
  case cloned =>
    intro original hthere
    rw [← hcount] at hthere ⊢
    simp only [perform, if_pos hthere]
    rfl
  case kept =>
    intro receiver hthere hmissed later hlater
    -- Along what is done later, the receiver stays there and has still missed something.
    have hboth : receiver < receivers (run (later ++ acts)).1 ∧
        Missed receiver (run (later ++ acts)).1 := by
      induction later with
      | nil => exact ⟨hthere, hmissed⟩
      | cons act rest ih =>
        rw [List.mem_cons, not_or] at hlater
        obtain ⟨hstill, hmissed⟩ := ih hlater.2
        have hnumber := (tracks_run (rest ++ acts)).count ▸ hstill
        refine ⟨Nat.lt_of_lt_of_le hstill (receivers_le _ _), ?_⟩
        exact missed_perform hnumber hmissed (Ne.symm hlater.1)
    exact hboth.2
  case unseen => exact run_filter acts

/-- A copy and its original are both told the last value once, after the sender is gone. -/
example : (run [.changed 0, .changed 1, .changed 0, .close, .set 250, .clone 0, .set 85]).1 =
    [.asked 0 .finished, .asked 1 (.now 100), .asked 0 (.now 100), .closed, .set 250, .cloned 0 1,
      .set 85] := by
  decide

end ApkForge.Progress
