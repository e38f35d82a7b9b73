-- Paths without detours. Parts are laid on a stack, and whatever they are, the stack is names on
-- the root or on a run of steps up. What is written from it is read as it was written, so the
-- normal form of a path is its own, can be grown in place of the path, and leads where it leads.
import ApkForge.Proofs.Ways

namespace ApkForge

namespace Path

variable {p : Path} {q s : String} {absolute : Bool} {stack : List Part} {start : Place}

/-! ## Parts behind the first segment -/

/-- The parts that the segments of a path stand for, wherever they stand. -/
def steps (p : Path) : List Part := (Text.split '/' p.text).filterMap partOf

/-- What a path has before its steps when it starts at the root. -/
def ground (absolute : Bool) : List Part := if absolute then [.root] else []

/-- A step up or to a name. -/
def Part.IsStep : Part → Prop
  | .up => True
  | .name s => IsPlain s
  | _ => False

theorem isStep_of_mem_steps {part : Part} (h : part ∈ p.steps) : part.IsStep := by
  obtain ⟨s, hs, hpart⟩ := List.mem_filterMap.1 h
  cases part with
  | up => trivial
  | name n =>
    obtain ⟨rfl, hname⟩ := eq_of_partOf hpart
    exact ⟨Text.not_mem_of_mem_split hs, hname⟩
  | root => unfold partOf at hpart; split at hpart <;> cases hpart
  | here => unfold partOf at hpart; split at hpart <;> cases hpart

/-- The parts of a path are its steps, behind the root or behind a `.` or by themselves. -/
theorem parts_eq_steps (p : Path) :
    p.parts = ground p.isAbsolute ++ p.steps ∨
      p.isAbsolute = false ∧ p.parts = .here :: p.steps := by
  unfold parts steps
  cases habs : p.isAbsolute with
  | true =>
    obtain ⟨rest, hrest, hsplit⟩ := isAbsolute_iff.1 habs
    obtain ⟨s, ss, rfl⟩ := List.exists_cons_of_ne_nil hrest
    rw [hsplit]
    exact .inl rfl
  | false =>
    have hrelative : ∀ rest, rest ≠ [] → Text.split '/' p.text ≠ "" :: rest := by
      intro rest hrest hsplit
      rw [isAbsolute_iff.2 ⟨rest, hrest, hsplit⟩] at habs
      cases habs
    unfold partsOf
    split
    · rename_i hsplit
      exact .inl (by rw [hsplit]; rfl)
    · rename_i hsplit
      exact .inl (by rw [hsplit]; rfl)
    · rename_i rest hsingle hsplit
      exact absurd hsplit (hrelative rest hsingle)
    · rename_i rest hsplit
      exact .inr ⟨rfl, by rw [hsplit]; rfl⟩
    · exact .inl rfl

/-! ## What parts settle to -/

theorem settled_parts (p : Path) :
    settled p.parts = p.steps.foldl settle (ground p.isAbsolute) := by
  rcases parts_eq_steps p with h | ⟨habs, h⟩
  · rw [h, settled, List.foldl_append]
    cases p.isAbsolute <;> rfl
  · rw [h, habs]
    rfl

/-- Names on the root or on a run of steps up, last part first. -/
inductive Settled : Bool → List Part → Prop
  | root : Settled true [.root]
  | ups (n : Nat) : Settled false (List.replicate n .up)
  | name {absolute : Bool} {s : String} {stack : List Part} (hs : IsPlain s)
      (hstack : Settled absolute stack) : Settled absolute (.name s :: stack)

theorem Settled.ground (absolute : Bool) : Settled absolute (ground absolute) := by
  cases absolute with
  | true => exact .root
  | false => exact .ups 0

/-- One more step keeps the form. -/
theorem Settled.settle (h : Settled absolute stack) {part : Part} (hpart : part.IsStep) :
    Settled absolute (settle stack part) := by
  cases part with
  | name s => exact .name hpart h
  | up =>
    cases h with
    | root => exact .root
    | ups n =>
      cases n with
      | zero => exact .ups 1
      | succ n => exact .ups (n + 2)
    | name _ hstack => exact hstack
  | root => exact hpart.elim
  | here => exact hpart.elim

theorem Settled.foldl {parts : List Part} (hparts : ∀ part ∈ parts, part.IsStep)
    (h : Settled absolute stack) : Settled absolute (parts.foldl Path.settle stack) := by
  induction parts generalizing stack with
  | nil => exact h
  | cons part rest ih =>
    rw [List.forall_mem_cons] at hparts
    exact ih hparts.2 (h.settle hparts.1)

theorem settled_settled (p : Path) : Settled p.isAbsolute (settled p.parts) := by
  rw [settled_parts]
  exact (Settled.ground _).foldl fun _ => isStep_of_mem_steps

theorem settled_concat (parts : List Part) (part : Part) :
    settled (parts ++ [part]) = settle (settled parts) part := by
  rw [settled, List.foldl_append]
  rfl

/-- Parts in this form settle to themselves. -/
theorem Settled.settled_reverse (h : Settled absolute stack) : settled stack.reverse = stack := by
  induction h with
  | root => rfl
  | ups n =>
    rw [List.reverse_replicate]
    induction n with
    | zero => rfl
    | succ n ih =>
      rw [List.replicate_succ', settled_concat, ih, ← List.replicate_succ', List.replicate_succ]
      cases n <;> rfl
  | name _ _ ih => rw [List.reverse_cons, settled_concat, ih]; rfl

theorem Settled.absolute_of_nil (h : Settled absolute []) : absolute = false := by
  generalize hstack : ([] : List Part) = stack at h
  cases h with
  | root => cases hstack
  | ups n => rfl
  | name _ _ => cases hstack

/-- First to last: the root or nothing, then steps up, then names; and steps up only where there is
no root. -/
theorem Settled.reverse_eq (h : Settled absolute stack) : ∃ (n : Nat) (names : List String),
    stack.reverse = Path.ground absolute ++ (List.replicate n .up ++ names.map Part.name) ∧
      (absolute = true → n = 0) ∧ ∀ s ∈ names, IsPlain s := by
  induction h with
  | root => exact ⟨0, [], rfl, fun _ => rfl, by simp⟩
  | ups n => exact ⟨n, [], by simp [Path.ground], by simp, by simp⟩
  | @name absolute s stack hs _ ih =>
    obtain ⟨n, names, heq, hn, hnames⟩ := ih
    refine ⟨n, names ++ [s], ?_, hn, ?_⟩
    · simp [heq]
    · simpa [or_imp, forall_and] using And.intro hnames hs

/-! ## What is written is read back -/

theorem not_mem_text_of_isStep {part : Part} (h : part.IsStep) : '/' ∉ part.text.toList := by
  cases part with
  | up => decide
  | name s => exact h.1
  | root => exact h.elim
  | here => exact h.elim

theorem partOf_text {part : Part} (h : part.IsStep) : partOf part.text = some part := by
  cases part with
  | up => rfl
  | name s => exact partOf_of_isName h.2
  | root => exact h.elim
  | here => exact h.elim

theorem filterMap_text {steps : List Part} (h : ∀ part ∈ steps, part.IsStep) :
    (steps.map Part.text).filterMap partOf = steps := by
  have hread := List.filterMap_congr fun part hpart => partOf_text (h part hpart)
  rw [List.filterMap_map]
  exact hread.trans List.filterMap_some

theorem split_join_text {steps : List Part} (hne : steps ≠ []) (h : ∀ part ∈ steps, part.IsStep) :
    Text.split '/' (Text.join "/" (steps.map Part.text)) = steps.map Part.text :=
  Text.split_join (by decide) (by simpa using hne) fun text htext => by
    obtain ⟨part, hpart, rfl⟩ := List.mem_map.1 htext
    exact not_mem_text_of_isStep (h part hpart)

/-- Steps behind the root, or steps by themselves, are read as they are written. -/
theorem parts_ofParts {steps : List Part} (hne : ground absolute ++ steps ≠ [])
    (h : ∀ part ∈ steps, part.IsStep) :
    (ofParts (ground absolute ++ steps)).parts = ground absolute ++ steps := by
  cases absolute with
  | true =>
    change partsOf (Text.split '/' ("" ++ "/" ++ Text.join "/" (steps.map Part.text))) =
      .root :: steps
    rw [Text.split_append_slash]
    cases hsteps : steps with
    | nil => decide
    | cons part rest =>
      rw [← hsteps, split_join_text (by simp [hsteps]) h]
      conv_rhs => rw [← filterMap_text h]
      rw [hsteps]
      rfl
  | false =>
    simp only [ground, Bool.false_eq_true, if_false, List.nil_append] at hne ⊢
    obtain ⟨part, rest, rfl⟩ := List.exists_cons_of_ne_nil hne
    have hpart := partOf_text (h part List.mem_cons_self)
    have hwritten : ofParts (part :: rest) = ⟨Text.join "/" ((part :: rest).map Part.text)⟩ := by
      cases part with
      | root => exact (h _ List.mem_cons_self).elim
      | _ => rfl
    rw [hwritten, parts, split_join_text hne h]
    conv_rhs => rw [← filterMap_text h]
    -- the first text is neither empty nor `.`, since it stands for a step
    unfold partsOf
    split
    · rename_i hnil; cases hnil
    · rename_i heq; rw [(List.cons.inj heq).1] at hpart; cases hpart
    · rename_i heq; rw [(List.cons.inj heq).1] at hpart; cases hpart
    · rename_i heq; rw [(List.cons.inj heq).1] at hpart; cases hpart
    · rfl

/-- The normal form has the parts that those of the path settle to, and is `.` when there are
none. -/
theorem parts_normalize (p : Path) :
    settled p.parts = [] ∧ p.normalize = ⟨"."⟩ ∨
      settled p.parts ≠ [] ∧ p.normalize.parts = (settled p.parts).reverse := by
  obtain ⟨n, names, heq, -, hnames⟩ := (settled_settled p).reverse_eq
  have hsteps : ∀ part ∈ List.replicate n Part.up ++ names.map Part.name, part.IsStep := by
    intro part hpart
    rcases List.mem_append.1 hpart with hup | hname
    · rw [List.eq_of_mem_replicate hup]
      trivial
    · obtain ⟨s, hs, rfl⟩ := List.mem_map.1 hname
      exact hnames s hs
  by_cases hempty : settled p.parts = []
  · exact .inl ⟨hempty, by rw [normalize, hempty]; rfl⟩
  · refine .inr ⟨hempty, ?_⟩
    have hne : (settled p.parts).reverse ≠ [] := by simpa using hempty
    have hwritten : p.normalize = ofParts (settled p.parts).reverse := by
      unfold normalize
      split
      · rename_i hnil
        exact absurd hnil hne
      · rfl
    rw [hwritten, heq]
    exact parts_ofParts (by rwa [← heq]) hsteps

theorem settled_normalize (p : Path) : settled p.normalize.parts = settled p.parts := by
  rcases parts_normalize p with ⟨hempty, hdot⟩ | ⟨-, hparts⟩
  · rw [hempty, hdot]
    decide
  · rw [hparts, (settled_settled p).settled_reverse]

theorem normalize_eq_of_settled {p' : Path} (h : settled p.parts = settled p'.parts) :
    p.normalize = p'.normalize := by
  rw [normalize, normalize, h]

/-- A path starts at the root just when its parts do. -/
theorem isAbsolute_iff_parts : p.isAbsolute = true ↔ p.parts.head? = some .root := by
  rcases parts_eq_steps p with h | ⟨habs, h⟩
  · rw [h]
    cases p.isAbsolute with
    | true => simp [ground]
    | false =>
      simp only [ground, Bool.false_eq_true, if_false, List.nil_append, false_iff]
      intro hroot
      exact isStep_of_mem_steps (List.mem_of_head? hroot)
  · simp [h, habs]

theorem isAbsolute_normalize (p : Path) : p.normalize.isAbsolute = p.isAbsolute := by
  have hsettled := settled_settled p
  rcases parts_normalize p with ⟨hempty, hdot⟩ | ⟨-, hparts⟩
  · rw [hempty] at hsettled
    rw [hdot]
    exact hsettled.absolute_of_nil.symm
  · obtain ⟨n, names, heq, -⟩ := hsettled.reverse_eq
    rw [Bool.eq_iff_iff, isAbsolute_iff_parts, hparts, heq]
    cases p.isAbsolute with
    | true => simp [ground]
    | false => cases n <;> cases names <;> simp [ground, List.replicate_succ]

/-! ## Grown paths -/

theorem steps_append_slash (front : String) :
    (Path.mk (front ++ "/")).steps = (Path.mk front).steps := by
  rw [steps, Text.split_slash, List.filterMap_append]
  exact List.append_nil _

/-- A path joined with a relative one takes its own steps and then those of the other. -/
theorem steps_join (hq : Text.beginsWith "/" q = false) (p : Path) :
    (p.join q).steps = p.steps ++ (Path.mk q).steps := by
  have happend : ∀ front : String,
      (Path.mk (front ++ "/" ++ q)).steps = (Path.mk front).steps ++ (Path.mk q).steps := by
    intro front
    rw [steps, Text.split_append_slash, List.filterMap_append]
    rfl
  obtain ⟨text⟩ := p
  by_cases hempty : text = ""
  · subst hempty
    simp only [join, hq, Bool.false_eq_true, if_false, beq_self_eq_true, Bool.true_or, if_true,
      String.empty_append]
    rfl
  · by_cases hslash : Text.endsWith "/" text = true
    · obtain ⟨front, rfl⟩ := Text.endsWith_slash hslash
      simp only [join, hq, Bool.false_eq_true, if_false, hslash, Bool.or_true, if_true]
      rw [happend, steps_append_slash]
    · have hjoin : (Path.mk text).join q = ⟨text ++ "/" ++ q⟩ := by simp [join, hq, hslash, hempty]
      rw [hjoin, happend]

theorem isAbsolute_join (hq : Text.beginsWith "/" q = false) (p : Path) :
    (p.join q).isAbsolute = p.isAbsolute := by
  rcases segments_join hq p with ⟨hempty, hjoin⟩ | ⟨_, -, -, habs, -⟩
  · rw [isAbsolute, isAbsolute, hjoin, hempty, hq]
    rfl
  · exact habs

/-- What a joined path settles to is told by what the first settles to. -/
theorem settled_join (hq : Text.beginsWith "/" q = false) (p : Path) :
    settled (p.join q).parts = (Path.mk q).steps.foldl settle (settled p.parts) := by
  rw [settled_parts, settled_parts, steps_join hq, isAbsolute_join hq, List.foldl_append]

theorem normalize_join (p : Path) (q : String) :
    (p.join q).normalize = (p.normalize.join q).normalize := by
  by_cases hq : Text.beginsWith "/" q = true
  · rw [join, join, if_pos hq, if_pos hq]
  · rw [Bool.not_eq_true] at hq
    exact normalize_eq_of_settled (by rw [settled_join hq, settled_join hq, settled_normalize])

/-! ## Moves -/

/-- Where one part leads from a place. The root has nothing above it. -/
def Part.move (place : Place) : Part → Place
  | .root => []
  | .here => place
  | .up => place.dropLast
  | .name s => place ++ [s]

/-- Where the parts of a path lead, one after the other. -/
def goes (p : Path) (start : Place) : Place := p.parts.foldl Part.move start

/-- Laying a part on a stack leads where the part leads behind the stack. -/
theorem move_settle (stack : List Part) (part : Part) (start : Place) :
    (settle stack part).reverse.foldl Part.move start =
      Part.move (stack.reverse.foldl Part.move start) part := by
  cases part with
  | here => rfl
  | root => rfl
  | name s => simp [settle]
  | up =>
    cases stack with
    | nil => rfl
    | cons top rest => cases top <;> simp [settle, Part.move]

theorem move_settled (parts : List Part) (start : Place) :
    (settled parts).reverse.foldl Part.move start = parts.foldl Part.move start := by
  induction parts using List.reverseRecOn with
  | nil => rfl
  | append_singleton parts part ih =>
    rw [settled_concat, move_settle, ih, List.foldl_append]
    rfl

theorem goes_normalize (p : Path) (start : Place) : p.normalize.goes start = p.goes start := by
  rw [goes, goes, ← move_settled, settled_normalize, move_settled]

theorem onward_eq_move (place : Place) (s : String) :
    onward place s = (partOf s).elim place (Part.move place) := by
  unfold partOf
  split
  · rfl
  · rfl
  · rfl
  · rename_i hempty hdot hup
    exact onward_of_isName ⟨by simpa [isIdle] using And.intro hempty hdot, hup⟩ place

theorem onwards_eq_moves (segments : List String) (place : Place) :
    onwards place segments = (segments.filterMap partOf).foldl Part.move place := by
  induction segments generalizing place with
  | nil => rfl
  | cons s rest ih =>
    rw [onwards_cons, ih, onward_eq_move, List.filterMap_cons]
    cases partOf s <;> rfl

/-- The moves of a path lead to its place. -/
theorem goes_eq_place (p : Path) (start : Place) : p.goes start = p.place start := by
  have hplace : p.place start = p.steps.foldl Part.move (p.origin start) := onwards_eq_moves _ _
  rw [hplace, origin, goes]
  rcases parts_eq_steps p with h | ⟨habs, h⟩
  · rw [h, List.foldl_append]
    cases p.isAbsolute <;> rfl
  · rw [h, habs]
    rfl

/-! ## The laws -/

/-- A path without detours. -/
structure IsNormal (p : Path) : Prop where
  /-- A `.` is in it only when it is `.`. -/
  here : .here ∈ p.parts → p = ⟨"."⟩
  /-- Steps up come first. -/
  ups : ∃ n rest, p.parts = List.replicate n .up ++ rest ∧ .up ∉ rest
  /-- From the root there are none. -/
  absolute : p.isAbsolute = true → .up ∉ p.parts

theorem isNormal_normalize (p : Path) : p.normalize.IsNormal := by
  rcases parts_normalize p with ⟨-, hdot⟩ | ⟨-, hparts⟩
  · rw [hdot]
    exact ⟨fun _ => rfl, ⟨0, [.here], by decide, by decide⟩, fun _ => by decide⟩
  · obtain ⟨n, names, heq, hn, -⟩ := (settled_settled p).reverse_eq
    rw [heq] at hparts
    refine ⟨fun hhere => ?_, ?_, fun habs => ?_⟩
    · rw [hparts, ground] at hhere
      split at hhere <;> simp at hhere
    · cases habs : p.isAbsolute with
      | true =>
        rw [habs, hn habs] at hparts
        exact ⟨0, .root :: names.map .name, hparts, by simp⟩
      | false =>
        rw [habs] at hparts
        exact ⟨n, names.map .name, hparts, by simp⟩
    · rw [isAbsolute_normalize] at habs
      rw [hparts, habs, hn habs]
      simp [ground]

/-- The normal form of a path is normal and its own normal form, starts at the root when the path
does, can stand for the path when the path is grown, and leads where the path leads from any
start. -/
theorem the_normal_form_stands_for_the_path (p : Path) :
    p.normalize.normalize = p.normalize ∧ p.normalize.IsNormal ∧
      p.normalize.isAbsolute = p.isAbsolute ∧
      (∀ q, (p.join q).normalize = (p.normalize.join q).normalize) ∧
      ∀ start, p.normalize.goes start = p.goes start :=
  ⟨normalize_eq_of_settled (settled_normalize p), isNormal_normalize p, isAbsolute_normalize p,
    normalize_join p, goes_normalize p⟩

example : (Path.mk "./a//b/../../../c/.").normalize = ⟨"../c"⟩ := by decide

example : (Path.mk "/../a/./..").normalize = ⟨"/"⟩ := by decide

/-- In every tree the normal form names the same place. -/
theorem place_normalize (p : Path) (start : Place) : p.normalize.place start = p.place start := by
  rw [← goes_eq_place, ← goes_eq_place, goes_normalize]

end Path

end ApkForge
