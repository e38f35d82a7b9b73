-- How readings compose. Two texts read one after the other give the tokens of both, tokens that
-- close all they open give the same nodes wherever they stand, and a mark gives the token that it
-- was written for, whatever the values of its attributes.
import ApkForge.Proofs.Markup.Reader
import ApkForge.Xml

namespace ApkForge.Markup

/-! ## Reading on -/

theorem run_append (s : State) (xs ys : List Char) :
    run s (xs ++ ys) = (run s xs).bind fun now => (run now.2 ys).map fun later =>
      (now.1 ++ later.1, later.2) := by
  induction xs generalizing s with
  | nil => simp [run]
  | cons c rest ih =>
    simp only [List.cons_append, run]
    cases step s c with
    | none => rfl
    | some now =>
      simp only [Option.bind_some, ih]
      cases run now.2 rest with
      | none => rfl
      | some later =>
        simp only [Option.bind_some, Option.map_some, Option.map_map]
        congr 1
        funext last
        simp

theorem Leads.append {s s' s'' : State} {a b : String} {ts us : List Token}
    (ha : Leads s a ts s') (hb : Leads s' b us s'') : Leads s (a ++ b) (ts ++ us) s'' := by
  unfold Leads at *
  rw [String.toList_append, run_append, ha, Option.bind_some, hb]
  rfl

/-- The text is made of whole tokens. -/
def Reads (text : String) (tokens : List Token) : Prop := Leads .between text tokens .between

theorem Reads.append {a b : String} {ts us : List Token} (ha : Reads a ts) (hb : Reads b us) :
    Reads (a ++ b) (ts ++ us) := Leads.append ha hb

/-! ## Growing on -/

/-- Growth continued over other growth: the outermost nodes come after those that were there. -/
def graft (frames : List Frame) (nodes : List Node) : List Frame → List Node → Growth
  | [], inner => (frames, nodes ++ inner)
  | frame :: rest, inner =>
    let below := graft frames nodes rest frame.before
    ({ frame with before := below.2 } :: below.1, inner)

theorem graft_append (frames : List Frame) (nodes : List Node) (rest : List Frame)
    (inner more : List Node) : graft frames nodes rest (inner ++ more) =
      ((graft frames nodes rest inner).1, (graft frames nodes rest inner).2 ++ more) := by
  cases rest with
  | nil => simp [graft]
  | cons frame rest => rfl

theorem grow_graft {frames rest rest' : List Frame} {nodes inner inner' : List Node} {t : Token}
    (h : grow (rest, inner) t = some (rest', inner')) :
    grow (graft frames nodes rest inner) t = some (graft frames nodes rest' inner') := by
  cases t with
  | opens name attrs =>
    simp only [grow, Option.some.injEq, Prod.mk.injEq] at h ⊢
    obtain ⟨rfl, rfl⟩ := h
    rfl
  | stands name attrs =>
    simp only [grow, Option.some.injEq, Prod.mk.injEq] at h
    obtain ⟨rfl, rfl⟩ := h
    rw [graft_append]
    rfl
  | letter c =>
    simp only [grow, Option.some.injEq, Prod.mk.injEq] at h
    obtain ⟨rfl, rfl⟩ := h
    rw [graft_append]
    rfl
  | instruction text =>
    simp only [grow, Option.some.injEq, Prod.mk.injEq] at h
    obtain ⟨rfl, rfl⟩ := h
    rw [graft_append]
    rfl
  | closes name =>
    cases rest with
    | nil => cases h
    | cons frame rest =>
      simp only [grow] at h
      split at h
      · rename_i hname
        simp only [Option.some.injEq, Prod.mk.injEq] at h
        obtain ⟨rfl, rfl⟩ := h
        rw [graft_append]
        simp [graft, grow, hname]
      · cases h

theorem growAll_graft (frames : List Frame) (nodes : List Node) {rest rest' : List Frame}
    {inner inner' : List Node} {ts : List Token}
    (h : growAll (rest, inner) ts = some (rest', inner')) :
    growAll (graft frames nodes rest inner) ts = some (graft frames nodes rest' inner') := by
  induction ts generalizing rest inner with
  | nil =>
    cases h
    rfl
  | cons t ts ih =>
    simp only [growAll, List.foldlM_cons] at h ⊢
    cases hg : grow (rest, inner) t with
    | none =>
      rw [hg] at h
      cases h
    | some g =>
      obtain ⟨rest₁, inner₁⟩ := g
      rw [hg] at h
      rw [grow_graft hg]
      exact ih h

/-- The tokens close all they open and give these nodes, wherever they stand. -/
def Builds (tokens : List Token) (nodes : List Node) : Prop :=
  ∀ frames before, growAll (frames, before) tokens = some (frames, before ++ nodes)

theorem builds_of_growAll {tokens : List Token} {nodes : List Node}
    (h : growAll ([], []) tokens = some ([], nodes)) : Builds tokens nodes := by
  intro frames before
  have := growAll_graft frames before h
  simpa [graft] using this

theorem builds_nil : Builds [] [] := by
  intro frames before
  simp [growAll]

theorem Builds.append {ts us : List Token} {ns ms : List Node} (ht : Builds ts ns)
    (hu : Builds us ms) : Builds (ts ++ us) (ns ++ ms) := by
  intro frames before
  have h := ht frames before
  unfold growAll at *
  rw [List.foldlM_append, h]
  have := hu frames (before ++ ns)
  unfold growAll at this
  simpa using this

theorem builds_stands (name : String) (attrs : List (String × String)) :
    Builds [.stands name attrs] [.element name attrs []] := by
  intro frames before
  rfl

/-- Tags around tokens that close all they open make an element of what these make. -/
theorem Builds.element {ts : List Token} {ns : List Node} (h : Builds ts ns) (name : String)
    (attrs : List (String × String)) :
    Builds (.opens name attrs :: (ts ++ [.closes name])) [.element name attrs ns] := by
  intro frames before
  have hin := h (⟨name, attrs, before⟩ :: frames) []
  unfold growAll at *
  rw [List.foldlM_cons]
  simp only [grow, Option.bind_eq_bind, Option.bind_some, List.foldlM_append, hin]
  simp [grow]

theorem read_eq {text : String} {tokens : List Token} {nodes : List Node}
    (hr : Reads text tokens) (hb : Builds tokens nodes) : read text = some nodes := by
  have hr : run .between text.toList = some (tokens, .between) := hr
  have hb := hb [] []
  unfold read
  rw [hr]
  simp [hb]

/-- What is read as nodes is made of whole tokens that close all they open. -/
theorem reads_of_read {text : String} {nodes : List Node} (h : read text = some nodes) :
    ∃ tokens, Reads text tokens ∧ Builds tokens nodes := by
  unfold read at h
  split at h
  · rename_i tokens hr
    split at h
    · rename_i nodes' hg
      cases h
      exact ⟨tokens, hr, builds_of_growAll hg⟩
    · cases h
  · cases h

/-- Elements that cross close all they open, but not in order, and are not read. -/
example : (read "<a><b></a></b>").isNone = true := by decide

end ApkForge.Markup
