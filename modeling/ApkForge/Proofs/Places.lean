-- Where a path leads. A path that can be walked in a tree leads to a place that is told by the path
-- alone, so it can be said without the tree, and of a path grown from another one.
import ApkForge.FileTree

namespace ApkForge

/-! ## Cutting a grown text -/

namespace Text

/-- Pieces of a text with a separator in it are those of its two sides. -/
theorem pieces_append (sep : Char) (cs ds : List Char) :
    pieces sep (cs ++ sep :: ds) = pieces sep cs ++ pieces sep ds := by
  induction cs with
  | nil => simp [pieces]
  | cons c rest ih =>
    simp only [List.cons_append, pieces]
    split
    · rw [ih, List.cons_append]
    · rw [ih]
      cases hp : pieces sep rest with
      | nil => exact absurd hp (pieces_ne_nil sep rest)
      | cons p ps => rfl

theorem pieces_of_not_mem {sep : Char} {cs : List Char} (h : sep ∉ cs) : pieces sep cs = [cs] := by
  induction cs with
  | nil => rfl
  | cons c rest ih =>
    rw [List.mem_cons, not_or] at h
    simp only [pieces]
    rw [if_neg (Ne.symm h.1), ih h.2]

theorem split_of_not_mem {sep : Char} {s : String} (h : sep ∉ s.toList) : split sep s = [s] := by
  simp [split, pieces_of_not_mem h]

/-- Segments of two texts with a slash between them are those of both. -/
theorem split_append_slash (front q : String) :
    split '/' (front ++ "/" ++ q) = split '/' front ++ split '/' q := by
  simp only [split, String.toList_append, List.append_assoc]
  rw [show "/".toList ++ q.toList = '/' :: q.toList from rfl, pieces_append, List.map_append]

theorem split_slash (front : String) : split '/' (front ++ "/") = split '/' front ++ [""] := by
  have h := split_append_slash front ""
  rw [String.append_empty] at h
  exact h

theorem split_ne_nil (sep : Char) (s : String) : split sep s ≠ [] := by
  simp [split, pieces_ne_nil]

theorem not_mem_of_mem_split {sep : Char} {s segment : String} (h : segment ∈ split sep s) :
    sep ∉ segment.toList := by
  simp only [split, List.mem_map] at h
  obtain ⟨p, hp, rfl⟩ := h
  simpa using not_mem_of_mem_pieces hp

theorem beginsWith_slash (s : String) : beginsWith "/" s = true ↔ s.toList.head? = some '/' := by
  unfold beginsWith
  cases s.toList with
  | nil => simp [dropHead?]
  | cons c rest =>
    by_cases h : c = '/'
    · subst h
      simp [dropHead?]
    · simp [dropHead?, h, Ne.symm h]

theorem endsWith_slash {s : String} (h : endsWith "/" s = true) : ∃ front, s = front ++ "/" := by
  unfold endsWith at h
  obtain ⟨rest, hrest⟩ := Option.isSome_iff_exists.1 h
  rw [dropHead?_eq_some] at hrest
  refine ⟨String.ofList rest.reverse, String.toList_injective ?_⟩
  have hlist := congrArg List.reverse hrest
  simpa using hlist

/-- A reader of lines that passes over empty lines, and over a carriage return at the end of one,
reads the pieces between the newlines. -/
theorem filterMap_endedLines {α : Type} {f : List Char → Option α} (hempty : f [] = none)
    (hreturn : ∀ line, f (line ++ ['\r']) = f line) (pieces : List (List Char)) :
    (endedLines pieces).filterMap f = pieces.filterMap f := by
  have hended : ∀ line, f (dropReturn line) = f line := by
    intro line
    unfold dropReturn
    split
    · rename_i body hbody
      rw [← List.reverse_reverse line, hbody, List.reverse_cons, hreturn]
    · rfl
  induction pieces with
  | nil => rfl
  | cons p rest ih =>
    cases rest with
    | nil =>
      unfold endedLines
      split
      · rename_i hnil
        rw [List.isEmpty_iff.1 hnil]
        simp [hempty]
      · rfl
    | cons q rest => rw [endedLines, List.filterMap_cons, List.filterMap_cons, hended, ih]

end Text

/-! ## The place of a path -/

namespace Path

/-- The place that one segment leads to from a place. -/
def onward (place : Place) (segment : String) : Place :=
  if isIdle segment then place
  else if segment == ".." then place.dropLast
  else place ++ [segment]

/-- The place that segments lead to from a place. -/
def onwards (place : Place) (segments : List String) : Place := segments.foldl onward place

/-- The place that a path leads to, as its text tells it. -/
def place (p : Path) (start : Place) : Place :=
  onwards (if p.isAbsolute then [] else start) (Text.split '/' p.text)

@[simp] theorem onwards_nil (place : Place) : onwards place [] = place := rfl

@[simp] theorem onwards_cons (place : Place) (s : String) (rest : List String) :
    onwards place (s :: rest) = onwards (onward place s) rest := rfl

theorem onwards_append (place : Place) (ss rest : List String) :
    onwards place (ss ++ rest) = onwards (onwards place ss) rest := List.foldl_append

/-- A segment that names a directory or file. -/
def IsName (segment : String) : Prop := isIdle segment = false ∧ segment ≠ ".."

theorem onward_of_isName {segment : String} (h : IsName segment) (place : Place) :
    onward place segment = place ++ [segment] := by
  simp [onward, h.1, h.2]

/-- Behind a slash a text leads on from where it led. -/
theorem place_append (front q : String) (start : Place) :
    (Path.mk (front ++ "/" ++ q)).place start =
      onwards ((Path.mk (front ++ "/")).place start) (Text.split '/' q) := by
  have habs : (Path.mk (front ++ "/" ++ q)).isAbsolute = (Path.mk (front ++ "/")).isAbsolute := by
    rw [Bool.eq_iff_iff]
    simp [isAbsolute, Text.beginsWith_slash, List.head?_append]
  unfold place
  rw [habs, Text.split_append_slash, Text.split_slash, onwards_append, onwards_append]
  rfl

/-- A slash at its end leads a text nowhere else. -/
theorem place_slash {p : Path} (hp : p.text ≠ "") (start : Place) :
    (Path.mk (p.text ++ "/")).place start = p.place start := by
  have hne : p.text.toList ≠ [] := by simpa using hp
  have habs : (Path.mk (p.text ++ "/")).isAbsolute = p.isAbsolute := by
    rw [Bool.eq_iff_iff]
    cases hl : p.text.toList with
    | nil => exact absurd hl hne
    | cons c rest => simp [isAbsolute, Text.beginsWith_slash, hl]
  unfold place
  rw [habs, Text.split_slash, onwards_append]
  rfl

/-- A path joined with a relative one is written with a slash between the two, if it is not
empty. -/
theorem text_join {q : String} (hq : Text.beginsWith "/" q = false) (p : Path) :
    (p.text = "" ∧ (p.join q).text = q) ∨
      ∃ front, (p.join q).text = front ++ "/" ++ q ∧
        ∀ start, (Path.mk (front ++ "/")).place start = p.place start := by
  obtain ⟨text⟩ := p
  simp only [join, hq, Bool.false_eq_true, if_false]
  by_cases hempty : text = ""
  · subst hempty
    exact Or.inl ⟨rfl, by simp⟩
  refine Or.inr ?_
  by_cases hslash : Text.endsWith "/" text = true
  · obtain ⟨front, rfl⟩ := Text.endsWith_slash hslash
    refine ⟨front, ?_, fun _ => rfl⟩
    simp [hslash]
  · refine ⟨text, ?_, place_slash (p := ⟨text⟩) hempty⟩
    simp [hempty, hslash]

/-- A path joined with a relative one leads on from where it led. -/
theorem place_join {q : String} (hq : Text.beginsWith "/" q = false) (p : Path) (start : Place) :
    (p.join q).place start = onwards (p.place start) (Text.split '/' q) := by
  rcases text_join hq p with ⟨hempty, htext⟩ | ⟨front, htext, hplace⟩
  · have hstart : p.place start = start := by
      simp only [place, isAbsolute, hempty]
      rfl
    rw [hstart, place, isAbsolute, htext, hq]
    rfl
  · rw [← hplace start, ← place_append, ← htext]

/-- A path joined with a relative one ends as that ends. -/
theorem getLast?_split_join {q : String} (hq : Text.beginsWith "/" q = false) (p : Path) :
    (Text.split '/' (p.join q).text).getLast? = (Text.split '/' q).getLast? := by
  rcases text_join hq p with ⟨-, htext⟩ | ⟨front, htext, -⟩
  · rw [htext]
  · rw [htext, Text.split_append_slash, List.getLast?_append]
    cases hl : (Text.split '/' q).getLast? with
    | none => exact absurd (List.getLast?_eq_none_iff.1 hl) (Text.split_ne_nil '/' q)
    | some last => rfl

/-! ## Segments that stay below -/

/-- A text that leads nowhere but on: it is relative and takes no step up. -/
def StaysBelow (q : String) : Prop := Text.beginsWith "/" q = false ∧ ".." ∉ Text.split '/' q

instance (q : String) : Decidable (StaysBelow q) := inferInstanceAs (Decidable (_ ∧ _))

theorem prefix_onwards {segments : List String} (h : ".." ∉ segments) (place : Place) :
    place <+: onwards place segments := by
  induction segments generalizing place with
  | nil => exact List.prefix_rfl
  | cons s rest ih =>
    rw [List.mem_cons, not_or] at h
    refine List.IsPrefix.trans ?_ (ih h.2 (onward place s))
    unfold onward
    split
    · exact List.prefix_rfl
    · simp [Ne.symm h.1]

/-- A name at the end leads properly below. -/
theorem onwards_ne {segments : List String} (h : ".." ∉ segments) {last : String}
    (hlast : segments.getLast? = some last) (hname : IsName last) (place : Place) :
    onwards place segments ≠ place := by
  obtain ⟨front, rfl⟩ := List.getLast?_eq_some_iff.1 hlast
  rw [List.mem_append, not_or] at h
  rw [onwards_append, onwards_cons, onward_of_isName hname, onwards_nil]
  obtain ⟨rest, hrest⟩ := prefix_onwards h.1 place
  rw [← hrest]
  simp

end Path

/-- The last segment of a path is a name. -/
def Path.EndsInName (p : Path) : Prop :=
  ∃ last, (Text.split '/' p.text).getLast? = some last ∧ Path.IsName last

/-- A single segment that is no step up stays below. -/
theorem Path.staysBelow_of_segment {s : String} (hslash : '/' ∉ s.toList) (hup : s ≠ "..") :
    Path.StaysBelow s := by
  refine ⟨?_, ?_⟩
  · rw [Bool.eq_false_iff, ne_eq, Text.beginsWith_slash]
    intro h
    exact hslash (List.mem_of_head? h)
  · rw [Text.split_of_not_mem hslash, List.mem_singleton]
    exact Ne.symm hup

/-- A text that is the name of one file or directory. -/
def Path.IsPlain (s : String) : Prop := '/' ∉ s.toList ∧ Path.IsName s

instance (s : String) : Decidable (Path.IsPlain s) :=
  inferInstanceAs (Decidable ('/' ∉ s.toList ∧ Path.isIdle s = false ∧ s ≠ ".."))

theorem Path.IsPlain.ne_empty {s : String} (h : Path.IsPlain s) : s ≠ "" := by
  rintro rfl
  exact absurd h.2.1 (by decide)

theorem Path.IsPlain.ne_dot {s : String} (h : Path.IsPlain s) : s ≠ "." := by
  rintro rfl
  exact absurd h.2.1 (by decide)

theorem Path.IsPlain.staysBelow {s : String} (h : Path.IsPlain s) : Path.StaysBelow s :=
  Path.staysBelow_of_segment h.1 h.2.2

theorem isDigit_of_mem_toString (n : Nat) : ∀ c ∈ (toString n).toList, c.isDigit = true := by
  intro c hc
  have hc : c ∈ Nat.toDigits 10 n := by simpa using hc
  exact Nat.isDigit_of_mem_toDigits (by decide) (by decide) hc

/-- Numbers are names. -/
theorem Path.isPlain_toString (n : Nat) : Path.IsPlain (toString n) := by
  have hdigits := isDigit_of_mem_toString n
  have hdot : '.' ∉ (toString n).toList := fun h => absurd (hdigits _ h) (by decide)
  refine ⟨fun h => absurd (hdigits _ h) (by decide), ?_, ?_⟩
  · simp only [Path.isIdle, Bool.or_eq_false_iff, beq_eq_false_iff_ne]
    refine ⟨fun h => ?_, fun h => hdot (by rw [h]; decide)⟩
    have hnil : Nat.toDigits 10 n = [] := by simpa using congrArg String.toList h
    exact Nat.toDigits_ne_nil hnil
  · exact fun h => hdot (by rw [h]; decide)

theorem Path.eq_of_partOf {s name : String} (h : Path.partOf s = some (.name name)) :
    s = name ∧ Path.IsName s := by
  unfold Path.partOf at h
  split at h
  · cases h
  · cases h
  · cases h
  · rename_i hempty hdot hup
    cases h
    exact ⟨rfl, by simpa [Path.isIdle] using And.intro hempty hdot, hup⟩

/-- The file name of a path is a name. -/
theorem Path.isPlain_name? {p : Path} {name : String} (h : p.name? = some name) :
    Path.IsPlain name := by
  have hmem : .name name ∈ p.parts := by
    unfold Path.name? at h
    split at h
    · rename_i s hlast
      cases h
      exact List.mem_of_getLast? hlast
    · cases h
  have hfilter : ∀ segments, .name name ∈ List.filterMap Path.partOf segments →
      name ∈ segments ∧ Path.IsName name := by
    intro segments hin
    obtain ⟨s, hs, hpartOf⟩ := List.mem_filterMap.1 hin
    obtain ⟨rfl, hname⟩ := Path.eq_of_partOf hpartOf
    exact ⟨hs, hname⟩
  have hsegment : name ∈ Text.split '/' p.text ∧ Path.IsName name := by
    unfold Path.parts Path.partsOf at hmem
    split at hmem
    · cases hmem
    · cases hmem
    · rename_i rest _ heq
      rw [heq]
      obtain ⟨hin, hname⟩ := hfilter rest (by simpa using hmem)
      exact ⟨List.mem_cons_of_mem _ hin, hname⟩
    · rename_i rest heq
      rw [heq]
      obtain ⟨hin, hname⟩ := hfilter rest (by simpa using hmem)
      exact ⟨List.mem_cons_of_mem _ hin, hname⟩
    · exact hfilter _ hmem
  exact ⟨Text.not_mem_of_mem_split hsegment.1, hsegment.2⟩

/-- A place lies properly below another. -/
def Below (base place : Place) : Prop := base <+: place ∧ place ≠ base

instance (base place : Place) : Decidable (Below base place) :=
  inferInstanceAs (Decidable (_ ∧ _))

theorem Below.widen {a b c : Place} (h : Below b c) (hab : a <+: b) : Below a c := by
  refine ⟨hab.trans h.1, ?_⟩
  rintro rfl
  exact h.2 (h.1.eq_of_length_le hab.length_le).symm

/-- What is joined with `p` without stepping up lies properly below where `p` leads. -/
theorem Path.below_join {q : String} (hq : Path.StaysBelow q) {p : Path}
    (hname : (p.join q).EndsInName) (start : Place) :
    Below (p.place start) ((p.join q).place start) := by
  obtain ⟨last, hlast, hname⟩ := hname
  rw [Path.getLast?_split_join hq.1] at hlast
  rw [Path.place_join hq.1]
  exact ⟨Path.prefix_onwards hq.2 _, Path.onwards_ne hq.2 hlast hname _⟩

/-! ## Walks -/

namespace FileTree

/-- What comes out of two steps comes out of the second after the first. -/
theorem bind_eq_ok {ε α β : Type} {x : Except ε α} {f : α → Except ε β} {b : β} :
    x >>= f = .ok b ↔ ∃ a, x = .ok a ∧ f a = .ok b := by
  cases x with
  | error e => simp [bind, Except.bind]
  | ok a => simp [bind, Except.bind]

theorem step_eq_ok {t : FileTree} {place place' : Place} {segment : String}
    (h : t.step place segment = .ok place') : place' = Path.onward place segment := by
  unfold step at h
  unfold Path.onward Path.isIdle
  by_cases he : segment = ""
  · simp [he] at h ⊢
    exact h.symm
  · simp only [he, beq_iff_eq, if_false, bind_eq_ok] at h
    obtain ⟨_, -, h⟩ := h
    by_cases hd : segment = "."
    · simp [hd] at h ⊢
      exact h.symm
    · by_cases hup : segment = ".."
      · simp [hup] at h ⊢
        exact h.symm
      · simp only [hd, hup, if_false] at h
        split at h
        · cases h
        · cases h
          simp [he, hd, hup]

theorem foldlM_step_eq_ok {t : FileTree} {segments : List String} {place place' : Place}
    (h : segments.foldlM t.step place = .ok place') : place' = Path.onwards place segments := by
  induction segments generalizing place with
  | nil =>
    cases h
    rfl
  | cons s rest ih =>
    rw [List.foldlM_cons, bind_eq_ok] at h
    obtain ⟨next, hs, h⟩ := h
    rw [Path.onwards_cons, ← step_eq_ok hs]
    exact ih h

/-- The host takes the text of a path. -/
def Walkable (p : Path) : Prop :=
  p.text ≠ "" ∧ '\x00' ∉ p.text.toList ∧ p.text.utf8ByteSize ≤ longestPath

/-- A walk comes to its end when the host takes the path and each segment can be walked. -/
theorem walk_eq_ok {t : FileTree} {start : Place} {p : Path} {a : Arrival} :
    t.walk start p = .ok a ↔ Walkable p ∧
      (Text.split '/' p.text).foldlM t.step (if p.isAbsolute then [] else start) = .ok a.place ∧
      ∃ last, (Text.split '/' p.text).getLast? = some last ∧
        a.wantsDir = (last == "" || last == "." || last == "..") := by
  obtain ⟨place, wantsDir⟩ := a
  have hlast : ∃ last, (Text.split '/' p.text).getLast? = some last := by
    cases hl : (Text.split '/' p.text).getLast? with
    | none => exact absurd (List.getLast?_eq_none_iff.1 hl) (Text.split_ne_nil '/' p.text)
    | some last => exact ⟨last, rfl⟩
  obtain ⟨last, hlast⟩ := hlast
  unfold walk Walkable
  by_cases h1 : p.text = ""
  · simp [h1]
  by_cases h2 : '\x00' ∈ p.text.toList
  · simp [h1, h2]
  by_cases h3 : p.text.utf8ByteSize > longestPath
  · simp [h1, h2, h3, Nat.not_le_of_lt h3]
  have h3' := Nat.le_of_not_lt h3
  simp only [h1, h2, h3, h3', hlast, beq_iff_eq, List.contains_iff_mem, if_false, bind_eq_ok,
    not_false_eq_true, true_and, ne_eq, Option.some.injEq, exists_eq_left']
  constructor
  · rintro ⟨_, hf, ⟨⟩⟩
    exact ⟨hf, rfl⟩
  · rintro ⟨hf, rfl⟩
    exact ⟨place, hf, rfl⟩

/-- A path that leads to a file does not end in an idle segment or a step up. -/
theorem walk_endsInName {t : FileTree} {start : Place} {p : Path} {a : Arrival}
    (h : t.walk start p = .ok a) (hfile : a.wantsDir = false) : p.EndsInName := by
  obtain ⟨-, -, last, hlast, hwants⟩ := walk_eq_ok.1 h
  rw [hfile] at hwants
  simp only [Bool.false_eq, Bool.or_eq_false_iff, beq_eq_false_iff_ne] at hwants
  exact ⟨last, hlast, by simp [Path.isIdle, hwants.1.1, hwants.1.2], hwants.2⟩

/-- A walk ends at the place that the text of the path tells. -/
theorem walk_place {t : FileTree} {start : Place} {p : Path} {a : Arrival}
    (h : t.walk start p = .ok a) : a.place = p.place start :=
  foldlM_step_eq_ok (walk_eq_ok.1 h).2.1

end FileTree

end ApkForge
