-- The way to a path: the places that its first segments lead to. The directories above a path, as
-- its text tells them, all lie on the way to it; and the way to a path that was grown goes the way
-- to the one that it was grown from, and then on from there.
import ApkForge.Proofs.PrivateCopies
import ApkForge.Proofs.Upkeep

namespace ApkForge

theorem Below.deepen {a b c : Place} (h : Below a b) (hbc : b <+: c) : Below a c := by
  refine ⟨h.1.trans hbc, ?_⟩
  rintro rfl
  exact h.2 (h.1.eq_of_length_le hbc.length_le).symm

/-! ## Segments -/

namespace Text

theorem head_pieces_of_ne {sep c : Char} (h : c ≠ sep) (rest : List Char) :
    ∃ p ps, pieces sep (c :: rest) = (c :: p) :: ps := by
  rw [pieces, if_neg h]
  cases hp : pieces sep rest with
  | nil => exact absurd hp (pieces_ne_nil sep rest)
  | cons p ps => exact ⟨p, ps, rfl⟩

end Text

namespace Path

variable {p d q : Path} {start place : Place}

/-- A path starts at the root when its first segment is empty and others come after it. -/
theorem isAbsolute_iff : p.isAbsolute = true ↔ ∃ rest, rest ≠ [] ∧
    Text.split '/' p.text = "" :: rest := by
  unfold isAbsolute Text.split
  rw [Text.beginsWith_slash]
  cases htext : p.text.toList with
  | nil => simp [Text.pieces]
  | cons c cs =>
    by_cases hc : c = '/'
    · subst hc
      simp [Text.pieces, Text.pieces_ne_nil]
    · obtain ⟨s, ss, hs⟩ := Text.head_pieces_of_ne hc cs
      rw [hs]
      simp [hc]

/-- Idle segments lead nowhere. -/
theorem onwards_of_idle {segments : List String} (h : ∀ s ∈ segments, isIdle s = true)
    (place : Place) : onwards place segments = place := by
  induction segments with
  | nil => rfl
  | cons s rest ih =>
    rw [onwards_cons, onward, if_pos (h s List.mem_cons_self)]
    exact ih fun t ht => h t (List.mem_cons_of_mem _ ht)

theorem dropIdle_suffix (segments : List String) : dropIdle segments <:+ segments := by
  induction segments with
  | nil => exact List.suffix_rfl
  | cons s rest ih =>
    cases rest with
    | nil => exact List.suffix_rfl
    | cons t rest =>
      unfold dropIdle
      split
      · exact ih.trans (List.suffix_cons _ _)
      · exact List.suffix_rfl

theorem dropIdle_ne_nil {segments : List String} (h : segments ≠ []) : dropIdle segments ≠ [] := by
  induction segments with
  | nil => exact absurd rfl h
  | cons s rest ih =>
    cases rest with
    | nil => simp [dropIdle]
    | cons t rest =>
      unfold dropIdle
      split
      · exact ih (by simp)
      · simp

/-! ## The way -/

/-- Where the segments of a path start. -/
def origin (p : Path) (start : Place) : Place := if p.isAbsolute then [] else start

/-- A first part of the path leads to the place. -/
def Along (p : Path) (start place : Place) : Prop :=
  ∃ front, front <+: Text.split '/' p.text ∧ place = onwards (p.origin start) front

theorem along_self (p : Path) (start : Place) : p.Along start (p.place start) :=
  ⟨_, List.prefix_rfl, rfl⟩

/-- The segments of the path above are the first ones, but for the empty path and the root. -/
theorem segments_of_parent? (h : p.parent? = some d) :
    (Text.split '/' d.text <+: Text.split '/' p.text ∧ d.isAbsolute = p.isAbsolute) ∨
      (d = ⟨""⟩ ∧ p.isAbsolute = false) ∨ d = ⟨"/"⟩ ∧ p.isAbsolute = true := by
  have hsuffix := dropIdle_suffix (Text.split '/' p.text).reverse
  unfold parent? at h
  split at h
  · cases h
  · cases h
  · rename_i last hempty hdrop
    cases h
    refine .inr (.inl ⟨rfl, ?_⟩)
    rw [hdrop, ← List.reverse_prefix, List.reverse_reverse] at hsuffix
    obtain ⟨back, hback⟩ := hsuffix
    rw [Bool.eq_false_iff, ne_eq, isAbsolute_iff, ← hback]
    rintro ⟨_, -, hhead⟩
    cases hhead
    exact hempty rfl
  · rename_i last rest hempty hsingle hdrop
    -- the segments above are among the first, and `last` comes after them
    have hfront : rest.reverse ++ [last] <+: Text.split '/' p.text := by
      rw [hdrop, ← List.reverse_prefix, List.reverse_reverse, List.reverse_cons] at hsuffix
      exact hsuffix
    have habove : (dropIdle rest).reverse <+: rest.reverse :=
      List.reverse_prefix.2 (dropIdle_suffix rest)
    obtain ⟨between, hbetween⟩ := habove
    obtain ⟨back, hback⟩ := hfront
    rw [← hbetween, List.append_assoc, List.append_assoc] at hback
    split at h
    · rename_i hroot
      cases h
      refine .inr (.inr ⟨rfl, isAbsolute_iff.2 ⟨between ++ ([last] ++ back), by simp, ?_⟩⟩)
      rw [← hback, hroot]
      rfl
    · rename_i hroot
      cases h
      have hne : (dropIdle rest).reverse ≠ [] := by simpa using dropIdle_ne_nil hsingle
      have hfirst : (dropIdle rest).reverse <+: Text.split '/' p.text := ⟨_, hback⟩
      have hsplit : Text.split '/' (Text.join "/" (dropIdle rest).reverse) =
          (dropIdle rest).reverse :=
        Text.split_join (by decide) hne fun s hs => Text.not_mem_of_mem_split (hfirst.subset hs)
      refine .inl ⟨by rw [hsplit]; exact hfirst, ?_⟩
      rw [Bool.eq_iff_iff, isAbsolute_iff, isAbsolute_iff, hsplit, ← hback]
      obtain ⟨s, ss, hs⟩ := List.exists_cons_of_ne_nil hne
      rw [hs] at hroot ⊢
      have hmore : s = "" → ss ≠ [] := by
        rintro rfl rfl
        exact hroot rfl
      constructor
      · rintro ⟨r, hr, hsplit⟩
        cases hsplit
        exact ⟨_, by simp, rfl⟩
      · rintro ⟨r, hr, hsplit⟩
        cases hsplit
        exact ⟨ss, hmore rfl, rfl⟩

theorem along_of_parent? (h : p.parent? = some d) (hd : d.Along start place) :
    p.Along start place := by
  obtain ⟨front, hfront, rfl⟩ := hd
  have hidle : ∀ s : String, s = "" → isIdle s = true := by
    rintro _ rfl
    rfl
  rcases segments_of_parent? h with ⟨hfirst, habs⟩ | ⟨rfl, habs⟩ | ⟨rfl, habs⟩
  · exact ⟨front, hfront.trans hfirst, by rw [origin, origin, habs]⟩
  · have horigin : p.origin start = start := by simp [origin, habs]
    refine ⟨[], List.nil_prefix, ?_⟩
    rw [horigin, onwards_nil]
    exact onwards_of_idle (fun s hs => hidle s (List.mem_singleton.1 (hfront.subset hs))) start
  · have horigin : p.origin start = [] := by simp [origin, habs]
    refine ⟨[], List.nil_prefix, ?_⟩
    rw [horigin, onwards_nil]
    refine onwards_of_idle (fun s hs => hidle s ?_) []
    have hmem : s ∈ ["", ""] := hfront.subset hs
    simpa using hmem

/-- The directories above a path lie on the way to it. -/
theorem Above.along (h : p.Above q) : p.Along start (q.place start) := by
  induction h with
  | self p => exact along_self p start
  | parent hparent _ ih => exact along_of_parent? hparent ih

/-! ## Grown paths -/

/-- The segments of a path joined with a relative one are some of its own first and then those of
the other, and lead on from where it led. -/
theorem segments_join {q : String} (hq : Text.beginsWith "/" q = false) (p : Path) :
    (p.text = "" ∧ (p.join q).text = q) ∨ ∃ front, front <+: Text.split '/' p.text ∧
      Text.split '/' (p.join q).text = front ++ Text.split '/' q ∧
      (p.join q).isAbsolute = p.isAbsolute ∧
      ∀ start, onwards (p.origin start) front = p.place start := by
  obtain ⟨text⟩ := p
  by_cases hempty : text = ""
  · subst hempty
    exact .inl ⟨rfl, by simp [join, hq]⟩
  refine .inr ?_
  have habs : ∀ back : String, (Path.mk (text ++ back)).isAbsolute = (Path.mk text).isAbsolute := by
    intro back
    have hne : text.toList ≠ [] := by simpa using hempty
    rw [Bool.eq_iff_iff]
    cases hl : text.toList with
    | nil => exact absurd hl hne
    | cons c rest => simp [isAbsolute, Text.beginsWith_slash, hl]
  by_cases hslash : Text.endsWith "/" text = true
  · have hjoin : (Path.mk text).join q = ⟨text ++ q⟩ := by simp [join, hq, hslash]
    obtain ⟨front, rfl⟩ := Text.endsWith_slash hslash
    refine ⟨Text.split '/' front, ?_, ?_, ?_, fun start => ?_⟩
    · rw [Text.split_slash]
      exact List.prefix_append _ _
    · rw [hjoin, Text.split_append_slash]
    · rw [hjoin, habs]
    · rw [place, Text.split_slash, onwards_append]
      rfl
  · have hjoin : (Path.mk text).join q = ⟨text ++ "/" ++ q⟩ := by simp [join, hq, hslash, hempty]
    refine ⟨Text.split '/' text, List.prefix_rfl, ?_, ?_, fun start => rfl⟩
    · rw [hjoin, Text.split_append_slash]
    · rw [hjoin, String.append_assoc, habs]

/-- A path grown by a name leads one name further. -/
theorem place_join_name {name : String} (h : IsPlain name) (p : Path) (start : Place) :
    (p.join name).place start = p.place start ++ [name] := by
  rw [Path.place_join h.staysBelow.1, Text.split_of_not_mem h.1, onwards_cons,
    onward_of_isName h.2, onwards_nil]

theorem endsInName_join {name : String} (h : IsPlain name) (p : Path) :
    (p.join name).EndsInName := by
  refine ⟨name, ?_, h.2⟩
  rw [getLast?_split_join h.staysBelow.1, Text.split_of_not_mem h.1]
  rfl

/-- A path without steps up that is grown by a text without steps up has none. -/
theorem straight_join {q : String} (hp : ".." ∉ Text.split '/' p.text) (hq : StaysBelow q) :
    ".." ∉ Text.split '/' (p.join q).text := by
  rcases segments_join hq.1 p with ⟨-, hjoin⟩ | ⟨front, hfront, hsplit, -⟩
  · rw [hjoin]
    exact hq.2
  · rw [hsplit, List.mem_append, not_or]
    exact ⟨fun hmem => hp (hfront.subset hmem), hq.2⟩

/-- A relative text without steps up leads on from a place, and each first part of it does. -/
theorem between_of_front {q : String} (hq : StaysBelow q) {front : List String}
    (h : front <+: Text.split '/' q) (place : Place) :
    place <+: onwards place front ∧
      onwards place front <+: onwards place (Text.split '/' q) := by
  obtain ⟨back, hback⟩ := h
  have hup : ".." ∉ front ∧ ".." ∉ back := by
    have hq' := hq.2
    rw [← hback, List.mem_append, not_or] at hq'
    exact hq'
  refine ⟨prefix_onwards hup.1 _, ?_⟩
  rw [← hback, onwards_append]
  exact prefix_onwards hup.2 _

/-- On the way to a grown path are the places on the way to the one that it was grown from, and
those between the two. -/
theorem along_join {q : String} (hq : StaysBelow q) (h : (p.join q).Along start place) :
    p.Along start place ∨ p.place start <+: place ∧ place <+: (p.join q).place start := by
  obtain ⟨front, hfront, rfl⟩ := h
  rw [place_join hq.1]
  rcases segments_join hq.1 p with ⟨hempty, hjoin⟩ | ⟨own, hown, hsplit, habs, hplace⟩
  · have hstart : p.place start = start := by
      rw [place, isAbsolute, hempty]
      rfl
    have horigin : (p.join q).origin start = start := by
      rw [origin, isAbsolute, hjoin, hq.1]
      rfl
    rw [hjoin] at hfront
    rw [hstart, horigin]
    exact .inr (between_of_front hq hfront start)
  · have horigin : (p.join q).origin start = p.origin start := by rw [origin, origin, habs]
    rw [hsplit] at hfront
    rw [horigin]
    rcases List.prefix_or_prefix_of_prefix hfront (List.prefix_append own _) with hshort | hlong
    · exact .inl ⟨front, hshort.trans hown, rfl⟩
    · obtain ⟨more, rfl⟩ := hlong
      rw [onwards_append, hplace]
      exact .inr (between_of_front hq ((List.prefix_append_right_inj own).1 hfront) _)

/-- A path without steps up goes straight to its place. -/
theorem prefix_of_along (hp : ".." ∉ Text.split '/' p.text) (h : p.Along start place) :
    place <+: p.place start := by
  obtain ⟨front, ⟨back, hback⟩, rfl⟩ := h
  have hup : ".." ∉ back := by
    intro hmem
    rw [← hback] at hp
    exact hp (List.mem_append_right _ hmem)
  have hplace : p.place start = onwards (onwards (p.origin start) front) back := by
    rw [← onwards_append, hback]
    rfl
  rw [hplace]
  exact prefix_onwards hup _

end Path

/-! ## What the way tells -/

namespace FileTree

variable {t t' : FileTree} {start place : Place} {p : Path}

/-- Steps are told by what stands where they are taken. -/
theorem steps_congr {segments : List String} (h : ∀ front, front <+: segments →
      t'.at? (Path.onwards place front) = t.at? (Path.onwards place front)) :
    segments.foldlM t'.step place = segments.foldlM t.step place := by
  induction segments generalizing place with
  | nil => rfl
  | cons s rest ih =>
    have hfirst : t'.step place s = t.step place s := by
      unfold step stand
      rw [show t'.at? place = t.at? place from h [] List.nil_prefix]
    rw [List.foldlM_cons, List.foldlM_cons, hfirst]
    cases hstep : t.step place s with
    | error fault => rfl
    | ok next =>
      refine ih fun front hfront => ?_
      rw [step_eq_ok hstep]
      exact h (s :: front) ((List.prefix_cons_inj s).2 hfront)

/-- What a path names is told by what stands on the way to it. -/
theorem stat_congr (h : ∀ place, p.Along start place → t'.at? place = t.at? place) :
    t'.stat start p = t.stat start p := by
  have hsteps := steps_congr fun front hfront => h _ ⟨front, hfront, rfl⟩
  have hwalk : t'.walk start p = t.walk start p := by
    unfold Path.origin at hsteps
    unfold walk
    simp only [hsteps]
  unfold stat
  rw [hwalk]
  cases ha : t.walk start p with
  | error fault => rfl
  | ok a =>
    have hend : t'.at? a.place = t.at? a.place := by
      rw [walk_place ha]
      exact h _ (Path.along_self p start)
    simp only [bind, Except.bind, hend]

end FileTree

end ApkForge
