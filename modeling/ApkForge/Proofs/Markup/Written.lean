-- Marks read back. What is written for a tag is read as that tag with the values that it was given.
-- An escaped value holds nothing that could end it, so it is read up to its own closing quote,
-- whatever characters it is made of.
import ApkForge.Proofs.Markup.Reading

namespace ApkForge.Markup

open Mark (escape escapeChar blanks writeAttr writeBeside writeBelow writeRows writeHead)

/-! ## Names and white space -/

/-- A text that may name a tag or an attribute. -/
def isName (s : String) : Bool := !s.toList.isEmpty && s.toList.all isNameChar

/-- White space, at least one character of it. -/
def IsPad (pad : String) : Prop := pad.toList ≠ [] ∧ ∀ c ∈ pad.toList, isSpace c = true

theorem isName_cons {s : String} (h : isName s = true) :
    ∃ c rest, s.toList = c :: rest ∧ isNameChar c = true ∧ ∀ d ∈ rest, isNameChar d = true := by
  unfold isName at h
  cases hcs : s.toList with
  | nil => simp [hcs] at h
  | cons c rest =>
    simp only [hcs, List.all_cons, List.isEmpty_cons, Bool.not_false, Bool.true_and,
      Bool.and_eq_true, List.all_eq_true] at h
    exact ⟨c, rest, rfl, h.1, h.2⟩

/-- A character of a kind is none that is not of it. -/
theorem beq_eq_false_of {kind : Char → Bool} {c d : Char} (hc : kind c = true)
    (hd : kind d = false) : (c == d) = false := by
  rw [beq_eq_false_iff_ne]
  rintro rfl
  rw [hc] at hd
  cases hd

theorem isNameChar_of_isSpace {c : Char} (h : isSpace c = true) : isNameChar c = false := by
  simp [isNameChar, h]

theorem isSpace_of_mem_blanks {n : Nat} {c : Char} (h : c ∈ (blanks n).toList) :
    isSpace c = true := by
  unfold blanks at h
  rw [String.toList_ofList] at h
  rw [List.eq_of_mem_replicate h]
  rfl

/-- A state that passes over each of some characters passes over all of them. -/
theorem run_pass {s : State} {cs : List Char} (h : ∀ c ∈ cs, step s c = some ([], s)) :
    run s cs = some ([], s) := by
  induction cs with
  | nil => rfl
  | cons c rest ih =>
    rw [run, h c (List.mem_cons_self ..), Option.bind_some,
      ih fun d hd => h d (List.mem_cons_of_mem _ hd)]
    rfl

/-- A state that keeps each of some characters keeps all of them. -/
theorem run_keep (keeping : List Char → State) {seen cs : List Char}
    (h : ∀ c ∈ cs, ∀ seen, step (keeping seen) c = some ([], keeping (seen ++ [c]))) :
    run (keeping seen) cs = some ([], keeping (seen ++ cs)) := by
  induction cs generalizing seen with
  | nil => simp [run]
  | cons c rest ih =>
    rw [run, h c (List.mem_cons_self ..), Option.bind_some,
      ih fun d hd => h d (List.mem_cons_of_mem _ hd)]
    simp

/-! ## Values -/

/-- What is written for a character of a value is read as that character. -/
theorem run_escapeChar (head : Head) (key text : List Char) (c : Char) :
    run (.value head key '\x22' text) (escapeChar c) =
      some ([], .value head key '\x22' (text ++ [c])) := by
  unfold escapeChar
  split
  · rfl
  · rfl
  · rfl
  · rfl
  · rfl
  · rename_i hamp hlt _ hquot _
    have hq : (c == '\x22') = false := by simpa using hquot
    have hl : (c == '<') = false := by simpa using hlt
    have ha : (c == '&') = false := by simpa using hamp
    simp [run, step, hq, hl, ha]

/-- What is written for a value is read as that value, and the value is still open after it. -/
theorem leads_escape (head : Head) (key : List Char) (v : String) :
    Leads (.value head key '\x22' []) (escape v) [] (.value head key '\x22' v.toList) := by
  have hrun (cs text : List Char) : run (.value head key '\x22' text) (cs.flatMap escapeChar) =
      some ([], .value head key '\x22' (text ++ cs)) := by
    induction cs generalizing text with
    | nil => simp [run]
    | cons c rest ih =>
      rw [List.flatMap_cons, run_append, run_escapeChar, Option.bind_some, ih]
      simp
  unfold Leads escape
  rw [String.toList_ofList, hrun, List.nil_append]

/-! ## Attributes -/

/-- The head with more attributes. -/
def Head.more (head : Head) (attrs : List (String × String)) : Head :=
  { head with attrs := head.attrs ++ attrs }

/-- A state in which a head may end: any character but one of a name ends it. -/
def Ready (head : Head) (s : State) : Prop :=
  ∀ c, isNameChar c = false → step s c = endHead head c

theorem ready_name (head : Head) : Ready head (.name head) := by
  intro c hc
  simp [step, hc]

theorem ready_gap (head : Head) : Ready head (.gap head) := by
  intro c hc
  simp [step, hc]

theorem ready_after (head : Head) : Ready head (.after head) := by
  intro c _
  rfl

/-- After white space a head waits for an attribute or for its end. -/
theorem Ready.pad {head : Head} {s : State} (hs : Ready head s) {pad : String} (hpad : IsPad pad) :
    Leads s pad [] (.gap head) := by
  have hgap {s : State} (hs : Ready head s) {c : Char} (hc : isSpace c = true) :
      step s c = some ([], .gap head) := by
    rw [hs c (isNameChar_of_isSpace hc)]
    have hgt : (c == '>') = false := beq_eq_false_of hc rfl
    have hslash : (c == '/') = false := beq_eq_false_of hc rfl
    simp [endHead, hc, hgt, hslash]
  obtain ⟨hne, hall⟩ := hpad
  unfold Leads
  cases hcs : pad.toList with
  | nil => exact absurd hcs hne
  | cons c rest =>
    rw [hcs] at hall
    rw [run, hgap hs (hall c (List.mem_cons_self ..)), Option.bind_some,
      run_pass fun d hd => hgap (ready_gap head) (hall d (List.mem_cons_of_mem _ hd))]
    rfl

/-- A written attribute is read as its name and its value, if the head has none of that name. -/
theorem leads_attr {head : Head} {a : String × String} (hname : isName a.1 = true)
    (hnew : a.1 ∉ head.attrs.map Prod.fst) :
    Leads (.gap head) (writeAttr a) [] (.after (head.more [a])) := by
  have hkey : Leads (.gap head) a.1 [] (.attr head a.1.toList) := by
    obtain ⟨c, rest, hcs, hc, hrest⟩ := isName_cons hname
    have hfirst : step (.gap head) c = some ([], .attr head [c]) := by simp [step, hc]
    have hmore : run (.attr head [c]) rest = some ([], .attr head ([c] ++ rest)) := by
      apply run_keep (.attr head)
      intro d hd seen
      simp [step, hrest d hd]
    unfold Leads
    rw [hcs, run, hfirst, Option.bind_some, hmore]
    rfl
  have hequals : Leads (.attr head a.1.toList) "=\"" [] (.value head a.1.toList '\x22' []) := rfl
  have hclose : Leads (.value head a.1.toList '\x22' a.2.toList) "\"" []
      (.after (head.more [a])) := by
    have hadd : head.add? a.1.toList a.2.toList = some (head.more [a]) := by
      unfold Head.add?
      rw [String.ofList_toList, String.ofList_toList, if_neg (by simpa using hnew)]
      rfl
    have hstep : step (.value head a.1.toList '\x22' a.2.toList) '\x22' =
        (head.add? a.1.toList a.2.toList).map fun head => ([], State.after head) := rfl
    change run _ ['\x22'] = _
    rw [run, hstep, hadd]
    rfl
  exact ((hkey.append hequals).append (leads_escape head _ a.2)).append hclose

/-- A text that adds attributes to any head that has none of their names. -/
def Carries (text : String) (attrs : List (String × String)) : Prop :=
  ∀ head s, Ready head s → ((head.attrs ++ attrs).map Prod.fst).Nodup →
    ∃ s', Leads s text [] s' ∧ Ready (head.more attrs) s'

theorem more_nil (head : Head) : head.more [] = head := by
  simp [Head.more]

theorem carries_nil : Carries "" [] := by
  intro head s hs _
  rw [more_nil]
  exact ⟨s, rfl, hs⟩

theorem carries_pad {pad : String} (hpad : IsPad pad) : Carries pad [] := by
  intro head s hs _
  rw [more_nil]
  exact ⟨_, hs.pad hpad, ready_gap head⟩

theorem carries_attr {pad : String} (hpad : IsPad pad) {a : String × String}
    (hname : isName a.1 = true) : Carries (pad ++ writeAttr a) [a] := by
  intro head s hs hnodup
  have hnew : a.1 ∉ head.attrs.map Prod.fst := by
    intro hmem
    rw [List.map_append, List.nodup_append] at hnodup
    exact hnodup.2.2 a.1 hmem a.1 (by simp) rfl
  exact ⟨_, (hs.pad hpad).append (leads_attr hname hnew), ready_after _⟩

theorem Carries.append {x y : String} {as bs : List (String × String)} (hx : Carries x as)
    (hy : Carries y bs) : Carries (x ++ y) (as ++ bs) := by
  intro head s hs hnodup
  rw [← List.append_assoc] at hnodup
  have hfirst : ((head.attrs ++ as).map Prod.fst).Nodup := by
    rw [List.map_append] at hnodup
    exact (List.nodup_append.1 hnodup).1
  obtain ⟨s₁, hlead₁, hready₁⟩ := hx head s hs hfirst
  obtain ⟨s₂, hlead₂, hready₂⟩ := hy (head.more as) s₁ hready₁ hnodup
  refine ⟨s₂, hlead₁.append hlead₂, ?_⟩
  unfold Head.more at *
  rwa [List.append_assoc] at hready₂

theorem carries_beside {row : List (String × String)} (h : ∀ a ∈ row, isName a.1 = true) :
    Carries (writeBeside row) row := by
  induction row with
  | nil => exact carries_nil
  | cons a rest ih =>
    unfold writeBeside at *
    rw [List.map_cons, String.join_cons]
    have hblank : IsPad " " := ⟨by simp, by simp [isSpace]⟩
    exact (carries_attr hblank (h a (List.mem_cons_self ..))).append
      (ih fun b hb => h b (List.mem_cons_of_mem _ hb))

theorem join_writeAttr (a : String × String) (rest : List (String × String)) :
    Text.join " " ((a :: rest).map writeAttr) = writeAttr a ++ writeBeside rest := by
  induction rest generalizing a with
  | nil => simp [Text.join, writeBeside]
  | cons b rest ih =>
    rw [List.map_cons, List.map_cons, Text.join, ← List.map_cons, ih b]
    simp [writeBeside, String.append_assoc]

theorem carries_below {indent : Nat} {row : List (String × String)}
    (h : ∀ a ∈ row, isName a.1 = true) : Carries (writeBelow indent row) row := by
  have hpad : IsPad ("\n" ++ blanks indent) := by
    refine ⟨by simp, ?_⟩
    intro c hc
    rw [String.toList_append, List.mem_append] at hc
    rcases hc with hc | hc
    · rw [show c = '\n' by simpa using hc]
      rfl
    · exact isSpace_of_mem_blanks hc
  unfold writeBelow
  cases row with
  | nil => simpa [Text.join] using carries_pad hpad
  | cons a rest =>
    rw [join_writeAttr, ← String.append_assoc]
    exact (carries_attr hpad (h a (List.mem_cons_self ..))).append
      (carries_beside fun b hb => h b (List.mem_cons_of_mem _ hb))

theorem carries_rows {indent : Nat} {rows : List (List (String × String))}
    (h : ∀ a ∈ rows.flatten, isName a.1 = true) : Carries (writeRows indent rows) rows.flatten := by
  cases rows with
  | nil => exact carries_nil
  | cons row rest =>
    simp only [List.flatten_cons, List.mem_append] at h
    refine (carries_beside fun a ha => h a (.inl ha)).append ?_
    have hrest : ∀ a ∈ rest.flatten, isName a.1 = true := fun a ha => h a (.inr ha)
    clear h
    induction rest with
    | nil => exact carries_nil
    | cons next rest ih =>
      simp only [List.flatten_cons, List.mem_append] at hrest
      rw [List.map_cons, String.join_cons, List.flatten_cons]
      exact (carries_below fun a ha => hrest a (.inl ha)).append
        (ih fun a ha => hrest a (.inr ha))

/-! ## Tags -/

/-- Names that may stand in one tag: that of the tag, and those of its attributes, each once. -/
def areNames (name : String) (keys : List String) : Bool :=
  isName name && keys.all isName && decide keys.Nodup

/-- A tag that markup may hold, whatever the values of its attributes. -/
def Sound (tag : Tag) : Prop := areNames tag.name (tag.attrs.map Prod.fst) = true

/-- No blank before the closing bracket changes what is in a tag. -/
theorem Sound.tight {tag : Tag} (h : Sound tag) : Sound tag.tight := h

theorem reads_blanks (n : Nat) : Reads (blanks n) [] := by
  apply run_pass
  intro c hc
  have hspace := isSpace_of_mem_blanks hc
  have hlt : (c == '<') = false := beq_eq_false_of hspace rfl
  have hamp : (c == '&') = false := beq_eq_false_of hspace rfl
  simp [step, hspace, hlt, hamp]

/-- A written head is read as its name and all its attributes. -/
theorem leads_head {tag : Tag} (h : Sound tag) (indent : Nat) :
    ∃ s, Leads .between (writeHead indent tag) [] s ∧ Ready ⟨tag.name.toList, tag.attrs⟩ s := by
  unfold Sound areNames at h
  simp only [Bool.and_eq_true, List.all_eq_true, List.mem_map, decide_eq_true_eq] at h
  obtain ⟨⟨hname, hkeys⟩, hnodup⟩ := h
  have hangle : Leads .between "<" [] .angle := rfl
  have hread : Leads .angle tag.name [] (.name ⟨tag.name.toList, []⟩) := by
    obtain ⟨c, rest, hcs, hc, hrest⟩ := isName_cons hname
    have hfirst : step .angle c = some ([], .name ⟨[c], []⟩) := by
      have hslash : (c == '/') = false := beq_eq_false_of hc rfl
      have hbang : (c == '!') = false := beq_eq_false_of hc rfl
      have hask : (c == '?') = false := beq_eq_false_of hc rfl
      simp [step, hslash, hbang, hask, hc]
    have hmore : run (.name ⟨[c], []⟩) rest = some ([], .name ⟨[c] ++ rest, []⟩) := by
      apply run_keep fun seen => .name ⟨seen, []⟩
      intro d hd seen
      simp [step, hrest d hd]
    unfold Leads
    rw [hcs, run, hfirst, Option.bind_some, hmore]
    rfl
  have hrows : Carries (writeRows (indent + tag.hang) tag.rows) tag.attrs :=
    carries_rows fun a ha => hkeys a.1 ⟨a, ha, rfl⟩
  obtain ⟨s, hlead, hready⟩ := hrows ⟨tag.name.toList, []⟩ _ (ready_name _) hnodup
  have hstart : Leads .between (blanks indent ++ "<") [] .angle :=
    Leads.append (reads_blanks indent) hangle
  exact ⟨s, (hstart.append hread).append hlead, hready⟩

/-- Where a head may end, a bracket ends it and opens its element. -/
theorem Ready.leads_bracket {head : Head} {s : State} (hs : Ready head s) :
    Leads s ">\n" [head.opens] .between := by
  have hstep : step s '>' = some ([head.opens], .between) := hs '>' rfl
  change run s ['>', '\n'] = _
  rw [run, hstep]
  rfl

/-- Where a head may end, a slash and a bracket end it and its element. -/
theorem Ready.leads_slash {head : Head} {s : State} (hs : Ready head s) :
    Leads s "/>\n" [head.stands] .between := by
  have hstep : step s '/' = some ([], .slash head) := hs '/' rfl
  change run s ['/', '>', '\n'] = _
  rw [run, hstep]
  rfl

theorem isPad_blank : IsPad " " := ⟨by simp, by simp [isSpace]⟩

theorem reads_opens {tag : Tag} (h : Sound tag) (indent : Nat) :
    Reads (Mark.opens indent tag).write [.opens tag.name tag.attrs] := by
  obtain ⟨s, hlead, hready⟩ := leads_head h indent
  have hend : Leads s (if tag.roomy then " >\n" else ">\n") [.opens tag.name tag.attrs]
      .between := by
    have hopens : Head.opens ⟨tag.name.toList, tag.attrs⟩ = .opens tag.name tag.attrs := by
      rw [Head.opens, String.ofList_toList]
    rw [← hopens]
    split
    · exact (hready.pad isPad_blank).append (ready_gap _).leads_bracket
    · exact hready.leads_bracket
  exact hlead.append hend

theorem reads_stands {tag : Tag} (h : Sound tag) (indent : Nat) :
    Reads (Mark.stands indent tag).write [.stands tag.name tag.attrs] := by
  obtain ⟨s, hlead, hready⟩ := leads_head h indent
  have hend : Leads s " />\n" [.stands tag.name tag.attrs] .between := by
    have hstands : Head.stands ⟨tag.name.toList, tag.attrs⟩ = .stands tag.name tag.attrs := by
      rw [Head.stands, String.ofList_toList]
    rw [← hstands]
    exact (hready.pad isPad_blank).append (ready_gap _).leads_slash
  exact hlead.append hend

theorem reads_closes {name : String} (h : isName name = true) (indent : Nat) :
    Reads (Mark.closes indent name).write [.closes name] := by
  have hstart : Leads .between (blanks indent ++ "</") [] (.closing []) :=
    Leads.append (reads_blanks indent) rfl
  obtain ⟨c, rest, hcs, hc, hrest⟩ := isName_cons h
  have hname : Leads (.closing []) name [] (.closing name.toList) := by
    apply run_keep .closing
    intro d hd seen
    rw [hcs, List.mem_cons] at hd
    have hd : isNameChar d = true := by
      rcases hd with rfl | hd
      · exact hc
      · exact hrest d hd
    simp [step, hd]
  have hend : Leads (.closing name.toList) ">\n" [.closes name] .between := by
    have hstep : step (.closing name.toList) '>' = some ([.closes name], .between) := by
      have hgt : isNameChar '>' = false := rfl
      have hsome : name.toList.isEmpty = false := by rw [hcs]; rfl
      simp [step, hgt, hsome]
    change run _ ['>', '\n'] = _
    rw [run, hstep]
    rfl
  exact (hstart.append hname).append hend

/-- The end of a line after markup adds nothing to it. -/
theorem reads_verbatim {text : String} {tokens : List Token} (h : Reads text tokens) :
    Reads (Mark.verbatim text).write tokens := by
  have hline : Reads "\n" [] := rfl
  change Reads (if Text.endsWith "\n" text then text else text ++ "\n") tokens
  split
  · exact h
  · simpa using h.append hline

/-! ## Marks that show nodes -/

/-- The marks are written as a text that is read as these nodes. -/
def Shows (marks : List Mark) (nodes : List Node) : Prop :=
  ∃ tokens, Reads (String.join (marks.map Mark.write)) tokens ∧ Builds tokens nodes

theorem reads_one {mark : Mark} {tokens : List Token} (h : Reads mark.write tokens) :
    Reads (String.join ([mark].map Mark.write)) tokens := by
  rw [List.map_singleton, String.join_cons, String.join_nil, String.append_empty]
  exact h

theorem shows_nil : Shows [] [] := ⟨[], rfl, builds_nil⟩

theorem Shows.append {ms ns : List Mark} {as bs : List Node} (hm : Shows ms as)
    (hn : Shows ns bs) : Shows (ms ++ ns) (as ++ bs) := by
  obtain ⟨ts, hreads, hbuilds⟩ := hm
  obtain ⟨us, hreads', hbuilds'⟩ := hn
  refine ⟨ts ++ us, ?_, hbuilds.append hbuilds'⟩
  rw [List.map_append, String.join_append]
  exact hreads.append hreads'

theorem shows_flatMap {α : Type} {as : List α} {marks : α → List Mark} {nodes : α → List Node}
    (h : ∀ a ∈ as, Shows (marks a) (nodes a)) : Shows (as.flatMap marks) (as.flatMap nodes) := by
  induction as with
  | nil => exact shows_nil
  | cons a rest ih =>
    rw [List.flatMap_cons, List.flatMap_cons]
    exact (h a (List.mem_cons_self ..)).append (ih fun b hb => h b (List.mem_cons_of_mem _ hb))

theorem shows_map {α : Type} {as : List α} {mark : α → Mark} {node : α → Node}
    (h : ∀ a ∈ as, Shows [mark a] [node a]) : Shows (as.map mark) (as.map node) := by
  rw [List.map_eq_flatMap, List.map_eq_flatMap]
  exact shows_flatMap h

theorem exists_shows_flatMap {α : Type} {as : List α} {marks : α → List Mark}
    (h : ∀ a ∈ as, ∃ nodes, Shows (marks a) nodes) : ∃ nodes, Shows (as.flatMap marks) nodes := by
  induction as with
  | nil => exact ⟨[], shows_nil⟩
  | cons a rest ih =>
    obtain ⟨nodes, hfirst⟩ := h a (List.mem_cons_self ..)
    obtain ⟨more, hrest⟩ := ih fun b hb => h b (List.mem_cons_of_mem _ hb)
    rw [List.flatMap_cons]
    exact ⟨nodes ++ more, hfirst.append hrest⟩

theorem shows_stands {tag : Tag} (h : Sound tag) (indent : Nat) :
    Shows [.stands indent tag] [.element tag.name tag.attrs []] := by
  exact ⟨_, reads_one (reads_stands h indent), builds_stands tag.name tag.attrs⟩

theorem shows_verbatim {text : String} {nodes : List Node} (h : read text = some nodes) :
    Shows [.verbatim text] nodes := by
  obtain ⟨tokens, hreads, hbuilds⟩ := reads_of_read h
  exact ⟨tokens, reads_one (reads_verbatim hreads), hbuilds⟩

/-- Marks between a tag that opens and one that closes it are read as what is in its element. -/
theorem Shows.element {ms : List Mark} {nodes : List Node} (h : Shows ms nodes) {tag : Tag}
    (htag : Sound tag) (indent below : Nat) :
    Shows (.opens indent tag :: (ms ++ [.closes below tag.name]))
      [.element tag.name tag.attrs nodes] := by
  obtain ⟨tokens, hreads, hbuilds⟩ := h
  refine ⟨_, ?_, hbuilds.element tag.name tag.attrs⟩
  have hname : isName tag.name = true := by
    unfold Sound areNames at htag
    rw [Bool.and_eq_true, Bool.and_eq_true] at htag
    exact htag.1.1
  rw [List.map_cons, String.join_cons, List.map_append, String.join_append]
  exact (reads_opens htag indent).append (hreads.append (reads_one (reads_closes hname below)))

/-- A document is read as its declaration and then what its marks show. -/
theorem read_document {marks : List Mark} {nodes : List Node} (h : Shows marks nodes) :
    read (Mark.document marks) =
      some (.instruction "xml version=\"1.0\" encoding=\"utf-8\"" :: nodes) := by
  obtain ⟨tokens, hreads, hbuilds⟩ := h
  have hdeclares : Reads Mark.declaration
      [.instruction "xml version=\"1.0\" encoding=\"utf-8\""] := rfl
  have hstands : Builds [.instruction "xml version=\"1.0\" encoding=\"utf-8\""]
      [.instruction "xml version=\"1.0\" encoding=\"utf-8\""] := by
    intro frames before
    rfl
  exact read_eq (hdeclares.append hreads) (hstands.append hbuilds)

end ApkForge.Markup
