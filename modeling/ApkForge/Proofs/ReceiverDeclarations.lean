-- What a declaration of the older form says. A receiver may be declared in many ways, with blanks
-- around its parts and blank parts among its actions. Each of them is read as that receiver, and
-- whatever is read was declared in one of these ways.
import ApkForge.Manifest.LegacyReceiver
import ApkForge.Proofs.Classpath
import ApkForge.Proofs.Trimming

namespace ApkForge

/-! ## Cutting -/

namespace Text

variable {sep : Char}

/-- The first piece is what stands before the first separator. -/
theorem head?_pieces (sep : Char) (cs : List Char) :
    (pieces sep cs).head? = some (cs.takeWhile (· ≠ sep)) := by
  induction cs with
  | nil => rfl
  | cons c rest ih =>
    by_cases h : c = sep
    · simp [pieces, h]
    · cases hp : pieces sep rest with
      | nil => exact absurd hp (pieces_ne_nil sep rest)
      | cons p ps =>
        rw [hp] at ih
        simp only [List.head?_cons, Option.some.injEq] at ih
        simp [pieces, h, hp, ih]

theorem join_map_ofList {t : String} (ht : t.toList = [sep]) (ps : List (List Char)) :
    join t (ps.map String.ofList) = String.ofList (glue sep ps) := by
  have hsep : t = String.ofList [sep] := String.toList_injective (by simp [ht])
  induction ps with
  | nil => rfl
  | cons p rest ih =>
    cases rest with
    | nil => rfl
    | cons q qs =>
      simp only [List.map_cons, join, glue] at ih ⊢
      rw [ih, hsep, ← String.ofList_append, ← String.ofList_append, List.append_assoc]
      rfl

/-- Joining the pieces of a text gives it back. -/
theorem join_split {t : String} (ht : t.toList = [sep]) (s : String) :
    join t (split sep s) = s := by
  rw [split, join_map_ofList ht, glue_pieces, String.ofList_toList]

end Text

/-! ## How a receiver is declared -/

namespace LegacyReceiver

open Text (AllBlank Trimmed)

/-- A part of a declaration that says something: it has no comma, and no blanks around it. -/
structure IsPart (part : String) : Prop where
  ne_empty : part ≠ ""
  no_comma : ',' ∉ part.toList
  trimmed : Trimmed part.toList

/-- The name and all actions can be parts of a declaration. -/
structure Proper (r : LegacyReceiver) : Prop where
  name : IsPart r.name
  actions : ∀ action ∈ r.actions, IsPart action

/-- The text is the part with blanks around it. -/
def Around (part text : String) : Prop :=
  ∃ front back, AllBlank front ∧ AllBlank back ∧ text.toList = front ++ part.toList ++ back

/-- The texts are the actions in order, each with blanks around it, and blank texts among them. -/
inductive Spells : List String → List String → Prop where
  | none : Spells [] []
  | blank {actions texts : List String} {text : String} (blank : AllBlank text.toList)
      (rest : Spells actions texts) : Spells actions (text :: texts)
  | action {action text : String} {actions texts : List String} (around : Around action text)
      (rest : Spells actions texts) : Spells (action :: actions) (text :: texts)

/-- The declaration says the receiver: with commas between them, its name with blanks around it and
texts that spell its actions. -/
def SaidBy (r : LegacyReceiver) (declaration : String) : Prop :=
  ∃ first texts, Around r.name first ∧ Spells r.actions texts ∧
    declaration = Text.join "," (first :: texts)

/-- The plain declaration of a receiver. -/
def declaration (r : LegacyReceiver) : String := Text.join "," (r.name :: r.actions)

variable {r : LegacyReceiver} {d part text first : String} {actions texts : List String}

theorem around_self (part : String) : Around part part :=
  ⟨[], [], by simp [AllBlank], by simp [AllBlank], by simp⟩

theorem spells_self (actions : List String) : Spells actions actions := by
  induction actions with
  | nil => exact .none
  | cons action rest ih => exact .action (around_self action) ih

theorem saidBy_declaration (r : LegacyReceiver) : r.SaidBy r.declaration :=
  ⟨r.name, r.actions, around_self r.name, spells_self r.actions, rfl⟩

theorem comma_not_mem_of_allBlank {cs : List Char} (h : AllBlank cs) : ',' ∉ cs :=
  fun hc => absurd (h ',' hc) (by decide)

theorem Around.no_comma (h : Around part text) (hpart : ',' ∉ part.toList) :
    ',' ∉ text.toList := by
  obtain ⟨front, back, hfront, hback, htext⟩ := h
  rw [htext]
  simp only [List.mem_append, not_or]
  exact ⟨⟨comma_not_mem_of_allBlank hfront, hpart⟩, comma_not_mem_of_allBlank hback⟩

theorem Around.trim (h : Around part text) (hpart : Trimmed part.toList) :
    Text.trim text = part := by
  obtain ⟨front, back, hfront, hback, htext⟩ := h
  rw [Text.trim, htext, hpart.trimChars_around hfront hback, String.ofList_toList]

theorem around_trim (text : String) : Around (Text.trim text) text := by
  obtain ⟨front, back, hfront, hback, htext⟩ := Text.exists_around_trimChars text.toList
  exact ⟨front, back, hfront, hback, by rwa [Text.trim, String.toList_ofList]⟩

theorem Spells.no_comma (h : Spells actions texts) (hactions : ∀ a ∈ actions, IsPart a) :
    ∀ text ∈ texts, ',' ∉ text.toList := by
  induction h with
  | none => simp
  | blank blank rest ih =>
    exact List.forall_mem_cons.2 ⟨comma_not_mem_of_allBlank blank, ih hactions⟩
  | action around rest ih =>
    obtain ⟨hpart, hrest⟩ := List.forall_mem_cons.1 hactions
    exact List.forall_mem_cons.2 ⟨around.no_comma hpart.no_comma, ih hrest⟩

/-! ## How a declaration is read -/

/-- The actions in texts: what is left of them when they are trimmed and the empty ones dropped. -/
def actionsIn (texts : List String) : List String :=
  (texts.map Text.trim).filter fun a => a != ""

/-- The actions in a text and those after it. -/
theorem actionsIn_cons (text : String) (texts : List String) :
    actionsIn (text :: texts) =
      if Text.trim text = "" then actionsIn texts else Text.trim text :: actionsIn texts := by
  by_cases h : Text.trim text = "" <;> simp [actionsIn, h]

/-- Texts that spell actions hold them and nothing else. -/
theorem Spells.actionsIn_eq (h : Spells actions texts) (hactions : ∀ a ∈ actions, IsPart a) :
    actionsIn texts = actions := by
  induction h with
  | none => rfl
  | blank blank rest ih => rw [actionsIn_cons, if_pos (Text.trim_eq_empty_iff.2 blank), ih hactions]
  | action around rest ih =>
    obtain ⟨hpart, hrest⟩ := List.forall_mem_cons.1 hactions
    rw [actionsIn_cons, around.trim hpart.trimmed, if_neg hpart.ne_empty, ih hrest]

/-- Any texts spell the actions in them. -/
theorem spells_actionsIn (texts : List String) : Spells (actionsIn texts) texts := by
  induction texts with
  | nil => exact .none
  | cons text rest ih =>
    rw [actionsIn_cons]
    split
    · exact .blank (Text.trim_eq_empty_iff.1 ‹_›) ih
    · exact .action (around_trim text) ih

theorem isPart_trim (hcomma : ',' ∉ text.toList) (hne : Text.trim text ≠ "") :
    IsPart (Text.trim text) := by
  refine ⟨hne, fun hc => hcomma ?_, ?_⟩
  · obtain ⟨front, back, -, -, htext⟩ := around_trim text
    rw [htext]
    simp [hc]
  · rw [Text.trim, String.toList_ofList]
    exact Text.trimmed_trimChars _

theorem isPart_of_mem_actionsIn (hcomma : ∀ text ∈ texts, ',' ∉ text.toList) :
    ∀ a ∈ actionsIn texts, IsPart a := by
  intro a ha
  obtain ⟨hmem, hne⟩ := List.mem_filter.1 ha
  obtain ⟨text, htext, rfl⟩ := List.mem_map.1 hmem
  exact isPart_trim (hcomma text htext) (by simpa using hne)

/-- What is read, from the texts between the commas. -/
theorem parse?_of_split (h : Text.split ',' d = first :: texts) :
    parse? d = if Text.trim first = "" then none
      else some ⟨Text.trim first, actionsIn texts⟩ := by
  unfold parse? actionsIn
  rw [h]
  simp

theorem exists_split (d : String) : ∃ first texts, Text.split ',' d = first :: texts ∧
    first.toList = d.toList.takeWhile (· ≠ ',') := by
  have hhead := Text.head?_pieces ',' d.toList
  cases hp : Text.pieces ',' d.toList with
  | nil => exact absurd hp (Text.pieces_ne_nil ',' d.toList)
  | cons p ps =>
    rw [hp, List.head?_cons, Option.some.injEq] at hhead
    refine ⟨String.ofList p, ps.map String.ofList, by rw [Text.split, hp, List.map_cons], ?_⟩
    rw [String.toList_ofList, hhead]

theorem parse?_eq_none_iff (d : String) :
    parse? d = none ↔ AllBlank (d.toList.takeWhile (· ≠ ',')) := by
  obtain ⟨first, texts, hsplit, hfirst⟩ := exists_split d
  rw [parse?_of_split hsplit, ← hfirst, ← Text.trim_eq_empty_iff]
  split <;> simp [*]

/-- A receiver is read exactly from the declarations that say it, and it is a proper one. -/
theorem parse?_eq_some_iff : parse? d = some r ↔ r.Proper ∧ r.SaidBy d := by
  constructor
  · intro h
    obtain ⟨first, texts, hsplit, -⟩ := exists_split d
    have hcomma : ∀ text ∈ first :: texts, ',' ∉ text.toList :=
      fun text htext => Text.not_mem_of_mem_split (hsplit ▸ htext)
    rw [parse?_of_split hsplit] at h
    split at h
    · cases h
    · rename_i hname
      cases h
      obtain ⟨hfirst, htexts⟩ := List.forall_mem_cons.1 hcomma
      refine ⟨⟨isPart_trim hfirst hname, isPart_of_mem_actionsIn htexts⟩,
        first, texts, around_trim first, spells_actionsIn texts, ?_⟩
      rw [← hsplit, Text.join_split (by decide)]
  · -- Blanks are no commas, so the texts that were joined are the texts that are cut.
    rintro ⟨hproper, first, texts, hfirst, htexts, rfl⟩
    have hcomma : ∀ text ∈ first :: texts, ',' ∉ text.toList :=
      List.forall_mem_cons.2 ⟨hfirst.no_comma hproper.name.no_comma,
        htexts.no_comma hproper.actions⟩
    have hsplit := Text.split_join (t := ",") (by decide) (List.cons_ne_nil first texts) hcomma
    rw [parse?_of_split hsplit, hfirst.trim hproper.name.trimmed, if_neg hproper.name.ne_empty,
      htexts.actionsIn_eq hproper.actions]

/-- Declarations are read as they were meant. Nothing is read exactly from those in which the text
before the first comma is blank. What is read from any other has a name and actions that are not
empty, without commas and without blanks around them; the declaration says that receiver, and from
every declaration that says it, it is read again. And every receiver with such a name and such
actions is read from its plain declaration, its actions in order and each as often as it is there. -/
theorem declarations_are_read_as_they_were_meant :
    (∀ d : String, parse? d = none ↔ AllBlank (d.toList.takeWhile (· ≠ ','))) ∧
    (∀ (d : String) (r : LegacyReceiver), parse? d = some r → r.Proper ∧ r.SaidBy d ∧
      ∀ d' : String, r.SaidBy d' → parse? d' = some r) ∧
    ∀ r : LegacyReceiver, r.Proper → parse? r.declaration = some r := by
  refine ⟨parse?_eq_none_iff, fun d r h => ?_, fun r hproper => ?_⟩
  · obtain ⟨hproper, hsaid⟩ := parse?_eq_some_iff.1 h
    exact ⟨hproper, hsaid, fun d' hd' => parse?_eq_some_iff.2 ⟨hproper, hd'⟩⟩
  · exact parse?_eq_some_iff.2 ⟨hproper, saidBy_declaration r⟩

/-- With wide blanks around its parts, and blank parts among its actions and behind them, a receiver
is read; and it is read again from its plain declaration. -/
theorem a_wide_declaration_is_read_as_it_was_meant :
    parse? "\u3000a.B ,\t, x\u00a0,,x, " = some ⟨"a.B", ["x", "x"]⟩ ∧
      parse? "a.B,x,x" = some ⟨"a.B", ["x", "x"]⟩ := by
  have hread : parse? "\u3000a.B ,\t, x\u00a0,,x, " = some ⟨"a.B", ["x", "x"]⟩ := by
    decide +kernel
  obtain ⟨hproper, -, -⟩ := declarations_are_read_as_they_were_meant.2.1 _ _ hread
  exact ⟨hread, declarations_are_read_as_they_were_meant.2.2 _ hproper⟩

end LegacyReceiver

end ApkForge
