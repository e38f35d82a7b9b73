-- Trimming. A text with blanks around it is trimmed to the text alone, when that neither starts nor
-- ends with a blank; and every text is what it is when trimmed, with blanks around it.
import ApkForge.Text.Blank
import Mathlib.Data.List.TakeWhile

namespace ApkForge.Text

/-- Characters that are all blanks. -/
def AllBlank (cs : List Char) : Prop := ∀ c ∈ cs, isBlank c = true

instance (cs : List Char) : Decidable (AllBlank cs) := List.decidableBAll _ cs

/-- Neither the first nor the last character is a blank. -/
structure Trimmed (cs : List Char) : Prop where
  first : ∀ c ∈ cs.head?, isBlank c = false
  last : ∀ c ∈ cs.getLast?, isBlank c = false

instance (cs : List Char) : Decidable (Trimmed cs) :=
  @decidable_of_iff _ _ ⟨fun h => ⟨h.1, h.2⟩, fun h => ⟨h.first, h.last⟩⟩
    (@instDecidableAnd _ _ (Option.decidableForallMem cs.head?)
      (Option.decidableForallMem cs.getLast?))

/-! ## Blanks around a text -/

theorem dropBlank_append_of_blank {gap : List Char} (h : AllBlank gap) (cs : List Char) :
    dropBlank (gap ++ cs) = dropBlank cs := by
  have hgap : gap.dropWhile isBlank = [] := List.dropWhile_eq_nil_iff.2 h
  unfold dropBlank
  rw [List.dropWhile_append, hgap]
  rfl

theorem dropBlank_of_head {cs : List Char} (h : ∀ c ∈ cs.head?, isBlank c = false) :
    dropBlank cs = cs := by
  cases cs with
  | nil => rfl
  | cons c rest => simp [dropBlank, h c rfl]

theorem dropBlank_append_of_ne_nil {cs : List Char} (h : dropBlank cs ≠ []) (ds : List Char) :
    dropBlank (cs ++ ds) = dropBlank cs ++ ds := by
  unfold dropBlank at *
  rw [List.dropWhile_append]
  simp [h]

/-- Blanks behind a text go when it is trimmed. -/
theorem trimChars_append_of_blank {back : List Char} (hback : AllBlank back) (cs : List Char) :
    trimChars (cs ++ back) = trimChars cs := by
  have hreverse : AllBlank back.reverse := fun c hc => hback c (List.mem_reverse.1 hc)
  unfold trimChars
  by_cases hcs : dropBlank cs = []
  · have hblank : AllBlank (cs ++ back) := by
      intro c hc
      rcases List.mem_append.1 hc with hc | hc
      · exact List.dropWhile_eq_nil_iff.1 hcs c hc
      · exact hback c hc
    have hboth : dropBlank (cs ++ back) = [] := List.dropWhile_eq_nil_iff.2 hblank
    rw [hboth, hcs]
  · rw [dropBlank_append_of_ne_nil hcs, List.reverse_append, dropBlank_append_of_blank hreverse]

theorem Trimmed.trimChars {cs : List Char} (h : Trimmed cs) : trimChars cs = cs := by
  have hlast : ∀ c ∈ cs.reverse.head?, isBlank c = false := by
    rw [List.head?_reverse]
    exact h.last
  unfold Text.trimChars
  rw [dropBlank_of_head h.first, dropBlank_of_head hlast, List.reverse_reverse]

/-- A trimmed text stays under blanks around it. -/
theorem Trimmed.trimChars_around {cs front back : List Char} (h : Trimmed cs)
    (hfront : AllBlank front) (hback : AllBlank back) :
    Text.trimChars (front ++ cs ++ back) = cs := by
  have hdrop : Text.trimChars (front ++ cs) = Text.trimChars cs := by
    unfold Text.trimChars
    rw [dropBlank_append_of_blank hfront]
  rw [trimChars_append_of_blank hback, hdrop, h.trimChars]

/-! ## What is trimmed -/

theorem allBlank_takeWhile (cs : List Char) : AllBlank (cs.takeWhile isBlank) :=
  fun _ hc => List.mem_takeWhile_imp hc

theorem takeWhile_append_dropBlank (cs : List Char) : cs.takeWhile isBlank ++ dropBlank cs = cs :=
  List.takeWhile_append_dropWhile

theorem exists_dropBlank_eq (cs : List Char) :
    ∃ back, AllBlank back ∧ dropBlank cs = trimChars cs ++ back := by
  refine ⟨((dropBlank cs).reverse.takeWhile isBlank).reverse,
    fun c hc => allBlank_takeWhile _ c (List.mem_reverse.1 hc), ?_⟩
  calc dropBlank cs = (dropBlank cs).reverse.reverse := (List.reverse_reverse _).symm
    _ = trimChars cs ++ ((dropBlank cs).reverse.takeWhile isBlank).reverse := by
      rw [trimChars, ← List.reverse_append, takeWhile_append_dropBlank]

/-- A text is what it is when trimmed, with blanks around it. -/
theorem exists_around_trimChars (cs : List Char) :
    ∃ front back, AllBlank front ∧ AllBlank back ∧ cs = front ++ trimChars cs ++ back := by
  obtain ⟨back, hback, hbody⟩ := exists_dropBlank_eq cs
  refine ⟨cs.takeWhile isBlank, back, allBlank_takeWhile cs, hback, ?_⟩
  rw [List.append_assoc, ← hbody]
  exact (takeWhile_append_dropBlank cs).symm

theorem trimChars_eq_nil_iff {cs : List Char} : trimChars cs = [] ↔ AllBlank cs := by
  constructor
  · intro h
    obtain ⟨front, back, hfront, hback, hcs⟩ := exists_around_trimChars cs
    rw [hcs, h, List.append_nil]
    intro c hc
    exact (List.mem_append.1 hc).elim (hfront c) (hback c)
  · exact fun h => trimChars_append_of_blank h []

theorem not_isBlank_of_head?_dropBlank {cs : List Char} {c : Char} (h : c ∈ (dropBlank cs).head?) :
    isBlank c = false := by
  have hhead := List.head?_dropWhile_not isBlank cs
  rw [Option.mem_def] at h
  unfold dropBlank at h
  rw [h] at hhead
  exact hhead

/-- What is trimmed has no blank at either end. -/
theorem trimmed_trimChars (cs : List Char) : Trimmed (trimChars cs) := by
  constructor
  · intro c hc
    obtain ⟨back, -, hbody⟩ := exists_dropBlank_eq cs
    have hhead : c ∈ (dropBlank cs).head? := by
      rw [hbody, List.head?_append, Option.mem_def.1 hc]
      rfl
    exact not_isBlank_of_head?_dropBlank hhead
  · intro c hc
    rw [trimChars, List.getLast?_reverse] at hc
    exact not_isBlank_of_head?_dropBlank hc

theorem trim_eq_empty_iff {s : String} : trim s = "" ↔ AllBlank s.toList := by
  rw [trim, String.ofList_eq_empty_iff, trimChars_eq_nil_iff]

end ApkForge.Text
