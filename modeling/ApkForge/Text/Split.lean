-- Cutting text. A text is cut at a character into pieces, into lines, or once at the last
-- occurrence of a character; every reader of this library is built on these cuts, and joining
-- the pieces gives the text back.

namespace ApkForge.Text

/-! ## Pieces -/

/-- The pieces between two occurrences of `sep`. The empty text is one empty piece. -/
def pieces (sep : Char) : List Char → List (List Char)
  | [] => [[]]
  | c :: rest =>
    if c = sep then [] :: pieces sep rest
    else match pieces sep rest with
      | [] => [[c]]
      | p :: ps => (c :: p) :: ps

/-- Pieces with `sep` written between them. -/
def glue (sep : Char) : List (List Char) → List Char
  | [] => []
  | [p] => p
  | p :: q :: ps => p ++ sep :: glue sep (q :: ps)

theorem pieces_ne_nil (sep : Char) (cs : List Char) : pieces sep cs ≠ [] := by
  cases cs with
  | nil => simp [pieces]
  | cons c rest =>
    simp only [pieces]
    split
    · simp
    · split <;> simp

/-- Cutting loses nothing. -/
theorem glue_pieces (sep : Char) (cs : List Char) : glue sep (pieces sep cs) = cs := by
  induction cs with
  | nil => rfl
  | cons c rest ih =>
    have ne := pieces_ne_nil sep rest
    simp only [pieces]
    split
    · rename_i h
      cases hp : pieces sep rest with
      | nil => exact absurd hp ne
      | cons p ps => rw [hp] at ih; simp [glue, ih, h]
    · cases hp : pieces sep rest with
      | nil => exact absurd hp ne
      | cons p ps =>
        rw [hp] at ih
        cases ps with
        | nil => simp only [glue] at ih ⊢; rw [ih]
        | cons q qs => simp only [glue] at ih ⊢; rw [← ih]; rfl

/-- A piece holds no separator. -/
theorem not_mem_of_mem_pieces {sep : Char} {cs p : List Char} (h : p ∈ pieces sep cs) :
    sep ∉ p := by
  induction cs generalizing p with
  | nil => simp [pieces] at h; simp [h]
  | cons c rest ih =>
    have ne := pieces_ne_nil sep rest
    simp only [pieces] at h
    split at h
    · rcases List.mem_cons.1 h with rfl | h
      · simp
      · exact ih h
    · rename_i hc
      cases hp : pieces sep rest with
      | nil => exact absurd hp ne
      | cons q qs =>
        rw [hp] at h ih
        rcases List.mem_cons.1 h with rfl | h
        · have := ih (p := q) (by simp)
          simp [this, Ne.symm hc]
        · exact ih (by simp [h])

/-- The pieces of a string. -/
def split (sep : Char) (s : String) : List String :=
  (pieces sep s.toList).map String.ofList

/-- Strings with `sep` between them. -/
def join (sep : String) : List String → String
  | [] => ""
  | [s] => s
  | s :: t :: rest => s ++ sep ++ join sep (t :: rest)

/-! ## Lines -/

/-- A line that ended in a newline loses the carriage return before it, if it has one. -/
def dropReturn (line : List Char) : List Char :=
  match line.reverse with
  | '\r' :: body => body.reverse
  | _ => line

/-- The lines among pieces cut at newlines. A text that ends in a newline has no empty last
line, and only an ended line loses its carriage return. -/
def endedLines : List (List Char) → List (List Char)
  | [] => []
  | [last] => if last.isEmpty then [] else [last]
  | p :: q :: ps => dropReturn p :: endedLines (q :: ps)

/-- The lines of a text. -/
def lines (s : String) : List String :=
  (endedLines (pieces '\n' s.toList)).map String.ofList

/-! ## The last cut -/

/-- The parts before and after the last occurrence of `sep`, if it occurs. -/
def cutLast (sep : Char) : List Char → Option (List Char × List Char)
  | [] => none
  | c :: rest =>
    match cutLast sep rest with
    | some (before, after) => some (c :: before, after)
    | none => if c = sep then some ([], rest) else none

/-- The text up to the last `sep` and the text after it; none without a `sep`. -/
def cutLast? (sep : Char) (s : String) : Option (String × String) :=
  (cutLast sep s.toList).map fun (before, after) => (String.ofList before, String.ofList after)

/-- A list that begins with `head` less that beginning. -/
def dropHead? {α : Type} [DecidableEq α] : List α → List α → Option (List α)
  | [], xs => some xs
  | _ :: _, [] => none
  | h :: hs, x :: xs => if h = x then dropHead? hs xs else none

theorem dropHead?_eq_some {α : Type} [DecidableEq α] {hs xs rest : List α} :
    dropHead? hs xs = some rest ↔ xs = hs ++ rest := by
  induction hs generalizing xs with
  | nil => simp [dropHead?]
  | cons h hs ih =>
    cases xs with
    | nil => simp [dropHead?]
    | cons x xs =>
      by_cases hx : h = x
      · subst hx; simp [dropHead?, ih]
      · simp [dropHead?, hx, Ne.symm hx]

/-- True when the text begins with `start`. -/
def beginsWith (start s : String) : Bool := (dropHead? start.toList s.toList).isSome

/-- True when the text ends with `tail`. -/
def endsWith (tail s : String) : Bool :=
  (dropHead? tail.toList.reverse s.toList.reverse).isSome

/-- A text that ends in `tail` without that ending. -/
def dropTail? (tail s : String) : Option String :=
  (dropHead? tail.toList.reverse s.toList.reverse).map fun r => String.ofList r.reverse

end ApkForge.Text
