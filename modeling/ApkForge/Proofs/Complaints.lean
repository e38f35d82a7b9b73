-- What counts as a complaint of the compiler. A line complains when some beginning of it is
-- followed by a row, a column and a message; the shortest such beginning is the file, and the
-- message behind it tells warnings from errors. A text below another one has its own complaints and
-- takes none away.
import ApkForge.Diagnostics
import ApkForge.Proofs.Places
import Mathlib.Data.Bool.Count
import Mathlib.Data.List.TakeWhile

namespace ApkForge.Diagnostics

/-! ## What a complaint is -/

/-- A number in any script: one digit or more. -/
def IsNumber (cs : List Char) : Prop := cs ≠ [] ∧ ∀ c ∈ cs, Text.isDigit c = true

/-- The text is a row, a column and a message. -/
def IsPosition (text message : List Char) : Prop :=
  ∃ row column, IsNumber row ∧ IsNumber column ∧
    text = ':' :: (row ++ ':' :: (column ++ ':' :: ' ' :: message))

/-- The line is a file and a position with a message. The file may be any text but the empty one,
with colons and numbers in it. -/
def Splits (line file message : List Char) : Prop :=
  file ≠ [] ∧ ∃ position, IsPosition position message ∧ line = file ++ position

/-- The line complains. -/
def IsComplaint (line : String) : Prop := ∃ file message, Splits line.toList file message

/-- The line warns: the message behind the shortest file says so. -/
def IsWarning (line : String) : Prop :=
  ∃ file message, Splits line.toList file message ∧
    (∀ file' message', Splits line.toList file' message' → file.length ≤ file'.length) ∧
    "warning - ".toList <+: message

/-! ## Positions -/

theorem isDigit_colon : Text.isDigit ':' = false := by decide

theorem takeNumber_of_isNumber {number rest : List Char} {c : Char} (h : IsNumber number)
    (hc : Text.isDigit c = false) :
    takeNumber (':' :: (number ++ c :: rest)) = some (c :: rest) := by
  have hdrop : (number ++ c :: rest).dropWhile Text.isDigit = c :: rest := by
    rw [List.dropWhile_append_of_pos h.2, List.dropWhile_cons_of_neg (by simp [hc])]
  have hpos : 0 < number.length := List.length_pos_iff.2 h.1
  simp only [takeNumber, hdrop]
  rw [if_pos (by simp; omega)]

theorem exists_number_of_takeNumber {cs rest : List Char} (h : takeNumber cs = some rest) :
    ∃ number, IsNumber number ∧ cs = ':' :: (number ++ rest) := by
  unfold takeNumber at h
  split at h
  · rename_i digits
    simp only at h
    split at h
    · rename_i hshorter
      cases h
      refine ⟨digits.takeWhile Text.isDigit, ⟨?_, fun c hc => List.mem_takeWhile_imp hc⟩, ?_⟩
      · intro hnil
        have hall := List.takeWhile_append_dropWhile (p := Text.isDigit) (l := digits)
        rw [hnil, List.nil_append] at hall
        rw [hall] at hshorter
        omega
      · rw [List.takeWhile_append_dropWhile]
    · cases h
  · cases h

theorem takePosition_eq_some {text message : List Char} :
    takePosition text = some message ↔ IsPosition text message := by
  constructor
  · intro h
    unfold takePosition at h
    split at h
    · rename_i rest hnumbers
      cases h
      obtain ⟨middle, hrow, hcolumn⟩ := Option.bind_eq_some_iff.1 hnumbers
      obtain ⟨row, hisRow, rfl⟩ := exists_number_of_takeNumber hrow
      obtain ⟨column, hisColumn, rfl⟩ := exists_number_of_takeNumber hcolumn
      exact ⟨row, column, hisRow, hisColumn, rfl⟩
    · cases h
  · rintro ⟨row, column, hrow, hcolumn, rfl⟩
    unfold takePosition
    rw [takeNumber_of_isNumber hrow isDigit_colon, Option.bind_some,
      takeNumber_of_isNumber hcolumn isDigit_colon]
    rfl

/-! ## The message of a line -/

/-- The first character of a line is the whole file or its beginning. -/
theorem splits_cons {c : Char} {rest file message : List Char} :
    Splits (c :: rest) file message ↔ (file = [c] ∧ IsPosition rest message) ∨
      ∃ name, file = c :: name ∧ Splits rest name message := by
  constructor
  · rintro ⟨hne, position, hposition, hline⟩
    obtain ⟨d, name, rfl⟩ := List.exists_cons_of_ne_nil hne
    obtain ⟨rfl, rfl⟩ := List.cons.inj hline
    by_cases hname : name = []
    · subst hname
      exact .inl ⟨rfl, hposition⟩
    · exact .inr ⟨name, rfl, hname, position, hposition, rfl⟩
  · rintro (⟨rfl, hposition⟩ | ⟨name, rfl, -, position, hposition, rfl⟩)
    · exact ⟨by simp, rest, hposition, rfl⟩
    · exact ⟨by simp, position, hposition, rfl⟩

theorem not_splits_nil {file message : List Char} : ¬ Splits [] file message := by
  rintro ⟨hne, position, -, hline⟩
  exact hne (List.append_eq_nil_iff.1 hline.symm).1

theorem isSome_message?_of_splits {line file message : List Char} (h : Splits line file message) :
    (message? line).isSome = true := by
  induction line generalizing file with
  | nil => exact absurd h not_splits_nil
  | cons c rest ih =>
    unfold message?
    cases htake : takePosition rest with
    | some found => rfl
    | none =>
      rcases splits_cons.1 h with ⟨-, hposition⟩ | ⟨name, -, hrest⟩
      · rw [takePosition_eq_some.2 hposition] at htake
        cases htake
      · exact ih hrest

/-- The message is the one behind the shortest file. -/
theorem shortest_of_message? {line message : List Char} (h : message? line = some message) :
    ∃ file, Splits line file message ∧
      ∀ file' message', Splits line file' message' → file.length ≤ file'.length := by
  induction line with
  | nil => cases h
  | cons c rest ih =>
    unfold message? at h
    cases htake : takePosition rest with
    | some found =>
      rw [htake] at h
      cases h
      refine ⟨[c], splits_cons.2 (.inl ⟨rfl, takePosition_eq_some.1 htake⟩), ?_⟩
      rintro file' message' ⟨hne, -⟩
      exact List.length_pos_iff.2 hne
    | none =>
      rw [htake] at h
      obtain ⟨name, hsplits, hshortest⟩ := ih h
      refine ⟨c :: name, splits_cons.2 (.inr ⟨name, rfl, hsplits⟩), ?_⟩
      intro file' message' hother
      rcases splits_cons.1 hother with ⟨-, hposition⟩ | ⟨name', rfl, hrest⟩
      · rw [takePosition_eq_some.2 hposition] at htake
        cases htake
      · have hle := hshortest name' message' hrest
        simp only [List.length_cons]
        omega

/-- Behind a file of a given length there is one message. -/
theorem message_unique {line file file' message message' : List Char}
    (h : Splits line file message) (h' : Splits line file' message')
    (hlength : file.length = file'.length) : message = message' := by
  obtain ⟨-, position, hposition, rfl⟩ := h
  obtain ⟨-, position', hposition', hline⟩ := h'
  obtain ⟨-, rfl⟩ := List.append_inj hline hlength
  have hmessage := takePosition_eq_some.2 hposition
  rw [takePosition_eq_some.2 hposition'] at hmessage
  exact (Option.some.inj hmessage).symm

/-! ## Warnings and errors -/

/-- What a line is counted as: nothing, a warning or an error. -/
def kind? (line : List Char) : Option Bool :=
  (message? line).map fun message => (Text.dropHead? warningMark message).isSome

theorem isSome_dropHead? {head cs : List Char} :
    (Text.dropHead? head cs).isSome = true ↔ head <+: cs := by
  rw [Option.isSome_iff_exists]
  simp only [Text.dropHead?_eq_some]
  exact ⟨fun ⟨rest, h⟩ => ⟨rest, h.symm⟩, fun ⟨rest, h⟩ => ⟨rest, h.symm⟩⟩

theorem isComplaint_iff {line : String} : IsComplaint line ↔ (kind? line.toList).isSome = true := by
  unfold kind?
  rw [Option.isSome_map]
  constructor
  · rintro ⟨file, message, hsplits⟩
    exact isSome_message?_of_splits hsplits
  · intro h
    obtain ⟨message, hmessage⟩ := Option.isSome_iff_exists.1 h
    obtain ⟨file, hsplits, -⟩ := shortest_of_message? hmessage
    exact ⟨file, message, hsplits⟩

theorem isWarning_iff {line : String} : IsWarning line ↔ kind? line.toList = some true := by
  unfold kind?
  constructor
  · rintro ⟨file, message, hsplits, hshortest, hmark⟩
    obtain ⟨found, hfound⟩ := Option.isSome_iff_exists.1 (isSome_message?_of_splits hsplits)
    obtain ⟨file', hsplits', hshortest'⟩ := shortest_of_message? hfound
    have hlength : file.length = file'.length :=
      Nat.le_antisymm (hshortest _ _ hsplits') (hshortest' _ _ hsplits)
    have hsame := message_unique hsplits hsplits' hlength
    subst hsame
    rw [hfound, Option.map_some]
    exact congrArg some (isSome_dropHead?.2 hmark)
  · intro h
    obtain ⟨message, hmessage, hmark⟩ := Option.map_eq_some_iff.1 h
    obtain ⟨file, hsplits, hshortest⟩ := shortest_of_message? hmessage
    exact ⟨file, message, hsplits, hshortest, isSome_dropHead?.1 hmark⟩

instance : DecidablePred IsComplaint := fun _ => decidable_of_iff _ isComplaint_iff.symm

instance : DecidablePred IsWarning := fun _ => decidable_of_iff _ isWarning_iff.symm

/-! ## The end of a line -/

theorem takeNumber_return (cs : List Char) :
    takeNumber (cs ++ ['\r']) = (takeNumber cs).map (· ++ ['\r']) := by
  have hreturn : Text.isDigit '\r' = false := by decide
  have hdrop : ∀ rest : List Char, (rest ++ ['\r']).dropWhile Text.isDigit =
      rest.dropWhile Text.isDigit ++ ['\r'] := by
    intro rest
    induction rest with
    | nil => simp [hreturn]
    | cons c rest ih =>
      rw [List.cons_append, List.dropWhile_cons, List.dropWhile_cons]
      split
      · exact ih
      · rfl
  cases cs with
  | nil => rfl
  | cons c rest =>
    by_cases hc : c = ':'
    · subst hc
      simp only [List.cons_append, takeNumber, hdrop, List.length_append, List.length_singleton,
        Nat.add_lt_add_iff_right]
      split
      · rfl
      · rfl
    · simp [takeNumber, hc]

theorem takePosition_return (cs : List Char) :
    takePosition (cs ++ ['\r']) = (takePosition cs).map (· ++ ['\r']) := by
  have hnumbers : (takeNumber (cs ++ ['\r'])).bind takeNumber =
      ((takeNumber cs).bind takeNumber).map (· ++ ['\r']) := by
    rw [takeNumber_return]
    cases takeNumber cs with
    | none => rfl
    | some rest => exact takeNumber_return rest
  unfold takePosition
  rw [hnumbers]
  match (takeNumber cs).bind takeNumber with
  | none => rfl
  | some [] => rfl
  | some [c] => by_cases hc : c = ':' <;> simp [hc]
  | some (c :: d :: message) => by_cases hc : c = ':' <;> by_cases hd : d = ' ' <;> simp [hc, hd]

theorem message?_return (cs : List Char) :
    message? (cs ++ ['\r']) = (message? cs).map (· ++ ['\r']) := by
  induction cs with
  | nil => rfl
  | cons c rest ih =>
    rw [List.cons_append, message?, message?, takePosition_return]
    cases takePosition rest with
    | none => exact ih
    | some message => rfl

/-- A carriage return at the end of a line changes nothing. -/
theorem kind?_return (cs : List Char) : kind? (cs ++ ['\r']) = kind? cs := by
  have hmark : ∀ message : List Char, (Text.dropHead? warningMark (message ++ ['\r'])).isSome =
      (Text.dropHead? warningMark message).isSome := by
    intro message
    have hnot : warningMark ≠ message ++ ['\r'] := by
      intro heq
      have hlast := congrArg List.getLast? heq
      rw [List.getLast?_concat] at hlast
      exact absurd hlast (by decide)
    rw [Bool.eq_iff_iff, isSome_dropHead?, isSome_dropHead?, List.prefix_concat_iff]
    exact ⟨fun h => h.resolve_left hnot, .inr⟩
  unfold kind?
  rw [message?_return, Option.map_map]
  congr 1
  funext message
  exact hmark message

/-! ## Counting -/

/-- What the lines of a text are counted as. -/
def kinds (text : String) : List Bool := (Text.lines text).filterMap fun line => kind? line.toList

theorem foldl_addLine (d : Diagnostics) (lines : List String) :
    lines.foldl addLine d =
      ⟨d.warnings + (lines.filterMap fun line => kind? line.toList).count true,
        d.errors + (lines.filterMap fun line => kind? line.toList).count false⟩ := by
  induction lines generalizing d with
  | nil => rfl
  | cons line rest ih =>
    have hline : d.addLine line = match kind? line.toList with
        | none => d
        | some true => { d with warnings := d.warnings + 1 }
        | some false => { d with errors := d.errors + 1 } := by
      unfold addLine kind?
      cases message? line.toList with
      | none => rfl
      | some message => cases hmark : (Text.dropHead? warningMark message).isSome <;> simp [hmark]
    rw [List.foldl_cons, ih, hline, List.filterMap_cons]
    match kind? line.toList with
    | none => rfl
    | some true => simp; omega
    | some false => simp; omega

theorem count_eq (text : String) :
    count text = ⟨(kinds text).count true, (kinds text).count false⟩ := by
  unfold count
  rw [foldl_addLine]
  simp [kinds]

theorem kinds_eq_pieces (text : String) :
    kinds text = (Text.pieces '\n' text.toList).filterMap kind? := by
  unfold kinds Text.lines
  rw [List.filterMap_map, ← Text.filterMap_endedLines rfl kind?_return]
  congr 1
  funext line
  rw [Function.comp_apply, String.toList_ofList]

theorem kinds_append (text more : String) :
    kinds (text ++ "\n" ++ more) = kinds text ++ kinds more := by
  have hbreak : "\n".toList = ['\n'] := by decide
  rw [kinds_eq_pieces, kinds_eq_pieces, kinds_eq_pieces, String.toList_append,
    String.toList_append, hbreak, List.append_assoc, List.singleton_append, Text.pieces_append,
    List.filterMap_append]

/-- What the counts of a text say. -/
structure Counted (text : String) : Prop where
  /-- Each line that complains counts once, and no other line counts. -/
  complaints : (count text).warnings + (count text).errors =
    (Text.lines text).countP fun line => IsComplaint line
  /-- A line that warns counts as a warning. -/
  warnings : (count text).warnings = (Text.lines text).countP fun line => IsWarning line
  /-- A line that complains and does not warn counts as an error. -/
  errors : (count text).errors =
    (Text.lines text).countP fun line => IsComplaint line ∧ ¬ IsWarning line
  /-- With a text below, the counts of both are added. -/
  below : ∀ more, count (text ++ "\n" ++ more) =
    ⟨(count text).warnings + (count more).warnings, (count text).errors + (count more).errors⟩

/-- The complaints in a text are its lines that name a file, a row and a column, and the warnings
among them are those whose message says so behind the shortest file. -/
theorem complaints_are_lines_with_a_position (text : String) : Counted text := by
  have hcount : ∀ kind, (kinds text).count kind =
      (Text.lines text).countP fun line => kind? line.toList = some kind := by
    intro kind
    unfold kinds
    rw [List.count_filterMap]
    exact List.countP_congr fun line _ => by simp
  constructor
  case complaints =>
    rw [count_eq, List.count_true_add_count_false, kinds, List.length_filterMap_eq_countP]
    simp only [isComplaint_iff, Bool.decide_eq_true]
  case warnings =>
    simp only [isWarning_iff]
    rw [count_eq, ← hcount true]
  case errors =>
    have herror : ∀ kind : Option Bool,
        (kind.isSome = true ∧ ¬ kind = some true) ↔ kind = some false := by
      intro kind
      rcases kind with _ | _ | _ <;> simp
    simp only [isComplaint_iff, isWarning_iff, herror]
    rw [count_eq, ← hcount false]
  case below =>
    intro more
    simp only [count_eq, kinds_append, List.count_append]

/-- Colons and numbers within a file are part of it only where no message could begin before. -/
example : count "C:\\a.yail:3:5: warning - x\nb:1:2: c:3:4: warning - y\n:1:2: z" = ⟨1, 1⟩ := by
  decide +kernel

end ApkForge.Diagnostics
