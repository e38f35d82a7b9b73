-- Properties as they are written. A table of keys and values may be written in many ways: its rows
-- in any order, with blanks in four places of a row, among blank lines and comments. All of them
-- are read as the table, and two texts one below the other as two tables one over the other.
import ApkForge.Project
import ApkForge.Proofs.Interference
import ApkForge.Proofs.Places
import ApkForge.Proofs.Trimming
import Mathlib.Data.List.TakeWhile

namespace ApkForge

namespace Properties

open Text (isBlank AllBlank Trimmed dropBlank trimChars)

/-! ## How a row is written -/

/-- A character of a key that is written with a backslash. -/
def isMark (c : Char) : Bool := c == '\\' || c == '=' || c == ':' || c == '#' || c == '!'

/-- A key as it is written. -/
def writeKey (key : List Char) : List Char :=
  key.flatMap fun c => if isMark c then ['\\', c] else [c]

/-- A character of a value as it is written. -/
def writeChar (c : Char) : List Char :=
  if c = '\\' then ['\\', '\\']
  else if c = '\n' then ['\\', 'n']
  else if c = '\t' then ['\\', 't']
  else [c]

/-- A blank at the start of a value as it is written. -/
def writeBlank (c : Char) : List Char :=
  if c = '\n' ∨ c = '\t' then writeChar c else ['\\', c]

/-- A value as it is written. The blanks that it starts with would be lost without a backslash. -/
def writeValue (value : List Char) : List Char :=
  (value.takeWhile isBlank).flatMap writeBlank ++ (value.dropWhile isBlank).flatMap writeChar

/-- A value whose end is no blank, or one that has an escape of its own. -/
def Ended (value : List Char) : Prop :=
  ∀ c ∈ value.getLast?, isBlank c = true → c = '\t' ∨ c = '\n'

instance (value : List Char) : Decidable (Ended value) := Option.decidableForallMem value.getLast?

/-- Blanks that break no line. -/
structure Gap where
  chars : List Char
  blank : AllBlank chars := by decide
  inline : '\n' ∉ chars := by decide

/-- A key with its value, and the gaps around them. The key stands on one line, and blanks neither
start nor end it. -/
structure Row where
  front : Gap := { chars := [] }
  key : String
  before : Gap := { chars := [] }
  separator : Char
  after : Gap := { chars := [] }
  value : String
  back : Gap := { chars := [] }
  trimmed : Trimmed key.toList := by decide
  inline : '\n' ∉ key.toList := by decide
  separates : separator = '=' ∨ separator = ':' := by decide
  ended : Ended value.toList := by decide

/-- A line of a text of properties. -/
inductive Line where
  | blank (gap : Gap)
  | comment (front : Gap) (mark : Char) (marks : mark = '#' ∨ mark = '!') (words : List Char)
      (inline : '\n' ∉ words)
  | row (row : Row)

/-- The characters of a row. -/
def Row.write (r : Row) : List Char :=
  r.front.chars ++ (writeKey r.key.toList ++ r.before.chars ++ r.separator ::
    (r.after.chars ++ writeValue r.value.toList ++ r.back.chars))

namespace Line

/-- The characters of a line. -/
def write : Line → List Char
  | blank gap => gap.chars
  | comment front mark _ words _ => front.chars ++ mark :: words
  | row r => r.write

/-- The key and the value of a row. -/
def row? : Line → Option (String × String)
  | row r => some (r.key, r.value)
  | _ => none

end Line

/-- A text with one line below the other. -/
def document (lines : List Line) : String := String.ofList (Text.glue '\n' (lines.map Line.write))

/-! ## Keys -/

theorem cutKey_cons {c : Char} (hslash : c ≠ '\\') (hseparator : (c == '=' || c == ':') = false)
    (rest : List Char) : cutKey (c :: rest) = (c :: (cutKey rest).1, (cutKey rest).2) := by
  conv_lhs => unfold cutKey
  split <;> simp_all

/-- A character that is no mark is part of the key. -/
theorem cutKey_unmarked {c : Char} (h : isMark c = false) (rest : List Char) :
    cutKey (c :: rest) = (c :: (cutKey rest).1, (cutKey rest).2) := by
  simp only [isMark, Bool.or_eq_false_iff, beq_eq_false_iff_ne] at h
  obtain ⟨⟨⟨⟨hslash, hequals⟩, hcolon⟩, -⟩, -⟩ := h
  exact cutKey_cons hslash (by simp [hequals, hcolon]) rest

theorem cutKey_escaped (c : Char) (rest : List Char) :
    cutKey ('\\' :: c :: rest) = (c :: (cutKey rest).1, (cutKey rest).2) := rfl

theorem cutKey_separator {c : Char} (h : c = '=' ∨ c = ':') (rest : List Char) :
    cutKey (c :: rest) = ([], some rest) := by
  rcases h with rfl | rfl <;> simp [cutKey]

theorem isMark_of_isBlank {c : Char} (h : isBlank c = true) : isMark c = false := by
  rw [Bool.eq_false_iff]
  intro hmark
  simp only [isMark, Bool.or_eq_true, beq_iff_eq] at hmark
  rcases hmark with (((rfl | rfl) | rfl) | rfl) | rfl <;> exact absurd h (by decide)

/-- A written key is read up to what follows it. -/
theorem cutKey_writeKey (key rest : List Char) :
    cutKey (writeKey key ++ rest) = (key ++ (cutKey rest).1, (cutKey rest).2) := by
  induction key with
  | nil => rfl
  | cons c key ih =>
    unfold writeKey at *
    rw [List.flatMap_cons]
    by_cases hmark : isMark c = true
    · rw [if_pos hmark, List.append_assoc, List.cons_append, List.singleton_append, cutKey_escaped,
        ih]
      rfl
    · rw [if_neg hmark, List.append_assoc, List.singleton_append,
        cutKey_unmarked (Bool.eq_false_iff.2 hmark), ih]
      rfl

theorem cutKey_blanks {gap : List Char} (h : AllBlank gap) (rest : List Char) :
    cutKey (gap ++ rest) = (gap ++ (cutKey rest).1, (cutKey rest).2) := by
  induction gap with
  | nil => rfl
  | cons c gap ih =>
    rw [List.cons_append, cutKey_unmarked (isMark_of_isBlank (h c List.mem_cons_self)),
      ih fun d hd => h d (List.mem_cons_of_mem _ hd)]
    rfl

/-! ## Values -/

theorem unescape_cons {c : Char} (h : c ≠ '\\') (rest : List Char) :
    unescape (c :: rest) = c :: unescape rest := by
  conv_lhs => unfold unescape
  split <;> simp_all

theorem unescape_escaped {c : Char} (hn : c ≠ 'n') (ht : c ≠ 't') (rest : List Char) :
    unescape ('\\' :: c :: rest) = c :: unescape rest := by
  conv_lhs => unfold unescape
  split <;> simp_all
  rename_i heq
  obtain ⟨rfl, rfl⟩ := heq
  simp_all

theorem unescape_writeChar (c : Char) (rest : List Char) :
    unescape (writeChar c ++ rest) = c :: unescape rest := by
  unfold writeChar
  split
  · rename_i hslash
    rw [hslash]
    exact unescape_escaped (by decide) (by decide) rest
  split
  · rename_i hbreak
    rw [hbreak]
    rfl
  split
  · rename_i htab
    rw [htab]
    rfl
  · rename_i hslash _ _
    exact unescape_cons hslash rest

theorem unescape_writeBlank {c : Char} (h : isBlank c = true) (rest : List Char) :
    unescape (writeBlank c ++ rest) = c :: unescape rest := by
  unfold writeBlank
  split
  · exact unescape_writeChar c rest
  · have hletter : ∀ d, isBlank d = false → c ≠ d := by
      rintro d hd rfl
      rw [h] at hd
      cases hd
    exact unescape_escaped (hletter 'n' (by decide)) (hletter 't' (by decide)) rest

/-- What each character is read back from, a text is read back from. -/
theorem unescape_flatMap {write : Char → List Char} {cs : List Char}
    (h : ∀ c ∈ cs, ∀ rest, unescape (write c ++ rest) = c :: unescape rest) (rest : List Char) :
    unescape (cs.flatMap write ++ rest) = cs ++ unescape rest := by
  induction cs with
  | nil => rfl
  | cons c cs ih =>
    rw [List.flatMap_cons, List.append_assoc, h c List.mem_cons_self,
      ih fun d hd => h d (List.mem_cons_of_mem _ hd)]
    rfl

theorem unescape_writeValue (value : List Char) : unescape (writeValue value) = value := by
  have hblanks : ∀ c ∈ value.takeWhile isBlank, ∀ rest,
      unescape (writeBlank c ++ rest) = c :: unescape rest :=
    fun c hc => unescape_writeBlank (List.mem_takeWhile_imp hc)
  have hrest :=
    unescape_flatMap (fun c (_ : c ∈ value.dropWhile isBlank) => unescape_writeChar c) []
  unfold writeValue
  rw [unescape_flatMap hblanks, ← List.append_nil (List.flatMap _ _), hrest]
  simp [unescape]

/-! ## Lines -/

theorem not_mem_writeKey {key : List Char} (h : '\n' ∉ key) : '\n' ∉ writeKey key := by
  unfold writeKey
  rw [List.mem_flatMap]
  rintro ⟨c, hc, hmem⟩
  split at hmem
  · rcases List.mem_cons.1 hmem with hslash | hmem
    · cases hslash
    · exact h (List.mem_singleton.1 hmem ▸ hc)
  · exact h (List.mem_singleton.1 hmem ▸ hc)

theorem not_mem_writeChar (c : Char) : '\n' ∉ writeChar c := by
  unfold writeChar
  split
  · decide
  split
  · decide
  split
  · decide
  · rename_i hbreak _
    simpa using Ne.symm hbreak

theorem not_mem_writeBlank (c : Char) : '\n' ∉ writeBlank c := by
  unfold writeBlank
  split
  · exact not_mem_writeChar c
  · rename_i hother
    simpa using fun heq => hother (.inl (Eq.symm heq))

theorem not_mem_writeValue (value : List Char) : '\n' ∉ writeValue value := by
  unfold writeValue
  rw [List.mem_append, List.mem_flatMap, List.mem_flatMap]
  rintro (⟨c, -, hmem⟩ | ⟨c, -, hmem⟩)
  · exact not_mem_writeBlank c hmem
  · exact not_mem_writeChar c hmem

theorem ne_of_mark {c d e : Char} (h : c = d ∨ c = e) (hd : '\n' ≠ d) (he : '\n' ≠ e) :
    '\n' ≠ c := by
  rcases h with rfl | rfl
  · exact hd
  · exact he

/-- A line is one line. -/
theorem Line.not_mem_write (l : Line) : '\n' ∉ l.write := by
  cases l with
  | blank gap => exact gap.inline
  | comment front mark marks words inline =>
    have hmark := ne_of_mark marks (by decide) (by decide)
    simp [write, front.inline, inline, hmark]
  | row r =>
    have hseparator := ne_of_mark r.separates (by decide) (by decide)
    simp [write, Row.write, r.front.inline, r.before.inline, r.after.inline, r.back.inline,
      not_mem_writeKey r.inline, not_mem_writeValue, hseparator]

/-- A character of a value is written as it is, or as a backslash and a character that is no
blank. -/
theorem writeChar_cases (c : Char) : (writeChar c = [c] ∧ c ≠ '\t' ∧ c ≠ '\n') ∨
    ∃ d, writeChar c = ['\\', d] ∧ isBlank d = false := by
  unfold writeChar
  split
  · exact .inr ⟨_, rfl, by decide⟩
  split
  · exact .inr ⟨_, rfl, by decide⟩
  split
  · exact .inr ⟨_, rfl, by decide⟩
  · rename_i hbreak htab
    exact .inl ⟨rfl, htab, hbreak⟩

theorem head?_writeBlank (c : Char) : (writeBlank c).head? = some '\\' := by
  unfold writeBlank
  split
  · rename_i hbreak
    rcases hbreak with rfl | rfl <;> rfl
  · rfl

/-- Of a character that is no blank but a tab or a line break, none is left at the end. -/
theorem isBlank_of_getLast?_writeChar {c x : Char}
    (hc : isBlank c = true → c = '\t' ∨ c = '\n') (hx : (writeChar c).getLast? = some x) :
    isBlank x = false := by
  rcases writeChar_cases c with ⟨hwrite, htab, hbreak⟩ | ⟨d, hwrite, hd⟩
  · rw [hwrite] at hx
    cases hx
    rw [Bool.eq_false_iff]
    exact fun hblank => (hc hblank).elim htab hbreak
  · rw [hwrite] at hx
    cases hx
    exact hd

/-- What a value is written as ends in what its last character is written as, if that is none of the
blanks that it starts with or one with an escape of its own. -/
theorem writeValue_concat {c : Char} (hc : isBlank c = true → c = '\t' ∨ c = '\n')
    (init : List Char) : ∃ front, writeValue (init ++ [c]) = front ++ writeChar c := by
  unfold writeValue
  by_cases hall : AllBlank (init ++ [c])
  · rw [List.takeWhile_eq_self_iff.2 hall, List.dropWhile_eq_nil_iff.2 hall]
    refine ⟨init.flatMap writeBlank, ?_⟩
    have hwrite : writeBlank c = writeChar c := if_pos (hc (hall c (by simp))).symm
    simp [hwrite]
  · have hrest : (init ++ [c]).dropWhile isBlank ≠ [] :=
      fun hnil => hall (List.dropWhile_eq_nil_iff.1 hnil)
    obtain ⟨rest, last, hsplit⟩ := (List.eq_nil_or_concat' _).resolve_left hrest
    obtain ⟨front, hfront⟩ := List.dropWhile_suffix (l := init ++ [c]) isBlank
    rw [hsplit, ← List.append_assoc] at hfront
    obtain ⟨-, hlast⟩ := List.append_inj' hfront rfl
    rw [hsplit, List.flatMap_append, List.singleton_inj.1 hlast]
    exact ⟨_, by rw [List.flatMap_singleton, List.append_assoc]⟩

/-- A written value starts and ends with no blank, if the value ends with none but a tab or a line
break. -/
theorem trimmed_writeValue {value : List Char} (h : Ended value) :
    Trimmed (writeValue value) := by
  constructor
  case first =>
    intro x hx
    cases value with
    | nil => cases hx
    | cons c rest =>
      unfold writeValue at hx
      by_cases hc : isBlank c = true
      · rw [List.takeWhile_cons, if_pos hc, List.flatMap_cons, List.append_assoc,
          List.head?_append, head?_writeBlank] at hx
        cases hx
        decide
      · rw [List.takeWhile_cons, if_neg hc, List.dropWhile_cons, if_neg hc, List.flatMap_cons,
          List.flatMap_nil, List.nil_append, List.head?_append] at hx
        rcases writeChar_cases c with ⟨hwrite, -, -⟩ | ⟨d, hwrite, -⟩
        · rw [hwrite] at hx
          cases hx
          exact Bool.eq_false_iff.2 hc
        · rw [hwrite] at hx
          cases hx
          decide
  case last =>
    intro x hx
    rcases List.eq_nil_or_concat' value with rfl | ⟨init, c, rfl⟩
    · cases hx
    have hc := h c (by simp)
    obtain ⟨front, hfront⟩ := writeValue_concat hc init
    rw [hfront, List.getLast?_append] at hx
    cases hlast : (writeChar c).getLast? with
    | none =>
      have hnil := List.getLast?_eq_none_iff.1 hlast
      rcases writeChar_cases c with ⟨hwrite, -⟩ | ⟨d, hwrite, -⟩ <;> rw [hwrite] at hnil <;>
        cases hnil
    | some y =>
      rw [hlast] at hx
      cases hx
      exact isBlank_of_getLast?_writeChar hc hlast

/-- A separator is a mark, as are the characters that begin comments, and none of them is blank. -/
theorem isBlank_of_isMark {c : Char} (h : isMark c = true) : isBlank c = false := by
  rw [Bool.eq_false_iff]
  intro hblank
  rw [isMark_of_isBlank hblank] at h
  cases h

theorem Row.isMark_separator (r : Row) : isMark r.separator = true := by
  rcases r.separates with h | h <;> rw [h] <;> decide

/-- A key that starts with no blank is written as one that starts with no blank and no mark but the
backslash of an escape. -/
theorem writeKey_cons {c : Char} (hc : isBlank c = false) (rest : List Char) :
    ∃ d more, writeKey (c :: rest) = d :: more ∧ isBlank d = false ∧
      (d = '\\' ∨ isMark d = false) := by
  unfold writeKey
  rw [List.flatMap_cons]
  by_cases hmark : isMark c = true
  · exact ⟨'\\', _, by rw [if_pos hmark]; rfl, by decide, .inl rfl⟩
  · exact ⟨c, _, by rw [if_neg hmark]; rfl, hc, .inr (Bool.eq_false_iff.2 hmark)⟩

/-- What comes after the gap in front of a row: its key or its separator begins it, and no comment
does. -/
theorem Row.dropBlank_write (r : Row) : ∃ key c rest, dropBlank r.write = c :: rest ∧
    c ≠ '#' ∧ c ≠ '!' ∧ trimChars key = r.key.toList ∧
    cutKey (c :: rest) =
      (key, some (r.after.chars ++ writeValue r.value.toList ++ r.back.chars)) := by
  unfold write
  rw [Text.dropBlank_append_of_blank r.front.blank]
  generalize hvalue : r.after.chars ++ writeValue r.value.toList ++ r.back.chars = value
  have htrim : trimChars (r.key.toList ++ r.before.chars) = r.key.toList := by
    rw [Text.trimChars_append_of_blank r.before.blank, r.trimmed.trimChars]
  have hcut : cutKey (writeKey r.key.toList ++ r.before.chars ++ r.separator :: value) =
      (r.key.toList ++ r.before.chars, some value) := by
    rw [List.append_assoc, cutKey_writeKey, cutKey_blanks r.before.blank,
      cutKey_separator r.separates, List.append_nil]
  cases hkey : r.key.toList with
  | nil =>
    refine ⟨[], r.separator, value, ?_, ?_, ?_, rfl, cutKey_separator r.separates value⟩
    · have hhead : ∀ c ∈ (r.separator :: value).head?, isBlank c = false := by
        intro c hc
        cases hc
        exact isBlank_of_isMark r.isMark_separator
      rw [writeKey, List.flatMap_nil, List.nil_append,
        Text.dropBlank_append_of_blank r.before.blank, Text.dropBlank_of_head hhead]
    · rcases r.separates with h | h <;> rw [h] <;> decide
    · rcases r.separates with h | h <;> rw [h] <;> decide
  | cons c rest =>
    rw [hkey] at hcut htrim
    have hfirst : isBlank c = false := r.trimmed.first c (by rw [hkey]; rfl)
    obtain ⟨d, more, hwrite, hblank, hmark⟩ := writeKey_cons hfirst rest
    have hcomment : ∀ e, isMark e = true → e ≠ '\\' → d ≠ e := by
      rintro e he hslash rfl
      rcases hmark with h | h
      · exact hslash h
      · rw [he] at h
        cases h
    rw [hwrite] at hcut ⊢
    refine ⟨c :: rest ++ r.before.chars, d, _, Text.dropBlank_of_head ?_,
      hcomment '#' (by decide) (by decide), hcomment '!' (by decide) (by decide), htrim, hcut⟩
    intro e he
    cases he
    exact hblank

/-- A line is read as it was written. -/
theorem ofLine?_write (l : Line) : ofLine? (String.ofList l.write) = l.row? := by
  unfold ofLine?
  rw [String.toList_ofList]
  cases l with
  | blank gap =>
    have hnil : dropBlank gap.chars = [] := List.dropWhile_eq_nil_iff.2 gap.blank
    rw [Line.write, hnil]
    rfl
  | comment front mark marks words inline =>
    have hhead : ∀ c ∈ (mark :: words).head?, isBlank c = false := by
      intro c hc
      cases hc
      rcases marks with rfl | rfl <;> decide
    rw [Line.write, Text.dropBlank_append_of_blank front.blank, Text.dropBlank_of_head hhead]
    rcases marks with rfl | rfl <;> rfl
  | row r =>
    obtain ⟨key, c, rest, hdrop, hhash, hbang, hkey, hcut⟩ := r.dropBlank_write
    have hvalue : trimChars (r.after.chars ++ writeValue r.value.toList ++ r.back.chars) =
        writeValue r.value.toList :=
      (trimmed_writeValue r.ended).trimChars_around r.after.blank r.back.blank
    rw [Line.write, hdrop]
    simp [hhash, hbang, hcut, hkey, hvalue, unescape_writeValue, Line.row?, -List.append_assoc]

/-! ## Texts -/

/-- The rows that a text has, in the order of its lines. -/
def rowsOf (text : String) : List (String × String) :=
  (Text.pieces '\n' text.toList).filterMap fun line => ofLine? (String.ofList line)

/-- A table with rows set one after the other. -/
def withRows (props : Properties) (rows : List (String × String)) : Properties :=
  rows.foldl (fun props row => props.insert row.1 row.2) props

/-- A carriage return at the end of a line ends up in the value, or in the key if there is none. -/
theorem cutKey_return (cs : List Char) : cutKey (cs ++ ['\r']) =
    match (cutKey cs).2 with
    | some value => ((cutKey cs).1, some (value ++ ['\r']))
    | none => ((cutKey cs).1 ++ ['\r'], none) := by
  induction cs using cutKey.induct with
  | case1 => rfl
  | case2 => rfl
  | case3 c rest key value hrest ih =>
    rw [List.cons_append, List.cons_append, cutKey_escaped, cutKey_escaped, ih, hrest]
    cases value <;> rfl
  | case4 c rest _ _ hseparator =>
    rw [Bool.or_eq_true, beq_iff_eq, beq_iff_eq] at hseparator
    rw [List.cons_append, cutKey_separator hseparator, cutKey_separator hseparator]
  | case5 c rest hlone hescaped hseparator key value hrest ih =>
    have hseparator := Bool.eq_false_iff.2 hseparator
    have hslash : c ≠ '\\' := by
      rintro rfl
      cases rest with
      | nil => exact hlone rfl rfl
      | cons d rest => exact hescaped d rest rfl rfl
    rw [List.cons_append, cutKey_cons hslash hseparator, cutKey_cons hslash hseparator, ih, hrest]
    cases value <;> rfl

/-- A carriage return at the end of a line changes nothing. -/
theorem ofLine?_return (cs : List Char) :
    ofLine? (String.ofList (cs ++ ['\r'])) = ofLine? (String.ofList cs) := by
  have hreturn : AllBlank ['\r'] := by decide
  unfold ofLine?
  rw [String.toList_ofList, String.toList_ofList]
  cases hdrop : dropBlank cs with
  | nil =>
    have hnil : dropBlank (cs ++ ['\r']) = [] := by
      rw [Text.dropBlank_append_of_blank (List.dropWhile_eq_nil_iff.1 hdrop)]
      rfl
    rw [hnil]
  | cons c rest =>
    have htrim : ∀ text, trimChars (text ++ ['\r']) = trimChars text :=
      Text.trimChars_append_of_blank hreturn
    rw [Text.dropBlank_append_of_ne_nil (by simp [hdrop]), hdrop]
    simp only [List.cons_append]
    split
    · rfl
    rw [← List.cons_append, cutKey_return]
    cases (cutKey (c :: rest)).2 with
    | none => simp [htrim]
    | some value => simp [htrim]

/-- Reading a text sets its rows one after the other. -/
theorem parse_eq_withRows (text : String) : parse text = withRows NameMap.empty (rowsOf text) := by
  unfold parse withRows rowsOf Text.lines
  rw [← Text.filterMap_endedLines rfl ofLine?_return, List.foldl_filterMap, List.foldl_map]
  congr 1
  funext props line
  rcases ofLine? (String.ofList line) with - | ⟨key, value⟩ <;> rfl

/-- What a table has for a key after rows were set: the last of them that counts. -/
theorem get?_withRows (props : Properties) (rows : List (String × String)) (key : String) :
    (withRows props rows).get? key = (rows.reverse.lookup key).or (props.get? key) := by
  induction rows generalizing props with
  | nil => rfl
  | cons row rest ih =>
    obtain ⟨name, value⟩ := row
    unfold withRows at *
    rw [List.foldl_cons, ih, NameMap.get?_insert, List.reverse_cons, List.lookup_append, lookup_row]
    by_cases hkey : key = name
    · simp [hkey]
    · simp [hkey]

theorem get?_parse (text key : String) :
    (parse text).get? key = (rowsOf text).reverse.lookup key := by
  have hempty : NameMap.get? (NameMap.empty : Properties) key = none := rfl
  rw [parse_eq_withRows, get?_withRows, hempty, Option.or_none]

/-- The rows of two texts one below the other are those of both. -/
theorem rowsOf_append (a b : String) : rowsOf (a ++ "\n" ++ b) = rowsOf a ++ rowsOf b := by
  have hbreak : "\n".toList = ['\n'] := by decide
  unfold rowsOf
  rw [String.toList_append, String.toList_append, hbreak, List.append_assoc, List.singleton_append,
    Text.pieces_append, List.filterMap_append]

theorem pieces_glue {lines : List (List Char)} (hne : lines ≠ []) (h : ∀ l ∈ lines, '\n' ∉ l) :
    Text.pieces '\n' (Text.glue '\n' lines) = lines := by
  induction lines with
  | nil => exact absurd rfl hne
  | cons l rest ih =>
    have hl := Text.pieces_of_not_mem (h l List.mem_cons_self)
    cases rest with
    | nil => exact hl
    | cons m rest =>
      have hrest := ih (by simp) fun l' hl' => h l' (List.mem_cons_of_mem _ hl')
      rw [Text.glue, Text.pieces_append, hl, hrest]
      rfl

/-- The rows that were written are the rows that are read. -/
theorem rowsOf_document (lines : List Line) :
    rowsOf (document lines) = lines.filterMap Line.row? := by
  unfold rowsOf document
  rw [String.toList_ofList]
  by_cases hnil : lines = []
  · subst hnil
    rfl
  · have hinline : ∀ l ∈ lines.map Line.write, '\n' ∉ l := by
      intro l hl
      obtain ⟨line, -, rfl⟩ := List.mem_map.1 hl
      exact line.not_mem_write
    rw [pieces_glue (by simpa using hnil) hinline, List.filterMap_map]
    exact congrArg (lines.filterMap ·) (funext ofLine?_write)

/-- Rows of distinct names may be looked up in any order. -/
theorem lookup_eq_of_perm {rows rows' : List (String × String)} (h : rows.Perm rows')
    (hnodup : (rows.map Prod.fst).Nodup) (key : String) : rows.lookup key = rows'.lookup key := by
  induction h with
  | nil => rfl
  | cons row _ ih =>
    rw [List.map_cons, List.nodup_cons] at hnodup
    rw [lookup_row, lookup_row, ih hnodup.2]
  | swap row row' rest =>
    obtain ⟨name, value⟩ := row
    obtain ⟨name', value'⟩ := row'
    have hne : name' ≠ name := by
      rw [List.map_cons, List.nodup_cons] at hnodup
      exact fun heq => hnodup.1 (by simp [heq])
    rw [lookup_row, lookup_row, lookup_row, lookup_row]
    by_cases hkey : key = name
    · simp [hkey, hne.symm]
    · simp [hkey]
  | trans hperm _ ih ih' =>
    rw [ih hnodup, ih' ((hperm.map Prod.fst).nodup_iff.1 hnodup)]

/-- However a table is written, it is read as it was meant: its rows in any order, with gaps around
keys and values, among blank lines and comments. Of two texts one below the other, the second counts
for each key that it has. -/
theorem properties_are_read_as_they_were_meant :
    (∀ (props : Properties) (lines : List Line),
      (lines.filterMap Line.row?).Perm props.toList → parse (document lines) = props) ∧
    ∀ a b key : String, (parse (a ++ "\n" ++ b)).get? key =
      ((parse b).get? key).or ((parse a).get? key) := by
  refine ⟨fun props lines hperm => NameMap.ext_get? fun key => ?_, fun a b key => ?_⟩
  · rw [get?_parse, rowsOf_document]
    have hnodup : (props.toList.map Prod.fst).Nodup := by
      refine props.ascending.imp fun {n m} hlt heq => ?_
      subst heq
      exact String.lt_irrefl n hlt
    have hrows := (List.reverse_perm (lines.filterMap Line.row?)).trans hperm
    exact (lookup_eq_of_perm hrows.symm hnodup key).symm
  · rw [get?_parse, get?_parse, get?_parse, rowsOf_append, List.reverse_append, List.lookup_append]

/-- A table with marks in a key and with blanks and a line break in a value. -/
def hostile : Properties :=
  ⟨[("a b", "\t C:\\"), ("z#=", " \u0085 !\n")], by decide⟩

/-- Lines of the table, the last row first. -/
def hostileLines : List Line := [
  .comment { chars := [] } '!' (.inr rfl) ['a', '=', 'b'] (by decide),
  .row {
    front := { chars := ['\t'] }
    key := "z#="
    before := { chars := [' '] }
    separator := ':'
    after := { chars := [' ', ' '] }
    value := " \u0085 !\n"
    back := { chars := [' ', '\r'] } },
  .blank { chars := [' ', '\r'] },
  .row { key := "a b", separator := '=', value := "\t C:\\" }]

/-- The table is read from its lines. -/
theorem a_hostile_table_is_read_as_it_was_meant :
    document hostileLines = "!a=b\n\tz\\#\\= :  \\ \\\u0085\\ !\\n \r\n \r\na b=\\t\\ C:\\\\" ∧
      (hostileLines.filterMap Line.row?).Perm hostile.toList ∧
      parse (document hostileLines) = hostile := by
  have hperm : (hostileLines.filterMap Line.row?).Perm hostile.toList := by decide
  exact ⟨by decide, hperm, properties_are_read_as_they_were_meant.1 hostile hostileLines hperm⟩

end Properties

end ApkForge
