-- Strings read as they were written. Four forms are written and four are read; which one is chosen
-- depends on what the string holds, so that nothing in it ends it early. Quotes in a row are what
-- the wide forms have to look out for: two may stand in a row anywhere, and at the end up to five.
import ApkForge.Format.Toml.Reader
import ApkForge.Format.Toml.Writer
import Mathlib.Data.List.TakeDrop

namespace ApkForge.Toml

variable {q c : Char} {cs rest w : List Char} {fuel row : Nat} {acc : List Char}

/-! ## Quotes in a row -/

/-- A text that does not go on with a quote. -/
def Unquoted (rest : List Char) : Prop := rest.head? ≠ some '\x22' ∧ rest.head? ≠ some '\x27'

theorem takeWhile_replicate_append (h : rest.head? ≠ some q) (n : Nat) :
    (List.replicate n q ++ rest).takeWhile (· == q) = List.replicate n q := by
  induction n with
  | zero =>
    cases rest with
    | nil => rfl
    | cons c cs =>
      have hc : (c == q) = false := beq_false_of_ne fun heq => h (by rw [heq]; rfl)
      rw [List.replicate_zero, List.nil_append, List.takeWhile_cons_of_neg (by simp [hc])]
  | succ n ih =>
    rw [List.replicate_succ, List.cons_append, List.takeWhile_cons_of_pos (by simp), ih]

theorem takeWhile_replicate (q : Char) (n : Nat) :
    (List.replicate n q).takeWhile (· == q) = List.replicate n q := by
  simp

/-- A text is quotes alone, or its quotes at the front end within it. -/
theorem quotes_or_stops (q : Char) (w : List Char) :
    (∃ n, w = List.replicate n q) ∨
      ∀ tail, (w ++ tail).takeWhile (· == q) = w.takeWhile (· == q) := by
  induction w with
  | nil => exact .inl ⟨0, rfl⟩
  | cons c cs ih =>
    by_cases hc : c = q
    · subst hc
      rcases ih with ⟨n, rfl⟩ | hstops
      · exact .inl ⟨n + 1, rfl⟩
      · exact .inr fun tail => by simp [hstops tail]
    · exact .inr fun tail => by simp [hc]

theorem closing_of_short (h : (cs.takeWhile (· == q)).length ≤ 2) : closing q cs = none := by
  unfold closing
  exact if_pos (Nat.lt_succ_of_le h)

/-- The last three of the quotes at the end close the string. -/
theorem closing_replicate {n : Nat} (hn : n ≤ 2) (h : rest.head? ≠ some q) :
    closing q (List.replicate n q ++ q :: q :: q :: rest) = some (List.replicate n q, rest) := by
  have hquotes : List.replicate n q ++ q :: q :: q :: rest = List.replicate (n + 3) q ++ rest := by
    rw [← List.replicate_append_replicate, List.append_assoc]
    rfl
  have hdrop : (List.replicate (n + 3) q ++ rest).drop (n + 3) = rest :=
    List.drop_left' List.length_replicate
  rw [hquotes]
  unfold closing
  simp only [takeWhile_replicate_append h, List.length_replicate, hdrop]
  rw [if_neg (by omega), if_pos (by omega), Nat.add_sub_cancel]

/-! ## Literal strings -/

theorem longestRun_mono {m n : Nat} (h : m ≤ n) (cs : List Char) :
    longestRun q m cs ≤ longestRun q n cs := by
  induction cs generalizing m n with
  | nil => exact h
  | cons c cs ih =>
    unfold longestRun
    split
    · exact ih (Nat.succ_le_succ h)
    · omega

theorem takeWhile_le_longestRun (n : Nat) (cs : List Char) :
    n + (cs.takeWhile (· == q)).length ≤ longestRun q n cs := by
  induction cs generalizing n with
  | nil => exact Nat.le_refl _
  | cons c cs ih =>
    unfold longestRun
    split
    · rename_i hc
      have hrest := ih (n + 1)
      simp only [List.takeWhile_cons, hc, if_true, List.length_cons]
      omega
    · rename_i hc
      simp only [List.takeWhile_cons, hc, Bool.false_eq_true, if_false, List.length_nil]
      exact Nat.le_max_left _ _

theorem longestRun_tail (c : Char) (cs : List Char) :
    longestRun q 0 cs ≤ longestRun q 0 (c :: cs) := by
  have hstep : longestRun q 0 (c :: cs) =
      if c == q then longestRun q 1 cs else max 0 (longestRun q 0 cs) := rfl
  rw [hstep]
  split
  · exact longestRun_mono (Nat.zero_le _) cs
  · exact Nat.le_max_right _ _

theorem not_mem_of_longestRun (h : longestRun q 0 cs = 0) : q ∉ cs := by
  induction cs with
  | nil => exact List.not_mem_nil
  | cons c cs ih =>
    have htail := longestRun_tail (q := q) c cs
    have hfront := takeWhile_le_longestRun (q := q) 0 (c :: cs)
    rw [List.mem_cons, not_or]
    refine ⟨?_, ih (by omega)⟩
    rintro rfl
    rw [List.takeWhile_cons_of_pos (by simp), List.length_cons] at hfront
    omega

/-- What needs no escape stands for itself in a literal string, but for line breaks and quotes. -/
theorem isLiteral_of_not_escaped (h : needsEscape c = false) :
    c = '\n' ∨ c = '\x27' ∨ isLiteral c = true := by
  by_cases hbreak : c = '\n'
  · exact .inl hbreak
  by_cases hquote : c = '\x27'
  · exact .inr (.inl hquote)
  refine .inr (.inr ?_)
  by_cases htab : c = '\t'
  · subst htab
    rfl
  · simp [needsEscape, isLiteral, hbreak, hquote, htab] at h ⊢
    omega

theorem literalString_read (h : ∀ c ∈ cs, isLiteral c = true) :
    literalString (cs ++ '\x27' :: rest) = some (String.ofList cs, rest) := by
  have hspan : (cs ++ '\x27' :: rest).span isLiteral = (cs, '\x27' :: rest) := by
    rw [List.span_eq_takeWhile_dropWhile, List.takeWhile_append_of_pos h,
      List.dropWhile_append_of_pos h, List.takeWhile_cons_of_neg (by decide),
      List.dropWhile_cons_of_neg (by decide), List.append_nil]
  rw [literalString, hspan]
  rfl

theorem literalLines_of_closing {more : List Char} (h : closing '\x27' cs = some (more, rest)) :
    literalLines (fuel + 1) acc cs = some (String.ofList (acc.reverse ++ more), rest) := by
  cases cs with
  | nil => cases h
  | cons c cs => simp only [literalLines, h]

theorem literalLines_step (h : closing '\x27' (c :: rest) = none) (hc : needsEscape c = false) :
    literalLines (fuel + 1) acc (c :: rest) = literalLines fuel (c :: acc) rest := by
  simp only [literalLines, h]
  rcases isLiteral_of_not_escaped hc with rfl | rfl | hliteral
  · rfl
  · rfl
  · rw [if_pos (by simp [hliteral])]

/-- A wide literal string ends where it was ended. -/
theorem literalLines_read (hrest : rest.head? ≠ some '\x27')
    (hrun : longestRun '\x27' 0 cs ≤ 2) (hcs : ∀ c ∈ cs, needsEscape c = false)
    (hfuel : cs.length < fuel) :
    literalLines fuel acc (cs ++ '\x27' :: '\x27' :: '\x27' :: rest) =
      some (String.ofList (acc.reverse ++ cs), rest) := by
  induction cs generalizing fuel acc with
  | nil =>
    obtain ⟨fuel, rfl⟩ := Nat.exists_eq_succ_of_ne_zero (Nat.ne_of_gt hfuel)
    exact literalLines_of_closing (closing_replicate (Nat.zero_le 2) hrest)
  | cons c cs ih =>
    obtain ⟨fuel, rfl⟩ := Nat.exists_eq_succ_of_ne_zero (Nat.ne_of_gt (Nat.zero_lt_of_lt hfuel))
    have hfront := takeWhile_le_longestRun (q := '\x27') 0 (c :: cs)
    rcases quotes_or_stops '\x27' (c :: cs) with ⟨n, hn⟩ | hstops
    · -- the quotes at the end of the string are closed together with it
      rw [hn] at hfront hrun ⊢
      rw [takeWhile_replicate, List.length_replicate] at hfront
      exact literalLines_of_closing (closing_replicate (by omega) hrest)
    · have hnone : closing '\x27' (c :: (cs ++ '\x27' :: '\x27' :: '\x27' :: rest)) = none := by
        refine closing_of_short ?_
        rw [← List.cons_append, hstops]
        omega
      rw [List.forall_mem_cons] at hcs
      have htail := longestRun_tail (q := '\x27') c cs
      rw [List.cons_append, literalLines_step hnone hcs.1,
        ih (by omega) hcs.2 (by simpa using hfuel)]
      simp

/-! ## Escapes -/

/-- Behind a backslash, a text is read as the character. -/
structure Escapes (c : Char) (text : List Char) : Prop where
  escape : ∀ rest, escape (text ++ rest) = some (c, rest)
  inLine : ∀ rest, lineBreak? (skip (text ++ rest)) = none

theorem hexDigit_upperHex : ∀ d < 16, Json.hexDigit? (upperHex d) = some d := by decide

theorem escapes_hex (h : c.toNat < 128) :
    Escapes c ['u', '0', '0', upperHex (c.toNat / 16), upperHex (c.toNat % 16)] := by
  have hhigh := hexDigit_upperHex (c.toNat / 16) (by omega)
  have hlow := hexDigit_upperHex (c.toNat % 16) (by omega)
  have hzero : Json.hexDigit? '0' = some 0 := by decide
  have hnumber : (((0 * 16 + 0) * 16 + 0) * 16 + c.toNat / 16) * 16 + c.toNat % 16 = c.toNat := by
    omega
  have hscalar : scalar? c.toNat = some c := by
    rw [scalar?, if_pos (by simp only [Bool.or_eq_true, decide_eq_true_eq]; omega),
      Char.ofNat_toNat]
  refine ⟨fun rest => ?_, fun rest => rfl⟩
  simp only [Toml.escape, hexNumber, List.cons_append, List.nil_append, hzero, hhigh, hlow, hnumber,
    hscalar, bind, Option.bind]

theorem escapes_quote : Escapes '\x22' ['\x22'] := ⟨fun _ => rfl, fun _ => rfl⟩

/-- A character of a basic string stands for itself or is escaped; a line break does so in the wide
form. -/
theorem writeChar_cases (wide : Bool) (hc : c ≠ '\x22') :
    (writeChar wide c = [c] ∧ (isBasic c = true ∨ wide = true ∧ c = '\n')) ∨
      ∃ text, writeChar wide c = '\\' :: text ∧ Escapes c text := by
  unfold writeChar
  split
  · rename_i h
    obtain rfl := beq_iff_eq.1 h
    exact .inr ⟨['b'], rfl, fun _ => rfl, fun _ => rfl⟩
  split
  · rename_i h
    obtain rfl := beq_iff_eq.1 h
    exact .inr ⟨['t'], rfl, fun _ => rfl, fun _ => rfl⟩
  split
  · rename_i h
    obtain rfl := beq_iff_eq.1 h
    cases wide with
    | true => exact .inl ⟨rfl, .inr ⟨rfl, rfl⟩⟩
    | false => exact .inr ⟨['n'], rfl, fun _ => rfl, fun _ => rfl⟩
  split
  · rename_i h
    obtain rfl := beq_iff_eq.1 h
    exact .inr ⟨['f'], rfl, fun _ => rfl, fun _ => rfl⟩
  split
  · rename_i h
    obtain rfl := beq_iff_eq.1 h
    exact .inr ⟨['r'], rfl, fun _ => rfl, fun _ => rfl⟩
  split
  · rename_i h
    obtain rfl := beq_iff_eq.1 h
    exact .inr ⟨['\\'], rfl, fun _ => rfl, fun _ => rfl⟩
  split
  · rename_i h
    refine .inr ⟨_, rfl, escapes_hex ?_⟩
    simp only [Bool.or_eq_true, decide_eq_true_eq, beq_iff_eq] at h
    omega
  · rename_i hslash hcontrol
    refine .inl ⟨rfl, .inl ?_⟩
    simp only [Bool.or_eq_true, decide_eq_true_eq, beq_iff_eq, not_or] at hcontrol hslash
    simp only [isBasic, Bool.or_eq_true, Bool.and_eq_true, decide_eq_true_eq, bne_iff_ne]
    exact .inr ⟨⟨⟨by omega, hc⟩, hslash⟩, hcontrol.2⟩

/-- What one character adds to the inside of a basic string: an escape, or itself. A quote stands
for itself in the wide form as long as no more than two do in a row. -/
theorem writeInside_cases (wide : Bool) (row : Nat) (c : Char) (cs : List Char) :
    (∃ text, Escapes c text ∧
      writeInside wide row (c :: cs) = '\\' :: (text ++ writeInside wide 0 cs)) ∨
    ∃ row', writeInside wide row (c :: cs) = c :: writeInside wide row' cs ∧
      (c = '\x22' → wide = true ∧ row < 2 ∧ row' = row + 1) ∧
      (c ≠ '\x22' → isBasic c = true ∨ wide = true ∧ c = '\n') := by
  by_cases hc : c = '\x22'
  · subst hc
    by_cases hrow : wide = true ∧ row < 2
    · exact .inr ⟨row + 1, by simp [writeInside, hrow], fun _ => ⟨hrow.1, hrow.2, rfl⟩,
        fun hne => absurd rfl hne⟩
    · refine .inl ⟨['\x22'], escapes_quote, ?_⟩
      have hescaped : (wide && decide (row < 2)) = false := by
        rw [← Bool.not_eq_true, Bool.and_eq_true, decide_eq_true_eq]
        exact hrow
      rw [writeInside, if_neg (by decide), hescaped]
      rfl
  · have hwrite : writeInside wide row (c :: cs) =
        writeChar wide c ++ writeInside wide 0 cs := by simp [writeInside, hc]
    rcases writeChar_cases wide hc with ⟨hplain, hbasic⟩ | ⟨text, hcode, hescapes⟩
    · exact .inr ⟨0, by rw [hwrite, hplain]; rfl, fun heq => absurd heq hc, fun _ => hbasic⟩
    · exact .inl ⟨text, hescapes, by rw [hwrite, hcode]; rfl⟩

theorem ne_of_isBasic (h : isBasic c = true) : c ≠ '\x22' ∧ c ≠ '\\' ∧ c ≠ '\n' ∧ c ≠ '\r' := by
  refine ⟨?_, ?_, ?_, ?_⟩ <;>
  · rintro rfl
    exact absurd h (by decide)

/-! ## Basic strings -/

theorem basicString_plain (h : isBasic c = true) :
    basicString (fuel + 1) acc (c :: rest) = basicString fuel (c :: acc) rest := by
  obtain ⟨hquote, hslash, -⟩ := ne_of_isBasic h
  simp [basicString, hquote, hslash, h]

theorem basicString_escape {text : List Char} (h : Escapes c text) :
    basicString (fuel + 1) acc ('\\' :: (text ++ rest)) = basicString fuel (c :: acc) rest := by
  simp [basicString, h.escape]

/-- A basic string ends where it was ended. -/
theorem basicString_read (hfuel : (writeInside false row cs).length < fuel) :
    basicString fuel acc (writeInside false row cs ++ '\x22' :: rest) =
      some (String.ofList (acc.reverse ++ cs), rest) := by
  induction cs generalizing fuel acc row with
  | nil =>
    obtain ⟨fuel, rfl⟩ := Nat.exists_eq_succ_of_ne_zero (Nat.ne_of_gt hfuel)
    simp [writeInside, basicString]
  | cons c cs ih =>
    obtain ⟨fuel, rfl⟩ := Nat.exists_eq_succ_of_ne_zero (Nat.ne_of_gt (Nat.zero_lt_of_lt hfuel))
    have hresult : (c :: acc).reverse ++ cs = acc.reverse ++ c :: cs := by simp
    rcases writeInside_cases false row c cs with ⟨text, hescapes, hwrite⟩ |
      ⟨row', hwrite, hquote, hplain⟩
    · rw [hwrite] at hfuel ⊢
      rw [List.cons_append, List.append_assoc, basicString_escape hescapes,
        ih (by simp at hfuel; omega), hresult]
    · have hc : c ≠ '\x22' := fun heq => absurd (hquote heq).1 (by decide)
      have hbasic := (hplain hc).resolve_right fun h => absurd h.1 (by decide)
      rw [hwrite] at hfuel ⊢
      rw [List.cons_append, basicString_plain hbasic, ih (by simpa using hfuel), hresult]

/-- Only two quotes may stand in a row as they are, those before counted with them. -/
theorem takeWhile_writeInside (wide : Bool) (row : Nat) (cs : List Char) :
    ((writeInside wide row cs).takeWhile (· == '\x22')).length ≤ 2 - row := by
  induction cs generalizing row with
  | nil => exact Nat.zero_le _
  | cons c cs ih =>
    rcases writeInside_cases wide row c cs with ⟨text, -, hwrite⟩ | ⟨row', hwrite, hquote, -⟩
    · rw [hwrite, List.takeWhile_cons_of_neg (by decide)]
      exact Nat.zero_le _
    · rw [hwrite]
      by_cases hc : c = '\x22'
      · obtain ⟨-, hrow, rfl⟩ := hquote hc
        have hrest := ih (row + 1)
        rw [List.takeWhile_cons_of_pos (by simp [hc]), List.length_cons]
        omega
      · rw [List.takeWhile_cons_of_neg (by simp [hc])]
        exact Nat.zero_le _

/-- What is written as quotes alone is that. -/
theorem eq_of_writeInside_eq_replicate {wide : Bool} {n : Nat}
    (h : writeInside wide row cs = List.replicate n '\x22') : cs = List.replicate n '\x22' := by
  induction cs generalizing row n with
  | nil => exact h
  | cons c cs ih =>
    rcases writeInside_cases wide row c cs with ⟨text, -, hwrite⟩ | ⟨row', hwrite, -⟩
    · rw [hwrite] at h
      have hhead := congrArg List.head? h
      rw [List.head?_replicate] at hhead
      split at hhead
      · cases hhead
      · exact absurd (Option.some.inj hhead) (by decide)
    · rw [hwrite] at h
      cases n with
      | zero => cases h
      | succ n =>
        obtain ⟨hc, hrest⟩ := List.cons.inj h
        rw [hc, ih hrest, List.replicate_succ]

theorem basicLines_of_closing {more : List Char} (h : closing '\x22' cs = some (more, rest)) :
    basicLines (fuel + 1) acc cs = some (String.ofList (acc.reverse ++ more), rest) := by
  cases cs with
  | nil => cases h
  | cons c cs => simp only [basicLines, h]

theorem basicLines_plain (h : closing '\x22' (c :: rest) = none)
    (hc : c = '\x22' ∨ isBasic c = true ∨ c = '\n') :
    basicLines (fuel + 1) acc (c :: rest) = basicLines fuel (c :: acc) rest := by
  simp only [basicLines, h]
  rcases hc with rfl | hbasic | rfl
  · rfl
  · obtain ⟨hquote, hslash, -⟩ := ne_of_isBasic hbasic
    simp [hquote, hslash, hbasic]
  · rfl

theorem basicLines_escape {text : List Char} (h : Escapes c text) :
    basicLines (fuel + 1) acc ('\\' :: (text ++ rest)) = basicLines fuel (c :: acc) rest := by
  have hnone : closing '\x22' ('\\' :: (text ++ rest)) = none :=
    closing_of_short (by rw [List.takeWhile_cons_of_neg (by decide)]; exact Nat.zero_le 2)
  simp [basicLines, hnone, h.escape, h.inLine]

/-- A wide basic string ends where it was ended. -/
theorem basicLines_read (hrest : rest.head? ≠ some '\x22')
    (hfuel : (writeInside true row cs).length < fuel) :
    basicLines fuel acc (writeInside true row cs ++ '\x22' :: '\x22' :: '\x22' :: rest) =
      some (String.ofList (acc.reverse ++ cs), rest) := by
  induction cs generalizing fuel acc row with
  | nil =>
    obtain ⟨fuel, rfl⟩ := Nat.exists_eq_succ_of_ne_zero (Nat.ne_of_gt hfuel)
    exact basicLines_of_closing (closing_replicate (Nat.zero_le 2) hrest)
  | cons c cs ih =>
    obtain ⟨fuel, rfl⟩ := Nat.exists_eq_succ_of_ne_zero (Nat.ne_of_gt (Nat.zero_lt_of_lt hfuel))
    have hfront := takeWhile_writeInside true row (c :: cs)
    rcases quotes_or_stops '\x22' (writeInside true row (c :: cs)) with ⟨n, hn⟩ | hstops
    · -- the quotes at the end of the string are closed together with it
      rw [hn, takeWhile_replicate, List.length_replicate] at hfront
      rw [hn, eq_of_writeInside_eq_replicate hn]
      exact basicLines_of_closing (closing_replicate (by omega) hrest)
    · have hnone : closing '\x22' (writeInside true row (c :: cs) ++
          '\x22' :: '\x22' :: '\x22' :: rest) = none := by
        refine closing_of_short ?_
        rw [hstops]
        omega
      have hresult : (c :: acc).reverse ++ cs = acc.reverse ++ c :: cs := by simp
      rcases writeInside_cases true row c cs with ⟨text, hescapes, hwrite⟩ |
        ⟨row', hwrite, hquote, hplain⟩
      · rw [hwrite] at hfuel ⊢
        rw [List.cons_append, List.append_assoc, basicLines_escape hescapes,
          ih (by simp at hfuel; omega), hresult]
      · have hc : c = '\x22' ∨ isBasic c = true ∨ c = '\n' := by
          by_cases heq : c = '\x22'
          · exact .inl heq
          · exact .inr ((hplain heq).imp_right And.right)
        rw [hwrite] at hfuel hnone ⊢
        rw [List.cons_append] at hnone ⊢
        rw [basicLines_plain hnone hc, ih (by simpa using hfuel), hresult]

/-! ## Strings in their forms -/

/-- A string without line breaks does not begin with one, however it is written. -/
theorem lineBreak?_writeInside (h : '\n' ∉ cs) :
    lineBreak? (writeInside true 0 cs ++ '\x22' :: rest) = none := by
  cases cs with
  | nil => rfl
  | cons c cs =>
    rw [List.mem_cons, not_or] at h
    rcases writeInside_cases true 0 c cs with ⟨text, -, hwrite⟩ | ⟨row', hwrite, -, hplain⟩
    · rw [hwrite]
      rfl
    · rw [hwrite, List.cons_append]
      by_cases hc : c = '\x22'
      · rw [hc]
        rfl
      · have hbasic := (hplain hc).resolve_right fun hbreak => h.1 hbreak.2.symm
        obtain ⟨-, -, hbreak, hreturn⟩ := ne_of_isBasic hbasic
        unfold lineBreak?
        split
        · rename_i heq
          exact absurd (List.cons.inj heq).1 hbreak
        · rename_i heq
          exact absurd (List.cons.inj heq).1 hreturn
        · rfl

theorem lineBreak?_literal (hcs : ∀ c ∈ cs, needsEscape c = false) (h : '\n' ∉ cs) :
    lineBreak? (cs ++ '\x27' :: rest) = none := by
  cases cs with
  | nil => rfl
  | cons c cs =>
    rw [List.cons_append]
    unfold lineBreak?
    split
    · rename_i heq
      exact absurd (List.mem_cons.2 (.inl (List.cons.inj heq).1.symm)) h
    · rename_i heq
      have hreturn := hcs c List.mem_cons_self
      rw [(List.cons.inj heq).1] at hreturn
      exact absurd hreturn (by decide)
    · rfl

/-- One quote opens a string of one line, if two more do not follow it. -/
theorem string_of_quote {x : List Char} (h : x.head? ≠ some '\x22' ∨ x.tail.head? ≠ some '\x22') :
    string ('\x22' :: x) = basicString (x.length + 1) [] x := by
  unfold string
  split
  · rename_i heq
    rw [(List.cons.inj heq).2] at h
    simp at h
  · rename_i heq
    rw [(List.cons.inj heq).2]
  · rename_i heq
    exact absurd (List.cons.inj heq).1 (by decide)
  · rename_i heq
    exact absurd (List.cons.inj heq).1 (by decide)
  · rename_i hnone _ _
    exact absurd rfl (hnone x)

theorem string_of_apostrophe {x : List Char} (h : x.head? ≠ some '\x27') :
    string ('\x27' :: x) = literalString x := by
  unfold string
  split
  · rename_i heq
    exact absurd (List.cons.inj heq).1 (by decide)
  · rename_i heq
    exact absurd (List.cons.inj heq).1 (by decide)
  · rename_i heq
    rw [(List.cons.inj heq).2] at h
    exact absurd rfl h
  · rename_i heq
    rw [(List.cons.inj heq).2]
  · rename_i hnone
    exact absurd rfl (hnone x)

/-- A literal string has characters, and all of them can stand in one. -/
theorem of_form_literal (h : Form.of cs = .literal) :
    cs ≠ [] ∧ ∀ c ∈ cs, isLiteral c = true := by
  unfold Form.of at h
  simp only at h
  split at h
  · cases h
  split at h
  · rename_i hbasic hliteral
    simp only [Bool.and_eq_true, Bool.not_eq_true', beq_iff_eq, List.any_eq_false,
      Bool.not_eq_true] at hliteral
    obtain ⟨⟨hcoded, hbreaks⟩, hrun⟩ := hliteral
    refine ⟨?_, fun c hc => ?_⟩
    · rintro rfl
      exact hbasic (by decide)
    · rcases isLiteral_of_not_escaped (hcoded c hc) with rfl | rfl | hc'
      · simp [hc] at hbreaks
      · exact absurd hc (not_mem_of_longestRun hrun)
      · exact hc'
  · split at h
    · cases h
    split at h
    · cases h
    · split at h <;> cases h

theorem of_form_wideLiteral (h : Form.of cs = .wideLiteral) :
    longestRun '\x27' 0 cs ≤ 2 ∧ ∀ c ∈ cs, needsEscape c = false := by
  unfold Form.of at h
  simp only at h
  split at h
  · cases h
  split at h
  · cases h
  split at h
  · cases h
  split at h
  · rename_i hwide
    simp only [Bool.and_eq_true, Bool.not_eq_true', List.any_eq_false, Bool.not_eq_true,
      decide_eq_true_eq] at hwide
    exact ⟨hwide.2, hwide.1⟩
  · split at h <;> cases h

/-- The line break behind the quotes of a wide string is no part of it. -/
theorem afterBreak_first (h : '\n' ∉ cs → lineBreak? rest = none) :
    afterBreak ((if cs.contains '\n' then "\n" else "").toList ++ rest) = rest := by
  unfold afterBreak
  split
  · rfl
  · rename_i hbreak
    have hnone := h (by simpa using hbreak)
    change (lineBreak? rest).getD rest = rest
    rw [hnone]
    rfl

theorem string_basic (hrest : Unquoted rest) :
    string ('\x22' :: (writeInside false 0 cs ++ '\x22' :: rest)) =
      some (String.ofList cs, rest) := by
  have hfirst : (writeInside false 0 cs ++ '\x22' :: rest).head? ≠ some '\x22' ∨
      (writeInside false 0 cs ++ '\x22' :: rest).tail.head? ≠ some '\x22' := by
    cases cs with
    | nil => exact .inr hrest.1
    | cons c cs =>
      rcases writeInside_cases false 0 c cs with ⟨text, -, hwrite⟩ | ⟨row', hwrite, hquote, -⟩
      · rw [hwrite]
        exact .inl (by simp)
      · rw [hwrite]
        exact .inl fun heq => absurd (hquote (Option.some.inj heq)).1 (by decide)
  rw [string_of_quote hfirst, basicString_read]
  · rw [List.reverse_nil, List.nil_append]
  · rw [List.length_append]
    omega

theorem string_literal (hne : cs ≠ []) (hcs : ∀ c ∈ cs, isLiteral c = true) :
    string ('\x27' :: (cs ++ '\x27' :: rest)) = some (String.ofList cs, rest) := by
  obtain ⟨c, more, rfl⟩ := List.exists_cons_of_ne_nil hne
  have hfirst : (c :: more ++ '\x27' :: rest).head? ≠ some '\x27' := by
    intro heq
    have hc := hcs c List.mem_cons_self
    rw [Option.some.inj heq] at hc
    exact absurd hc (by decide)
  rw [string_of_apostrophe hfirst, literalString_read hcs]

theorem string_wideBasic (hrest : Unquoted rest) :
    string ('\x22' :: '\x22' :: '\x22' :: ((if cs.contains '\n' then "\n" else "").toList ++
      (writeInside true 0 cs ++ '\x22' :: '\x22' :: '\x22' :: rest))) =
        some (String.ofList cs, rest) := by
  rw [string, afterBreak_first lineBreak?_writeInside, basicLines_read hrest.1]
  · rw [List.reverse_nil, List.nil_append]
  · simp only [List.length_append]
    omega

theorem string_wideLiteral (hrest : Unquoted rest) (hrun : longestRun '\x27' 0 cs ≤ 2)
    (hcs : ∀ c ∈ cs, needsEscape c = false) :
    string ('\x27' :: '\x27' :: '\x27' :: ((if cs.contains '\n' then "\n" else "").toList ++
      (cs ++ '\x27' :: '\x27' :: '\x27' :: rest))) = some (String.ofList cs, rest) := by
  rw [string, afterBreak_first (lineBreak?_literal hcs), literalLines_read hrest.2 hrun hcs]
  · rw [List.reverse_nil, List.nil_append]
  · simp only [List.length_append]
    omega

/-- A string is read as it was written, whatever comes behind it that is no quote. -/
theorem string_writeString (s : String) (hrest : Unquoted rest) :
    string ((writeString s).toList ++ rest) = some (s, rest) := by
  conv_rhs => rw [← String.ofList_toList (s := s)]
  unfold writeString
  simp only
  cases hform : Form.of s.toList with
  | basic =>
    rw [← string_basic hrest]
    simp
  | literal =>
    obtain ⟨hne, hliteral⟩ := of_form_literal hform
    rw [← string_literal hne hliteral]
    simp
  | wideBasic =>
    rw [← string_wideBasic hrest]
    simp
  | wideLiteral =>
    obtain ⟨hrun, hplain⟩ := of_form_wideLiteral hform
    rw [← string_wideLiteral hrest hrun hplain]
    simp

end ApkForge.Toml
