-- Values read as they were written: numbers in decimal, strings, and arrays of strings. A value
-- ends where the line or the item ends, and what is read of it is what was written, however much is
-- left of the document behind it.
import ApkForge.Proofs.Toml.Strings

namespace ApkForge.Toml

variable {c : Char} {ds rest x : List Char} {fuel depth : Nat}

/-! ## Numbers -/

/-- A number but zero does not begin with a zero. -/
theorem head?_toDigits {n : Nat} (h : 0 < n) : (Nat.toDigits 10 n).head? ≠ some '0' := by
  induction n using Nat.strongRecOn with
  | _ n ih =>
    rw [Nat.toDigits_eq_if (by decide)]
    split
    · rename_i hlt
      have hdigit : ∀ d < 10, 0 < d → [d.digitChar].head? ≠ some '0' := by decide
      exact hdigit n hlt h
    · rename_i hge
      have hhead := ih (n / 10) (by omega) (by omega)
      cases hds : Nat.toDigits 10 (n / 10) with
      | nil => exact absurd hds Nat.toDigits_ne_nil
      | cons d ds =>
        rw [hds] at hhead
        exact hhead

theorem decimal_toDigits (n : Nat) : Json.decimal (Nat.toDigits 10 n) = n := by
  have hread := Nat.ofDigitChars_toDigits (b := 10) (n := n) (by decide) (by decide)
  rw [Nat.ofDigitChars_eq_foldl] at hread
  simpa only [Json.decimal, Nat.mul_comm] using hread

theorem ne_of_isDigit (h : c.isDigit = true) {d : Char} (hd : d.isDigit = false) : c ≠ d := by
  rintro rfl
  rw [h] at hd
  cases hd

/-- Digits are read up to the end of their line. -/
theorem grouped_digits (hne : ds ≠ []) (hds : ∀ c ∈ ds, c.isDigit = true)
    (hfuel : ds.length ≤ fuel) :
    grouped Char.isDigit fuel (ds ++ '\n' :: rest) = some (ds, '\n' :: rest) := by
  induction ds generalizing fuel with
  | nil => exact absurd rfl hne
  | cons c ds ih =>
    obtain ⟨fuel, rfl⟩ := Nat.exists_eq_succ_of_ne_zero (n := fuel) (by
      rintro rfl
      exact absurd hfuel (by simp))
    rw [List.forall_mem_cons] at hds
    have hstep : ∀ y : List Char, y.head? ≠ some '_' →
        grouped Char.isDigit (fuel + 1) (c :: y) =
          (grouped Char.isDigit fuel y).elim (some ([c], y)) fun more =>
            some (c :: more.1, more.2) := by
      intro y hy
      have hplain : ∀ more, y = '_' :: more → False := by
        rintro more rfl
        exact hy rfl
      rw [grouped.eq_3 _ _ _ _ hplain, if_pos hds.1]
      cases grouped Char.isDigit fuel y with
      | none => rfl
      | some more => rfl
    cases ds with
    | nil =>
      have hend : grouped Char.isDigit fuel ('\n' :: rest) = none := by
        cases fuel <;> rfl
      rw [List.singleton_append, hstep _ (by simp), hend, Option.elim_none]
    | cons d ds =>
      have hd := ne_of_isDigit (hds.2 d List.mem_cons_self) (d := '_') (by decide)
      rw [List.cons_append, hstep _ (by simpa using hd), ih (by simp) hds.2 (by simpa using hfuel),
        Option.elim_some]

theorem int64?_of_isSome {i : Int} (h : (int64? i).isSome = true) : int64? i = some i := by
  unfold int64? at h ⊢
  split at h
  · rename_i hin
    rw [if_pos hin]
  · cases h

/-- What a number without a sign and without zeros at its front is read as. -/
theorem number_of_digit {d : Char} (hd : d.isDigit = true) (hzero : d ≠ '0') (y : List Char)
    {whole rest : List Char} (hgroup : group Char.isDigit (d :: y) = some (whole, rest))
    (htail : floatTail rest = some ((false, [], 0), rest)) :
    number (d :: y) = (int64? (Json.decimal whole)).map fun i => (.int i, rest) := by
  unfold number
  split
  rename_i negative body hbody
  have hsign : (negative, body) = (false, d :: y) := by
    rw [← hbody]
    split
    · rename_i heq
      rw [(List.cons.inj heq).1] at hd
      cases hd
    · rename_i heq
      rw [(List.cons.inj heq).1] at hd
      cases hd
    · rfl
  cases hsign
  split
  · rename_i heq
    rw [(List.cons.inj heq).1] at hd
    cases hd
  · rename_i heq
    rw [(List.cons.inj heq).1] at hd
    cases hd
  · rename_i heq
    cases heq
    rw [if_neg (by simpa using hzero), hgroup]
    simp only [Option.bind_eq_bind, Option.bind_some]
    rw [htail, Option.bind_some, Option.map_eq_bind]
    simp only [Bool.false_eq_true, if_false]
    rfl
  · rename_i heq
    cases heq

/-- A number is read up to the end of its line. -/
theorem number_digits {n : Nat} (h : (int64? n).isSome = true) :
    number (Nat.toDigits 10 n ++ '\n' :: rest) = some (.int n, '\n' :: rest) := by
  have htail : floatTail ('\n' :: rest) = some ((false, [], 0), '\n' :: rest) := rfl
  by_cases hzero : n = 0
  · have hdigits : Nat.toDigits 10 n = ['0'] := by rw [hzero]; rfl
    have hdecimal : Json.decimal ['0'] = n := hzero.symm
    rw [hdigits]
    unfold number
    simp [htail, hdecimal, int64?_of_isSome h]
  have hdigits : ∀ c ∈ Nat.toDigits 10 n, c.isDigit = true := fun c hc =>
    Nat.isDigit_of_mem_toDigits (by decide) (by decide) hc
  have hhead := head?_toDigits (Nat.pos_of_ne_zero hzero)
  have hdecimal := decimal_toDigits n
  have hgroup : group Char.isDigit (Nat.toDigits 10 n ++ '\n' :: rest) =
      some (Nat.toDigits 10 n, '\n' :: rest) :=
    grouped_digits Nat.toDigits_ne_nil hdigits (by rw [List.length_append]; omega)
  cases hds : Nat.toDigits 10 n with
  | nil => exact absurd hds Nat.toDigits_ne_nil
  | cons d ds =>
    rw [hds] at hdigits hhead hdecimal hgroup
    have hdzero : d ≠ '0' := fun heq => hhead (by rw [heq]; rfl)
    rw [List.cons_append] at hgroup ⊢
    rw [number_of_digit (hdigits d List.mem_cons_self) hdzero _ hgroup htail, hdecimal,
      int64?_of_isSome h]
    rfl

/-! ## Values at the end of a line -/

theorem startsDate_digits (hds : ∀ c ∈ ds, c.isDigit = true) :
    startsDate (ds ++ '\n' :: rest) = false := by
  have hbreak : Char.isDigit '\n' = false := by decide
  unfold startsDate
  split
  · rename_i a b c d tail heq
    -- the hyphen would be a digit or the end of the line, or the end would be one of four digits
    match ds with
    | [] => cases heq; simp [hbreak]
    | [_] => cases heq; simp [hbreak]
    | [_, _] => cases heq; simp [hbreak]
    | [_, _, _] => cases heq; simp [hbreak]
    | [_, _, _, _] => cases heq
    | _ :: _ :: _ :: _ :: e :: _ =>
      cases heq
      exact absurd (hds '-' (by simp)) (by decide)
  · rfl

theorem startsTime_digits (hds : ∀ c ∈ ds, c.isDigit = true) :
    startsTime (ds ++ '\n' :: rest) = false := by
  have hbreak : Char.isDigit '\n' = false := by decide
  unfold startsTime
  split
  · rename_i a b tail heq
    match ds with
    | [] => cases heq; simp [hbreak]
    | [_] => cases heq; simp [hbreak]
    | [_, _] => cases heq
    | _ :: _ :: e :: _ =>
      cases heq
      exact absurd (hds ':' (by simp)) (by decide)
  · rfl

/-- What begins with a digit and is no number with a prefix and no date is a number. -/
theorem value_of_digit {d : Char} (hd : d.isDigit = true)
    (hradix : x.head? ≠ some 'x' ∧ x.head? ≠ some 'o' ∧ x.head? ≠ some 'b')
    (hdate : startsDate (d :: x) = false) (htime : startsTime (d :: x) = false) :
    value (fuel + 1) depth (d :: x) = number (d :: x) := by
  have hhead : ∀ c tail, d :: x = c :: tail → c.isDigit = true := by
    intro c tail heq
    rw [← (List.cons.inj heq).1]
    exact hd
  rw [value.eq_def]
  simp only
  split
  iterate 6
    · rename_i heq
      exact absurd (hhead _ _ heq) (by decide)
  · rename_i heq
    exact absurd (by rw [(List.cons.inj heq).2]; rfl) hradix.1
  · rename_i heq
    exact absurd (by rw [(List.cons.inj heq).2]; rfl) hradix.2.1
  · rename_i heq
    exact absurd (by rw [(List.cons.inj heq).2]; rfl) hradix.2.2
  · rename_i heq
    obtain ⟨rfl, rfl⟩ := List.cons.inj heq
    have hquote := ne_of_isDigit hd (d := '\x22') (by decide)
    have hapostrophe := ne_of_isDigit hd (d := '\x27') (by decide)
    simp [hquote, hapostrophe, hdate, htime]
  · rename_i heq
    cases heq

theorem value_toDigits {n : Nat} (h : (int64? n).isSome = true) :
    value (fuel + 1) depth (Nat.toDigits 10 n ++ '\n' :: rest) = some (.int n, '\n' :: rest) := by
  have hdigits : ∀ c ∈ Nat.toDigits 10 n, c.isDigit = true := fun c hc =>
    Nat.isDigit_of_mem_toDigits (by decide) (by decide) hc
  have hread : number (Nat.toDigits 10 n ++ '\n' :: rest) = some (.int n, '\n' :: rest) :=
    number_digits h
  have hdate : startsDate (Nat.toDigits 10 n ++ '\n' :: rest) = false :=
    startsDate_digits hdigits
  have htime : startsTime (Nat.toDigits 10 n ++ '\n' :: rest) = false :=
    startsTime_digits hdigits
  cases hds : Nat.toDigits 10 n with
  | nil => exact absurd hds Nat.toDigits_ne_nil
  | cons d ds =>
    rw [hds] at hread hdate htime hdigits
    rw [List.cons_append] at hread hdate htime ⊢
    rw [value_of_digit (hdigits d List.mem_cons_self) ?_ hdate htime, hread]
    -- digits or the end of the line follow the first digit
    have hnext : ∀ c : Char, c.isDigit = false → c ≠ '\n' →
        (ds ++ '\n' :: rest).head? ≠ some c := by
      intro c hc hbreak heq
      cases ds with
      | nil => exact hbreak (Option.some.inj heq).symm
      | cons e ds =>
        have he := hdigits e (by simp)
        rw [Option.some.inj heq, hc] at he
        cases he
    exact ⟨hnext _ (by decide) (by decide), hnext _ (by decide) (by decide),
      hnext _ (by decide) (by decide)⟩

/-! ## Strings and arrays of strings -/

/-- A string begins with a quote of one of the two kinds. -/
theorem exists_quote_writeString (s : String) : ∃ q more, (writeString s).toList = q :: more ∧
    (q = '\x22' ∨ q = '\x27') := by
  unfold writeString
  simp only [String.append_assoc]
  split
  · exact ⟨'\x22', _, String.toList_append, .inl rfl⟩
  · exact ⟨'\x27', _, String.toList_append, .inr rfl⟩
  · exact ⟨'\x22', _, String.toList_append, .inl rfl⟩
  · exact ⟨'\x27', _, String.toList_append, .inr rfl⟩

theorem value_writeString (s : String) (hrest : Unquoted rest) :
    value (fuel + 1) depth ((writeString s).toList ++ rest) = some (.str s, rest) := by
  have hread := string_writeString s hrest
  obtain ⟨q, more, hwrite, hq⟩ := exists_quote_writeString s
  rw [hwrite, List.cons_append] at hread ⊢
  rcases hq with rfl | rfl <;>
  · rw [value.eq_def]
    simp [hread]

theorem skip_of_ne (hc : c ≠ ' ' ∧ c ≠ '\t') (x : List Char) : skip (c :: x) = c :: x := by
  rw [skip, List.dropWhile_cons_of_neg (by simp [hc.1, hc.2])]

/-- Where no blank, comment or break stands, nothing is passed over. -/
theorem skipLines_of_ne (hc : c ≠ ' ' ∧ c ≠ '\t') (hcomment : c ≠ '#')
    (hbreak : c ≠ '\n' ∧ c ≠ '\r') (n : Nat) (x : List Char) :
    skipLines n (c :: x) = c :: x := by
  have hnone : lineBreak? (c :: x) = none := by
    unfold lineBreak?
    split
    · rename_i heq
      exact absurd (List.cons.inj heq).1 hbreak.1
    · rename_i heq
      exact absurd (List.cons.inj heq).1 hbreak.2
    · rfl
  cases n with
  | zero => rfl
  | succ n =>
    rw [skipLines, skip_of_ne hc]
    split
    · rename_i heq
      exact absurd (List.cons.inj heq).1 hcomment
    · rw [hnone]

theorem ne_of_quote {q : Char} (hq : q = '\x22' ∨ q = '\x27') :
    (q ≠ ' ' ∧ q ≠ '\t') ∧ q ≠ '#' ∧ (q ≠ '\n' ∧ q ≠ '\r') ∧ q ≠ ']' := by
  rcases hq with rfl | rfl <;> decide

theorem skipLines_writeString (s : String) (n : Nat) (x : List Char) :
    skipLines n ((writeString s).toList ++ x) = (writeString s).toList ++ x := by
  obtain ⟨q, more, hwrite, hq⟩ := exists_quote_writeString s
  obtain ⟨hblank, hcomment, hbreak, -⟩ := ne_of_quote hq
  rw [hwrite, List.cons_append]
  exact skipLines_of_ne hblank hcomment hbreak n _

/-- An item with a comma behind it is read before the items behind the comma. -/
theorem items_comma (s : String) {x : List Char} {vs : List Toml}
    (h : items (fuel + 1) depth (skipLines x.length x) = some (vs, rest)) :
    items (fuel + 2) depth ((writeString s).toList ++ ',' :: x) = some (.str s :: vs, rest) := by
  have hvalue : value (fuel + 1) depth ((writeString s).toList ++ ',' :: x) =
      some (.str s, ',' :: x) := value_writeString s ⟨by simp, by simp⟩
  obtain ⟨q, more, hwrite, hq⟩ := exists_quote_writeString s
  rw [hwrite, List.cons_append] at hvalue ⊢
  rw [items.eq_def]
  simp only
  split
  · rename_i heq
    exact absurd (List.cons.inj heq).1 (ne_of_quote hq).2.2.2
  · rw [hvalue]
    simp only
    rw [skipLines_of_ne (by decide) (by decide) (by decide)]
    simp only
    rw [h]

theorem items_last (s : String) :
    items (fuel + 2) depth ((writeString s).toList ++ ']' :: rest) = some ([.str s], rest) := by
  have hvalue : value (fuel + 1) depth ((writeString s).toList ++ ']' :: rest) =
      some (.str s, ']' :: rest) := value_writeString s ⟨by simp, by simp⟩
  obtain ⟨q, more, hwrite, hq⟩ := exists_quote_writeString s
  rw [hwrite, List.cons_append] at hvalue ⊢
  rw [items.eq_def]
  simp only
  split
  · rename_i heq
    exact absurd (List.cons.inj heq).1 (ne_of_quote hq).2.2.2
  · rw [hvalue]
    simp only
    rw [skipLines_of_ne (by decide) (by decide) (by decide)]
    rfl

/-- The items of an array, each on a line of its own, and the end of the array. -/
def itemLines (ss : List String) : List Char :=
  ss.flatMap (fun s => '\n' :: ' ' :: ' ' :: ' ' :: ' ' :: ((writeString s).toList ++ [','])) ++
    ['\n', ']']

theorem length_itemLines (ss : List String) : ss.length + 2 ≤ (itemLines ss).length := by
  induction ss with
  | nil => exact Nat.le_refl 2
  | cons s ss ih =>
    simp only [itemLines, List.flatMap_cons, List.length_append, List.length_cons] at ih ⊢
    omega

/-- Items are read in their order up to the end of the array. -/
theorem items_itemLines {ss : List String} {n : Nat} (hn : 2 ≤ n) (hfuel : ss.length < fuel) :
    items fuel depth (skipLines n (itemLines ss ++ rest)) = some (ss.map .str, rest) := by
  induction ss generalizing fuel n with
  | nil =>
    obtain ⟨fuel, rfl⟩ := Nat.exists_eq_succ_of_ne_zero (Nat.ne_of_gt hfuel)
    obtain ⟨n, rfl⟩ : ∃ m, n = m + 1 := ⟨n - 1, by omega⟩
    have hend : skipLines (n + 1) (itemLines [] ++ rest) = skipLines n (']' :: rest) := rfl
    rw [hend, skipLines_of_ne (by decide) (by decide) (by decide)]
    rfl
  | cons s ss ih =>
    obtain ⟨fuel, rfl⟩ : ∃ m, fuel = m + 2 := ⟨fuel - 2, by rw [List.length_cons] at hfuel; omega⟩
    obtain ⟨n, rfl⟩ : ∃ m, n = m + 2 := ⟨n - 2, by omega⟩
    have hlines : itemLines (s :: ss) ++ rest = '\n' :: ' ' :: ' ' :: ' ' :: ' ' ::
        ((writeString s).toList ++ ',' :: (itemLines ss ++ rest)) := by
      simp [itemLines]
    have hskip : skipLines (n + 2) (itemLines (s :: ss) ++ rest) =
        (writeString s).toList ++ ',' :: (itemLines ss ++ rest) := by
      rw [hlines]
      exact skipLines_writeString s (n + 1) _
    have hlength := length_itemLines ss
    rw [hskip, items_comma s (ih (by rw [List.length_append]; omega) (by simpa using hfuel)),
      List.map_cons]

theorem toList_writeStrings (s s' : String) (ss : List String) :
    (writeStrings (s :: s' :: ss)).toList = '[' :: itemLines (s :: s' :: ss) := by
  have hitem : ∀ s : String, ("\n    " ++ writeString s ++ ",").toList =
      '\n' :: ' ' :: ' ' :: ' ' :: ' ' :: ((writeString s).toList ++ [',']) := by
    intro s
    rw [String.toList_append, String.toList_append]
    rfl
  have hlines : writeStrings (s :: s' :: ss) =
      "[" ++ String.join ((s :: s' :: ss).map fun s => "\n    " ++ writeString s ++ ",") ++ "\n]" :=
    rfl
  rw [hlines, String.toList_append, String.toList_append, String.toList_join, List.flatMap_map]
  simp only [hitem]
  rfl

/-- An array of strings is read as it was written. -/
theorem value_writeStrings {ss : List String} (hfuel : (writeStrings ss).toList.length < fuel) :
    value fuel (depth + 1) ((writeStrings ss).toList ++ rest) =
      some (.array (ss.map .str), rest) := by
  obtain ⟨fuel, rfl⟩ := Nat.exists_eq_succ_of_ne_zero (Nat.ne_of_gt (Nat.zero_lt_of_lt hfuel))
  have hvalue : ∀ x, value (fuel + 1) (depth + 1) ('[' :: x) =
      (items fuel depth (skipLines x.length x)).map fun read => (.array read.1, read.2) := by
    intro x
    rw [value.eq_def]
    simp only
    cases items fuel depth (skipLines x.length x) with
    | none => rfl
    | some read => rfl
  match ss with
  | [] =>
    obtain ⟨fuel, rfl⟩ : ∃ m, fuel = m + 1 := ⟨fuel - 1, by
      have hlength : (writeStrings []).toList.length = 2 := rfl
      omega⟩
    have htext : (writeStrings []).toList ++ rest = '[' :: ']' :: rest := rfl
    rw [htext, hvalue, skipLines_of_ne (by decide) (by decide) (by decide)]
    rfl
  | [s] =>
    have htext : ∀ rest, (writeStrings [s]).toList ++ rest =
        '[' :: ((writeString s).toList ++ ']' :: rest) := by
      intro rest
      simp [writeStrings]
    obtain ⟨fuel, rfl⟩ : ∃ m, fuel = m + 2 := ⟨fuel - 2, by
      have hlength := congrArg List.length (htext [])
      simp at hlength hfuel
      omega⟩
    rw [htext, hvalue, skipLines_writeString, items_last]
    rfl
  | s :: s' :: ss =>
    rw [toList_writeStrings] at hfuel ⊢
    have hlength := length_itemLines (s :: s' :: ss)
    rw [List.length_cons] at hfuel
    rw [List.cons_append, hvalue, items_itemLines (by rw [List.length_append]; omega) (by omega),
      Option.map_some]

/-! ## What a text spells -/

/-- At the end of a line, the text is read as the value. -/
structure Spells (text : String) (v : Toml) : Prop where
  read : ∀ fuel rest, text.toList.length < fuel →
    value fuel deepest (text.toList ++ '\n' :: rest) = some (v, '\n' :: rest)
  start : ∀ rest, skip (text.toList ++ rest) = text.toList ++ rest

theorem spells_writeString (s : String) : Spells (writeString s) (.str s) := by
  constructor
  · intro fuel rest hfuel
    obtain ⟨fuel, rfl⟩ := Nat.exists_eq_succ_of_ne_zero (Nat.ne_of_gt (Nat.zero_lt_of_lt hfuel))
    exact value_writeString s ⟨by simp, by simp⟩
  · intro rest
    obtain ⟨q, more, hwrite, hq⟩ := exists_quote_writeString s
    rw [hwrite]
    exact skip_of_ne (ne_of_quote hq).1 _

theorem spells_toString {n : Nat} (h : (int64? n).isSome = true) :
    Spells (toString n) (.int n) := by
  have hdigits : (toString n).toList = Nat.toDigits 10 n := by simp
  constructor
  · intro fuel rest hfuel
    obtain ⟨fuel, rfl⟩ := Nat.exists_eq_succ_of_ne_zero (Nat.ne_of_gt (Nat.zero_lt_of_lt hfuel))
    rw [hdigits]
    exact value_toDigits h
  · intro rest
    rw [hdigits]
    cases hds : Nat.toDigits 10 n with
    | nil => exact absurd hds Nat.toDigits_ne_nil
    | cons d ds =>
      have hd : d.isDigit = true :=
        Nat.isDigit_of_mem_toDigits (b := 10) (n := n) (by decide) (by decide) (by simp [hds])
      exact skip_of_ne ⟨ne_of_isDigit hd (by decide), ne_of_isDigit hd (by decide)⟩ _

theorem spells_writeStrings (ss : List String) :
    Spells (writeStrings ss) (.array (ss.map .str)) := by
  refine ⟨fun fuel rest hfuel => value_writeStrings hfuel, fun rest => ?_⟩
  have hstart : ∃ more, (writeStrings ss).toList = '[' :: more := by
    match ss with
    | [] => exact ⟨_, rfl⟩
    | [s] => exact ⟨_, by rw [writeStrings, String.append_assoc, String.toList_append]; rfl⟩
    | s :: s' :: ss => exact ⟨_, toList_writeStrings s s' ss⟩
  obtain ⟨more, hmore⟩ := hstart
  rw [hmore]
  exact skip_of_ne (by decide) _

end ApkForge.Toml
