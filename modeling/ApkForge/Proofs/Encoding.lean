-- Texts as bytes. The bytes of a text are well formed whatever the text, and read as the text
-- again: each character takes one to four of them, and which it is can be told from the first.
import ApkForge.Text.Utf8

namespace ApkForge.Utf8

/-! ## Bytes by their bits -/

theorem isTail_ofNat : ∀ m < 64, isTail (UInt8.ofNat (m + 128)) = true ∧
    low6 (UInt8.ofNat (m + 128)) = m := by decide +kernel

/-- What may follow the first of three bytes. Numbers below are written in two bytes, and those of
halves of pairs are none of characters. -/
theorem second3_ofNat : ∀ h < 16, ∀ m < 64, (h = 0 → 32 ≤ m) → (h = 13 → m < 32) →
    second3 (UInt8.ofNat (h + 224)) (UInt8.ofNat (m + 128)) = true := by decide +kernel

/-- What may follow the first of four bytes. Numbers below are written in three bytes, and those
above are none of characters. -/
theorem second4_ofNat : ∀ h < 5, ∀ m < 64, (h = 0 → 16 ≤ m) → (h = 4 → m < 16) →
    second4 (UInt8.ofNat (h + 240)) (UInt8.ofNat (m + 128)) = true := by decide +kernel

theorem first_of_one : ∀ v < 128, UInt8.ofNat v < 0x80 ∧ (UInt8.ofNat v).toNat = v := by
  decide +kernel

theorem first_of_two : ∀ h < 32, 2 ≤ h → ¬ UInt8.ofNat (h + 192) < 0x80 ∧
    (0xc2 ≤ UInt8.ofNat (h + 192) && UInt8.ofNat (h + 192) ≤ 0xdf) = true ∧
    (UInt8.ofNat (h + 192)).toNat % 32 = h := by decide +kernel

theorem first_of_three : ∀ h < 16, ¬ UInt8.ofNat (h + 224) < 0x80 ∧
    ¬ (0xc2 ≤ UInt8.ofNat (h + 224) && UInt8.ofNat (h + 224) ≤ 0xdf) = true ∧
    (0xe0 ≤ UInt8.ofNat (h + 224) && UInt8.ofNat (h + 224) ≤ 0xef) = true ∧
    (UInt8.ofNat (h + 224)).toNat % 16 = h := by decide +kernel

theorem first_of_four : ∀ h < 5, ¬ UInt8.ofNat (h + 240) < 0x80 ∧
    ¬ (0xc2 ≤ UInt8.ofNat (h + 240) && UInt8.ofNat (h + 240) ≤ 0xdf) = true ∧
    ¬ (0xe0 ≤ UInt8.ofNat (h + 240) && UInt8.ofNat (h + 240) ≤ 0xef) = true ∧
    (0xf0 ≤ UInt8.ofNat (h + 240) && UInt8.ofNat (h + 240) ≤ 0xf4) = true ∧
    (UInt8.ofNat (h + 240)).toNat % 8 = h := by decide +kernel

/-! ## One character -/

theorem front_two {h m : Nat} (hh : h < 32) (htwo : 2 ≤ h) (hm : m < 64) (rest : Bytes) :
    front (UInt8.ofNat (h + 192)) (UInt8.ofNat (m + 128) :: rest) =
      .char (Char.ofNat (h * 64 + m)) rest := by
  obtain ⟨hone, hfirst, hbits⟩ := first_of_two h hh htwo
  obtain ⟨htail, hlow⟩ := isTail_ofNat m hm
  simp only [front, if_neg hone, if_pos hfirst, if_pos htail, hbits, hlow]

theorem front_three {h m l : Nat} (hh : h < 16) (hm : m < 64) (hl : l < 64)
    (hshort : h = 0 → 32 ≤ m) (hhalf : h = 13 → m < 32) (rest : Bytes) :
    front (UInt8.ofNat (h + 224)) (UInt8.ofNat (m + 128) :: UInt8.ofNat (l + 128) :: rest) =
      .char (Char.ofNat (h * 4096 + m * 64 + l)) rest := by
  obtain ⟨hone, htwo, hfirst, hbits⟩ := first_of_three h hh
  have hsecond := second3_ofNat h hh m hm hshort hhalf
  have hmlow := (isTail_ofNat m hm).2
  obtain ⟨htail, hlow⟩ := isTail_ofNat l hl
  simp only [front, if_neg hone, if_neg htwo, if_pos hfirst, if_pos hsecond, if_pos htail, hbits,
    hmlow, hlow]

theorem front_four {h m l k : Nat} (hh : h < 5) (hm : m < 64) (hl : l < 64) (hk : k < 64)
    (hshort : h = 0 → 16 ≤ m) (hlast : h = 4 → m < 16) (rest : Bytes) :
    front (UInt8.ofNat (h + 240))
        (UInt8.ofNat (m + 128) :: UInt8.ofNat (l + 128) :: UInt8.ofNat (k + 128) :: rest) =
      .char (Char.ofNat (h * 262144 + m * 4096 + l * 64 + k)) rest := by
  obtain ⟨hone, htwo, hthree, hfirst, hbits⟩ := first_of_four h hh
  have hsecond := second4_ofNat h hh m hm hshort hlast
  have hmlow := (isTail_ofNat m hm).2
  obtain ⟨hltail, hllow⟩ := isTail_ofNat l hl
  obtain ⟨htail, hlow⟩ := isTail_ofNat k hk
  simp only [front, if_neg hone, if_neg htwo, if_neg hthree, if_pos hfirst, if_pos hsecond,
    if_pos hltail, if_pos htail, hbits, hmlow, hllow, hlow]

/-- The bytes of a character are read as that character, whatever follows them. -/
theorem front_encode (c : Char) (rest : Bytes) :
    ∃ a more, String.utf8EncodeChar c = a :: more ∧ front a (more ++ rest) = .char c rest := by
  obtain ⟨v, hv⟩ : ∃ v, c.toNat = v := ⟨_, rfl⟩
  have hvalid : v < 0xd800 ∨ 0xdfff < v ∧ v < 0x110000 := by
    rw [← hv]
    exact c.valid
  have hchar : ∀ n, n = v → Char.ofNat n = c := by
    rintro n rfl
    rw [← hv, Char.ofNat_toNat]
  have hnat : c.val.toNat = v := hv
  unfold String.utf8EncodeChar
  simp only [hnat]
  split
  · obtain ⟨hone, hbits⟩ := first_of_one v (by omega)
    refine ⟨_, [], rfl, ?_⟩
    unfold front
    rw [if_pos hone, hbits, hchar v rfl]
    rfl
  split
  · refine ⟨_, [_], rfl, ?_⟩
    rw [List.cons_append, front_two (by omega) (by omega) (by omega), hchar _ (by omega)]
    rfl
  split
  · refine ⟨_, [_, _], rfl, ?_⟩
    rw [List.cons_append, List.cons_append, front_three (by omega) (by omega) (by omega) (by omega)
      (by omega), hchar _ (by omega)]
    rfl
  · refine ⟨_, [_, _, _], rfl, ?_⟩
    have hhigh : v / 262144 % 8 < 5 := by omega
    rw [List.cons_append, List.cons_append, List.cons_append, front_four hhigh (by omega)
      (by omega) (by omega) (by omega) (by omega), hchar _ (by omega)]
    rfl

/-! ## Whole texts -/

theorem decodeChars_encode (cs : List Char) :
    decodeChars (cs.flatMap String.utf8EncodeChar) = some cs := by
  induction cs with
  | nil => rw [List.flatMap_nil, decodeChars]
  | cons c rest ih =>
    obtain ⟨a, more, hbytes, hfront⟩ := front_encode c (rest.flatMap String.utf8EncodeChar)
    rw [List.flatMap_cons, hbytes, List.cons_append, decodeChars]
    split
    · rename_i hread
      rw [hfront] at hread
      cases hread
      rw [ih]
      rfl
    · rename_i hread
      rw [hfront] at hread
      cases hread

/-- The bytes of a text are read as the text. -/
theorem decode?_encode (s : String) : decode? (encode s) = some s := by
  rw [decode?, encode, decodeChars_encode, Option.map_some, String.ofList_toList]

end ApkForge.Utf8
