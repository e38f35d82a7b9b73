-- UTF-8. A byte string is read one character at a time; a reader either stops at the first fault
-- or writes one replacement character for each longest broken sequence.

namespace ApkForge

/-- Raw bytes: the content of a file, or what a tool printed. -/
abbrev Bytes := List UInt8

namespace Utf8

/-- The bytes of a text. -/
def encode (s : String) : Bytes := s.toList.flatMap String.utf8EncodeChar

/-! ## One character -/

/-- What stands at the front of a byte string: a character, or the start of a broken sequence
that ends before `rest`. -/
inductive Front where
  | char (c : Char) (rest : Bytes)
  | broken (rest : Bytes)

/-- True for a byte that continues a character. -/
def isTail (b : UInt8) : Bool := 0x80 ≤ b && b ≤ 0xbf

/-- The low six bits of a continuing byte. -/
def low6 (b : UInt8) : Nat := b.toNat % 64

/-- The bytes that may follow the first byte of a character of three bytes. -/
def second3 (a b : UInt8) : Bool :=
  if a == 0xe0 then 0xa0 ≤ b && b ≤ 0xbf
  else if a == 0xed then 0x80 ≤ b && b ≤ 0x9f
  else isTail b

/-- The bytes that may follow the first byte of a character of four bytes. -/
def second4 (a b : UInt8) : Bool :=
  if a == 0xf0 then 0x90 ≤ b && b ≤ 0xbf
  else if a == 0xf4 then 0x80 ≤ b && b ≤ 0x8f
  else isTail b

/-- The character at the front of `a :: rest`, by the table of well-formed sequences. -/
def front (a : UInt8) (rest : Bytes) : Front :=
  if a < 0x80 then .char (Char.ofNat a.toNat) rest
  else if 0xc2 ≤ a && a ≤ 0xdf then
    match rest with
    | b :: r => if isTail b then .char (Char.ofNat (a.toNat % 32 * 64 + low6 b)) r else .broken rest
    | [] => .broken rest
  else if 0xe0 ≤ a && a ≤ 0xef then
    match rest with
    | b :: r1 =>
      if second3 a b then
        match r1 with
        | c :: r2 =>
          if isTail c then
            .char (Char.ofNat (a.toNat % 16 * 4096 + low6 b * 64 + low6 c)) r2
          else .broken r1
        | [] => .broken r1
      else .broken rest
    | [] => .broken rest
  else if 0xf0 ≤ a && a ≤ 0xf4 then
    match rest with
    | b :: r1 =>
      if second4 a b then
        match r1 with
        | c :: r2 =>
          if isTail c then
            match r2 with
            | d :: r3 =>
              if isTail d then
                .char (Char.ofNat
                  (a.toNat % 8 * 262144 + low6 b * 4096 + low6 c * 64 + low6 d)) r3
              else .broken r2
            | [] => .broken r2
          else .broken r1
        | [] => .broken r1
      else .broken rest
    | [] => .broken rest
  else .broken rest

/-- What is left to read. -/
def Front.rest : Front → Bytes
  | .char _ r => r
  | .broken r => r

/-- Reading takes at least one byte. -/
theorem front_rest_le (a : UInt8) (rest : Bytes) : (front a rest).rest.length ≤ rest.length := by
  unfold front
  repeat' split
  all_goals simp [Front.rest]
  all_goals omega

/-! ## Whole texts -/

/-- The characters of well-formed bytes; none at the first fault. -/
def decodeChars : Bytes → Option (List Char)
  | [] => some []
  | a :: rest =>
    match _h : front a rest with
    | .char c r => (decodeChars r).map (c :: ·)
    | .broken _ => none
termination_by bs => bs.length
decreasing_by
  have := front_rest_le a rest
  rw [_h] at this
  simp only [Front.rest] at this
  simp; omega

/-- The text of well-formed bytes. -/
def decode? (bytes : Bytes) : Option String := (decodeChars bytes).map String.ofList

/-- The characters of any bytes, with U+FFFD for each broken sequence. -/
def lossyChars : Bytes → List Char
  | [] => []
  | a :: rest =>
    match _h : front a rest with
    | .char c r => c :: lossyChars r
    | .broken r => Char.ofNat 0xfffd :: lossyChars r
termination_by bs => bs.length
decreasing_by
  all_goals
    have := front_rest_le a rest
    rw [_h] at this
    simp only [Front.rest] at this
    simp; omega

/-- The text of any bytes, with U+FFFD for each broken sequence. -/
def decodeLossy (bytes : Bytes) : String := String.ofList (lossyChars bytes)

end Utf8

end ApkForge
