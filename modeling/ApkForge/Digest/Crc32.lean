-- The check sum of thirty-two bits that is the remainder of a division of polynomials, with the
-- length of the text behind the text.

namespace ApkForge.Crc32

/-- The divisor without its highest term. -/
def divisor : UInt32 := 0x04c11db7

/-- The remainder after so many more bits, which are zeros. -/
def shifted : Nat → UInt32 → UInt32
  | 0, r => r
  | n + 1, r => shifted n (if r &&& 0x80000000 == 0 then r <<< 1 else (r <<< 1) ^^^ divisor)

/-- The remainder after one more byte. -/
def absorb (r : UInt32) (byte : UInt8) : UInt32 := shifted 8 (r ^^^ (byte.toUInt32 <<< 24))

/-- The bytes of a length, the lowest first, without zeros at the end. -/
def lengthBytes : Nat → Nat → List UInt8
  | 0, _ => []
  | fuel + 1, n => if n == 0 then [] else UInt8.ofNat (n % 256) :: lengthBytes fuel (n / 256)

/-- The check sum of a text. -/
def sum (bytes : List UInt8) : UInt32 :=
  ~~~(bytes ++ lengthBytes 9 bytes.length).foldl absorb 0

end ApkForge.Crc32
