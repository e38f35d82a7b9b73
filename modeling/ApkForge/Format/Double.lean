-- The range of doubles, told by natural numbers alone. A decimal number may round to an infinity at
-- once, or only when it is read in two steps, its digits first and then their power of ten.

namespace ApkForge.Double

/-- The least number that rounds to an infinity. -/
def firstInfinite : Nat := Nat.pow 2 1024 - Nat.pow 2 970

/-- A number `m · 10^e` is beyond the doubles when it would round to an infinity. -/
def tooLarge (m : Nat) (e : Int) : Bool :=
  if m == 0 then false
  else if e ≥ 0 then
    if e > 400 then true else m * Nat.pow 10 e.toNat ≥ firstInfinite
  else
    let d := (-e).toNat
    if d > 100000 then false else m ≥ firstInfinite * Nat.pow 10 d

/-- The binary digits that a double keeps. -/
def precision : Nat := 53

/-- The double nearest to a number within the range; of two the one whose last digit is even. -/
def nearest (n : Nat) : Nat :=
  if n.log2 < precision then n
  else
    let unit := Nat.pow 2 (n.log2 + 1 - precision)
    let (kept, cut) := (n / unit, n % unit)
    let up := 2 * cut > unit || (2 * cut == unit && kept % 2 == 1)
    (if up then kept + 1 else kept) * unit

/-- The largest power of ten within the range. -/
def largestPower : Nat := 308

/-- Digits times a power of ten are beyond the doubles when each is rounded before they are
multiplied. -/
def productTooLarge (m : Nat) (e : Int) : Bool :=
  if m == 0 || e ≤ 0 then false
  else if e > Int.ofNat largestPower then true
  else nearest m * nearest (Nat.pow 10 e.toNat) ≥ firstInfinite

end ApkForge.Double
