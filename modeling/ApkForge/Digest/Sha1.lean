-- SHA-1 over a list of bytes, by the constants and rounds of the standard.
import ApkForge.Digest.Md5

namespace ApkForge.Sha1

/-- The five words that the digest is carried in. -/
structure State where
  a : UInt32
  b : UInt32
  c : UInt32
  d : UInt32
  e : UInt32

/-- The words before the first block. -/
def State.start : State := ⟨0x67452301, 0xefcdab89, 0x98badcfe, 0x10325476, 0xc3d2e1f0⟩

/-- The schedule grown by `n` words, the newest first. -/
def grow : Nat → List UInt32 → List UInt32
  | 0, back => back
  | n + 1, back =>
    let w := back.getD 2 0 ^^^ back.getD 7 0 ^^^ back.getD 13 0 ^^^ back.getD 15 0
    grow n (Md5.turn w 1 :: back)

/-- One round, with its number and the word of the schedule. -/
def round (s : State) (w : Nat × UInt32) : State :=
  let (mixed, k) :=
    if w.1 < 20 then ((s.b &&& s.c) ||| (~~~s.b &&& s.d), 0x5a827999)
    else if w.1 < 40 then (s.b ^^^ s.c ^^^ s.d, 0x6ed9eba1)
    else if w.1 < 60 then ((s.b &&& s.c) ||| (s.b &&& s.d) ||| (s.c &&& s.d), 0x8f1bbcdc)
    else (s.b ^^^ s.c ^^^ s.d, (0xca62c1d6 : UInt32))
  ⟨Md5.turn s.a 5 + mixed + s.e + k + w.2, s.a, Md5.turn s.b 30, s.c, s.d⟩

/-- One block taken in. -/
def absorb (s : State) (block : List UInt8) : State :=
  let schedule := (grow 64 (Sha256.words block).reverse).reverse
  let r := ((List.range 80).zip schedule).foldl round s
  ⟨s.a + r.a, s.b + r.b, s.c + r.c, s.d + r.d, s.e + r.e⟩

/-- All blocks taken in, `n` of them. -/
def absorbAll : Nat → State → List UInt8 → State
  | 0, s, _ => s
  | n + 1, s, bytes => absorbAll n (absorb s (bytes.take 64)) (bytes.drop 64)

/-- The twenty bytes of the digest. -/
def digest (message : List UInt8) : List UInt8 :=
  let p := Sha256.padded message
  let s := absorbAll (p.length / 64) State.start p
  [s.a, s.b, s.c, s.d, s.e].flatMap Sha256.wordBytes

end ApkForge.Sha1
