-- Texts of scripts. A shell knows bytes and no characters, so every text in it has one character
-- for each byte, with the byte as its code.
import ApkForge.Text.Split
import ApkForge.Text.Utf8

namespace ApkForge.Script.Octet

/-- The text that has a character for each byte. -/
def ofBytes (bytes : Bytes) : String := String.ofList (bytes.map fun b => Char.ofNat b.toNat)

/-- The bytes of a text that has a character for each. -/
def toBytes (s : String) : Bytes := s.toList.map fun c => UInt8.ofNat c.toNat

/-- The text with a character for each byte of another text. -/
def ofText (s : String) : String :=
  if s.toList.all fun c => c.toNat < 128 then s else ofBytes (Utf8.encode s)

/-- The text whose bytes have a character each. -/
def toText (s : String) : String :=
  if s.toList.all fun c => c.toNat < 128 then s else Utf8.decodeLossy (toBytes s)

/-! ## Lines -/

/-- The lines of a text without their ends, and whether the last one was ended. -/
def lines (s : String) : List String × Bool :=
  match (Text.split '\n' s).reverse with
  | "" :: before => (before.reverse, true)
  | _ => (Text.split '\n' s, false)

/-- A text without the line ends at its end. -/
def dropLineEnds (s : String) : String :=
  String.ofList (s.toList.reverse.dropWhile fun c => c == '\n').reverse

/-- Lines, each with its end. -/
def unlines (ls : List String) : String := String.join (ls.map fun l => l ++ "\n")

/-- A blank. -/
def isBlank (c : Char) : Bool := c == ' ' || c == '\t'

/-- A blank or what else takes only room. -/
def isSpace (c : Char) : Bool := c == ' ' || ('\t' ≤ c && c ≤ '\r')

/-- The words of a text between blanks. -/
def words (s : String) : List String :=
  ((s.toList.splitBy fun a b => isSpace a == isSpace b).filter fun w =>
    !(w.head?.map isSpace).getD true).map String.ofList

/-- A text without the blanks around it. -/
def trim (s : String) : String :=
  String.ofList ((s.toList.dropWhile isSpace).reverse.dropWhile isSpace).reverse

end ApkForge.Script.Octet
