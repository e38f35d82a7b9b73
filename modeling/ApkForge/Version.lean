-- The version that a program tells about itself: the first number in its output, with what belongs
-- to it.
import ApkForge.Text.Digit

namespace ApkForge.Version

/-- Further numbers, each after a dot. A dot without a number after it does not belong to them. -/
def dotted : Nat → List Char → List Char
  | 0, _ => []
  | fuel + 1, '.' :: rest =>
    match rest.takeWhile Text.isDigit with
    | [] => []
    | ds => '.' :: ds ++ dotted fuel (rest.drop ds.length)
  | _ + 1, _ => []

/-- A number after an underline. -/
def update : List Char → List Char
  | '_' :: rest =>
    match rest.takeWhile Text.isDigit with
    | [] => []
    | ds => '_' :: ds
  | _ => []

/-- The version at the front of a text that begins with a digit. -/
def atFront (cs : List Char) : List Char :=
  let first := cs.takeWhile Text.isDigit
  let rest := cs.drop first.length
  let more := dotted rest.length rest
  first ++ more ++ update (rest.drop more.length)

/-- The first version in a text. -/
def find? (text : String) : Option String :=
  match text.toList.dropWhile fun c => !Text.isDigit c with
  | [] => none
  | cs => some (String.ofList (atFront cs))

end ApkForge.Version
