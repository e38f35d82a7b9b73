-- The conditions and sums of a rich shell that are commands: texts against patterns and
-- expressions, numbers, files, and what joins them.
import ApkForge.Script.Running
import ApkForge.Script.Testing
import ApkForge.Script.Trace

namespace ApkForge.Script

open Work

namespace Condition

/-- An expression as it is written, where what is quoted stands for itself. -/
def written (ms : List Marked) : String :=
  String.join (ms.map fun (c, quoted) =>
    if quoted && ".[]()*+?\x7b\x7d|^$\\".toList.contains c then String.ofList ['\\', c]
    else String.singleton c)

/-- A text is looked through for an expression. What its groups match is remembered. -/
def matches_ (f : Filler) (text : String) (word : Word) : Work (Option Bool) := do
  let e ← f.pattern word
  match Regex.ofExtended (written e) with
  | .error _ => return none
  | .ok e =>
    let s : Regex.Subject :=
      { text := text.toList.toArray, folds := (← get).has "nocasematch" }
    match Regex.search e s 0 with
    | none =>
      modify fun m => m.putValue "BASH_REMATCH" (.list [])
      return some false
    | some found =>
      let texts := (List.range (Regex.groupCount e + 1)).map fun i => (i, found.text s i)
      modify fun m => m.putValue "BASH_REMATCH" (.list texts)
      return some true

/-- An operand as it is traced. -/
def tracedOperand (text : String) : String := if text == "" then "''" else text

/-- A pattern as it is traced: what is quoted follows backslashes. -/
def tracedPattern (ms : List Marked) : String :=
  tracedOperand (String.join (ms.map fun (c, quoted) =>
    if quoted then String.ofList ['\\', c] else String.singleton c))

/-- Two operands compared by the sign between them; none if an expression is wrong. -/
def compare (f : Filler) (negated : Bool) (sign : String) (a b : Word) : Work (Option Bool) := do
  let text ← f.one a
  if (← get).has "xtrace" then
    let isPattern := ["=", "==", "!=", "=~"].contains sign
    let other ← if isPattern then do pure (tracedPattern (← f.pattern b))
      else do pure (tracedOperand (← f.one b))
    traceHead ("[[ " ++ (if negated then "! " else "") ++ tracedOperand text ++ " " ++ sign ++
      " " ++ other ++ " ]]")
  let fits := do
    let p := Pattern.ofMarked true true (← f.pattern b)
    if (← get).has "nocasematch" then
      let p := Pattern.ofMarked true true ((← f.pattern b).map fun m => (m.1.toLower, m.2))
      return Pattern.fits p (text.map Char.toLower)
    else return Pattern.fits p text
  let count := fun (f' : Int → Int → Bool) => do
    let x ← Filler.count text
    let y ← Filler.count (← f.one b)
    return some (f' x y)
  match sign with
  | "=" => return some (← fits)
  | "==" => return some (← fits)
  | "!=" => return some (!(← fits))
  | "=~" => matches_ f text b
  | "<" => return some (decide (text < (← f.one b)))
  | ">" => return some (decide ((← f.one b) < text))
  | "-eq" => count fun x y => x == y
  | "-ne" => count fun x y => x != y
  | "-lt" => count fun x y => x < y
  | "-le" => count fun x y => x ≤ y
  | "-gt" => count fun x y => y < x
  | "-ge" => count fun x y => y ≤ x
  | sign =>
    let other ← f.one b
    return (Testing.binary (← get) text sign other).toOption

/-- A condition holds; none if something in it is wrong. The trace shows that it is negated. -/
def holds (f : Filler) (negated : Bool) : Condition → Work (Option Bool)
  | .unary sign word => do
    let text ← f.one word
    traceHead ("[[ " ++ (if negated then "! " else "") ++ sign ++ " " ++ tracedOperand text ++
        " ]]")
    return some (Testing.unary (← get) sign text)
  | .binary sign a b => compare f negated sign a b
  | .not a => do return (← holds f (!negated) a).map (!·)
  | .both a b => do
    match ← holds f false a with
    | some true => holds f false b
    | other => return other
  | .either a b => do
    match ← holds f false a with
    | some false => holds f false b
    | other => return other

end Condition

/-- A condition as a command. -/
def testCondition (f : Filler) (c : Condition) : Work Unit := do
  match ← c.holds f false with
  | some holds => endsAs holds
  | none => ends 2

/-- A sum as a command: it ends well unless the sum is zero. A sum that is left out counts as one.
Its trace may show the blanks in front. -/
def sumOf (f : Filler) (shown : Bool) (word : Word) : Work (Option Int) := do
  let text ← f.one word
  traceHead ("(( " ++ String.ofList (text.toList.dropWhile fun c => !shown && Octet.isBlank c) ++
      " ))")
  if Octet.trim text == "" then return some 1
  match ← Filler.count? text with
  | .ok n => return some n
  | .error words =>
    say ("((: " ++ words)
    return none

end ApkForge.Script
