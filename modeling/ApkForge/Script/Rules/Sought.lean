-- Expressions that rules look for, in their extended form. A backslash takes the meaning from any
-- character that has one, and braces stand for themselves.
import ApkForge.Regex.Reader
import ApkForge.Script.Rules.Tokens

namespace ApkForge.Script.Rules.Sought

/-- The characters that mean something in an expression. -/
def special : List Char := "\\^$.[]|()*+?\x7b\x7d".toList

/-- The character that an escape stands for, which keeps its backslash if it would mean something
without it. -/
def plain (c : Char) : List Char := if special.contains c then ['\\', c] else [c]

/-- An expression in which escapes stand for characters. -/
def normal : Nat → Bool → List Char → List Char
  | 0, _, cs => cs
  | _, _, [] => []
  | fuel + 1, inside, c :: cs =>
    if c == '\\' then
      match Token.numbered? cs with
      | some (d, rest) => plain d ++ normal fuel inside rest
      | none => match cs with
        | [] => ['\\', '\\']
        | d :: rest =>
          match [('a', '\x07'), ('b', '\x08'), ('f', '\x0c'), ('n', '\n'), ('r', '\r'), ('t', '\t'),
              ('v', '\x0b')].lookup d with
          | some e => e :: normal fuel inside rest
          | none => plain d ++ normal fuel inside rest
    else if inside then c :: normal fuel (c != ']') cs
    else if c == '[' then
      match cs with
      | '^' :: ']' :: rest => c :: '^' :: ']' :: normal fuel true rest
      | ']' :: rest => c :: ']' :: normal fuel true rest
      | _ => c :: normal fuel true cs
    else if c == '\x7b' || c == '\x7d' then '\\' :: c :: normal fuel false cs
    else c :: normal fuel false cs

/-- The form of the expressions. -/
def form : Regex.Form :=
  { extended := true, escapes := fun c => some c, inBrackets := true }

/-- What is wrong with an expression, in words. -/
def faultWords : Regex.Fault → String
  | .group => "missing ')'"
  | .closing => "missing '('"
  | .bracket => "class -- [], [^] or ["
  | .invalid => "class -- [], [^] or ["
  | .range => "bad class -- [], [^] or ["
  | _ => "syntax error ^* or ^+"

/-- The expression that a text is; or what is wrong with it. -/
def read (text : String) : Except String Regex :=
  match Regex.read form (String.ofList (normal (text.length + 1) false text.toList)) with
  | .ok e => .ok e
  | .error fault =>
    .error ("regular expression compile failed (" ++ faultWords fault ++ ")\n" ++ text)

end ApkForge.Script.Rules.Sought
