-- Filling in the words of a script: parameters and what is changed about them, sums, the output of
-- scripts, and patterns that stand for files. What runs scripts is given.
import ApkForge.Script.Field
import ApkForge.Script.Machine
import ApkForge.Script.Sum

namespace ApkForge.Script

open Work

/-- How scripts within words are run: for their output, or for a file that leads to one. -/
structure Filler where
  output : Nat → Node → Work String
  stream : Bool → Node → Work String

namespace Filler

/-! ## Parameters -/

/-- What is filled in for a parameter: one text, if it has one, or several. -/
inductive Subject where
  | one (text : Option String)
  | several (joined : Bool) (texts : List String)
deriving Inhabited

/-- A parameter without a value is a fault of a careful script. -/
def expectSet (name : String) (value? : Option String) (bare : Bool := false) : Work Unit := do
  let m ← get
  if m.has "nounset" && value?.isNone && name != "@" && name != "*" then
    if m.rich then
      report ((if bare && !isName name then "$" else "") ++ name ++ ": unbound variable")
      exits 1
    else mistake (name ++ ": parameter not set")

/-- A name stands in a text. -/
def containsName (name text : String) : Bool :=
  (Regex.search (Regex.literal name.toList) { text := text.toList.toArray } 0).isSome

/-- The number of a text as a sum, whose variables are set, or what is wrong with it. -/
def count? (text : String) : Work (Except String Int) := do
  if containsName "RANDOM" text then modify fun m => if m.rich then m.draw else m
  let m ← get
  if m.rich && m.has "nounset" then
    match (Sum.namesRead [] text).find? fun name => (m.held? name).isNone with
    | some name =>
      report (name ++ ": unbound variable")
      exits 1
    | none => pure ()
  let tables := m.vars.filterMap fun v => match v.2.value with
    | some (.table _) => some v.1
    | _ => none
  let entry? := fun (name : String) => match Text.split '[' name with
    | [table, key] => some (table, (Text.dropTail? "]" key).getD key)
    | _ => none
  let value := fun (t : Sum.Target) =>
    match t.2 with
    | none => match entry? t.1 with
      | some (table, key) => ((m.held? table).bind fun v => v.element? key).getD ""
      | none => m.value t.1
    | some n =>
      let elements := ((m.held? t.1).map Value.elements).getD []
      let index := if n < 0 then toString (n + Int.ofNat elements.length) else toString n
      (((m.held? t.1).bind fun v => v.element? index).getD "")
  match Sum.value m.rich tables value text with
  | .error words => return .error words
  | .ok (n, stored) =>
    stored.reverse.forM fun (t, text) => do
      match t.2 with
      | none => match entry? t.1 with
        | some (table, key) => modify fun m => m.putAt table key text
        | none => assign t.1 text
      | some index => modify fun m => m.putAt t.1 (toString index) text
    return .ok n

/-- The number of a text as a sum. -/
def count (text : String) : Work Int := do
  match ← count? text with
  | .ok n => return n
  | .error words => mistake words

/-- The key that an index means for a variable: itself for a table, a number for a list. -/
def keyOf (name text : String) : Work String := do
  let m ← get
  match m.held? name with
  | some (.table _) => return text
  | held =>
    let n ← count text
    if n < 0 then
      let last := ((held.map Value.keys).getD []).getLast?.bind String.toNat?
      return toString (n + 1 + Int.ofNat (last.getD 0))
    else return toString n

/-- The elements of a variable. -/
def elements (m : Machine) (name : String) : List String :=
  ((m.held? name).map Value.elements).getD []

/-- The sign that joins elements. -/
def joiner (m : Machine) : String :=
  match ((m.var "IFS").getD " ").toList with
  | [] => ""
  | c :: _ => String.singleton c

/-! ## Changes -/

/-- A text with its first letter or all that match a pattern in another case. -/
def inCase (upper all : Bool) (fits : Char → Bool) (text : String) : String :=
  let change := fun (c : Char) => if !fits c then c else if upper then c.toUpper else c.toLower
  match text.toList with
  | [] => ""
  | c :: cs => String.ofList (change c :: (if all then cs.map change else cs))

/-- A character that a shell takes as it is. -/
def isSafe (c : Char) : Bool := c.isAlphanum || "_-+.,/:@%=".toList.contains c

/-- A text in quotes that a shell would read again, if it needs any. -/
def requoted (text : String) : String :=
  let close := fun (c : Char) => if c == '\x27' then "'\\''" else String.singleton c
  "'" ++ String.join (text.toList.map close) ++ "'"

/-- Items from a start on, or so many; both may count from the end. -/
def sliced {α : Type} (items : List α) (start : Int) (length : Option Int) : Option (List α) :=
  let size := Int.ofNat items.length
  let start := if start < 0 then start + size else start
  if start < 0 || size < start then some []
  else
    let rest := items.drop start.toNat
    match length with
    | none => some rest
    | some n =>
      if n < 0 then
        if n + Int.ofNat rest.length < 0 then none
        else some (rest.take (n + Int.ofNat rest.length).toNat)
      else some (rest.take n.toNat)

/-- A change of each of several texts, or of one. -/
def Subject.map (f : String → String) : Subject → Subject
  | .one text => .one (text.map f)
  | .several joined texts => .several joined (texts.map f)

/-- The subject as one text. -/
def Subject.text? (m : Machine) : Subject → Option String
  | .one text => text
  | .several joined texts =>
    if texts.isEmpty then none else some (Text.join (if joined then joiner m else " ") texts)

/-- What a subject fills in. -/
def Subject.filled (m : Machine) (inQuotes : Bool) : Subject → Filled
  | .one text => .ofText inQuotes (text.getD "")
  | .several joined texts =>
    if joined && inQuotes then .fixed true (Text.join (joiner m) texts)
    else .several inQuotes texts

/-- What a pattern means in a shell. -/
def patternOf (m : Machine) (word : List Marked) : Regex :=
  Pattern.ofMarked m.rich (m.rich && m.has "extglob") word

/-- The texts that a parameter name means, if it means several. -/
def all? (m : Machine) (name : String) : Option Subject :=
  if name == "@" then some (.several false m.args)
  else if name == "*" then some (.several true m.args)
  else none

/-- The home that a tilde with a name means. -/
def home? (m : Machine) (user : String) : Option String :=
  if user == "" then (m.var "HOME").or (if m.rich then some "/root" else none)
  else if user == "root" then some "/root"
  else if user == "+" && m.rich then m.var "PWD"
  else none

/-- A text that begins with a tilde, cut into what the tilde means and the rest. -/
def tilde? (m : Machine) (inValue isLast : Bool) (text : String) : Option (String × String) :=
  match text.toList with
  | '~' :: cs =>
    let user := cs.takeWhile fun c => c != '/' && !(inValue && c == ':')
    let rest := cs.drop user.length
    if rest.isEmpty && !isLast then none
    else (home? m (String.ofList user)).map fun home => (home, String.ofList rest)
  | _ => none

/-- A word with the tildes at its beginning, and after colons in a value, filled in. -/
def fromHome (m : Machine) (inValue : Bool) : Word → Word
  | .plain s :: rest =>
    let parts := if inValue then Text.split ':' s else [s]
    let pieces := (List.range parts.length).map fun i =>
      let part := parts.getD i ""
      let isLast := i + 1 < parts.length || rest.isEmpty
      let front := if i == 0 then [] else [Piece.plain ":"]
      match tilde? m (inValue || m.rich) isLast part with
      | some (home, after) => front ++ [.quoted home, .plain after]
      | none => front ++ [.plain part]
    pieces.flatten ++ rest
  | word => word

/-- A word of a command with its tildes filled in. A rich shell takes one that looks like an
assignment for one. -/
def fromHomes (m : Machine) (word : Word) : Word :=
  match word with
  | .plain s :: rest =>
    let name := String.ofList (s.toList.takeWhile isNameChar)
    match s.toList.drop name.length with
    | '=' :: value =>
      if m.rich && isName name then
        .plain (name ++ "=") :: fromHome m true (.plain (String.ofList value) :: rest)
      else fromHome m false word
    | _ => fromHome m false word
  | word => word

mutual

/-- A piece filled in. -/
def piece (f : Filler) (fuel : Nat) (p : Piece) : Work Filled :=
  match fuel with
  | 0 => return .fixed true ""
  | fuel + 1 =>
    match p with
    | .plain text => return .fixed false text
    | .quoted text => return .fixed true text
    | .elements _ => return .fixed true ""
    | .output inQuotes line body => do return .ofText inQuotes (← f.output line body)
    | .stream writes body => do return .fixed true (← f.stream writes body)
    | .sum inQuotes word => do
      let n ← count (← text f fuel word)
      return .ofText inQuotes (toString n)
    | .keys inQuotes name sign => do
      let m ← get
      let keys := ((m.held? name).map Value.keys).getD []
      return (Subject.several (sign == "*") keys).filled m inQuotes
    | .names inQuotes front sign => do
      let m ← get
      let names := (m.vars.map Prod.fst).filter fun name => Text.beginsWith front name
      let sorted := sortBy (fun a b => decide (a < b)) names
      return (Subject.several (sign == "*") sorted).filled m inQuotes
    | .size inQuotes name index => do
      match ← subject f fuel name index with
      | .one text =>
        expectSet name text
        return .ofText inQuotes (toString (text.getD "").length)
      | .several _ texts =>
        let m ← get
        return .ofText inQuotes (toString (if m.rich || name != "*" && name != "@" then texts.length
          else (Text.join (joiner m) texts).length))
    | .through inQuotes name index change => do
      let m ← get
      let refers := ((m.own? name).map Variable.refers).getD false
      let named ← if refers then pure (Subject.one (some (m.target name)))
        else subject f fuel name index
      if refers then return named.filled m inQuotes
      match named.text? m with
      | none =>
        mistake (name ++ ": invalid indirect expansion")
      | some other =>
        let (target, key) := match Text.split '[' other with
          | [target, key] => (target, some [Piece.plain (String.ofList key.toList.dropLast)])
          | _ => (other, none)
        changed f fuel inQuotes target target (← subject f fuel target key) change
    | .param inQuotes name index change => do
      let shown := name ++ match index with
        | some word => "[" ++ Word.raw word ++ "]"
        | none => ""
      changed f fuel inQuotes name shown (← subject f fuel name index) change
termination_by structural fuel

/-- What a parameter with an index means. -/
def subject (f : Filler) (fuel : Nat) (name : String) (index : Option Word) : Work Subject :=
  match fuel with
  | 0 => return .one none
  | fuel + 1 => do
    if name == "RANDOM" then modify fun m => if m.rich then m.draw else m
    let m ← get
    match index with
    | none =>
      match all? m name with
      | some several => return several
      | none => return .one (m.value? name)
    | some word =>
      match word.plain? with
      | some "@" => return .several false (elements m name)
      | some "*" => return .several true (elements m name)
      | _ =>
        let key ← keyOf name (← text f fuel word)
        return .one ((m.held? name).bind fun v => v.element? key)
termination_by structural fuel

/-- A changed parameter filled in. -/
def changed (f : Filler) (fuel : Nat) (inQuotes : Bool) (name shown : String) (s : Subject)
    (change : Change) : Work Filled :=
  match fuel with
  | 0 => return .fixed true ""
  | fuel + 1 => do
    let m ← get
    let held := s.text? m
    let counts := fun (emptyToo : Bool) => held.filter fun v => !(emptyToo && v == "")
    let other := fun (word : Word) => do
      let word := fromHome (← get) false word
      let pieces ← all f fuel word
      if inQuotes then return [.fixed true (unmarked (Filled.whole pieces))] else return pieces
    let joined := fun (pieces : List Filled) => match pieces with
      | [only] => only
      | pieces => Filled.ofText inQuotes (unmarked (Filled.whole pieces))
    match change with
    | .none =>
      if s matches .one _ then expectSet shown held
      return s.filled m inQuotes
    | .bare =>
      expectSet shown held true
      return s.filled m inQuotes
    | .orElse emptyToo assigns word =>
      if (counts emptyToo).isSome then return s.filled m inQuotes
      let pieces ← other word
      if assigns then
        let value := unmarked (Filled.whole pieces)
        if !isName name then mistake (name ++ ": bad variable name")
        assign name value
        return .ofText inQuotes value
      return joined pieces
    | .orFail emptyToo word =>
      if (counts emptyToo).isSome then return s.filled m inQuotes
      let words := unmarked (Filled.whole (← other word))
      let words := if !word.isEmpty then words
        else if emptyToo then "parameter " ++ (if m.rich then "null or not set"
          else "not set or null")
        else "parameter not set"
      report (name ++ ": " ++ words)
      exits (if m.rich then 1 else 2)
    | .ifSet emptyToo word =>
      if (counts emptyToo).isSome then return joined (← other word)
      return .ofText inQuotes ""
    | .withoutFront longest word =>
      expectSet shown held
      let p := patternOf m (← marked f fuel word)
      return (s.map (Pattern.dropFront longest p)).filled m inQuotes
    | .withoutEnd longest word =>
      expectSet shown held
      let p := patternOf m (← marked f fuel word)
      return (s.map (Pattern.dropEnd longest p)).filled m inQuotes
    | .replace sign word with_ =>
      expectSet shown held
      let p := patternOf m (← marked f fuel word)
      let put ← text f fuel with_
      let replaced := fun (text : String) =>
        if word.isEmpty then text
        else if sign == "#" then
          match Pattern.best? true (Pattern.fronts p text.toList) with
          | some n => put ++ String.ofList (text.toList.drop n)
          | none => text
        else if sign == "%" then
          let front := Pattern.dropEnd true p text
          if front == text && !Pattern.fits p "" then text else front ++ put
        else Pattern.replace p (sign == "/") put text
      return (s.map replaced).filled m inQuotes
    | .letters upper all word =>
      expectSet shown held
      let fits ← if word.isEmpty then pure fun _ => true
        else do
          let p := patternOf m (← marked f fuel word)
          pure fun c => Pattern.fits p (String.singleton c)
      return (s.map (inCase upper all fits)).filled m inQuotes
    | .shown letter =>
      let show_ := fun (text : String) =>
        if letter == 'U' then inCase true true (fun _ => true) text
        else if letter == 'L' then inCase false true (fun _ => true) text
        else if letter == 'u' then inCase true false (fun _ => true) text
        else if letter == 'Q' then requoted text
        else text
      return (s.map show_).filled m inQuotes
    | .slice start length =>
      expectSet shown held
      let from_ ← count (← text f fuel start)
      let length ← match length with
        | none => pure none
        | some word => do pure (some (← count (← text f fuel word)))
      let short := fun (n : Option Int) =>
        mistake ((n.map toString).getD "" ++ ": substring expression < 0")
      match s with
      | .one text =>
        match sliced ((text.getD "").toList) from_ length with
        | some cs => return .ofText inQuotes (String.ofList cs)
        | none => short length
      | .several joined texts =>
        if ((length.map fun n => decide (n < 0)).getD false) && !(name == "@" || name == "*") then
          return ← short length
        let texts := if name == "@" || name == "*" then m.name :: texts else texts
        match m.held? name with
        | some (.list elements) =>
          let from_ := if 0 ≤ from_ then from_
            else from_ + 1 + Int.ofNat ((elements.getLast?.map Prod.fst).getD 0)
          let rest := (elements.filter fun e => from_ ≤ Int.ofNat e.1).map Prod.snd
          let rest := match length with
            | some n => rest.take n.toNat
            | none => rest
          return (Subject.several joined (if from_ < 0 then [] else rest)).filled m inQuotes
        | _ =>
          match sliced texts from_ length with
          | some texts => return (Subject.several joined texts).filled m inQuotes
          | none => short length
    | .bad text =>
      if m.rich then mistake (text ++ ": bad substitution") else mistake "Bad substitution"
termination_by structural fuel

/-- The pieces of a word filled in, from left to right. -/
def all (f : Filler) (fuel : Nat) (word : Word) : Work (List Filled) :=
  match fuel with
  | 0 => return []
  | fuel + 1 =>
    match word with
    | [] => return []
    | p :: ps => do
      let filled ← piece f fuel p
      return filled :: (← all f fuel ps)
termination_by structural fuel

/-- A word filled in as one marked text. -/
def marked (f : Filler) (fuel : Nat) (word : Word) : Work (List Marked) :=
  match fuel with
  | 0 => return []
  | fuel + 1 => do return Filled.whole (← all f fuel word)
termination_by structural fuel

/-- A word filled in as one text. -/
def text (f : Filler) (fuel : Nat) (word : Word) : Work String :=
  match fuel with
  | 0 => return ""
  | fuel + 1 => do return unmarked (← marked f fuel word)
termination_by structural fuel

end

/-! ## Words -/

/-- How deep words are filled in, at least for a word of so many pieces. -/
def depth (word : Word) : Nat := word.length + 200

/-- A word filled in as words: cut at blanks, and with patterns as the paths that they match. -/
def fields (f : Filler) (word : Word) : Work (List String) := do
  let filled ← f.all (depth word) (fromHomes (← get) word)
  let m ← get
  let words := Filled.words m.cutters filled
  if m.has "noglob" then return words.map unmarked
  let g : Pattern.Globbing :=
    { rich := m.rich, grouped := m.rich && m.has "extglob", deep := m.rich && m.has "globstar"
      hidden := m.rich && m.has "dotglob" }
  let lists ← words.mapM fun w => do
    match Pattern.paths g m.world.disk m.here w with
    | some found => return found
    | none =>
      if !Pattern.isPattern g.grouped w then return [unmarked w]
      else if m.has "failglob" then mistake ("no match: " ++ unmarked w)
      else if m.has "nullglob" then return []
      else return [unmarked w]
  return lists.flatten

/-- Words filled in from left to right, with braces in a rich shell. -/
def args (f : Filler) : List Word → Work (List String)
  | [] => return []
  | w :: ws => do
    let own ← if (← get).rich then do
        let lists ← (Braces.expand w).mapM f.fields
        pure lists.flatten
      else f.fields w
    return own ++ (← args f ws)

/-- A word filled in as one marked text. -/
def pattern (f : Filler) (word : Word) : Work (List Marked) := do
  f.marked (depth word) (fromHome (← get) false word)

/-- A word filled in as one text. -/
def one (f : Filler) (word : Word) : Work String := do
  f.text (depth word) (fromHome (← get) false word)

/-- A word filled in as the value of a variable. -/
def valueOf (f : Filler) (word : Word) : Work String := do
  f.text (depth word) (fromHome (← get) true word)

end Filler

end ApkForge.Script
