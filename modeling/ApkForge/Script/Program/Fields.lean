-- The host's programs that cut out parts of lines and that translate characters.
import ApkForge.Script.Program.Lines

namespace ApkForge.Script.Program

open Work

/-! ## Cutting -/

/-- Numbers from a first to a last one, or to the end. -/
structure Range where
  first : Nat
  last : Option Nat
deriving Inhabited

/-- A number is in one of some ranges. -/
def inRanges (ranges : List Range) (n : Nat) : Bool :=
  ranges.any fun r => r.first ≤ n && (r.last.map fun last => decide (n ≤ last)).getD true

/-- The items at positions that are chosen, counted from one. -/
def keptAt {α : Type} (chosen : Nat → Bool) (items : List α) : List α :=
  ((List.range items.length).zip items).filterMap fun (i, a) =>
    if chosen (i + 1) then some a else none

/-- What a list of ranges chooses: parts of lines, or characters. -/
inductive Chosen where
  | fields
  | characters
deriving DecidableEq, Repr, Inhabited

/-- Why a list of ranges cannot be read. -/
inductive RangeFault where
  | zero
  | tooLarge (number : String)
  | strange (rest : String)
  | decreasing
  | endless
  | dashes
deriving Repr, Inhabited

/-- The words for a list that cannot be read. -/
def RangeFault.words (what : Chosen) : RangeFault → String
  | .zero => if what == .fields then "fields are numbered from 1"
    else "byte/character positions are numbered from 1"
  | .tooLarge number => (if what == .fields then "field number " else "byte/character offset ") ++
    named number ++ " is too large"
  | .strange rest => (if what == .fields then "invalid field value "
    else "invalid byte/character position ") ++ named rest
  | .decreasing => "invalid decreasing range"
  | .endless => "invalid range with no endpoint: -"
  | .dashes => if what == .fields then "invalid field range" else "invalid byte or character range"

/-- A number in front of the rest of a list, if there is one. -/
def rangeNumber (cs : List Char) : Except RangeFault (Option Nat × List Char) :=
  let digits := cs.takeWhile Char.isDigit
  let n := Number.ofDigits 10 digits
  if digits.isEmpty then .ok (none, cs)
  else if n ≥ mostCounted then .error (.tooLarge (String.ofList digits))
  else .ok (some n, cs.drop digits.length)

/-- One range in front of the rest of a list. -/
def rangeOf (cs : List Char) : Except RangeFault (Range × List Char) := do
  let (low, rest) ← rangeNumber cs
  match rest with
  | '-' :: rest =>
    if low == some 0 then throw .zero
    let (high, rest) ← rangeNumber rest
    if rest.head? == some '-' then throw .dashes
    match low, high with
    | none, none =>
      if rest == [] || rest.head?.any ",\t ".toList.contains then throw .endless
      return (⟨1, none⟩, rest)
    | low, none => return (⟨low.getD 1, none⟩, rest)
    | low, some high =>
      let ended := rest == [] || rest.head?.any ",\t ".toList.contains
      if ended && high < low.getD 1 then throw .decreasing
      return (⟨low.getD 1, some high⟩, rest)
  | rest =>
    let ended := rest == [] || rest.head?.any ",\t ".toList.contains
    if ended && low.getD 0 == 0 then throw .zero
    return (⟨low.getD 0, low⟩, rest)

/-- The ranges of a list, with commas or blanks between them. -/
def rangesOf : Nat → List Char → Except RangeFault (List Range)
  | 0, _ => .ok []
  | fuel + 1, cs => do
    let (range, rest) ← rangeOf cs
    match rest with
    | [] => return [range]
    | c :: rest =>
      if ",\t ".toList.contains c then return range :: (← rangesOf fuel rest)
      throw (.strange (String.ofList (c :: rest)))

/-- Ranges in order, those that overlap as one. -/
def joinedRanges (ranges : List Range) : List Range :=
  (ranges.mergeSort fun a b => a.first ≤ b.first).foldr joined []
where
  /-- A range before others. -/
  joined (r : Range) : List Range → List Range
    | [] => [r]
    | next :: rest => match r.last with
      | none => [r]
      | some last =>
        if next.first ≤ last then
          ⟨r.first, next.last.map (max last ·)⟩ :: rest.dropWhile fun later =>
            (next.last.map fun n => decide (later.first ≤ max last n)).getD true
        else r :: next :: rest

/-- The characters that are chosen, with a gap before each range but the first one. -/
def cutCharacters (chosen starts : Nat → Bool) (gap : String) : Nat → Bool → List Char → List String
  | _, _, [] => []
  | n, hasShown, c :: cs =>
    if chosen n then
      (if hasShown && starts n then gap else "") :: String.singleton c ::
        cutCharacters chosen starts gap (n + 1) true cs
    else cutCharacters chosen starts gap (n + 1) hasShown cs

/-- Parts of lines are shown. -/
def cut (self : String) (args : List String) : Work Unit :=
  called self { flags := "snz", valued := "bcfdO", long := [("bytes", 'b'), ("characters", 'c'),
    ("fields", 'f'), ("delimiter", 'd'), ("only-delimited", 's'), ("output-delimiter", 'O'),
    ("complement", 'C'), ("zero-terminated", 'z')] } args fun c => do
    let lists := c.options.filter fun o => "bcf".toList.contains o.1
    match lists with
    | [] => misused self "you must specify a list of bytes, characters, or fields"
    | _ :: _ :: _ => misused self "only one list may be specified"
    | [(letter, list)] =>
      let what := if letter == 'f' then Chosen.fields else .characters
      let sign := (c.value? 'd').getD "\t"
      if what != .fields && (c.value? 'd').isSome then
        misused self "an input delimiter may be specified only when operating on fields"
      else if what != .fields && c.has 's' then
        misused self ("suppressing non-delimited lines makes sense\n" ++
          "\tonly when operating on fields")
      else if sign.length > 1 then misused self "the delimiter must be a single character"
      else match rangesOf (list.length + 1) list.toList with
        | .error fault => misused self (fault.words what)
        | .ok ranges =>
          let ranges := joinedRanges ranges
          let chosen := fun (n : Nat) => inRanges ranges n != c.has 'C'
          let starts := fun (n : Nat) =>
            if c.has 'C' then !chosen (n - 1) else ranges.any fun r => r.first == n
          let sign := sign.toList.headD '\x00'
          let gap := (c.value? 'O').getD (if what == .fields then String.singleton sign else "")
          let shown := fun (line : String) =>
            if what != .fields then some (String.join (cutCharacters chosen starts gap 1 false
              line.toList))
            else if !line.toList.contains sign then if c.has 's' then none else some line
            else some (Text.join gap (keptAt chosen (Text.split sign line)))
          let lineEnd := String.singleton (lineSign c)
          forTexts self unreadable c.operands fun _ text =>
            let lines := (bareParts (lineSign c) text).filterMap shown
            print (String.join (lines.map (· ++ lineEnd)))

/-! ## Sets of characters -/

/-- All characters of a class in their order. -/
def classChars (name : String) : Option (List Char) :=
  (Regex.classes.lookup name).map fun ranges =>
    let all := (List.range 256).map Char.ofNat
    all.filter fun c => ranges.any fun r => r.1 ≤ c && c ≤ r.2

/-- A part of a set: a character, and whether an escape made it. -/
abbrev SetChar := Char × Bool

/-- The characters of a set with their escapes undone. -/
def unescapedSet : Nat → List Char → List SetChar
  | 0, _ => []
  | _, [] => []
  | fuel + 1, '\\' :: c :: cs =>
    match Printing.letterEscapes.lookup c with
    | some n => (Char.ofNat n, true) :: unescapedSet fuel cs
    | none =>
      let digits := match cs with
        | _ :: _ => if '3' < c then 2 else 3
        | [] => 1
      match Read.digitsIn 8 digits (c :: cs) with
      | some (n, rest) => (Char.ofNat n, true) :: unescapedSet fuel rest
      | none => (c, true) :: unescapedSet fuel cs
  | fuel + 1, c :: cs => (c, false) :: unescapedSet fuel cs

/-- An item of a set: characters one after the other, those of a class, those like another one, or
one that fills what is missing. -/
inductive SetItem where
  | chars (cs : List Char)
  | group (name : String) (cs : List Char)
  | alike (c : Char)
  | filler (c : Char)
deriving Inhabited

/-- The items of a set, or what is wrong with it. -/
def setItems : Nat → List SetChar → Except String (List SetItem)
  | 0, _ => .ok []
  | _, [] => .ok []
  | fuel + 1, ('[', false) :: (':', false) :: rest =>
    let name := rest.takeWhile fun c => c.1 != ':'
    match rest.drop name.length with
    | (':', _) :: (']', _) :: after =>
      let text := String.ofList (name.map Prod.fst)
      match classChars text with
      | some cs => (setItems fuel after).map (.group text cs :: ·)
      | none =>
        .error (if text == "" then "missing character class name '[::]'"
          else "invalid character class " ++ named text)
    | _ => (setItems fuel ((':', false) :: rest)).map (.chars ['['] :: ·)
  | fuel + 1, ('[', false) :: ('=', false) :: c :: ('=', _) :: (']', _) :: rest =>
    (setItems fuel rest).map (.alike c.1 :: ·)
  | fuel + 1, ('[', false) :: ('=', false) :: rest =>
    let inner := rest.takeWhile fun c => c.1 != '='
    match rest.drop inner.length with
    | ('=', _) :: (']', _) :: _ =>
      .error (String.ofList (inner.map Prod.fst) ++
        ": equivalence class operand must be a single character")
    | _ => (setItems fuel (('=', false) :: rest)).map (.chars ['['] :: ·)
  | fuel + 1, ('[', false) :: c :: ('*', false) :: rest =>
    let digits := (rest.takeWhile fun d => d.1.isDigit).map Prod.fst
    match rest.drop digits.length with
    | (']', _) :: after =>
      let base := if digits.head? == some '0' then 8 else 10
      if base == 8 && digits.any fun d => '7' < d then
        .error ("invalid repeat count " ++ named (String.ofList digits) ++ " in [c*n] construct")
      else
      let count := Number.ofDigits base digits
      let item := if digits.isEmpty || count == 0 then SetItem.filler c.1
        else .chars (List.replicate (min count 256) c.1)
      (setItems fuel after).map (item :: ·)
    | _ => (setItems fuel (c :: ('*', false) :: rest)).map (.chars ['['] :: ·)
  | fuel + 1, a :: ('-', false) :: b :: rest =>
    if b.1 < a.1 then
      .error ("range-endpoints of '" ++ String.ofList [a.1, '-', b.1] ++
        "' are in reverse collating sequence order")
    else
      let all := (List.range (b.1.toNat - a.1.toNat + 1)).map fun i => Char.ofNat (a.1.toNat + i)
      (setItems fuel rest).map (.chars all :: ·)
  | fuel + 1, c :: rest => (setItems fuel rest).map (.chars [c.1] :: ·)

namespace SetItem

/-- The characters of an item that does not fill. -/
def own : SetItem → List Char
  | .chars cs => cs
  | .group _ cs => cs
  | .alike c => [c]
  | .filler _ => []

/-- An item is the class of large or of small letters. -/
def isCase : SetItem → Bool
  | .group name _ => name == "upper" || name == "lower"
  | _ => false

/-- An item is a class. -/
def isGroup : SetItem → Bool
  | .group _ _ => true
  | _ => false

/-- An item fills what is missing. -/
def fills : SetItem → Bool
  | .filler _ => true
  | _ => false

/-- The sizes of classes of letters where they begin, and nothing for all other characters. -/
def caseMarks (length : Nat) (items : List SetItem) : List (Option Nat) :=
  let known := (items.map fun i => i.own.length).foldl (· + ·) 0
  items.flatMap fun i => match i with
    | .filler _ => List.replicate (length - known) none
    | i =>
      let size := i.own.length
      (if i.isCase then some size else none) :: List.replicate (size - 1) none

/-- Each class of letters in a second set stands where one begins in the first. -/
def aligned : Nat → List (Option Nat) → List (Option Nat) → Bool
  | 0, _, _ => true
  | _, _, [] => true
  | fuel + 1, some m :: first, some n :: second =>
    aligned fuel (first.drop (m - 1)) (second.drop (n - 1))
  | _, _, some _ :: _ => false
  | fuel + 1, _ :: first, none :: second => aligned fuel first second
  | _, [], none :: _ => true

end SetItem

/-- The characters of a set, brought to a length where it has something that fills. -/
def setChars (length : Nat) (items : List SetItem) : List Char :=
  let known := (items.map fun i => i.own.length).foldl (· + ·) 0
  items.flatMap fun i => match i with
    | .filler c => List.replicate (length - known) c
    | i => i.own

/-- Why characters cannot be translated from one set to another. `complemented` says that all but
the first set are meant, and `size` how many these are. -/
def exchangeFault? (complemented shortens : Bool) (size : Nat) (first second : List SetItem) :
    Option String :=
  let chars := setChars size second
  let isAlike := fun (i : SetItem) => match i with
    | .alike _ => true
    | _ => false
  if second.any isAlike then
    some "[=c=] expressions may not appear in string2 when translating"
  else if second.any fun i => i.isGroup && !i.isCase then
    some ("when translating, the only character classes that may appear in\n" ++
      "string2 are 'upper' and 'lower'")
  else if !complemented && second.any SetItem.isGroup &&
      !SetItem.aligned (chars.length + 1) (SetItem.caseMarks 0 first)
        (SetItem.caseMarks size second) then
    some "misaligned [:upper:] and/or [:lower:] construct"
  else if chars.length < size && !shortens && chars.isEmpty then
    some "when not truncating set1, string2 must be non-empty"
  else if chars.length < size && !shortens && second.getLast?.any SetItem.isGroup then
    some ("when translating with string1 longer than string2,\n" ++
      "the latter string must not end with a character class")
  else if complemented && first.any SetItem.isGroup &&
      !(chars.eraseDups.length == 1 &&
        (chars.length == size || (chars.length < size && !shortens))) then
    some ("when translating with complemented character classes,\n" ++
      "string2 must map all characters in the domain to one")
  else none

/-- Characters without those of a set that repeat the one before. -/
def squeezed (set : List Char) : List Char → List Char
  | [] => []
  | c :: cs =>
    match squeezed set cs with
    | d :: rest => if c == d && set.contains c then d :: rest else c :: d :: rest
    | [] => [c]

/-- A text whose characters are translated, dropped or made single. -/
def translated (c : Call) (first second : List Char) (text : List Char) : List Char :=
  let all := (List.range 256).map Char.ofNat
  let complement := c.has 'c' || c.has 'C'
  let first := if complement then all.filter fun ch => !first.contains ch else first
  let hasSecond := c.operands.length == 2
  if c.has 'd' then
    let kept := text.filter fun ch => !first.contains ch
    if c.has 's' then squeezed second kept else kept
  else if !hasSecond then squeezed first text
  else
    let second := if c.has 't' then second
      else second ++ List.replicate (first.length - second.length) (second.getLast?.getD ' ')
    let first := first.take second.length
    let table := first.zip second
    let changed := text.map fun ch => ((table.reverse.lookup ch).getD ch)
    if c.has 's' then squeezed second changed else changed

/-- The items of a set that is given as a text. A backslash at its end is warned of. -/
def readSet (self text : String) : Work (Except String (List SetItem)) := do
  if (text.toList.reverse.takeWhile (· == '\\')).length % 2 == 1 then
    tells self "warning: an unescaped backslash at end of string is not portable"
  match setItems (text.length + 1) (unescapedSet (text.length + 1) text.toList) with
  | .error words => return .error words
  | .ok items => return .ok items

/-- Characters are translated. -/
def tr (self : String) (args : List String) : Work Unit :=
  called self { flags := "cCdst", endEarly := true, long := [("complement", 'c'), ("delete", 'd'),
    ("squeeze-repeats", 's'), ("truncate-set1", 't')] } args fun c => do
    let wrong := fun (words hint : String) => do
      tells self words
      if hint != "" then complain hint
      complain ("Try '" ++ self ++ " --help' for more information.")
      ends 1
    let least := if c.has 'd' == c.has 's' then 2 else 1
    let noFiller := "the [c*] repeat construct may not appear in string1"
    match c.operands with
    | [] => wrong "missing operand" ""
    | [a] =>
      if 1 < least then
        wrong ("missing operand after " ++ named a) (if c.has 'd' then
            "Two strings must be given when both deleting and squeezing repeats."
          else "Two strings must be given when translating.")
      else match ← readSet self a with
        | .error words => fails self words 1
        | .ok items => do
          if items.any SetItem.fills then fails self noFiller 1
          else
            print (String.ofList (translated c (setChars 0 items) [] (← readAll 0).toList))
            ends 0
    | [a, b] =>
      if c.has 'd' && !c.has 's' then
        wrong ("extra operand " ++ named b)
          "Only one string may be given when deleting without squeezing repeats."
      else match ← readSet self a with
        | .error words => fails self words 1
        | .ok x => match ← readSet self b with
          | .error words => fails self words 1
          | .ok y =>
            let first := setChars 0 x
            let complemented := c.has 'c' || c.has 'C'
            let size := if complemented then 256 - first.eraseDups.length else first.length
            if x.any SetItem.fills then fails self noFiller 1
            else if 1 < (y.filter SetItem.fills).length then
              fails self "only one [c*] repeat construct may appear in string2" 1
            else if c.has 'd' && y.any SetItem.fills then
              fails self "the [c*] construct may appear in string2 only when translating" 1
            else match if c.has 'd' then none
                else exchangeFault? complemented (c.has 't') size x y with
              | some words => fails self words 1
              | none =>
                print (String.ofList (translated c first (setChars size y) (← readAll 0).toList))
                ends 0
    | _ :: _ :: extra :: _ => wrong ("extra operand " ++ named extra) ""

end ApkForge.Script.Program
