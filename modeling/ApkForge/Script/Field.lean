-- From filled pieces to the words of a command: where texts are cut, what braces stand for, and
-- how pieces join.
import ApkForge.Script.Pattern
import ApkForge.Script.Node

namespace ApkForge.Script

/-- What a piece of a word becomes: text that stays as it is, text that is cut at blanks, or several
texts of which each is a word of its own. -/
inductive Filled where
  | fixed (quoted : Bool) (text : String)
  | loose (text : String)
  | several (quoted : Bool) (texts : List String)
deriving Repr, Inhabited

namespace Filled

/-- The characters of a text, marked. -/
def marked (quoted : Bool) (text : String) : List Marked := text.toList.map fun c => (c, quoted)

/-- The text of a piece that is filled in, to be cut unless it is in quotes. -/
def ofText (inQuotes : Bool) (text : String) : Filled :=
  if inQuotes then .fixed true text else .loose text

/-- Words while they are put together: those that are whole, and the one begun. A blank that ended a
word takes the next sign that ends one with it. -/
structure Words where
  whole : List (List Marked) := []
  begun : Option (List Marked) := none
  afterBlank : Bool := false

namespace Words

/-- More characters for the word begun. -/
def extend (w : Words) (ms : List Marked) : Words :=
  { w with begun := some ((w.begun.getD []) ++ ms), afterBlank := false }

/-- The word begun is whole. -/
def close (w : Words) : Words :=
  match w.begun with
  | some ms => { whole := ms :: w.whole }
  | none => { w with afterBlank := false }

/-- A text that is cut at some signs. -/
def addText (cutters : List Char) : Nat → Words → List Char → Words
  | 0, w, _ => w
  | _, w, [] => w
  | fuel + 1, w, c :: cs =>
    if !cutters.contains c then
      let front := (c :: cs).takeWhile fun d => !cutters.contains d
      addText cutters fuel (w.extend (front.map fun d => (d, false))) (cs.drop (front.length - 1))
    else if c == ' ' || c == '\t' || c == '\n' then
      let closes := w.begun.isSome
      let closed := w.close
      addText cutters fuel
        { closed with afterBlank := closes || (w.afterBlank && !closes) } cs
    else if w.afterBlank then addText cutters fuel { w with afterBlank := false } cs
    else addText cutters fuel (w.extend []).close cs

/-- Texts of which each begins a word of its own. -/
def addSeveral (add : Words → String → Words) : Words → List String → Words
  | w, [] => w
  | w, [t] => add w t
  | w, t :: ts => addSeveral add (add w t).close ts

/-- What a piece became, added. -/
def add (cutters : List Char) (w : Words) : Filled → Words
  | .fixed quoted text => w.extend (marked quoted text)
  | .loose text => addText cutters (text.length + 1) w text.toList
  | .several true texts => addSeveral (fun w t => w.extend (marked true t)) w texts
  | .several false texts =>
    addSeveral (fun w t => addText cutters (t.length + 1) w t.toList) w texts

end Words

/-- The words that filled pieces make. -/
def words (cutters : List Char) (pieces : List Filled) : List (List Marked) :=
  (pieces.foldl (Words.add cutters) {}).close.whole.reverse

/-- The one text that filled pieces make where nothing is cut. -/
def whole (pieces : List Filled) : List Marked :=
  pieces.flatMap fun p => match p with
    | .fixed quoted text => marked quoted text
    | .loose text => marked false text
    | .several quoted texts => marked quoted (Text.join " " texts)

end Filled

/-! ## Braces -/

namespace Braces

/-- A part of a word: a character that may be a brace, or a piece. -/
inductive Item where
  | char (c : Char)
  | piece (p : Piece)

/-- The character that an item is. -/
def Item.char? : Item → Option Char
  | .char c => some c
  | .piece _ => none

/-- The items of a word. -/
def items (word : Word) : List Item :=
  word.flatMap fun p => match p with
    | .plain s => s.toList.map Item.char
    | p => [.piece p]

/-- The word of items. -/
def ofItems : List Item → Word
  | [] => []
  | .piece p :: rest => p :: ofItems rest
  | .char c :: rest =>
    match ofItems rest with
    | .plain s :: more => .plain (String.singleton c ++ s) :: more
    | more => .plain (String.singleton c) :: more

/-- The alternatives up to the closing brace and what follows it, if it is closed. -/
def alternatives : Nat → List Item → List (List Item) → List Item →
    Option (List (List Item) × List Item)
  | _, _, _, [] => none
  | depth, read, done, .char c :: rest =>
    if c == '\x7b' then alternatives (depth + 1) (.char c :: read) done rest
    else if c == '\x7d' then
      if depth == 0 then some ((read.reverse :: done).reverse, rest)
      else alternatives (depth - 1) (.char c :: read) done rest
    else if c == ',' && depth == 0 then alternatives 0 [] (read.reverse :: done) rest
    else alternatives depth (.char c :: read) done rest
  | depth, read, done, .piece p :: rest => alternatives depth (.piece p :: read) done rest

/-- The text of items without pieces. -/
def text? (list : List Item) : Option String :=
  (list.mapM Item.char?).map String.ofList

/-- A number with zeros in front to a width. -/
def padded (width : Nat) (n : Int) : String :=
  let digits := toString n.natAbs
  let sign := if n < 0 then "-" else ""
  sign ++ String.ofList (List.replicate (width - sign.length - digits.length) '0') ++ digits

/-- The numbers from one to another by a step. -/
def range (a b : Int) (stride : Nat) : List Int :=
  let step := Int.ofNat (max stride 1)
  let count := (b - a).natAbs / max stride 1 + 1
  (List.range (min count 100000)).map fun i =>
    if a ≤ b then a + step * Int.ofNat i else a - step * Int.ofNat i

/-- The texts of a range such as `1..9`. -/
def rangeOf? (text : String) : Option (List String) := do
  let parts := (text.splitOn "..")
  let (first, last, step) ← match parts with
    | [a, b] => some (a, b, 1)
    | [a, b, s] => (s.toInt?).map fun n => (a, b, n.natAbs)
    | _ => none
  match first.toInt?, last.toInt? with
  | some a, some b =>
    let isPadded := fun (s : String) =>
      let digits := s.toList.filter Char.isDigit
      digits.head? == some '0' && digits.length > 1
    let width := if isPadded first || isPadded last then max first.length last.length else 0
    some ((range a b step).map (padded width))
  | _, _ =>
    match first.toList, last.toList with
    | [c], [d] =>
      if c.isAlpha && d.isAlpha then
        some ((range (Int.ofNat c.toNat) (Int.ofNat d.toNat) step).map fun n =>
          String.singleton (Char.ofNat n.toNat))
      else none
    | _, _ => none

/-- The items that braces stand for, one list for each word. -/
def expandItems : Nat → List Item → List (List Item)
  | 0, list => [list]
  | _, [] => [[]]
  | fuel + 1, .char '\x7b' :: rest =>
    let literal := (expandItems fuel rest).map (Item.char '\x7b' :: ·)
    match alternatives 0 [] [] rest with
    | none => literal
    | some (choices, after) =>
      let made : Option (List (List Item)) := match choices with
        | [] => none
        | [only] => ((text? only).bind rangeOf?).map fun texts =>
            texts.map fun t => t.toList.map Item.char
        | several => some (several.flatMap (expandItems fuel))
      match made with
      | none => literal
      | some fronts =>
        let tails := expandItems fuel after
        fronts.flatMap fun front => tails.map fun tail => front ++ tail
  | fuel + 1, item :: rest => (expandItems fuel rest).map (item :: ·)

/-- The words that a word with braces stands for. -/
def expand (word : Word) : List Word :=
  let hasBrace := word.any fun p => match p with
    | .plain s => s.toList.contains '\x7b'
    | _ => false
  if !hasBrace then [word]
  else
    let list := items word
    (expandItems (list.length + 1) list).map ofItems

end Braces

end ApkForge.Script
