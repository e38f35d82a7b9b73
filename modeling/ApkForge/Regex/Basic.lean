-- Regular expressions as trees, and where they match. Of all matches the one that begins first
-- counts, and of those the longest; parts prefer their first alternative and as many turns as they
-- can get.

namespace ApkForge

/-! ## Trees -/

/-- A set of characters: those in one of the ranges, or those in none. -/
structure CharSet where
  negated : Bool := false
  ranges : List (Char × Char) := []
deriving DecidableEq, Repr, Inhabited

namespace CharSet

/-- The set of one character. -/
def single (c : Char) : CharSet := ⟨false, [(c, c)]⟩

/-- The set of all characters. -/
def all : CharSet := ⟨true, []⟩

/-- The set has a character. -/
def has (s : CharSet) (c : Char) : Bool := (s.ranges.any fun r => r.1 ≤ c && c ≤ r.2) != s.negated

/-- The set has a character in one of its cases. -/
def hasFolded (s : CharSet) (c : Char) : Bool :=
  (s.ranges.any fun r => [c, c.toLower, c.toUpper].any fun d => r.1 ≤ d && d ≤ r.2) != s.negated

end CharSet

/-- A regular expression. An edge is a place between a character of a word and another one; what is
unlike another expression is any text that it does not match. -/
inductive Regex where
  | empty
  | one (set : CharSet)
  | start
  | finish
  | edge (opens closes : Bool)
  | noEdge
  | both (first second : Regex)
  | either (first second : Regex)
  | group (number : Nat) (body : Regex)
  | turns (body : Regex) (least : Nat) (most : Option Nat)
  | again (number : Nat)
  | unlike (body : Regex)
deriving DecidableEq, Repr, Inhabited

namespace Regex

/-- The expression of characters one after the other. -/
def literal (cs : List Char) : Regex :=
  cs.foldr (fun c r => .both (.one (.single c)) r) .empty

/-! ## Matching -/

/-- The text that is searched, and how: whether cases count, whether it begins here, and whether the
lines in it have starts and ends of their own. -/
structure Subject where
  text : Array Char
  folds : Bool := false
  atStart : Bool := true
  byLine : Bool := false

/-- How far a match has come, and where its groups lie. -/
structure Reached where
  position : Nat
  groups : List (Nat × Nat × Nat) := []
deriving Inhabited

/-- A character that words are made of. -/
def isWordChar (c : Char) : Bool := c.isAlphanum || c == '_'

/-- The character at a position belongs to a word. -/
def Subject.inWord (s : Subject) (position : Nat) : Bool :=
  (s.text[position]?.map isWordChar).getD false

/-- The character before a position belongs to a word. -/
def Subject.afterWord (s : Subject) (position : Nat) : Bool :=
  position != 0 && s.inWord (position - 1)

/-- A position is the start of the text, or of a line. -/
def Subject.isStart (s : Subject) (position : Nat) : Bool :=
  if position == 0 then s.atStart else s.byLine && s.text[position - 1]? == some '\n'

/-- A position is the end of the text, or of a line. -/
def Subject.isFinish (s : Subject) (position : Nat) : Bool :=
  position == s.text.size || (s.byLine && s.text[position]? == some '\n')

/-- A set of positions: the bits of a number. -/
abbrev Positions := Nat

/-- A set with one more position. -/
def Positions.add (seen : Positions) (position : Nat) : Positions :=
  seen ||| Nat.shiftLeft 1 position

/-- Of those that reached the same position the first stays. -/
def distinct : Positions → List Reached → List Reached
  | _, [] => []
  | seen, r :: rs =>
    if Nat.testBit seen r.position then distinct seen rs
    else r :: distinct (Positions.add seen r.position) rs

/-- The positions that turn after turn leads to, those after more turns first. `seen` are the
positions that are reached already. -/
def climb (step : Reached → List Reached) :
    Nat → Reached → Positions × List Reached → Positions × List Reached
  | 0, r, (seen, out) => (seen, r :: out)
  | fuel + 1, r, acc =>
    let (seen, out) := (step r).foldl (fun (seen, out) next =>
      if Nat.testBit seen next.position then (seen, out)
      else climb step fuel next (Positions.add seen next.position, out)) acc
    (seen, r :: out)

/-- The positions after characters of a set, as far as they stand side by side, the last first. -/
def run (s : Subject) (takes : Char → Bool) : Nat → Reached → List Reached → List Reached
  | 0, r, out => r :: out
  | fuel + 1, r, out =>
    match s.text[r.position]? with
    | some c =>
      if takes c then run s takes fuel { r with position := r.position + 1 } (r :: out)
      else r :: out
    | none => r :: out

/-- So many turns at most, those after more turns first. -/
def bounded (step : Reached → List Reached) : Nat → Reached → List Reached
  | 0, r => [r]
  | most + 1, r =>
    distinct 0 (((step r).filter fun next => next.position != r.position).flatMap
      (bounded step most) ++ [r])

/-- Exactly so many turns. -/
def exactly (step : Reached → List Reached) : Nat → List Reached → List Reached
  | 0, rs => rs
  | n + 1, rs => exactly step n (distinct 0 (rs.flatMap step))

/-- A group that ends where the match has come to. -/
def Reached.close (r : Reached) (number start : Nat) : Reached :=
  { r with groups := (number, start, r.position) :: r.groups.filter fun g => g.1 != number }

/-- A character and another are the same, as far as cases count. -/
def Subject.same (s : Subject) (a b : Char) : Bool :=
  a == b || (s.folds && a.toLower == b.toLower)

/-- A set has a character, as far as cases count. -/
def Subject.takes (s : Subject) (set : CharSet) (c : Char) : Bool :=
  if s.folds then set.hasFolded c else set.has c

/-- All that an expression can reach from a position, in the order of preference. -/
def reach (s : Subject) : Regex → Reached → List Reached
  | .empty, r => [r]
  | .one set, r =>
    match s.text[r.position]? with
    | some c => if s.takes set c then [{ r with position := r.position + 1 }] else []
    | none => []
  | .start, r => if s.isStart r.position then [r] else []
  | .finish, r => if s.isFinish r.position then [r] else []
  | .edge opens closes, r =>
    let before := s.afterWord r.position
    let after := s.inWord r.position
    if (opens && !before && after) || (closes && before && !after) then [r] else []
  | .noEdge, r => if s.afterWord r.position == s.inWord r.position then [r] else []
  | .both a b, r => distinct 0 ((reach s a r).flatMap (reach s b))
  | .either a b, r => distinct 0 (reach s a r ++ reach s b r)
  | .group number body, r => (reach s body r).map fun t => t.close number r.position
  | .turns (.one set) 0 none, r => run s (s.takes set) s.text.size r []
  | .turns body least most, r =>
    let step := reach s body
    let begun := exactly step least [r]
    match most with
    | some most => distinct 0 (begun.flatMap (bounded step (most - least)))
    | none => distinct 0 (begun.flatMap fun b =>
        (climb step (s.text.size + 1) b (Positions.add 0 b.position, [])).2.reverse)
  | .again number, r =>
    match r.groups.lookup number with
    | none => []
    | some (a, b) =>
      let wanted := s.text.extract a b
      let found := s.text.extract r.position (r.position + wanted.size)
      if found.size == wanted.size &&
          ((found.toList.zip wanted.toList).all fun (c, d) => s.same c d) then
        [{ r with position := r.position + wanted.size }]
      else []
  | .unlike body, r =>
    let taken := (reach s body r).map Reached.position
    let ends := (List.range (s.text.size + 1 - r.position)).reverse.map (r.position + ·)
    (ends.filter fun position => !taken.contains position).map fun position => { r with position }

/-- A match: where it begins and ends, and where its groups do. -/
structure Match where
  start : Nat
  finish : Nat
  groups : List (Nat × Nat × Nat)
deriving Inhabited

/-- The one of several that came furthest, the first of them. -/
def furthest : List Reached → Option Reached
  | [] => none
  | r :: rs =>
    match furthest rs with
    | some other => if other.position > r.position then some other else some r
    | none => some r

/-- The match that begins at a position. -/
def matchAt (e : Regex) (s : Subject) (position : Nat) : Option Match :=
  (furthest (reach s e { position })).map fun r => ⟨position, r.position, r.groups⟩

/-- The first match from a position on; `left` counts the positions to try. -/
def searchFrom (e : Regex) (s : Subject) : Nat → Nat → Option Match
  | 0, _ => none
  | left + 1, position =>
    match matchAt e s position with
    | some m => some m
    | none => searchFrom e s left (position + 1)

/-- The first match that begins at a position or after it. -/
def search (e : Regex) (s : Subject) (position : Nat) : Option Match :=
  searchFrom e s (s.text.size + 1 - position) position

/-- The text of a group in a match. Group 0 is the match itself. -/
def Match.text (m : Match) (s : Subject) (number : Nat) : String :=
  if number == 0 then String.ofList (s.text.extract m.start m.finish).toList
  else match m.groups.lookup number with
    | some (a, b) => String.ofList (s.text.extract a b).toList
    | none => ""

/-- The expression matches somewhere in a text. -/
def occurs (e : Regex) (folds : Bool) (text : String) : Bool :=
  (search e { text := text.toList.toArray, folds } 0).isSome

/-- How many groups an expression has. -/
def groupCount : Regex → Nat
  | .group n body => max n (groupCount body)
  | .both a b => max (groupCount a) (groupCount b)
  | .either a b => max (groupCount a) (groupCount b)
  | .turns body _ _ => groupCount body
  | _ => 0

end Regex

end ApkForge
