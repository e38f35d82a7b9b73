-- Times as they are said: a date and a time of day in the usual forms, days and months by their
-- names, and so many units before or after now.
import ApkForge.Script.Calendar

namespace ApkForge.Script.Moment

/-! ## What is said -/

/-- What a text has said of a time. Months, days and seconds are counted from what else is said, or
from now; `isRelative` holds if any of them was named. -/
structure Said where
  year : Option Int := none
  date : Option (Nat × Nat) := none
  time : Option (Nat × Nat × Nat) := none
  nanos : Nat := 0
  zone : Option Int := none
  weekday : Option (Nat × Int) := none
  months : Int := 0
  days : Int := 0
  seconds : Int := 0
  isRelative : Bool := false
deriving Repr, Inhabited

namespace Said

/-- So many units later. -/
def shifted (s : Said) (unit : String) (n : Int) : Option Said :=
  let s := { s with isRelative := true }
  match if unit.length > 1 then (Text.dropTail? "s" unit).getD unit else unit with
  | "year" => some { s with months := s.months + 12 * n }
  | "month" => some { s with months := s.months + n }
  | "fortnight" => some { s with days := s.days + 14 * n }
  | "week" => some { s with days := s.days + 7 * n }
  | "day" => some { s with days := s.days + n }
  | "hour" => some { s with seconds := s.seconds + 3600 * n }
  | "minute" => some { s with seconds := s.seconds + 60 * n }
  | "min" => some { s with seconds := s.seconds + 60 * n }
  | "second" => some { s with seconds := s.seconds + n }
  | "sec" => some { s with seconds := s.seconds + n }
  | _ => none

/-- A date is said, which can be done once. Its year may be left out. -/
def onDate (s : Said) (year : Option Int) (month day : Nat) : Option Said :=
  if s.date.isSome then none else some { s with year, date := some (month, day) }

/-- A time of day is said, which can be done once. -/
def atTime (s : Said) (hour minute second : Nat) : Option Said :=
  if s.time.isSome then none else some { s with time := some (hour, minute, second) }

end Said

/-! ## Reading -/

/-- The index of a name in a list, by the whole of it or its first three letters. -/
def named? (names : List String) (word : String) : Option Nat :=
  names.findIdx? fun name =>
    let name := name.map Char.toLower
    word == name || word == String.ofList (name.toList.take 3) ||
      (word == "sept" && name == "september")

/-- The digits in front of a text, and what follows. -/
def digitsOf (cs : List Char) : List Char × List Char :=
  (cs.takeWhile Char.isDigit, cs.dropWhile Char.isDigit)

/-- The word in front of a text, behind blanks, and what follows. -/
def wordOf (cs : List Char) : String × List Char :=
  let cs := cs.dropWhile Octet.isSpace
  (String.ofList (cs.takeWhile Char.isAlpha), cs.dropWhile Char.isAlpha)

/-- A year by its digits. Two digits mean a year near the turn of the century. -/
def yearOf (digits : List Char) : Int :=
  let n := Number.ofDigits 10 digits
  Int.ofNat (if digits.length ≤ 2 then (if n < 69 then n + 2000 else n + 1900) else n)

/-- The year behind a day and a month, if a number stands there that is no time of day. -/
def yearBehind (cs : List Char) : Option Int × List Char :=
  let (digits, rest) := digitsOf (cs.dropWhile fun c => c == ' ' || c == '-' || c == ',')
  if digits.isEmpty || rest.head? == some ':' then (none, cs) else (some (yearOf digits), rest)

/-- A zone behind a time, as seconds, and what follows: a sign with hours, or with hours and
minutes. -/
def zoneOf (cs : List Char) : Option Int × List Char :=
  let after := cs.dropWhile Octet.isSpace
  match after with
  | sign :: rest =>
    let (digits, rest) := digitsOf (rest.dropWhile Octet.isSpace)
    if (sign != '+' && sign != '-') || digits.isEmpty then (none, cs)
    else
      let n := Number.ofDigits 10 digits
      let (minutes, rest) := match rest with
        | ':' :: more => let (low, rest) := digitsOf more
          (n * 60 + Number.ofDigits 10 low, rest)
        | _ => (if digits.length ≤ 2 then n * 60 else n / 100 * 60 + n % 100, rest)
      let seconds := Int.ofNat (minutes * 60)
      (some (if sign == '-' then -seconds else seconds), rest)
  | [] => (none, cs)

/-- The hour of a half of the day. -/
def hourOf (half : String) (hour : Nat) : Option Nat :=
  if hour == 0 || 12 < hour then none
  else some (hour % 12 + if half == "pm" then 12 else 0)

/-- The rest of a time of day, behind the hour and a colon. -/
def readTime (s : Said) (hour : Nat) (cs : List Char) : Option (Said × List Char) := do
  let (minuteDigits, rest) := digitsOf cs
  if minuteDigits.isEmpty then none
  let (second, nanos, rest) := match rest with
    | ':' :: more =>
      let (digits, rest) := digitsOf more
      match rest with
      | sign :: more =>
        let (part, behind) := digitsOf more
        if (sign == '.' || sign == ',') && !part.isEmpty then
          (Number.ofDigits 10 digits,
            Number.ofDigits 10 ((part ++ List.replicate 9 '0').take 9), behind)
        else (Number.ofDigits 10 digits, 0, rest)
      | [] => (Number.ofDigits 10 digits, 0, [])
    | rest => (0, 0, rest)
  let (half, behind) := wordOf rest
  let (hour, rest) ←
    if half == "am" || half == "pm" then (hourOf half hour).map fun hour => (hour, behind)
    else some (hour, rest)
  let (zone, rest) := zoneOf rest
  let s ← s.atTime hour (Number.ofDigits 10 minuteDigits) second
  return ({ s with nanos, zone := zone.orElse fun _ => s.zone }, rest)

/-- What a number begins, and what follows: a date, a time, so many units, or a number of its
own. -/
def readNumber (s : Said) (cs : List Char) : Option (Said × List Char) := do
  let (digits, rest) := digitsOf cs
  let n := Number.ofDigits 10 digits
  let (word, behind) := wordOf rest
  match rest with
  | ':' :: more => readTime s n more
  | sign :: more =>
    let (second, rest) := digitsOf more
    if (sign == '-' || sign == '/') && !second.isEmpty then
      let m := Number.ofDigits 10 second
      let (third, behind) := match rest with
        | other :: more => if other == sign then digitsOf more else ([], rest)
        | [] => ([], [])
      if third.isEmpty then
        if sign == '/' then return (← s.onDate none n m, rest) else none
      let d := Number.ofDigits 10 third
      let s ← if sign == '-' || digits.length ≥ 4 then s.onDate (some (yearOf digits)) m d
        else s.onDate (some (yearOf third)) n m
      let rest := match behind with
        | 't' :: c :: cs => if c.isDigit then c :: cs else behind
        | _ => behind
      return (s, rest)
    else
      let (word, behind) := if sign == '-' then wordOf more else (word, behind)
      match named? Calendar.months word with
      | some month =>
        let (year, rest) := yearBehind behind
        return (← s.onDate year (month + 1) n, rest)
      | none =>
        if word == "am" || word == "pm" then return (← s.atTime (← hourOf word n) 0 0, behind)
        match s.shifted word (Int.ofNat n) with
        | some later => past s word n later behind
        | none => alone s digits n rest
  | [] => alone s digits n []
where
  /-- So many units, which lie in the past if that is said. -/
  past (s : Said) (word : String) (n : Nat) (later : Said) (rest : List Char) :
      Option (Said × List Char) :=
    match wordOf rest with
    | ("ago", rest) => (s.shifted word (-Int.ofNat n)).map (·, rest)
    | _ => some (later, rest)
  /-- A number of its own: a date without signs, a year, or a time. -/
  alone (s : Said) (digits : List Char) (n : Nat) (rest : List Char) :
      Option (Said × List Char) :=
    (if s.date.isSome && s.year.isNone && !s.isRelative && (s.time.isSome || 2 < digits.length) then
        some { s with year := some (yearOf digits) }
      else if 4 < digits.length then
        s.onDate (some (yearOf (digits.take (digits.length - 4)))) (n / 100 % 100) (n % 100)
      else if digits.length ≤ 2 then s.atTime n 0 0
      else s.atTime (n / 100) (n % 100) 0).map (·, rest)

/-- What a word says, and what follows. -/
def readWord (s : Said) (cs : List Char) : Option (Said × List Char) :=
  let (word, rest) := wordOf cs
  let turn := fun (n : Int) =>
    let (unit, behind) := wordOf rest
    match named? Calendar.weekdays unit with
    | some day => some ({ s with weekday := some (day, n) }, behind)
    | none => (s.shifted unit n).map (·, behind)
  match word with
  | "now" => some ({ s with isRelative := true }, rest)
  | "today" => some ({ s with isRelative := true }, rest)
  | "yesterday" => (s.shifted "day" (-1)).map (·, rest)
  | "tomorrow" => (s.shifted "day" 1).map (·, rest)
  | "next" => turn 1
  | "last" => turn (-1)
  | "this" => turn 0
  | _ =>
    if ["z", "utc", "gmt", "ut"].contains word then
      if s.zone.isSome then none else some ({ s with zone := some 0 }, rest)
    else match named? Calendar.weekdays word, named? Calendar.months word with
      | some day, _ => some ({ s with weekday := some (day, 0) }, rest)
      | none, some month => do
        let (day, rest) := digitsOf (rest.dropWhile Octet.isSpace)
        if day.isEmpty || rest.head? == some ':' then none
        let (year, rest) := yearBehind rest
        return (← s.onDate year (month + 1) (Number.ofDigits 10 day), rest)
      | none, none => do
        let later ← s.shifted word 1
        readNumber.past s word 1 later rest

/-- All that a text says. -/
def readAll : Nat → Said → List Char → Option Said
  | 0, _, _ => none
  | fuel + 1, s, cs =>
    match cs.dropWhile fun c => Octet.isSpace c || c == ',' with
    | [] => some s
    | c :: cs => do
      let (s, rest) ←
        if c.isDigit then readNumber s (c :: cs)
        else if c.isAlpha then readWord s (c :: cs)
        else do
          let (digits, rest) := digitsOf (cs.dropWhile Octet.isSpace)
          if (c != '+' && c != '-') || digits.isEmpty then none
          let n := Int.ofNat (Number.ofDigits 10 digits)
          let (word, behind) := wordOf rest
          let n := if c == '-' then -n else n
          match wordOf behind with
          | ("ago", behind) => (s.shifted word (-n)).map (·, behind)
          | _ => (s.shifted word n).map (·, behind)
      readAll fuel s rest

/-! ## Times -/

/-- The days of a month. -/
def daysIn (year : Int) (month : Nat) : Nat :=
  let next := if month == 12 then Calendar.daysBefore (year + 1) 1 1
    else Calendar.daysBefore year (month + 1) 1
  (next - Calendar.daysBefore year month 1).toNat

/-- The seconds since the beginning of 1970 that are meant, and the billionths of a second. -/
def Said.resolve (s : Said) (now : Int) : Option (Int × Nat) :=
  let today := Calendar.ofSeconds now
  let year := s.year.getD today.year
  let (month, day) := s.date.getD (today.month, today.day)
  let keepsTime := s.isRelative && s.date.isNone && s.weekday.isNone
  let (hour, minute, second) := s.time.getD
    (if keepsTime then (today.hour, today.minute, today.second) else (0, 0, 0))
  if month == 0 || 12 < month || day == 0 || daysIn year month < day || 23 < hour || 59 < minute ||
      59 < second then none
  else
    let all := year * 12 + Int.ofNat (month - 1) + s.months
    let first := Calendar.daysBefore (Int.fdiv all 12) (Int.emod all 12 + 1).toNat 1
    let days := first + Int.ofNat (day - 1)
    let toWeekday := match s.weekday, s.date with
      | some (wanted, turns), none =>
        let own := (Int.emod (days + 4) 7).toNat
        let turns := if 0 < turns && own != wanted then turns - 1 else turns
        Int.ofNat ((wanted + 7 - own) % 7) + 7 * turns
      | _, _ => 0
    some ((days + toWeekday + s.days) * 86400 +
      Int.ofNat (hour * 3600 + minute * 60 + second) + s.seconds - s.zone.getD 0, s.nanos)

/-- A number of seconds with decimals. -/
def counted? (cs : List Char) : Option (Int × Nat) :=
  let (negative, cs) := match cs.dropWhile Octet.isSpace with
    | '-' :: cs => (true, cs)
    | '+' :: cs => (false, cs)
    | cs => (false, cs)
  let (digits, rest) := digitsOf cs
  let (part, rest) := match rest with
    | '.' :: more => digitsOf more
    | rest => ([], rest)
  let nanos := Number.ofDigits 10 ((part ++ List.replicate 9 '0').take 9)
  let n := Int.ofNat (Number.ofDigits 10 digits)
  if digits.isEmpty || rest.any fun c => !Octet.isSpace c then none
  else if !negative then some (n, nanos)
  else if nanos == 0 then some (-n, 0)
  else some (-n - 1, 1000000000 - nanos)

/-- The seconds and billionths of a second that a text says: `@` and a number, or a time in
words. -/
def read? (now : Int) (text : String) : Option (Int × Nat) :=
  match (text.toList.map Char.toLower).dropWhile Octet.isSpace with
  | '@' :: cs => counted? cs
  | cs => (readAll (cs.length + 1) {} cs).bind fun s => s.resolve now

/-- The seconds of a time in digits: month, day, hour and minute, perhaps with a year before them
and with seconds behind a point. -/
def ofDigits? (now : Int) (text : String) : Option Int :=
  let (digits, rest) := digitsOf text.toList
  let (low, isPlain) := match rest with
    | [] => ([], true)
    | '.' :: cs => (cs, cs.length == 2 && cs.all Char.isDigit)
    | _ => ([], false)
  let pairs := digits.drop (digits.length - 8)
  let pair := fun (i : Nat) => Number.ofDigits 10 ((pairs.drop (2 * i)).take 2)
  let year := if digits.length == 8 then (Calendar.ofSeconds now).year
    else yearOf (digits.take (digits.length - 8))
  if !isPlain || !([8, 10, 12].contains digits.length) then none
  else
    let s : Said :=
      { year := some year, date := some (pair 0, pair 1)
        time := some (pair 2, pair 3, Number.ofDigits 10 low) }
    (s.resolve now).map Prod.fst

end ApkForge.Script.Moment
