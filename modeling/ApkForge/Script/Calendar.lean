-- Times as dates: days counted from the first of 1970, in the calendar that is in use, and the
-- forms that they are shown in.
import ApkForge.Script.Decimal

namespace ApkForge.Script.Calendar

/-- A date with its time of day. Weeks begin on Sunday, which is day 0. -/
structure Date where
  year : Int
  month : Nat
  day : Nat
  hour : Nat
  minute : Nat
  second : Nat
  weekday : Nat
  dayOfYear : Nat
  nanos : Nat := 0
deriving Repr, Inhabited

/-- The days before a date, counted from the first of 1970. Years are counted from March, so that
the day that some years have more comes last. -/
def daysBefore (year : Int) (month day : Nat) : Int :=
  let y := if month ≤ 2 then year - 1 else year
  let era := Int.fdiv y 400
  let ofEra := (y - era * 400).toNat
  let ofYear := (153 * ((month + 9) % 12) + 2) / 5 + day - 1
  era * 146097 + Int.ofNat (ofEra * 365 + ofEra / 4 - ofEra / 100 + ofYear) - 719468

/-- The year, month and day of a number of days. -/
def civil (days : Int) : Int × Nat × Nat :=
  let shifted := days + 719468
  let era := Int.fdiv shifted 146097
  let ofEra := (shifted - era * 146097).toNat
  let year := (ofEra - ofEra / 1460 + ofEra / 36524 - ofEra / 146096) / 365
  let ofYear := ofEra - (365 * year + year / 4 - year / 100)
  let shiftedMonth := (5 * ofYear + 2) / 153
  let day := ofYear - (153 * shiftedMonth + 2) / 5 + 1
  let month := if shiftedMonth < 10 then shiftedMonth + 3 else shiftedMonth - 9
  (Int.ofNat year + era * 400 + (if month ≤ 2 then 1 else 0), month, day)

/-- The date of seconds since the beginning of 1970. -/
def ofSeconds (seconds : Int) : Date :=
  let days := Int.fdiv seconds 86400
  let rest := (seconds - days * 86400).toNat
  let (year, month, day) := civil days
  { year, month, day, hour := rest / 3600, minute := rest / 60 % 60, second := rest % 60
    weekday := (Int.emod (days + 4) 7).toNat
    dayOfYear := (days - daysBefore year 1 1).toNat + 1 }

/-- The seconds of a date. -/
def Date.seconds (d : Date) : Int :=
  daysBefore d.year d.month d.day * 86400 + Int.ofNat (d.hour * 3600 + d.minute * 60 + d.second)

/-! ## Forms -/

/-- The names of the days. -/
def weekdays : List String :=
  ["Sunday", "Monday", "Tuesday", "Wednesday", "Thursday", "Friday", "Saturday"]

/-- The names of the months. -/
def months : List String :=
  ["January", "February", "March", "April", "May", "June", "July", "August", "September", "October",
    "November", "December"]

/-- A number brought to a width with a character. -/
def padded (fill : Char) (width : Nat) (n : Int) : String :=
  let digits := toString n
  String.ofList (List.replicate (width - digits.length) fill) ++ digits

/-- The first three letters of a name in a list. -/
def short (names : List String) (i : Nat) : String :=
  String.ofList ((names.getD i "").toList.take 3)

/-- The week of the year, counted from the first day of such a kind. -/
def weekOfYear (d : Date) (firstDay : Nat) : Nat :=
  (d.dayOfYear + 6 - (d.weekday + 7 - firstDay) % 7) / 7

/-- The letters that stand for several others. -/
def composed : Char → Option String
  | 'c' => some "%a %b %e %H:%M:%S %Y"
  | 'D' => some "%m/%d/%y"
  | 'F' => some "%Y-%m-%d"
  | 'R' => some "%H:%M"
  | 'r' => some "%I:%M:%S %p"
  | 'T' => some "%H:%M:%S"
  | 'x' => some "%m/%d/%y"
  | 'X' => some "%H:%M:%S"
  | '+' => some "%a %b %e %H:%M:%S %Z %Y"
  | _ => none

/-- The week of the year that begins on Monday and has most of its days in that year, with the year
that it belongs to. -/
def isoWeek (d : Date) : Int × Nat :=
  let monday := (d.weekday + 6) % 7
  let thursday := ofSeconds (d.seconds + 86400 * (3 - Int.ofNat monday))
  (thursday.year, (thursday.dayOfYear - 1) / 7 + 1)

/-- How a part of a date is shown: what fills it up, to which width, and in which case. -/
structure Manner where
  filling : Option Char := none
  width : Option Nat := none
  upper : Bool := false
  swapped : Bool := false
  colons : Nat := 0

/-- A number that usually has such a width and filling. -/
def Manner.number (m : Manner) (fill : Char) (width : Nat) (n : Int) : String :=
  match m.filling with
  | some '-' => toString n
  | some '_' => padded ' ' (m.width.getD width) n
  | some _ => padded '0' (m.width.getD width) n
  | none => padded fill (m.width.getD width) n

/-- A text brought to its width and case. -/
def Manner.text (m : Manner) (text : String) : String :=
  let text := if m.upper then text.map Char.toUpper else text
  let fill := if m.filling == some '0' || m.filling == some '+' then '0' else ' '
  String.ofList (List.replicate (m.width.getD 0 - text.length) fill) ++ text

/-- The zone, with so many colons between hours, minutes and seconds. -/
def zoneText : Nat → Option String
  | 0 => some "+0000"
  | 1 => some "+00:00"
  | 2 => some "+00:00:00"
  | 3 => some "+00"
  | _ => none

/-- The text of one letter of a form. -/
def letter (d : Date) (m : Manner) (c : Char) : Option String :=
  let nat := fun (fill : Char) (width n : Nat) => m.number fill width (Int.ofNat n)
  let twelve := if d.hour % 12 == 0 then 12 else d.hour % 12
  let name := fun (text : String) => ({ m with upper := m.upper || m.swapped }).text text
  let low := fun (text : String) => m.text (if m.swapped then text.map Char.toLower else text)
  match c with
  | 'Y' => some (m.number '0' 1 d.year)
  | 'C' => some (m.number '0' 2 (Int.fdiv d.year 100))
  | 'y' => some (m.number '0' 2 (Int.emod d.year 100))
  | 'G' => some (m.number '0' 1 (isoWeek d).1)
  | 'g' => some (m.number '0' 2 (Int.emod (isoWeek d).1 100))
  | 'V' => some (nat '0' 2 (isoWeek d).2)
  | 'm' => some (nat '0' 2 d.month)
  | 'q' => some (nat '0' 1 ((d.month + 2) / 3))
  | 'd' => some (nat '0' 2 d.day)
  | 'e' => some (nat ' ' 2 d.day)
  | 'H' => some (nat '0' 2 d.hour)
  | 'k' => some (nat ' ' 2 d.hour)
  | 'I' => some (nat '0' 2 twelve)
  | 'l' => some (nat ' ' 2 twelve)
  | 'M' => some (nat '0' 2 d.minute)
  | 'S' => some (nat '0' 2 d.second)
  | 'N' =>
    let digits := (padded '0' 9 (Int.ofNat d.nanos)).toList
    some (String.ofList (digits.take (m.width.getD 9) ++
      List.replicate (m.width.getD 9 - 9) '0'))
  | 'p' => some (low (if d.hour < 12 then "AM" else "PM"))
  | 'P' => some (m.text (if d.hour < 12 then "am" else "pm"))
  | 'j' => some (nat '0' 3 d.dayOfYear)
  | 'u' => some (nat '0' 1 (if d.weekday == 0 then 7 else d.weekday))
  | 'w' => some (nat '0' 1 d.weekday)
  | 'U' => some (nat '0' 2 (weekOfYear d 0))
  | 'W' => some (nat '0' 2 (weekOfYear d 1))
  | 'a' => some (name (short weekdays d.weekday))
  | 'A' => some (name (weekdays.getD d.weekday ""))
  | 'b' => some (name (short months (d.month - 1)))
  | 'h' => some (name (short months (d.month - 1)))
  | 'B' => some (name (months.getD (d.month - 1) ""))
  | 's' => some (m.number '0' 1 d.seconds)
  | 'z' => (zoneText m.colons).map m.text
  | 'Z' => some (low "UTC")
  | 'n' => some (m.text "\n")
  | 't' => some (m.text "\t")
  | '%' => some (m.text "%")
  | _ => none

/-- How a part is shown, from the signs behind a percent sign, and what follows them. -/
def mannerOf (cs : List Char) : Manner × List Char :=
  let signs := cs.takeWhile "-_0+^#".toList.contains
  let cs := cs.drop signs.length
  let digits := cs.takeWhile Char.isDigit
  let cs := cs.drop digits.length
  let colons := cs.takeWhile (· == ':')
  let cs := cs.drop colons.length
  let cs := match cs with
    | 'E' :: c :: rest => if "cCxXyY".toList.contains c then c :: rest else cs
    | 'O' :: c :: rest => if "deHImMSuUVwWy".toList.contains c then c :: rest else cs
    | cs => cs
  ({ filling := signs.reverse.find? "-_0+".toList.contains
     width := if digits.isEmpty then none else some (Number.ofDigits 10 digits)
     upper := signs.contains '^', swapped := signs.contains '#', colons := colons.length }, cs)

/-- A date in a form: letters after percent signs stand for its parts, so deep. -/
def format (d : Date) : Nat → List Char → String
  | 0, _ => ""
  | _, [] => ""
  | fuel + 1, '%' :: cs =>
    let (m, rest) := mannerOf cs
    let raw := String.ofList ('%' :: cs.take (cs.length - rest.length))
    match rest with
    | [] => raw
    | c :: rest =>
      let plain := m.colons == 0 || c == 'z'
      let text := match if plain then composed c else none with
        | some other => m.text (format d fuel other.toList)
        | none => match if plain then letter d m c else none with
          | some text => text
          | none => raw ++ String.singleton c
      text ++ format d fuel rest
  | fuel + 1, c :: cs => String.singleton c ++ format d fuel cs

/-- Seconds and billionths of a second since the beginning of 1970 in a form. -/
def shownAt (seconds : Int) (nanos : Nat) (form : String) : String :=
  format { ofSeconds seconds with nanos } (form.length + 40) form.toList

/-- Seconds since the beginning of 1970 in a form. -/
def shown (seconds : Int) (form : String) : String := shownAt seconds 0 form

end ApkForge.Script.Calendar
