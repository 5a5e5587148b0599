/-! # The calendar

    An instant is a count of milliseconds from the start of 1970, in universal time.  A day has
    86400 seconds, and the leap days of the calendar are extended to all years. -/

namespace Inlay.Engine

/-- An instant by its fields.  Months count from zero, and a field may lie outside its range: what
    is too much is carried to the next larger field. -/
structure Moment where
  year : Int
  month : Int := 0
  day : Int := 1
  hours : Int := 0
  minutes : Int := 0
  seconds : Int := 0
  millis : Int := 0
  deriving DecidableEq, Inhabited

namespace Calendar

def millisPerDay : Int := 86400000

/-- The day on which a month starts, counted from the start of 1970.  Years are taken to begin in
    March, so that the leap day is the last of its year. -/
def monthStart (year month : Int) : Int :=
  let year := year + month / 12
  let month := month % 12
  let y := if month < 2 then year - 1 else year
  let m := if month < 2 then month + 10 else month - 2
  let era := y / 400
  let inEra := y % 400
  era * 146097 + inEra * 365 + inEra / 4 - inEra / 100 + (153 * m + 2) / 5 - 719468

/-- The year, month and day of a day counted from the start of 1970. -/
def dateOfDay (n : Int) : Int × Int × Int :=
  let z := n + 719468
  let era := z / 146097
  let d := z % 146097
  let y := (d - d / 1460 + d / 36524 - d / 146096) / 365
  let inYear := d - (365 * y + y / 4 - y / 100)
  let m := (5 * inYear + 2) / 153
  let day := inYear - (153 * m + 2) / 5 + 1
  let month := if m < 10 then m + 2 else m - 10
  (y + era * 400 + (if month < 2 then 1 else 0), month, day)

def weekday (t : Int) : Int := (t / millisPerDay + 4) % 7

/-- The furthest instant from the start of 1970. -/
def maxTime : Int := 8640000000000000

end Calendar

namespace Moment

open Calendar

def toTime (m : Moment) : Int :=
  (monthStart m.year m.month + m.day - 1) * millisPerDay
    + m.hours * 3600000 + m.minutes * 60000 + m.seconds * 1000 + m.millis

def ofTime (t : Int) : Moment :=
  let (year, month, day) := dateOfDay (t / millisPerDay)
  let r := t % millisPerDay
  { year, month, day, hours := r / 3600000, minutes := r / 60000 % 60, seconds := r / 1000 % 60
    millis := r % 1000 }

/-! ## Texts -/

def dayNames : List String := ["Sun", "Mon", "Tue", "Wed", "Thu", "Fri", "Sat"]

def monthNames : List String :=
  ["Jan", "Feb", "Mar", "Apr", "May", "Jun", "Jul", "Aug", "Sep", "Oct", "Nov", "Dec"]

def padded (n : Int) (width : Nat) : String :=
  let s := toString n.natAbs
  "".pushn '0' (width - s.length) ++ s

def yearText (y : Int) : String := (if y < 0 then "-" else "") ++ padded y 4

def dayName (t : Int) : String := (dayNames[(weekday t).toNat]?).getD ""

def monthName (m : Moment) : String := (monthNames[m.month.toNat]?).getD ""

def clockText (m : Moment) : String :=
  padded m.hours 2 ++ ":" ++ padded m.minutes 2 ++ ":" ++ padded m.seconds 2

def dateText (t : Int) : String :=
  let m := ofTime t
  dayName t ++ " " ++ monthName m ++ " " ++ padded m.day 2 ++ " " ++ yearText m.year

def timeText (t : Int) : String := clockText (ofTime t) ++ " GMT+0000"

def fullText (t : Int) : String := dateText t ++ " " ++ timeText t

def universalText (t : Int) : String :=
  let m := ofTime t
  dayName t ++ ", " ++ padded m.day 2 ++ " " ++ monthName m ++ " " ++ yearText m.year ++ " "
    ++ clockText m ++ " GMT"

/-- The form that sorts like the instants; years outside four digits have a sign and six. -/
def isoText (t : Int) : String :=
  let m := ofTime t
  let year := if 0 ≤ m.year && m.year ≤ 9999 then padded m.year 4
    else (if m.year < 0 then "-" else "+") ++ padded m.year 6
  year ++ "-" ++ padded (m.month + 1) 2 ++ "-" ++ padded m.day 2 ++ "T" ++ clockText m ++ "."
    ++ padded m.millis 3 ++ "Z"

/-! ## Reading -/

def takeDigits (n : Nat) (cs : List Char) : Option (Int × List Char) :=
  let ds := cs.take n
  if ds.length == n && ds.all Char.isDigit then
    some (ds.foldl (fun (v : Int) c => 10 * v + (c.toNat - 48 : Nat)) 0, cs.drop n)
  else none

def takeYear : List Char → Option (Int × List Char)
  | '+' :: cs => takeDigits 6 cs
  | '-' :: cs => match takeDigits 6 cs with
      | some (0, _) => none
      | some (y, r) => some (-y, r)
      | none => none
  | cs => takeDigits 4 cs

/-- The offset from universal time in minutes; all of the text must be taken. -/
def takeOffset : List Char → Option Int
  | [] | ['Z'] => some 0
  | sign :: cs =>
      let signed (n : Int) : Int := if sign == '+' then n else -n
      if sign != '+' && sign != '-' then none
      else match takeDigits 2 cs with
        | some (h, []) => if h > 23 then none else some (signed (60 * h))
        | some (h, ':' :: rest) =>
            match takeDigits 2 rest with
            | some (m, []) => if h > 23 || m > 59 then none else some (signed (60 * h + m))
            | _ => none
        | _ => none

/-- Takes what a separator introduces; without it the default stands. -/
def takePart (sep : Char) (digits : Nat) (default : Int) (cs : List Char) :
    Option (Int × List Char × Bool) :=
  match cs with
  | c :: rest =>
      if c == sep then (takeDigits digits rest).map fun (n, r) => (n, r, true)
      else some (default, cs, false)
  | [] => some (default, [], false)

/-- Reads the form that sorts like the instants, or a front part of it. -/
def readIso (cs : List Char) : Option Int := do
  let (year, cs) ← takeYear cs
  let (month, cs, hasMonth) ← takePart '-' 2 1 cs
  let (day, cs, _) ← if hasMonth then takePart '-' 2 1 cs else some (1, cs, false)
  if month < 1 || month > 12 || day < 1 || day > 31 then none
  let base : Moment := { year, month := month - 1, day }
  if cs.isEmpty then return base.toTime
  let (hours, cs, hasHours) ← takePart 'T' 2 0 cs
  if !hasHours then none
  let (minutes, cs, hasMinutes) ← takePart ':' 2 0 cs
  if !hasMinutes then none
  let (seconds, cs, hasSeconds) ← takePart ':' 2 0 cs
  let (millis, cs, _) ← if hasSeconds then takePart '.' 3 0 cs else some (0, cs, false)
  if hours > 24 || minutes > 59 || seconds > 59 then none
  let offset ← takeOffset cs
  return ({ base with hours, minutes, seconds, millis } : Moment).toTime - offset * 60000

/-- Takes a text that has to stand at the front. -/
def takeText (t : String) (cs : List Char) : Option (List Char) :=
  if cs.take t.length == t.toList then some (cs.drop t.length) else none

/-- Takes one of some names of three letters: its place among them. -/
def takeName (names : List String) (cs : List Char) : Option (Nat × List Char) := do
  let i ← names.idxOf? (String.ofList (cs.take 3))
  return (i, cs.drop 3)

/-- Takes a year of four digits; after a sign it has up to six, and after a plus at least five. -/
def takeLongYear : List Char → Option (Int × List Char)
  | sign :: cs =>
      if sign != '+' && sign != '-' then takeDigits 4 (sign :: cs)
      else do
        let (y, rest) ← takeDigits (min 6 (cs.takeWhile Char.isDigit).length) cs
        if cs.length - rest.length < 4 then none
        else if sign == '-' then some (-y, rest)
        else if y < 10000 then none
        else some (y, rest)
  | [] => none

def takeClock (cs : List Char) : Option ((Int × Int × Int) × List Char) := do
  let (h, cs) ← takeDigits 2 cs
  let cs ← takeText ":" cs
  let (m, cs) ← takeDigits 2 cs
  let cs ← takeText ":" cs
  let (s, cs) ← takeDigits 2 cs
  if h > 23 || m > 59 || s > 59 then none else some ((h, m, s), cs)

def ofDay (year month day : Int) (clock : Int × Int × Int) : Option Int :=
  if day < 1 || day > monthStart year (month + 1) - monthStart year month then none
  else
    let (hours, minutes, seconds) := clock
    some ({ year, month, day, hours, minutes, seconds } : Moment).toTime

/-- Reads the form of `fullText`, with any offset. -/
def readFull (cs : List Char) : Option Int := do
  let (_, cs) ← takeName dayNames cs
  let cs ← takeText " " cs
  let (month, cs) ← takeName monthNames cs
  let cs ← takeText " " cs
  let (day, cs) ← takeDigits 2 cs
  let cs ← takeText " " cs
  let (year, cs) ← takeLongYear cs
  let cs ← takeText " " cs
  let (clock, cs) ← takeClock cs
  let cs ← takeText " GMT" cs
  let sign ← cs.head?
  let (h, cs) ← takeDigits 2 (cs.drop 1)
  let (m, cs) ← takeDigits 2 cs
  if (sign != '+' && sign != '-') || h > 25 || m > 59 || !cs.isEmpty then none
  let t ← ofDay year month day clock
  return t - (if sign == '+' then 60 * h + m else -(60 * h + m)) * 60000

/-- Reads the form of `universalText`. -/
def readUniversal (cs : List Char) : Option Int := do
  let (_, cs) ← takeName dayNames cs
  let cs ← takeText ", " cs
  let (day, cs) ← takeDigits 2 cs
  let cs ← takeText " " cs
  let (month, cs) ← takeName monthNames cs
  let cs ← takeText " " cs
  let (year, cs) ← takeLongYear cs
  let cs ← takeText " " cs
  let (clock, cs) ← takeClock cs
  let cs ← takeText " GMT" cs
  if !cs.isEmpty then none
  ofDay year month day clock

/-- Reads an instant from any of the forms in which instants are written. -/
def read (s : String) : Option Int :=
  let cs := s.toList
  (readIso cs).orElse fun _ => (readFull cs).orElse fun _ => readUniversal cs

end Moment

end Inlay.Engine
