import Inlay.Engine.Builtins.Basic
import Inlay.Engine.Calendar

/-! # Built-in functions on dates

    Local time is universal time, and the clock stands still: a script gives the same result
    whenever it is run. -/

namespace Inlay.Engine

open Exec

namespace Builtins.Dates

def now : Int := 1767225600000

def clipped (t : Int) : Num := if t.natAbs ≤ Calendar.maxTime.natAbs then .ofInt t else .nan

/-- Converts arguments to whole numbers; nothing if one of them is not finite. -/
def fields (vs : List Value) : Exec (Option (List Int)) := do
  let mut out : List Int := []
  let mut isFinite := true
  for v in vs do
    let n ← toNumber v
    if n.isFinite then out := out ++ [n.clamped] else isFinite := false
  return if isFinite then some out else none

/-- The fields given to a constructor; years below one hundred are in the twentieth century. -/
def momentOf (fs : List Int) : Moment :=
  let year := fs.headD 0
  let at_ (i : Nat) (d : Int) : Int := (fs[i]?).getD d
  { year := if 0 ≤ year && year ≤ 99 then 1900 + year else year
    month := at_ 1 0, day := at_ 2 1, hours := at_ 3 0, minutes := at_ 4 0, seconds := at_ 5 0
    millis := at_ 6 0 }

def timeOfFields (c : Call) : Exec Num := do
  match ← fields (c.args.toList.take 7) with
  | some fs => return clipped (momentOf fs).toTime
  | none => return .nan

def timeOfText (s : Units) : Num :=
  match Moment.read s.text with
  | some t => clipped t
  | none => .nan

def timeOfValue (v : Value) : Exec Num := do
  let own ← match v with
    | .obj r => do
        match ← kind r with
        | .date t => pure (some t)
        | _ => pure none
    | _ => pure none
  match own with
  | some t => return t
  | none =>
      match ← toPrimitive v with
      | .str s => return timeOfText s
      | p =>
          let n ← toNumber p
          return if n.isFinite then clipped n.clamped else .nan

def make (c : Call) : Exec Value := do
  if !c.isConstruct then return .text (Moment.fullText now)
  let t ← match c.args.size with
    | 0 => pure (Num.ofInt now)
    | 1 => timeOfValue (c.arg 0)
    | _ => timeOfFields c
  let proto ← protoFor c.newTarget Intrinsic.dateProto
  return .obj (← alloc { proto := some proto, kind := .date t })

def dateThis (c : Call) : Exec (Ref × Num) := do
  match c.this with
  | .obj r =>
      match ← kind r with
      | .date t => return (r, t)
      | _ => typeError "'this' is not a Date"
  | _ => typeError "'this' is not a Date"

def getField (t : Int) (f : DateField) : Int :=
  let m := Moment.ofTime t
  match f with
  | .date => m.day
  | .day => Calendar.weekday t
  | .fullYear => m.year
  | .hours => m.hours
  | .milliseconds => m.millis
  | .minutes => m.minutes
  | .month => m.month
  | .seconds => m.seconds

/-- A moment with new fields: the named one and those that follow it. -/
def withFields (m : Moment) (f : DateField) (vs : List Int) : Moment :=
  match f, vs with
  | .date, v :: _ => { m with day := v }
  | .fullYear, y :: rest =>
      { m with year := y, month := (rest[0]?).getD m.month, day := (rest[1]?).getD m.day }
  | .month, v :: rest => { m with month := v, day := (rest[0]?).getD m.day }
  | .hours, v :: rest =>
      { m with hours := v, minutes := (rest[0]?).getD m.minutes,
               seconds := (rest[1]?).getD m.seconds, millis := (rest[2]?).getD m.millis }
  | .minutes, v :: rest =>
      { m with minutes := v, seconds := (rest[0]?).getD m.seconds,
               millis := (rest[1]?).getD m.millis }
  | .seconds, v :: rest => { m with seconds := v, millis := (rest[0]?).getD m.millis }
  | .milliseconds, v :: _ => { m with millis := v }
  | _, _ => m

def fieldCount : DateField → Nat
  | .hours => 4
  | .fullYear | .minutes => 3
  | .month | .seconds => 2
  | _ => 1

def setField (c : Call) (f : DateField) : Exec Value := do
  let (r, t) ← dateThis c
  let vs ← fields (if c.args.isEmpty then [.undefined] else c.args.toList.take (fieldCount f))
  let start := if t.isNaN && f == .fullYear then some (0 : Int) else t.toInt?
  let new := match vs, start with
    | some vs, some t => clipped (withFields (Moment.ofTime t) f vs).toTime
    | _, _ => .nan
  setKind r (.date new)
  return .num new

/-- Sets the year; below one hundred it is in the twentieth century. -/
def setYear (c : Call) : Exec Value := do
  let (r, t) ← dateThis c
  let y ← toNumber (c.arg 0)
  let new := if y.isFinite then
      let m := Moment.ofTime (t.toInt?.getD 0)
      let y := y.clamped
      clipped { m with year := if 0 ≤ y && y ≤ 99 then 1900 + y else y }.toTime
    else .nan
  setKind r (.date new)
  return .num new

/-- A text of a date; a date without an instant says so. -/
def textOf (c : Call) (f : Int → String) : Exec Value := do
  let (_, t) ← dateThis c
  match t.toInt? with
  | some t => return .text (f t)
  | none => return .text "Invalid Date"

def toPrimitiveBy (c : Call) : Exec Value := do
  match c.this with
  | .obj r =>
      match c.arg 0 with
      | .str s =>
          if s == .ofString "number" then tryMethods r ["valueOf", "toString"]
          else if s == .ofString "string" || s == .ofString "default" then
            tryMethods r ["toString", "valueOf"]
          else typeError "Date.prototype[@@toPrimitive]: invalid hint"
      | _ => typeError "Date.prototype[@@toPrimitive]: invalid hint"
  | _ => typeError "Date.prototype[@@toPrimitive] called on non object"

def run (f : DateFn) (c : Call) : Exec Value := do
  match f with
  | .make => make c
  | .now => return .int now
  | .parse => return .num (timeOfText (← toText (c.arg 0)))
  | .utc =>
      if c.args.isEmpty then return .nan
      return .num (← timeOfFields c)
  | .get f =>
      let (_, t) ← dateThis c
      match t.toInt? with
      | some t => return .int (getField t f)
      | none => return .nan
  | .set f => setField c f
  | .getTime | .valueOf => return .num (← dateThis c).2
  | .setTime =>
      let (r, _) ← dateThis c
      let n ← toNumber (c.arg 0)
      let t := if n.isFinite then clipped n.clamped else .nan
      setKind r (.date t)
      return .num t
  | .getYear =>
      let (_, t) ← dateThis c
      match t.toInt? with
      | some t => return .int (getField t .fullYear - 1900)
      | none => return .nan
  | .setYear => setYear c
  | .getTimezoneOffset =>
      let (_, t) ← dateThis c
      return if t.isNaN then .nan else .nat 0
  | .toDateString => textOf c Moment.dateText
  | .toIsoString =>
      let (_, t) ← dateThis c
      match t.toInt? with
      | some t => return .text (Moment.isoText t)
      | none => rangeError "Invalid time value"
  | .toJson =>
      let r ← toObject c.this
      match ← toPrimitive (.obj r) .number with
      | .num n => if !n.isFinite then return .null
      | _ => pure ()
      invoke (.obj r) (Key.text "toISOString")
  | .toText => textOf c Moment.fullText
  | .toTimeString => textOf c Moment.timeText
  | .toUtcString => textOf c Moment.universalText
  | .toLocale => raise (.text "Function Unimplemented")
  | .toPrimitive => toPrimitiveBy c

end Builtins.Dates

end Inlay.Engine
