import Inlay.Engine.Builtins.Basic
import Inlay.Json.Reader

/-! # JSON inside scripts -/

namespace Inlay.Engine

open Exec

namespace Builtins.Jsons

/-! ## Reading -/

def numOf : Json.Number → Num
  | .whole n => .ofInt n
  | .float x => .ofLiteral x

mutual

def toValue : Json.Value → Exec Value
  | .null => return .null
  | .bool b => return .bool b
  | .number n => return .num (numOf n)
  | .string s => return .text s
  | .array items => do arrayOf (← toValues items #[])
  | .object members => do
      let r ← newObject
      addMembers r members
      return .obj r

def toValues : List Json.Value → Array Value → Exec (Array Value)
  | [], out => return out
  | v :: vs, out => do toValues vs (out.push (← toValue v))

def addMembers (r : Ref) : List (String × Json.Value) → Exec Unit
  | [] => return
  | (k, v) :: rest => do
      let x ← toValue v
      let _ ← Object.createData r (Key.text k) x
      addMembers r rest

end

/-- Hands every value, the inner ones first, to a function that may replace it. -/
def revive (f : Value) : Nat → Ref → Key → Exec Value
  | 0, _, _ => halt "exceeded maximum number of recursive calls"
  | n + 1, holder, k => do
      let v ← Object.get holder k
      match v with
      | .obj r =>
          let keys ← if ← isArray v then
              pure ((List.range (← lengthOf r)).map Key.index)
            else pure ((← enumerableOwn r).map Prod.fst)
          for k in keys do
            match ← revive f n r k with
            | .undefined =>
                let _ ← Object.delete r k
            | u =>
                let _ ← Object.createData r k u
      | _ => pure ()
      Object.call f (.obj holder) #[k.toValue, v]

def parse (c : Call) : Exec Value := do
  let s ← toText (c.arg 0)
  if s.codePoints.any Units.isSurrogate then
    fail .source "invalid utf-16: lone surrogate found"
  match Json.parse s.text with
  | .error f => fail .source f.message
  | .ok j =>
      let v ← toValue j
      if ← Object.isCallable (c.arg 1) then
        let holder ← newObject
        Object.createDataOrThrow holder (Key.text "") v
        revive (c.arg 1) 100000 holder (Key.text "")
      else return v

/-! ## Writing -/

def quoteUnits (s : Units) : Units :=
  let body := s.codePoints.foldl (fun (out : Array UInt16) n =>
    let text (t : String) : Array UInt16 := out ++ (Units.ofString t).data
    if n == 8 then text "\\b"
    else if n == 9 then text "\\t"
    else if n == 10 then text "\\n"
    else if n == 12 then text "\\f"
    else if n == 13 then text "\\r"
    else if n == 34 then text "\\\""
    else if n == 92 then text "\\\\"
    else if n < 32 || Units.isSurrogate n then text ("\\u" ++ Units.hex4 n)
    else out ++ (Units.ofCodePoint n).data) #[34]
  ⟨body.push 34⟩

/-- How values are written. -/
structure Style where
  replacer : Value
  /-- The only keys that are written, if there is such a list. -/
  keys : Option (List Key)
  gap : Units

/-- A value that takes the place of an object for a primitive value. -/
def unwrapped (v : Value) : Exec Value := do
  match v with
  | .obj r =>
      match ← kind r with
      | .num _ => return .num (← toNumber v)
      | .str _ => return .str (← toText v)
      | .bool b => return .bool b
      | .big n => return .big n
      | _ => return v
  | v => return v

def between (parts : List Units) (opens closes : String) (indent step : Units) : Units :=
  if parts.isEmpty then .ofString (opens ++ closes)
  else if step.isEmpty then
    .ofString opens ++ .join parts (.ofString ",") ++ .ofString closes
  else
    let inner := .ofString "\n" ++ indent ++ step
    .ofString opens ++ inner ++ .join parts (.ofString "," ++ inner) ++ .ofString "\n" ++ indent
      ++ .ofString closes

/-- The text of a member, nothing if it has none.  `above` holds the objects around it. -/
def write (st : Style) : Nat → Ref → Key → List Ref → Units → Exec (Option Units)
  | 0, _, _, _, _ => halt "exceeded maximum number of recursive calls"
  | n + 1, holder, k, above, indent => do
      let v ← Object.get holder k
      let v ← match v with
        | .obj _ | .big _ => do
            let f ← getMember v (Key.text "toJSON")
            if ← Object.isCallable f then Object.call f v #[k.toValue] else pure v
        | v => pure v
      let v ← if st.replacer.isUndefined then pure v
        else Object.call st.replacer (.obj holder) #[k.toValue, v]
      let v ← unwrapped v
      match v with
      | .null => return some (.ofString "null")
      | .bool b => return some (.ofString (if b then "true" else "false"))
      | .str s => return some (quoteUnits s)
      | .num x => return some (if x.isFinite then x.toUnits else .ofString "null")
      | .big _ => typeError "cannot serialize bigint to JSON"
      | .obj r =>
          if ← Object.isCallable v then return none
          if above.contains r then typeError "cyclic object value"
          let above := r :: above
          let inner := indent ++ st.gap
          if ← isArray v then
            let mut parts := []
            for i in [0:← lengthOf r] do
              let p ← write st n r (.index i) above inner
              parts := p.getD (.ofString "null") :: parts
            return some (between parts.reverse "[" "]" indent st.gap)
          else
            let keys ← match st.keys with
              | some ks => pure ks
              | none => do pure ((← enumerableKeys r))
            let mut parts := []
            for k in keys do
              match ← write st n r k above inner with
              | some t =>
                  let name := match k with
                    | .str s => quoteUnits s
                    | .sym _ => .empty
                  let colon := if st.gap.isEmpty then ":" else ": "
                  parts := (name ++ .ofString colon ++ t) :: parts
              | none => pure ()
            return some (between parts.reverse "\x7b" "\x7d" indent st.gap)
      | _ => return none
where
  enumerableKeys (r : Ref) : Exec (List Key) := do
    let mut out := []
    for k in ← Object.ownKeys r do
      if k.isString then
        match ← Object.getOwn r k with
        | some p => if p.isEnumerable then out := k :: out
        | none => pure ()
    return out.reverse

def allowedKeys (r : Ref) : Exec (List Key) := do
  let mut out : List Key := []
  for v in ← listItems r do
    let name? ← match v with
      | .str s => pure (some s)
      | .num n => pure (some n.toUnits)
      | .obj o => do
          match ← kind o with
          | .str _ | .num _ => some <$> toText v
          | _ => pure none
      | _ => pure none
    match name? with
    | some s => if !out.contains (.str s) then out := out ++ [.str s]
    | none => pure ()
  return out

def gapOf (v : Value) : Exec Units := do
  match ← unwrapped v with
  | .num n => return (Units.ofString " ").replicate (min n.clamped 10).toNat
  | .str s => return s.extract 0 10
  | _ => return .empty

def stringify (c : Call) : Exec Value := do
  let isFunction ← Object.isCallable (c.arg 1)
  let keys ← match c.arg 1, isFunction with
    | .obj r, false => do
        if ← isArray (c.arg 1) then some <$> allowedKeys r else pure none
    | _, _ => pure none
  let st : Style := {
    replacer := if isFunction then c.arg 1 else .undefined, keys, gap := ← gapOf (c.arg 2) }
  let holder ← newObject
  Object.createDataOrThrow holder (Key.text "") (c.arg 0)
  match ← write st 100000 holder (Key.text "") [] .empty with
  | some t => return .str t
  | none => return .undefined

def run (f : JsonFn) (c : Call) : Exec Value :=
  match f with
  | .parse => parse c
  | .stringify => stringify c

end Builtins.Jsons

end Inlay.Engine
