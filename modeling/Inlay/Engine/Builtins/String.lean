import Inlay.Engine.Builtins.Basic
import Inlay.Engine.Step
import Inlay.Text.Case
import Inlay.Text.Normal

/-! # Built-in functions on texts -/

namespace Inlay.Engine

open Exec

namespace Builtins.Texts

def textThis (c : Call) : Exec Units := do
  requireCoercible c.this
  toText c.this

def make (c : Call) : Exec Value := do
  let s ← match c.args.size, c.arg 0, c.isConstruct with
    | 0, _, _ => pure Units.empty
    | _, .sym i, false => symbolText i
    | _, v, _ => toText v
  if !c.isConstruct then return .str s
  let proto ← protoFor c.newTarget Intrinsic.stringProto
  return .obj (← alloc { proto := some proto, kind := .str s })

def fromCharCode (c : Call) : Exec Value := do
  let mut out := #[]
  for v in c.args do
    out := out.push ((← toNumber v).wrapped 16).toUInt16
  return .str ⟨out⟩

def fromCodePoint (c : Call) : Exec Value := do
  let mut out : Units := .empty
  for v in c.args do
    let n ← toNumber v
    match n.toInt? with
    | some i =>
        if i < 0 || i > 0x10ffff then rangeError s!"codepoint `{n.text}` is not valid"
        out := out ++ .ofCodePoint i.toNat
    | none => rangeError s!"codepoint `{n.text}` is not valid"
  return .str out

def raw (c : Call) : Exec Value := do
  let cooked ← toObject (c.arg 0)
  let texts ← toObject (← Object.get cooked (Key.text "raw"))
  let n ← lengthOf texts
  let mut out : Units := .empty
  for i in [0:n] do
    out := out ++ (← toText (← Object.get texts (.index i)))
    if i + 1 < n && i + 1 < c.args.size then out := out ++ (← toText (c.arg (i + 1)))
  return .str out

/-! ## Characters -/

def charAt (c : Call) : Exec Value := do
  let s ← textThis c
  let i ← toIntegerClamped (c.arg 0)
  if i < 0 then return .str .empty
  match s.get? i.toNat with
  | some u => return .str ⟨#[u]⟩
  | none => return .str .empty

def at_ (c : Call) : Exec Value := do
  let s ← textThis c
  let i ← toIntegerClamped (c.arg 0)
  let i := if i < 0 then i + s.size else i
  if i < 0 then return .undefined
  match s.get? i.toNat with
  | some u => return .str ⟨#[u]⟩
  | none => return .undefined

def charCodeAt (c : Call) : Exec Value := do
  let s ← textThis c
  let i ← toIntegerClamped (c.arg 0)
  if i < 0 then return .nan
  match s.get? i.toNat with
  | some u => return .nat u.toNat
  | none => return .nan

def codePointAt (c : Call) : Exec Value := do
  let s ← textThis c
  let i ← toIntegerClamped (c.arg 0)
  if i < 0 then return .undefined
  match (s.extract i.toNat (i.toNat + 2)).codePoints with
  | n :: _ => return .nat n
  | [] => return .undefined

/-! ## Searching -/

/-- Whether a value is a regular expression, as far as methods of texts care. -/
def isRegex (v : Value) : Exec Bool := do
  match v with
  | .obj r =>
      match ← Object.get r (.sym WellKnown.matching) with
      | .undefined =>
          match ← kind r with
          | .regex _ _ => return true
          | _ => return false
      | m => return m.truthy
  | _ => return false

/-- The text looked for by a method that takes no regular expressions. -/
def needle (c : Call) (name : String) : Exec Units := do
  if ← isRegex (c.arg 0) then
    typeError s!"First argument to String.prototype.{name} must not be a regular expression"
  toText (c.arg 0)

def clampIndex (v : Value) (size default : Nat) : Exec Nat := do
  if v.isUndefined then return default
  return min (← toIntegerClamped v).toNat size

def indexOf (c : Call) : Exec Value := do
  let s ← textThis c
  let pat ← toText (c.arg 0)
  let start ← clampIndex (c.arg 1) s.size 0
  match s.find? pat start with
  | some i => return .nat i
  | none => return .int (-1)

def lastIndexOf (c : Call) : Exec Value := do
  let s ← textThis c
  let pat ← toText (c.arg 0)
  let n ← toNumber (c.arg 1)
  let start := if n.isNaN then s.size else min n.clamped.toNat s.size
  match s.findLast? pat start with
  | some i => return .nat i
  | none => return .int (-1)

def includes (c : Call) : Exec Value := do
  let s ← textThis c
  let pat ← needle c "includes"
  let start ← clampIndex (c.arg 1) s.size 0
  return .bool (s.find? pat start).isSome

def startsWith (c : Call) : Exec Value := do
  let s ← textThis c
  let pat ← needle c "startsWith"
  let start ← clampIndex (c.arg 1) s.size 0
  return .bool (s.matchesAt pat start)

def endsWith (c : Call) : Exec Value := do
  let s ← textThis c
  let pat ← needle c "endsWith"
  let stop ← clampIndex (c.arg 1) s.size s.size
  return .bool (pat.size ≤ stop && (s.extract 0 stop).matchesAt pat (stop - pat.size))

/-! ## Parts -/

def slice (c : Call) : Exec Value := do
  let s ← textThis c
  let start ← relative (c.arg 0) s.size 0
  let stop ← relative (c.arg 1) s.size s.size
  return .str (s.extract start stop)

def substring (c : Call) : Exec Value := do
  let s ← textThis c
  let a ← clampIndex (c.arg 0) s.size 0
  let b ← clampIndex (c.arg 1) s.size s.size
  return .str (s.extract (min a b) (max a b))

def repeated (c : Call) : Exec Value := do
  let s ← textThis c
  let n ← toNumber (c.arg 0)
  let k := n.clamped
  if k < 0 || !(n.isFinite || n.isNaN) || k * s.size > 4294967295 then
    rangeError
      ("repeat count must be a positive finite number that doesn't overflow the maximum string "
        ++ "length (2^32 - 1)")
  return .str (s.replicate (if s.isEmpty then 0 else k.toNat))

def pad (c : Call) (isStart : Bool) : Exec Value := do
  let s ← textThis c
  let n ← toLength (c.arg 0)
  let filler ← if (c.arg 1).isUndefined then pure (Units.ofString " ") else toText (c.arg 1)
  if n ≤ s.size || filler.isEmpty then return .str s
  let k := n - s.size
  let fill := (filler.replicate (k / filler.size + 1)).extract 0 k
  return .str (if isStart then fill ++ s else s ++ fill)

def concat (c : Call) : Exec Value := do
  let mut s ← textThis c
  for v in c.args do
    s := s ++ (← toText v)
  return .str s

def mapCodePoints (s : Units) (f : List Nat → List Nat) : Units :=
  .join ((f s.codePoints).map Units.ofCodePoint)

def wellFormed (s : Units) : Bool := s.codePoints.all (!Units.isSurrogate ·)

def normalize (c : Call) : Exec Value := do
  let s ← textThis c
  let name ← if (c.arg 0).isUndefined then pure (Units.ofString "NFC") else toText (c.arg 0)
  match Inlay.Text.Form.ofName? name.text with
  | some f => return .str (mapCodePoints s f.normalize)
  | none => rangeError "The normalization form should be one of NFC, NFD, NFKC, NFKD."

/-! ## Replacing -/

/-- What a replacement text can refer to. -/
structure Matched where
  text : Units
  start : Nat
  stop : Nat
  groups : List Value
  named : Value

/-- The text a value stands for in a replacement. -/
def groupText (v : Value) : Exec Units := do
  if v.isUndefined then return .empty else toText v

/-- Fills in what a replacement text refers to.  A number of one or two digits names a group; one
    that names none stays as it is. -/
def substitute (m : Matched) : Nat → List UInt16 → Units → Exec Units
  | 0, _, out => return out
  | _ + 1, [], out => return out
  | n + 1, 36 :: rest, out => do
      match rest with
      | 36 :: rest => substitute m n rest (out ++ .ofString "$")
      | 38 :: rest => substitute m n rest (out ++ m.text.extract m.start m.stop)
      | 96 :: rest => substitute m n rest (out ++ m.text.extract 0 m.start)
      | 39 :: rest => substitute m n rest (out ++ m.text.drop m.stop)
      | 60 :: after =>
          if m.named.isUndefined then substitute m n after (out ++ .ofString "$<")
          else if !after.contains 62 then return out ++ .ofString "$<" ++ ⟨after.toArray⟩
          else
            let name := after.takeWhile (· != 62)
            let v ← getMember m.named (.str ⟨name.toArray⟩)
            substitute m n (after.drop (name.length + 1)) (out ++ (← groupText v))
      | u :: rest' =>
          let digits := rest.takeWhile fun u => (unitDigit? 10 u).isSome
          if digits.isEmpty then substitute m n rest' (out ++ ⟨#[36, u]⟩)
          else
            let digits := digits.take 2
            let i := digits.foldl (fun i u => 10 * i + (unitDigit? 10 u).getD 0) 0
            let rest := rest.drop digits.length
            if i == 0 || i > m.groups.length then
              substitute m n rest (out ++ ⟨(36 :: digits).toArray⟩)
            else
              let v := (m.groups[i - 1]?).getD .undefined
              substitute m n rest (out ++ (← groupText v))
      | [] => return out ++ .ofString "$"
  | n + 1, u :: rest, out => substitute m n rest (out ++ ⟨#[u]⟩)

def substituted (m : Matched) (replacement : Units) : Exec Units :=
  substitute m (replacement.size + 1) replacement.data.toList .empty

/-- The method of the first argument that a method of texts hands its work to. -/
def delegate? (v : Value) (symbol : SymbolId) : Exec (Option Value) := do
  if v.isNullish then return none else getMethod v (.sym symbol)

def requireGlobal (v : Value) (name : String) : Exec Unit := do
  if ← isRegex v then
    let flags ← getMember v (Key.text "flags")
    requireCoercible flags
    if !(← toText flags).data.contains 103 then
      typeError s!"String.prototype.{name} called with a non-global RegExp argument"

/-- The places at which a text stands in another, one behind the other. -/
def places (s pat : Units) : Nat → Nat → List Nat
  | 0, _ => []
  | n + 1, start =>
      match s.find? pat start with
      | some i => i :: places s pat n (i + max pat.size 1)
      | none => []

def replace (c : Call) (all : Bool) : Exec Value := do
  requireCoercible c.this
  if all then requireGlobal (c.arg 0) "replaceAll"
  match ← delegate? (c.arg 0) WellKnown.replace with
  | some m => Object.call m (c.arg 0) #[c.this, c.arg 1]
  | none =>
      let s ← toText c.this
      let pat ← toText (c.arg 0)
      let isFunction ← Object.isCallable (c.arg 1)
      let replacement ← if isFunction then pure Units.empty else toText (c.arg 1)
      let found := places s pat (s.size + 2) 0
      let found := if all then found else found.take 1
      let mut out : Units := .empty
      let mut last := 0
      for i in found do
        let new ← if isFunction then
            toText (← Object.call (c.arg 1) .undefined #[.str pat, .nat i, .str s])
          else substituted ⟨s, i, i + pat.size, [], .undefined⟩ replacement
        out := out ++ s.extract last i ++ new
        last := i + pat.size
      return .str (out ++ s.drop last)

/-- Hands a method to a regular expression made of the argument. -/
def viaRegex (c : Call) (symbol : SymbolId) (flags : String) : Exec Value := do
  requireCoercible c.this
  match ← delegate? (c.arg 0) symbol with
  | some m => Object.call m (c.arg 0) #[c.this]
  | none =>
      let s ← toText c.this
      let pattern ← if (c.arg 0).isUndefined then pure Units.empty else toText (c.arg 0)
      let r ← Step.newRegex pattern (.ofString flags)
      invoke (.obj r) (.sym symbol) #[.str s]

def splitBy (s sep : Units) : Nat → Nat → List Units
  | 0, start => [s.drop start]
  | n + 1, start =>
      match s.find? sep start with
      | some i => s.extract start i :: splitBy s sep n (i + sep.size)
      | none => [s.drop start]

def split (c : Call) : Exec Value := do
  requireCoercible c.this
  match ← delegate? (c.arg 0) WellKnown.split with
  | some m => Object.call m (c.arg 0) #[c.this, c.arg 1]
  | none =>
      let s ← toText c.this
      let limit ← if (c.arg 1).isUndefined then pure 4294967295 else do
        pure (← toNumber (c.arg 1)).toUInt32
      let sep ← toText (c.arg 0)
      if limit == 0 then return ← arrayOf #[]
      if (c.arg 0).isUndefined then return ← arrayOf #[.str s]
      if s.isEmpty && sep.isEmpty then return ← arrayOf #[]
      let parts := if sep.isEmpty then s.data.toList.map fun u => Units.mk #[u]
        else splitBy s sep (s.size + 1) 0
      arrayOf ((parts.take limit).map Value.str).toArray

/-- The text that an object for a text holds. -/
def valueOf (v : Value) : Exec Value := do
  match v with
  | .str _ => return v
  | .obj r =>
      match ← kind r with
      | .str s => return .str s
      | _ => typeError "'this' is not a string"
  | _ => typeError "'this' is not a string"

def compareTexts (c : Call) : Exec Value := do
  let s ← textThis c
  let t ← toText (c.arg 0)
  return .int (match s.compare t with
    | .lt => -1
    | .eq => 0
    | .gt => 1)

def run (f : StringFn) (c : Call) : Exec Value := do
  match f with
  | .make => make c
  | .fromCharCode => fromCharCode c
  | .fromCodePoint => fromCodePoint c
  | .raw => raw c
  | .at_ => at_ c
  | .charAt => charAt c
  | .charCodeAt => charCodeAt c
  | .codePointAt => codePointAt c
  | .concat => concat c
  | .endsWith => endsWith c
  | .includes => includes c
  | .indexOf => indexOf c
  | .isWellFormed => return .bool (wellFormed (← textThis c))
  | .lastIndexOf => lastIndexOf c
  | .localeCompare => compareTexts c
  | .match_ => viaRegex c WellKnown.matching ""
  | .matchAll =>
      requireCoercible c.this
      requireGlobal (c.arg 0) "matchAll"
      viaRegex c WellKnown.matchAll "g"
  | .normalize => normalize c
  | .padEnd => pad c false
  | .padStart => pad c true
  | .repeat_ => repeated c
  | .replace => replace c false
  | .replaceAll => replace c true
  | .search => viaRegex c WellKnown.search ""
  | .slice => slice c
  | .split => split c
  | .startsWith => startsWith c
  | .substring => substring c
  | .toLowerCase =>
      return .str (mapCodePoints (← textThis c) fun cs => Inlay.Text.lowerAll cs false)
  | .toUpperCase => return .str (mapCodePoints (← textThis c) Inlay.Text.upperAll)
  | .toText | .valueOf => valueOf c.this
  | .toWellFormed =>
      return .str (mapCodePoints (← textThis c) fun cs =>
        cs.map fun n => if Units.isSurrogate n then 0xfffd else n)
  | .trim => return .str (← textThis c).trim
  | .trimEnd => return .str (← textThis c).trimEnd
  | .trimStart => return .str (← textThis c).trimStart
  | .iterator =>
      return .obj (← alloc {
        proto := some Intrinsic.stringIteratorProto, kind := .stringIter (← textThis c) 0 })

end Builtins.Texts

end Inlay.Engine
