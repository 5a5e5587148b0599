import Inlay.Engine.Builtins.Basic
import Inlay.Engine.Regex.Literal
import Inlay.Engine.Syntax.Stmt

/-! # Built-in functions on functions and errors, and global functions -/

namespace Inlay.Engine

open Exec

namespace Builtins.Functions

/-- Makes a function from texts; the last one is the body. -/
def make (c : Call) (isAsync isGenerator : Bool) : Exec Value := do
  let n := c.args.size
  let mut params : Units := .empty
  for i in [0:n - 1] do
    if i > 0 then params := params ++ .ofString ","
    params := params ++ (← toText (c.arg i))
  let body ← if n == 0 then pure Units.empty else toText (c.arg (n - 1))
  let head : Syntax.S.FnHead := { name := .ofString "anonymous", isAsync, isGenerator }
  match Syntax.readFunction Regex.literals head (← get).sites params.text.toList
      body.text.toList with
  | .error f => fail .source f.message
  | .ok (node, sites) =>
      modify fun m => { m with sites }
      let proto ← do
        if c.isConstruct then pure (some (← protoFor c.newTarget (functionProto node.fnInfo)))
        else pure none
      return .obj (← newClosure { node, scope := 0 } (.ofString "anonymous") proto)

def listArguments (v : Value) : Exec (Array Value) := do
  match v with
  | .obj r => listItems r
  | _ => typeError "cannot create list from a primitive"

def boundLength (target : Ref) (taken : Nat) : Exec Value := do
  if (← Object.getOwn target (Key.text "length")).isNone then return .nat 0
  match ← Object.get target (Key.text "length") with
  | .num n =>
      if !n.isFinite && !n.isNaN then return if n.lt .zero then .nat 0 else .num n
      return .nat (n.clamped - taken).toNat
  | _ => return .nat 0

def bind (c : Call) : Exec Value := do
  match c.this with
  | .obj target =>
      if !(← obj target).isCallable then
        typeError "cannot bind `this` without a `[[Call]]` internal method"
      let args := c.args.toList.drop 1
      let proto ← Object.getProto target
      let r ← alloc { proto, kind := .bound target (c.arg 0) args }
      let length ← boundLength target args.length
      let name ← match ← Object.get target (Key.text "name") with
        | .str s => pure s
        | _ => pure Units.empty
      modifyObj r fun o =>
        (o.put (Key.text "length") (.readOnly length)).put (Key.text "name")
          (.readOnly (.str (.ofString "bound " ++ name)))
      return .obj r
  | _ => typeError "cannot bind `this` without a `[[Call]]` internal method"

/-- The text of a function, which never shows its definition. -/
def textOf (v : Value) : Exec Value := do
  if !(← Object.isCallable v) then typeError "not a function"
  match v with
  | .obj r =>
      let name ← match ← Object.get r (Key.text "name") with
        | .str s => pure s
        | _ => pure Units.empty
      return .str (.ofString "function " ++ name ++ .ofString "() \x7b [native code] \x7d")
  | _ => return .undefined

def run (f : FunctionFn) (c : Call) : Exec Value := do
  match f with
  | .make => make c false false
  | .makeGenerator => make c false true
  | .makeAsync => make c true false
  | .makeAsyncGenerator => make c true true
  | .protoCall => return .undefined
  | .apply =>
      requireCallable c.this "not a callable function"
      let args ← if (c.arg 1).isNullish then pure #[] else listArguments (c.arg 1)
      Object.call c.this (c.arg 0) args
  | .bind => bind c
  | .call =>
      requireCallable c.this "not a callable function"
      Object.call c.this (c.arg 0) (c.args.extract 1 c.args.size)
  | .toText => textOf c.this
  | .hasInstance => return .bool (← ordinaryInstance c.this (c.arg 0) 1000)
  | .throwTypeError =>
      typeError ("'caller', 'callee', and 'arguments' properties may not be accessed on strict "
        ++ "mode functions or the arguments objects for calls to them")

end Builtins.Functions

namespace Builtins.Errors

def installCause (r : Ref) (options : Value) : Exec Unit := do
  match options with
  | .obj o =>
      if ← Object.has o (Key.text "cause") then
        let v ← Object.get o (Key.text "cause")
        modifyObj r (·.put (Key.text "cause") (.hidden v))
  | _ => return

def make (sort : ErrorSort) (c : Call) (callee : Ref) : Exec Value := do
  let newTarget := if c.isConstruct then c.newTarget else .obj callee
  let proto ← protoFor newTarget (Intrinsic.errorProto sort)
  let r ← alloc { proto := some proto, kind := .error sort }
  let (message, options) := if sort == .aggregate then (c.arg 1, c.arg 2) else (c.arg 0, c.arg 1)
  if !message.isUndefined then
    let s ← toText message
    modifyObj r (·.put (Key.text "message") (.hidden (.str s)))
  installCause r options
  if sort == .aggregate then
    let items ← iterableItems (c.arg 0)
    let a ← newArray items
    modifyObj r (·.put (Key.text "errors") (.hidden (.obj a)))
  return .obj r

def textOf (v : Value) : Exec Value := do
  match v with
  | .obj r =>
      let name ← match ← Object.get r (Key.text "name") with
        | .undefined => pure (Units.ofString "Error")
        | n => toText n
      let message ← match ← Object.get r (Key.text "message") with
        | .undefined => pure Units.empty
        | m => toText m
      if name.isEmpty then return .str message
      if message.isEmpty then return .str name
      return .str (name ++ .ofString ": " ++ message)
  | _ => typeError "'this' is not an Object"

def run (f : ErrorFn) (c : Call) (callee : Ref) : Exec Value :=
  match f with
  | .make sort => make sort c callee
  | .toText => textOf c.this

end Builtins.Errors

namespace Builtins.Globals

/-! ## Numbers from texts -/

def parseFloat (v : Value) : Exec Value := do
  let us := (← toText v).trimStart.data.toList
  let (isNegative, us) := match us with
    | 45 :: us => (true, us)
    | 43 :: us => (false, us)
    | us => (false, us)
  match takeDecimal us with
  | some (x, _) => return .float (if isNegative then -x else x)
  | none => return .nan

/-- The number of some digits: exact while they cannot overflow, else rounded at each digit. -/
def digitsValue (base : Nat) (ds : List UInt16) : Float :=
  if base ≤ 16 && ds.length ≤ 16 then Float.ofNat (takeDigits base ds 0 0).1
  else ds.foldl (fun x u => match unitDigit? base u with
    | some d => x * Float.ofNat base + Float.ofNat d
    | none => x) 0

def parseInt (v radix : Value) : Exec Value := do
  let us := (← toText v).trimStart.data.toList
  let (isNegative, us) := match us with
    | 45 :: us => (true, us)
    | 43 :: us => (false, us)
    | us => (false, us)
  let r := (← toNumber radix).toInt32
  if r != 0 && (r < 2 || r > 36) then return .nan
  let (base, us) : Nat × List UInt16 := match us with
    | 48 :: x :: rest =>
        if (x == 120 || x == 88) && (r == 0 || r == 16) then (16, rest)
        else (if r == 0 then 10 else r.toNat, us)
    | us => (if r == 0 then 10 else r.toNat, us)
  let ds := us.takeWhile fun u => (unitDigit? base u).isSome
  if ds.isEmpty then return .nan
  let x := digitsValue base ds
  return .float (if isNegative then -x else x)

/-! ## Texts in addresses -/

def alwaysPlain : String :=
  "ABCDEFGHIJKLMNOPQRSTUVWXYZabcdefghijklmnopqrstuvwxyz0123456789-_.!~*'()"

def reservedMarks : String := ";/?:@&=+$,#"

def uriError {α : Type} (message : String) : Exec α := fail .uri message

def utf8 (n : Nat) : List Nat :=
  if n < 0x80 then [n]
  else if n < 0x800 then [0xc0 + n / 64, 0x80 + n % 64]
  else if n < 0x10000 then [0xe0 + n / 4096, 0x80 + n / 64 % 64, 0x80 + n % 64]
  else [0xf0 + n / 262144, 0x80 + n / 4096 % 64, 0x80 + n / 64 % 64, 0x80 + n % 64]

def hexPair (n : Nat) : String :=
  let d (k : Nat) : Char := if k < 10 then Char.ofNat (48 + k) else Char.ofNat (55 + k)
  String.ofList ['%', d (n / 16), d (n % 16)]

def encode (v : Value) (plain : String) : Exec Value := do
  let s ← toText v
  let mut out : Units := .empty
  for n in s.codePoints do
    if Units.isSurrogate n then uriError "trying to encode an invalid string"
    if n < 128 && plain.toList.contains (Char.ofNat n) then out := out ++ .ofCodePoint n
    else out := out ++ .ofString (String.join ((utf8 n).map hexPair))
  return .str out

/-- The byte of two digits at the front, and what follows. -/
def takeByte : List UInt16 → Exec (Nat × List UInt16)
  | a :: b :: rest =>
      match unitDigit? 16 a, unitDigit? 16 b with
      | some x, some y => return (16 * x + y, rest)
      | _, _ => uriError "invalid hexadecimal digit found"
  | _ => uriError "invalid escape character found"

def takeBytes : Nat → List UInt16 → Exec (List Nat × List UInt16)
  | 0, us => return ([], us)
  | k + 1, us => do
      if us.head? != some 37 then uriError "escape characters must be preceded with a % sign"
      let (b, rest) ← takeByte us.tail
      let (bs, rest) ← takeBytes k rest
      return (b :: bs, rest)

/-- How many bytes a character has that starts with a byte; none if none starts so. -/
def byteCount (b : Nat) : Option Nat :=
  if b < 0x80 then some 1
  else if b < 0xc0 then none
  else if b < 0xe0 then some 2
  else if b < 0xf0 then some 3
  else if b < 0xf8 then some 4
  else none

/-- The code point of some bytes; none if they are not the shortest form of a character. -/
def codePointOf (first : Nat) (more : List Nat) : Option Nat :=
  let (lead, least) := match more.length with
    | 1 => (first % 32, 0x80)
    | 2 => (first % 16, 0x800)
    | _ => (first % 8, 0x10000)
  let n := more.foldl (fun n b => 64 * n + b % 64) lead
  if more.any (fun b => b / 64 != 2) || n < least || n > 0x10ffff || Units.isSurrogate n then none
  else some n

def decodeFrom (kept : List Char) : Nat → List UInt16 → Units → Exec Units
  | 0, _, out => return out
  | _ + 1, [], out => return out
  | fuel + 1, u :: us, out => do
      if u != 37 then decodeFrom kept fuel us (out ++ ⟨#[u]⟩)
      else
        let (b, rest) ← takeByte us
        match byteCount b with
        | none => uriError "invalid escaped character found"
        | some 1 =>
            if kept.contains (Char.ofNat b) then
              decodeFrom kept fuel rest (out ++ ⟨((u :: us).take 3).toArray⟩)
            else decodeFrom kept fuel rest (out ++ .ofCodePoint b)
        | some count =>
            if rest.length < 3 * (count - 1) then
              uriError "non-terminated escape character found"
            let (more, rest) ← takeBytes (count - 1) rest
            match codePointOf b more with
            | none => uriError "invalid UTF-8 encoding found"
            | some n => decodeFrom kept fuel rest (out ++ .ofCodePoint n)

def decode (v : Value) (kept : String) : Exec Value := do
  let s ← toText v
  return .str (← decodeFrom kept.toList (s.size + 1) s.data.toList .empty)

def run (f : GlobalFn) (c : Call) : Exec Value := do
  match f with
  | .evaluate =>
      match c.arg 0 with
      | .str s => (← read).evaluate s none false
      | v => return v
  | .isFinite => return .bool (← toNumber (c.arg 0)).isFinite
  | .isNaN => return .bool (← toNumber (c.arg 0)).isNaN
  | .parseFloat => parseFloat (c.arg 0)
  | .parseInt => parseInt (c.arg 0) (c.arg 1)
  | .decodeUri => decode (c.arg 0) reservedMarks
  | .decodeUriComponent => decode (c.arg 0) ""
  | .encodeUri => encode (c.arg 0) (alwaysPlain ++ reservedMarks)
  | .encodeUriComponent => encode (c.arg 0) alwaysPlain

end Builtins.Globals

end Inlay.Engine
