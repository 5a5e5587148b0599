import Inlay.Number.Shortest
import Inlay.Text.Quoted

/-! # Reading JSON text

    A strict reader that says what is wrong and where.  Places are a line, counted from one, and
    the number of bytes read on that line.  There are two ways to go over a value: `skipValue` only
    checks its form, `readValue` also takes it in, and is stricter about surrogates, about how large
    a number is and about how deep values nest. -/

namespace Inlay.Json

/-- A number as it was read. -/
inductive Number where
  | whole (n : Int)
  | float (x : Float)

/-- A JSON value; members of an object keep their order. -/
inductive Value where
  | null
  | bool (b : Bool)
  | number (n : Number)
  | string (s : String)
  | array (items : List Value)
  | object (members : List (String × Value))

/-- What can be wrong with a text. -/
inductive Problem where
  | eofList | eofObject | eofString | eofValue
  | expectedColon | expectedListEnd | expectedObjectEnd | expectedIdent | expectedValue
  | invalidEscape | invalidNumber | numberRange | control | keyString | loneSurrogate
  | trailingComma | trailingChars | hexEnd | tooDeep
  /-- A value of the wrong kind. -/
  | data (text : String)

def Problem.message : Problem → String
  | eofList => "EOF while parsing a list"
  | eofObject => "EOF while parsing an object"
  | eofString => "EOF while parsing a string"
  | eofValue => "EOF while parsing a value"
  | expectedColon => "expected `:`"
  | expectedListEnd => "expected `,` or `]`"
  | expectedObjectEnd => "expected `,` or `\x7d`"
  | expectedIdent => "expected ident"
  | expectedValue => "expected value"
  | invalidEscape => "invalid escape"
  | invalidNumber => "invalid number"
  | numberRange => "number out of range"
  | control => "control character (\\u0000-\\u001F) found while parsing a string"
  | keyString => "key must be a string"
  | loneSurrogate => "lone leading surrogate in hex escape"
  | trailingComma => "trailing comma"
  | trailingChars => "trailing characters"
  | hexEnd => "unexpected end of hex escape"
  | tooDeep => "recursion limit exceeded"
  | data text => text

/-- A line and the bytes read on it. -/
structure Spot where
  line : Nat
  column : Nat

/-- A problem, with the place once that is known. -/
structure Fault where
  problem : Problem
  spot : Option Spot

def Fault.message (f : Fault) : String :=
  match f.spot with
  | some s => s!"{f.problem.message} at line {s.line} column {s.column}"
  | none => f.problem.message

/-- How far a text has been read. -/
structure Cursor where
  rest : List Char
  spot : Spot := ⟨1, 0⟩

/-- A reader; when it fails, the cursor stays where it got to. -/
abbrev Reader := EStateM Fault Cursor

namespace Reader

def Spot.after (s : Spot) (c : Char) : Spot :=
  if c == '\n' then ⟨s.line + 1, 0⟩ else { s with column := s.column + c.utf8Size }

def peek : Reader (Option Char) := do return (← get).rest.head?

def next : Reader (Option Char) := do
  let s ← get
  match s.rest with
  | [] => return none
  | c :: cs =>
      set ({ rest := cs, spot := Spot.after s.spot c } : Cursor)
      return some c

def drop : Reader Unit := do let _ ← next

def fail {α : Type} (p : Problem) : Reader α := do throw ⟨p, some (← get).spot⟩

def failAhead {α : Type} (p : Problem) : Reader α := do
  let s ← get
  let spot := match s.rest with
    | [] => s.spot
    | '\n' :: _ => ⟨s.spot.line + 1, 0⟩
    | _ => { s.spot with column := s.spot.column + 1 }
  throw ⟨p, some spot⟩

/-- Fails for the kind of a value; the place is filled in further out. -/
def wrong {α : Type} (text : String) : Reader α := throw ⟨.data text, none⟩

/-- A problem without a place gets the place where the reader stands in the end. -/
def placed {α : Type} (r : Reader α) : Reader α :=
  tryCatch r fun f => do
    match f.spot with
    | some _ => throw f
    | none => throw ⟨f.problem, some (← get).spot⟩

def isBlank (c : Char) : Bool := c == ' ' || c == '\n' || c == '\t' || c == '\r'

def skipBlanks : List Char → Spot → List Char × Spot
  | c :: cs, s => if isBlank c then skipBlanks cs (Spot.after s c) else (c :: cs, s)
  | [], s => ([], s)

def peekToken : Reader (Option Char) := do
  let s ← get
  let (rest, spot) := skipBlanks s.rest s.spot
  set ({ rest, spot } : Cursor)
  return rest.head?

def word : List Char → Reader Unit
  | [] => return
  | c :: cs => do
      match ← next with
      | none => fail .eofValue
      | some d => if c == d then word cs else fail .expectedIdent

/-! ## Numbers -/

def takeDigits : List Char → Spot → List Char × List Char × Spot
  | c :: cs, s =>
      if c.isDigit then
        let (ds, rest, s) := takeDigits cs (Spot.after s c)
        (c :: ds, rest, s)
      else ([], c :: cs, s)
  | [], s => ([], [], s)

def digits : Reader (List Char) := do
  let s ← get
  let (ds, rest, spot) := takeDigits s.rest s.spot
  set ({ rest, spot } : Cursor)
  return ds

/-- The parts of a number: its whole digits, the digits behind the point, and the exponent. -/
structure Numeral where
  whole : List Char
  fraction : Option (List Char) := none
  exponent : Option (Bool × List Char) := none

/-- The digits before the point.  `early` is the problem when the text ends too soon. -/
def wholePart (early : Option Problem) : Reader (List Char) := do
  match ← next with
  | none => fail (early.getD .invalidNumber)
  | some '0' =>
      if ((← peek).map Char.isDigit).getD false then failAhead .invalidNumber
      return ['0']
  | some c =>
      if !c.isDigit then fail .invalidNumber
      return c :: (← digits)

/-- The point and the digits behind it, if there is one. -/
def fractionPart (early : Option Problem) : Reader (Option (List Char)) := do
  if (← peek) == some '.' then
    drop
    let ds ← digits
    if ds.isEmpty then
      match early, ← peek with
      | some p, none => failAhead p
      | _, _ => failAhead .invalidNumber
    return some ds
  else return none

/-- The sign of an exponent: whether it is negative. -/
def exponentSign : Reader Bool := do
  match ← peek with
  | some '+' =>
      drop
      return false
  | some '-' =>
      drop
      return true
  | _ => return false

def exponentFrom (early : Option Problem) : Reader (Option (Bool × List Char)) := do
  drop
  let isNegative ← exponentSign
  match ← next with
  | none => fail (early.getD .invalidNumber)
  | some c =>
      if !c.isDigit then fail .invalidNumber
      return some (isNegative, c :: (← digits))

def exponentPart (early : Option Problem) : Reader (Option (Bool × List Char)) := do
  match ← peek with
  | some 'e' | some 'E' => exponentFrom early
  | _ => return none

def numeral (early : Option Problem) : Reader Numeral := do
  let whole ← wholePart early
  let fraction ← fractionPart early
  let exponent ← exponentPart early
  return { whole, fraction, exponent }

def natOf (ds : List Char) : Nat := ds.foldl (fun n c => 10 * n + (c.toNat - 48)) 0

def Numeral.value (isNegative : Bool) (n : Numeral) : Reader Number := do
  let signed (x : Float) : Float := if isNegative then -x else x
  match n.fraction, n.exponent with
  | none, none =>
      let v := natOf n.whole
      if isNegative then
        if v == 0 || v > Nat.pow 2 63 then return .float (signed (Float.ofNat v))
        else return .whole (-v)
      else if v < Nat.pow 2 64 then return .whole v
      else return .float (Float.ofNat v)
  | fraction, exponent =>
      let fraction := fraction.getD []
      let m := natOf (n.whole ++ fraction)
      let e : Int := match exponent with
        | none => 0
        | some (isNegative, ds) =>
            let e : Int := min (natOf ds) 100000
            if isNegative then -e else e
      let e := e - fraction.length
      if m == 0 then return .float (signed 0)
      if e + digitCountOf m > 400 then fail .numberRange
      if e + digitCountOf m < -400 then return .float (signed 0)
      let x := if e ≥ 0 then Float.ofScientific m false e.toNat
        else Float.ofScientific m true (-e).toNat
      if x.isInf then fail .numberRange
      return .float (signed x)
where
  digitCountOf (m : Nat) : Int := Inlay.Number.digitCount m

/-! ## Strings -/

def hexDigit? (c : Char) : Option Nat :=
  if c.isDigit then some (c.toNat - 48)
  else if 'a' ≤ c && c ≤ 'f' then some (c.toNat - 87)
  else if 'A' ≤ c && c ≤ 'F' then some (c.toNat - 55)
  else none

def hexEscape : Reader Nat := do
  let s ← get
  match s.rest with
  | a :: b :: c :: d :: rest =>
      set ({ rest, spot := [a, b, c, d].foldl Spot.after s.spot } : Cursor)
      match hexDigit? a, hexDigit? b, hexDigit? c, hexDigit? d with
      | some a, some b, some c, some d => return ((a * 16 + b) * 16 + c) * 16 + d
      | _, _, _, _ => fail .invalidEscape
  | rest =>
      set ({ rest := [], spot := rest.foldl Spot.after s.spot } : Cursor)
      fail .eofString

def simpleEscape? : Char → Option Char
  | '"' => some '"'
  | '\\' => some '\\'
  | '/' => some '/'
  | 'b' => some (Char.ofNat 8)
  | 'f' => some (Char.ofNat 12)
  | 'n' => some '\n'
  | 'r' => some '\r'
  | 't' => some '\t'
  | _ => none

/-- Goes over the rest of a string whose opening quote was read. -/
def skipString : Nat → Reader Unit
  | 0 => fail .eofString
  | fuel + 1 => do
      match ← peek with
      | none => fail .eofString
      | some '"' => drop
      | some '\\' =>
          drop
          match ← next with
          | none => fail .eofString
          | some 'u' => let _ ← hexEscape
          | some c => if (simpleEscape? c).isNone then fail .invalidEscape
          skipString fuel
      | some c =>
          if c.toNat < 32 then fail .control
          drop
          skipString fuel

/-- The character written by one or two escapes of four digits. -/
def unicodeEscape : Reader Char := do
  let n ← hexEscape
  if 0xdc00 ≤ n && n ≤ 0xdfff then fail .loneSurrogate
  if n < 0xd800 || 0xdbff < n then return Char.ofNat n
  match ← peek with
  | none => fail .eofString
  | some c =>
      drop
      if c != '\\' then fail .hexEnd
  match ← peek with
  | none => fail .eofString
  | some c =>
      drop
      if c != 'u' then fail .hexEnd
  let low ← hexEscape
  if low < 0xdc00 || 0xdfff < low then fail .loneSurrogate
  return Char.ofNat ((n - 0xd800) * 0x400 + (low - 0xdc00) + 0x10000)

/-- Takes in the rest of a string whose opening quote was read. -/
def readString : Nat → List Char → Reader String
  | 0, _ => fail .eofString
  | fuel + 1, out => do
      match ← next with
      | none => fail .eofString
      | some '"' => return String.ofList out.reverse
      | some '\\' =>
          let c ← do
            match ← next with
            | none => fail .eofString
            | some 'u' => unicodeEscape
            | some c =>
                match simpleEscape? c with
                | some c => pure c
                | none => fail .invalidEscape
          readString fuel (c :: out)
      | some c =>
          if c.toNat < 32 then fail .control
          readString fuel (c :: out)

/-- A bound on the steps any reader may still take. -/
def fuelLeft : Reader Nat := do return (← get).rest.length + 1

def string : Reader String := do readString (← fuelLeft) []

/-! ## Values -/

/-- After a value inside a list or an object: what may follow it. -/
inductive Follow where
  | more | done

/-- Looks at what follows an item in a list or an object. -/
def follow (isObject accepted : Bool) : Reader Follow := do
  match ← peekToken with
  | some ',' =>
      if accepted then
        drop
        return .more
      else return .more
  | some c =>
      if c == (if isObject then '\x7d' else ']') then
        drop
        return .done
      if accepted then failAhead (if isObject then .expectedObjectEnd else .expectedListEnd)
      return .more
  | none => failAhead (if isObject then .eofObject else .eofList)

def skipName : Reader Unit := do
  match ← peekToken with
  | some '"' =>
      drop
      skipString (← fuelLeft)
  | some _ => failAhead .keyString
  | none => failAhead .eofObject
  match ← peekToken with
  | some ':' => drop
  | some _ => failAhead .expectedColon
  | none => failAhead .eofObject

mutual

def skipValue : Nat → Reader Unit
  | 0 => fail .eofValue
  | fuel + 1 => do
      match ← peekToken with
      | none => failAhead .eofValue
      | some 'n' => drop; word ['u', 'l', 'l']
      | some 't' => drop; word ['r', 'u', 'e']
      | some 'f' => drop; word ['a', 'l', 's', 'e']
      | some '-' => do
          drop
          let _ ← numeral none
      | some '"' =>
          drop
          skipString (← fuelLeft)
      | some '[' =>
          drop
          skipItems fuel false false
      | some '\x7b' =>
          drop
          skipItems fuel true false
      | some c =>
          if c.isDigit then let _ ← numeral none
          else failAhead .expectedValue

/-- Checks the items of a list or the members of an object, up to its end. -/
def skipItems : Nat → Bool → Bool → Reader Unit
  | 0, _, _ => fail .eofValue
  | fuel + 1, isObject, accepted => do
      match ← follow isObject accepted with
      | .done => return
      | .more =>
          if isObject then skipName
          skipValue fuel
          skipItems fuel isObject true

end

def nextItem (isFirst : Bool) : Reader Bool := do
  match ← peekToken with
  | none => failAhead .eofList
  | some ']' => return false
  | some c =>
      if isFirst then return true
      if c != ',' then failAhead .expectedListEnd
      drop
      match ← peekToken with
      | some ']' => failAhead .trailingComma
      | some _ => return true
      | none => failAhead .eofValue

def nextMember (isFirst : Bool) : Reader Bool := do
  match ← peekToken with
  | none => failAhead .eofObject
  | some '\x7d' => return false
  | some c =>
      if isFirst then
        if c == '"' then return true else failAhead .keyString
      if c != ',' then failAhead .expectedObjectEnd
      drop
      match ← peekToken with
      | some '"' => return true
      | some '\x7d' => failAhead .trailingComma
      | some _ => failAhead .keyString
      | none => failAhead .eofValue

def endList : Reader Unit := do
  match ← peekToken with
  | some ']' => drop
  | some ',' =>
      drop
      if (← peekToken) == some ']' then failAhead .trailingComma else failAhead .trailingChars
  | some _ => failAhead .trailingChars
  | none => failAhead .eofList

def endObject : Reader Unit := do
  match ← peekToken with
  | some '\x7d' => drop
  | some ',' => failAhead .trailingComma
  | some _ => failAhead .trailingChars
  | none => failAhead .eofObject

def memberName : Reader String := do
  drop
  string

def colon : Reader Unit := do
  match ← peekToken with
  | some ':' => drop
  | some _ => failAhead .expectedColon
  | none => failAhead .eofObject

/-- Runs a reader of items and then the reader of the end, which runs also if the first fails. -/
def enclosed {α : Type} (inside : Reader α) (stop : Reader Unit) : Reader α := do
  let r ← tryCatch (Except.ok <$> inside) (fun f => pure (Except.error f))
  let e ← tryCatch (Except.ok <$> stop) (fun f => pure (Except.error f))
  match r, e with
  | .error f, _ => throw f
  | .ok _, .error f => throw f
  | .ok a, .ok _ => return a

/-- How deep values may nest while they are taken in. -/
def maxDepth : Nat := 127

mutual

def readValue : Nat → Nat → Reader Value
  | 0, _ => fail .eofValue
  | fuel + 1, depth => do
      match ← peekToken with
      | none => failAhead .eofValue
      | some 'n' =>
          drop
          word ['u', 'l', 'l']
          return .null
      | some 't' =>
          drop
          word ['r', 'u', 'e']
          return .bool true
      | some 'f' =>
          drop
          word ['a', 'l', 's', 'e']
          return .bool false
      | some '-' =>
          drop
          return .number (← Numeral.value true (← numeral (some .eofValue)))
      | some '"' =>
          drop
          return .string (← string)
      | some '[' =>
          if depth == 0 then failAhead .tooDeep
          drop
          return .array (← enclosed (readItems fuel (depth - 1) true) endList)
      | some '\x7b' =>
          if depth == 0 then failAhead .tooDeep
          drop
          return .object (← enclosed (readMembers fuel (depth - 1) true) endObject)
      | some c =>
          if c.isDigit then return .number (← Numeral.value false (← numeral (some .eofValue)))
          else failAhead .expectedValue

def readItems : Nat → Nat → Bool → Reader (List Value)
  | 0, _, _ => fail .eofValue
  | fuel + 1, depth, isFirst => do
      if ← nextItem isFirst then
        let v ← readValue fuel depth
        return v :: (← readItems fuel depth false)
      else return []

def readMembers : Nat → Nat → Bool → Reader (List (String × Value))
  | 0, _, _ => fail .eofValue
  | fuel + 1, depth, isFirst => do
      if ← nextMember isFirst then
        let name ← memberName
        colon
        let v ← readValue fuel depth
        return (name, v) :: (← readMembers fuel depth false)
      else return []

end

def finish : Reader Unit := do
  if (← peekToken).isSome then failAhead .trailingChars

end Reader

def parseWith {α : Type} (r : Reader α) (text : String) : Except Fault α :=
  let whole : Reader α := do
    let a ← r
    Reader.finish
    return a
  match whole { rest := text.toList } with
  | .ok a _ => .ok a
  | .error f _ => .error f

def check (text : String) : Except Fault Unit :=
  parseWith (Reader.skipValue (2 * text.length + 2)) text

/-- Takes in a text that is one JSON value. -/
def parse (text : String) : Except Fault Value :=
  parseWith (Reader.readValue (2 * text.length + 2) Reader.maxDepth) text

end Inlay.Json
