import Inlay.Json.Reader
import Inlay.Keyword

/-! # Options as JSON

    Options are an object with the fields of `Options`, or a list of their values in order.  What is
    left out keeps its default; nothing else may be present. -/

namespace Inlay.Options

open Inlay.Json Reader

def fieldNames : List String := ["value", "rewrite_specifiers", "filename"]

def unknownField (name : String) : String :=
  let known := ", ".intercalate (fieldNames.map fun n => "`" ++ n ++ "`")
  s!"unknown field `{name}`, expected one of {known}"

def floatLayout : Number.Layout := { maxPlaces := 16, maxZeros := 4, whole := ".0", plus := "" }

def floatText (x : Float) : String :=
  match Number.classify x with
  | .nan => "NaN"
  | .infinite n => if n then "-inf" else "inf"
  | .finite b =>
      (if b.isNegative then "-" else "") ++
        (if b.m == 0 then "0.0" else floatLayout.write (Number.shortest b))

def numberWord : Json.Number → String
  | .whole n => s!"integer `{n}`"
  | .float x => s!"floating point `{floatText x}`"

/-- Fails because the value ahead is not of the expected kind. -/
def wrongKind {α : Type} (expected : String) : Reader α := do
  let mismatch (what : String) : Reader α :=
    placed (wrong s!"invalid type: {what}, expected {expected}")
  match ← peek with
  | some 'n' =>
      drop
      word ['u', 'l', 'l']
      mismatch "null"
  | some 't' =>
      drop
      word ['r', 'u', 'e']
      mismatch "boolean `true`"
  | some 'f' =>
      drop
      word ['a', 'l', 's', 'e']
      mismatch "boolean `false`"
  | some '-' =>
      drop
      mismatch (numberWord (← Numeral.value true (← numeral (some .eofValue))))
  | some '"' =>
      drop
      mismatch ("string " ++ Text.quoted (← string))
  | some '[' => mismatch "sequence"
  | some '\x7b' => mismatch "map"
  | some c =>
      if c.isDigit then mismatch (numberWord (← Numeral.value false (← numeral (some .eofValue))))
      else failAhead .expectedValue
  | none => failAhead .expectedValue

def token : Reader Char := do
  match ← peekToken with
  | some c => return c
  | none => failAhead .eofValue

def readBool : Reader Bool := do
  match ← token with
  | 't' =>
      drop
      word ['r', 'u', 'e']
      return true
  | 'f' =>
      drop
      word ['a', 'l', 's', 'e']
      return false
  | _ => wrongKind "a boolean"

def readText : Reader String := do
  match ← token with
  | '"' =>
      drop
      string
  | _ => wrongKind "a string"

def readOptionalText : Reader (Option String) := do
  if (← peekToken) == some 'n' then
    drop
    word ['u', 'l', 'l']
    return none
  else return some (← readText)

def textOf? : Value → Option String
  | .string s => some s
  | _ => none

def readKeywords : Reader KeywordOption := do
  let mismatch : Reader KeywordOption :=
    wrong "data did not match any variant of untagged enum KeywordOption"
  match ← readValue (2 * (← fuelLeft)) (maxDepth - 1) with
  | .string s => return .one s
  | .array items =>
      match items.mapM textOf? with
      | some names => return .many names
      | none => mismatch
  | _ => mismatch

/-- The fields seen so far. -/
structure Seen where
  value : Option KeywordOption := none
  expandSpecifiers : Option Bool := none
  fileName : Option (Option String) := none

def Seen.options (s : Seen) : Options :=
  let usual : Options := {}
  { value := s.value.getD usual.value
    expandSpecifiers := s.expandSpecifiers.getD usual.expandSpecifiers
    fileName := s.fileName.getD usual.fileName }

def readPositional : Reader Seen := do
  if !(← nextItem true) then return {}
  let value ← readKeywords
  if !(← nextItem false) then return { value := some value }
  let specifiers ← readBool
  if !(← nextItem false) then return { value := some value, expandSpecifiers := some specifiers }
  let fileName ← readOptionalText
  return { value := some value, expandSpecifiers := some specifiers, fileName := some fileName }

def readNamed : Nat → Bool → Seen → Reader Seen
  | 0, _, seen => return seen
  | fuel + 1, isFirst, seen => do
      if !(← nextMember isFirst) then return seen
      let name ← memberName
      let once (isSet : Bool) : Reader Unit := do
        if isSet then wrong s!"duplicate field `{name}`"
        colon
      match name with
      | "value" =>
          once seen.value.isSome
          readNamed fuel false { seen with value := some (← readKeywords) }
      | "rewrite_specifiers" =>
          once seen.expandSpecifiers.isSome
          readNamed fuel false { seen with expandSpecifiers := some (← readBool) }
      | "filename" =>
          once seen.fileName.isSome
          readNamed fuel false { seen with fileName := some (← readOptionalText) }
      | _ => wrong (unknownField name)

def reader : Reader Options := do
  match ← token with
  | '[' =>
      drop
      return (← placed (enclosed readPositional endList)).options
  | '\x7b' =>
      drop
      return (← placed (enclosed (readNamed (← fuelLeft) true {}) endObject)).options
  | _ => wrongKind "struct PrecallOptions"

/-- Reads options; a blank text is the default. -/
def ofJson (text : String) : Except Failure Options :=
  if text.toList.all Char.isWhitespace then .ok {}
  else match Json.parseWith reader text with
    | .ok o => .ok o
    | .error f => .error (.config f.message)

end Inlay.Options
