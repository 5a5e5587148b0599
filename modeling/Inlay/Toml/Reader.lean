import Inlay.Number.Shortest
import Inlay.Toml.Table

/-! # Reading TOML text

    A reading that misses may be tried otherwise from where it began; one that stops is final.  Both
    say what was expected, and the place where the reading ended is the place of the fault. -/

namespace Inlay.Toml

/-- How far a text has been read, in bytes. -/
structure Cursor where
  rest : List Char
  pos : Nat

/-- What is said of a fault: what is invalid, what was expected, and why. -/
structure Notes where
  label : Option String := none
  expected : List String := []
  cause : Option String := none

def Notes.message (n : Notes) : String :=
  let label := match n.label with
    | some l => ["invalid " ++ l]
    | none => []
  let expected := if n.expected.isEmpty then [] else ["expected " ++ ", ".intercalate n.expected]
  "\n".intercalate (label ++ expected ++ n.cause.toList)

inductive Step (α : Type) where
  | ok (a : α) (c : Cursor)
  | miss (n : Notes) (c : Cursor)
  | stop (n : Notes) (c : Cursor)

def Reader (α : Type) := Cursor → Step α

namespace Reader

variable {α β : Type}

instance : Monad Reader where
  pure a := fun c => .ok a c
  bind r f := fun c =>
    match r c with
    | .ok a c => f a c
    | .miss n c => .miss n c
    | .stop n c => .stop n c

def miss : Reader α := fun c => .miss {} c

def cut (r : Reader α) : Reader α := fun c =>
  match r c with
  | .miss n c => .stop n c
  | s => s

def noted (f : Notes → Notes) (r : Reader α) : Reader α := fun c =>
  match r c with
  | .ok a c => .ok a c
  | .miss n c => .miss (f n) c
  | .stop n c => .stop (f n) c

/-- Says what is invalid if the reader fails; what was said first stays. -/
def labelled (name : String) (r : Reader α) : Reader α :=
  noted (fun n => { n with label := n.label.or (some name) }) r

def expecting (names : List String) (r : Reader α) : Reader α :=
  noted (fun n => { n with expected := n.expected ++ names }) r

def optional (r : Reader α) : Reader (Option α) := fun c =>
  match r c with
  | .ok a c => .ok (some a) c
  | .miss _ _ => .ok none c
  | .stop n c => .stop n c

def orElse (r s : Reader α) : Reader α := fun c =>
  match r c with
  | .miss _ _ => s c
  | step => step

/-- Converts what was read; a refusal is a fault at the start. -/
def checked (r : Reader α) (f : α → Except String β) : Reader β := fun c =>
  match r c with
  | .ok a c' =>
      match f a with
      | .ok b => .ok b c'
      | .error e => .miss { cause := some e } c
  | .miss n c => .miss n c
  | .stop n c => .stop n c

def peek : Reader (Option Char) := fun c => .ok c.rest.head? c

def position : Reader Nat := fun c => .ok c.pos c

def remaining : Reader Nat := fun c => .ok c.rest.length c

def satisfy (p : Char → Bool) : Reader Char := fun c =>
  match c.rest with
  | x :: rest => if p x then .ok x ⟨rest, c.pos + x.utf8Size⟩ else .miss {} c
  | [] => .miss {} c

def any : Reader Char := satisfy fun _ => true

def char (x : Char) : Reader Char := satisfy (· == x)

def takeWhile (p : Char → Bool) : Reader String := fun c =>
  let taken := c.rest.takeWhile p
  let s := String.ofList taken
  .ok s ⟨c.rest.drop taken.length, c.pos + s.utf8ByteSize⟩

def takeWhile1 (p : Char → Bool) : Reader String := fun c =>
  match takeWhile p c with
  | .ok s c' => if s.isEmpty then .miss {} c else .ok s c'
  | s => s

def literal (s : String) : Reader Unit := fun c =>
  if s.toList.isPrefixOf c.rest then .ok () ⟨c.rest.drop s.length, c.pos + s.utf8ByteSize⟩
  else .miss {} c

def endOfText : Reader Unit := fun c => if c.rest.isEmpty then .ok () c else .miss {} c

def ahead (r : Reader α) : Reader Unit := fun c =>
  match r c with
  | .ok _ _ => .ok () c
  | .miss n _ => .miss n c
  | .stop n _ => .stop n c

def manyUpTo (r : Reader α) : Nat → List α → Reader (List α)
  | 0, out => fun c => .ok out.reverse c
  | n + 1, out => fun c =>
      match r c with
      | .ok a c' => if c'.pos == c.pos then .ok out.reverse c else manyUpTo r n (a :: out) c'
      | .miss _ _ => .ok out.reverse c
      | .stop n c => .stop n c

def many (r : Reader α) : Reader (List α) := do manyUpTo r ((← remaining) + 1) []

def moreUpTo (r : Reader α) (sep : Reader β) : Nat → List α → Reader (List α)
  | 0, out => fun c => .ok out.reverse c
  | n + 1, out => fun c =>
      match (do let _ ← sep; r : Reader α) c with
      | .ok a c' => moreUpTo r sep n (a :: out) c'
      | .miss _ _ => .ok out.reverse c
      | .stop n c => .stop n c

def separated1 (r : Reader α) (sep : Reader β) : Reader (List α) := do
  let a ← r
  moreUpTo r sep ((← remaining) + 1) [a]

def separated (r : Reader α) (sep : Reader β) : Reader (List α) := do
  match ← optional r with
  | some a => moreUpTo r sep ((← remaining) + 1) [a]
  | none => return []

/-- What was read, with the stretch of text it was read from. -/
def spanned (r : Reader α) : Reader (α × Span) := do
  let start ← position
  let a ← r
  return (a, ⟨start, ← position⟩)

def written (r : Reader α) : Reader (α × String) := fun c =>
  match r c with
  | .ok a c' => .ok (a, String.ofList (c.rest.take (c.rest.length - c'.rest.length))) c'
  | .miss n c => .miss n c
  | .stop n c => .stop n c

/-! ## Blanks -/

def isBlank (c : Char) : Bool := c == ' ' || c == '\t'

def blanks : Reader String := takeWhile isBlank

def newline : Reader Unit := fun c =>
  match c.rest with
  | '\n' :: rest => .ok () ⟨rest, c.pos + 1⟩
  | '\r' :: '\n' :: rest => .ok () ⟨rest, c.pos + 2⟩
  | '\r' :: rest => .miss {} ⟨rest, c.pos + 1⟩
  | _ => .miss {} c

def lineEnd : Reader Unit := orElse newline endOfText

/-- Characters beyond the first ones, which may stand in texts and comments. -/
def isWide (c : Char) : Bool := c.toNat ≥ 0x80

def isCommentChar (c : Char) : Bool := c == '\t' || (0x20 ≤ c.toNat && c.toNat ≤ 0x7e) || isWide c

def comment : Reader Unit := do
  let _ ← char '#'
  let _ ← takeWhile isCommentChar

/-- What may stand between a value and the end of its line. -/
def lineRest : Reader Unit := do
  let _ ← blanks
  let _ ← optional comment
  lineEnd

def listBlanks : Reader Unit := do
  let _ ← many (orElse (do let _ ← takeWhile1 isBlank) (orElse newline comment))

/-! ## Texts -/

def isHexDigit (c : Char) : Bool :=
  c.isDigit || ('a' ≤ c && c ≤ 'f') || ('A' ≤ c && c ≤ 'F')

def hexDigitValue (c : Char) : Nat :=
  if c.isDigit then c.toNat - 48 else if c ≥ 'a' then c.toNat - 87 else c.toNat - 55

/-- A character by its number in a fixed count of digits. -/
def hexChar (count : Nat) : Reader Char := fun c =>
  let ds := (c.rest.take count).takeWhile isHexDigit
  let n := ds.foldl (fun n d => 16 * n + hexDigitValue d) 0
  if ds.length != count then .miss {} c
  else if n ≥ 0x110000 || (0xd800 ≤ n && n ≤ 0xdfff) then
    .miss { cause := some "value is out of range" } c
  else .ok (Char.ofNat n) ⟨c.rest.drop count, c.pos + count⟩

def escape : Reader Char := do
  let _ ← char '\\'
  match ← any with
  | 'b' => return Char.ofNat 8
  | 'f' => return Char.ofNat 12
  | 'n' => return '\n'
  | 'r' => return '\r'
  | 't' => return '\t'
  | 'u' => labelled "unicode 4-digit hex code" (cut (hexChar 4))
  | 'U' => labelled "unicode 8-digit hex code" (cut (hexChar 8))
  | '\\' => return '\\'
  | '"' => return '"'
  | _ =>
      expecting ["`b`", "`f`", "`n`", "`r`", "`t`", "`u`", "`U`", "`\\`", "`\"`"]
        (labelled "escape sequence" (cut miss))

def isBasicChar (c : Char) : Bool :=
  isBlank c || c.toNat == 0x21 || (0x23 ≤ c.toNat && c.toNat ≤ 0x5b)
    || (0x5d ≤ c.toNat && c.toNat ≤ 0x7e) || isWide c

def isLiteralChar (c : Char) : Bool :=
  c == '\t' || (0x20 ≤ c.toNat && c.toNat ≤ 0x26) || (0x28 ≤ c.toNat && c.toNat ≤ 0x7e) || isWide c

def basicString : Reader String := do
  let _ ← char '"'
  let parts ← many (orElse (takeWhile1 isBasicChar) (do return (← escape).toString))
  let _ ← labelled "basic string" (cut (char '"'))
  return String.join parts

def apostrophe : Char := Char.ofNat 39

def literalString : Reader String := labelled "literal string" do
  let _ ← char apostrophe
  let s ← takeWhile isLiteralChar
  let _ ← cut (char apostrophe)
  return s

/-- One or two quotes in front of something that is not the end of the text. -/
def innerQuotes (quote : Char) (term : Reader Unit) : Reader String :=
  let quotes (n : Nat) : Reader String := do
    let s := "".pushn quote n
    literal s
    ahead term
    return s
  orElse (quotes 2) (quotes 1)

/-- A backslash at the end of a line: it and the blanks that follow count for nothing. -/
def continuedLine : Reader String := do
  let _ ← char '\\'
  let _ ← blanks
  newline
  let _ ← many (orElse (do let _ ← takeWhile1 isBlank) newline)
  return ""

def longBody (quote : Char) (content : Reader String) : Reader String := do
  let first ← many content
  let more ← many do
    let q ← innerQuotes quote (do let _ ← satisfy (· != quote))
    let c ← content
    let rest ← many content
    return q ++ c ++ String.join rest
  let last ← optional (innerQuotes quote (literal ("".pushn quote 3)))
  return String.join first ++ String.join more ++ last.getD ""

def longString (quote : Char) (content : Reader String) : Reader String := do
  let mark := "".pushn quote 3
  literal mark
  let _ ← optional newline
  let s ← cut (longBody quote content)
  cut (literal mark)
  return s

def longBasicString : Reader String :=
  labelled "multiline basic string" (longString '"'
    (orElse (takeWhile1 isBasicChar) (orElse continuedLine
      (orElse (do return (← escape).toString) (do newline; return "\n")))))

def longLiteralString : Reader String :=
  labelled "multiline literal string" (longString apostrophe
    (orElse (takeWhile1 isLiteralChar) (do newline; return "\n")))

def string : Reader String :=
  orElse longBasicString (orElse basicString (orElse longLiteralString literalString))

/-! ## Keys -/

def isKeyChar (c : Char) : Bool := c.isAlphanum || c == '-' || c == '_'

def simpleKey : Reader Key := do
  let read : Reader String := do
    match ← peek with
    | none => miss
    | some '"' => basicString
    | some c => if c == apostrophe then literalString else takeWhile1 isKeyChar
  let ((text, w), span) ← spanned (written read)
  return { text, written := w, span }

def maxDepth : Nat := 80

def tooDeep : String := "recursion limit exceeded"

def key : Reader (List Key) :=
  checked (labelled "key" (separated1 (do
    let _ ← blanks
    let k ← simpleKey
    let _ ← blanks
    return k) (char '.'))) fun ks => if ks.length ≥ maxDepth then .error tooDeep else .ok ks

/-! ## Numbers and dates -/

def digit : Reader Char := satisfy Char.isDigit

def digitsMore (d : Reader Char) : Reader Unit := do
  let _ ← many (orElse d (do
    let _ ← char '_'
    expecting ["digit"] (cut d)))

def sign : Reader (Option Char) := optional (satisfy fun c => c == '+' || c == '-')

def decimal : Reader Unit := labelled "integer" do
  let _ ← sign
  orElse (do
    let _ ← satisfy fun c => '1' ≤ c && c ≤ '9'
    digitsMore digit) (do let _ ← digit)

def paddedDigits : Reader Unit := do
  let _ ← digit
  digitsMore digit

def valueIn (base : Nat) (s : String) : Nat :=
  (s.toList.filter isHexDigit).foldl (fun n d => base * n + hexDigitValue d) 0

/-- A whole number that fits into sixty-four bits. -/
def fitting (n : Int) : Except String Value :=
  if n ≥ Nat.pow 2 63 then .error "number too large to fit in target type"
  else if n < -(Nat.pow 2 63) then .error "number too small to fit in target type"
  else .ok (.integer n)

def basedInteger (mark name : String) (base : Nat) (isDigit : Char → Bool) : Reader Value :=
  cut (checked (labelled name do
    literal mark
    cut (written (do
      let _ ← satisfy isDigit
      digitsMore (satisfy isDigit)))) fun (_, s) => fitting (valueIn base s))

def integer : Reader Value := fun c =>
  match c.rest with
  | '0' :: 'x' :: _ => basedInteger "0x" "hexadecimal integer" 16 isHexDigit c
  | '0' :: 'o' :: _ => basedInteger "0o" "octal integer" 8 (fun d => '0' ≤ d && d ≤ '7') c
  | '0' :: 'b' :: _ => basedInteger "0b" "binary integer" 2 (fun d => d == '0' || d == '1') c
  | _ =>
      match written decimal c with
      | .ok (_, s) c' =>
          let n := valueIn 10 s
          match fitting (if s.startsWith "-" then -(n : Int) else n) with
          | .ok v => .ok v c'
          | .error e => .stop { cause := some e } c
      | .miss n c => .miss n c
      | .stop n c => .stop n c

def fraction : Reader Unit := do
  let _ ← char '.'
  expecting ["digit"] (cut paddedDigits)

def exponent : Reader Unit := do
  let _ ← satisfy fun c => c == 'e' || c == 'E'
  let _ ← sign
  cut paddedDigits

/-- The number that a text of sign, digits, point and exponent stands for. -/
def floatOf (s : String) : Float :=
  let cs := s.toList.filter (· != '_')
  let isNegative := cs.head? == some '-'
  let front := cs.takeWhile fun c => c != 'e' && c != 'E'
  let back := (cs.dropWhile fun c => c != 'e' && c != 'E').drop 1
  let places := ((front.dropWhile (· != '.')).filter Char.isDigit).length
  let number (ds : List Char) : Nat := valueIn 10 (String.ofList ds)
  let e : Int := min (number back) 100000
  let e := if back.head? == some '-' then -e else e
  let x := Number.scaled (number front) (e - places)
  if isNegative then -x else x

def specialFloat : Reader Value := do
  let s ← sign
  orElse (do
    literal "inf"
    return .float (if s == some '-' then -(1.0 / 0.0) else 1.0 / 0.0)) (do
    literal "nan"
    return .float (0.0 / 0.0))

def float : Reader Value := labelled "floating-point number" (orElse plain specialFloat)
where
  plain : Reader Value := fun c =>
    match written (do decimal; orElse exponent (do fraction; let _ ← optional exponent)) c with
    | .ok (_, s) c' =>
        let x := floatOf s
        -- only what is too large for a positive number is refused
        if x.isInf && x > 0 then .stop {} c else .ok (.float x) c'
    | .miss n c => .miss n c
    | .stop n c => .stop n c

def fixedDigits (count low high : Nat) : Reader Nat := fun c =>
  let ds := (c.rest.take count).takeWhile Char.isDigit
  let n := valueIn 10 (String.ofList ds)
  if ds.length != count then .miss {} c
  else if n < low || n > high then .miss { cause := some "value is out of range" } c
  else .ok n ⟨c.rest.drop count, c.pos + count⟩

def daysIn (year month : Nat) : Nat :=
  let isLeap := year % 4 == 0 && (year % 100 != 0 || year % 400 == 0)
  if month == 2 then (if isLeap then 29 else 28)
  else if month == 4 || month == 6 || month == 9 || month == 11 then 30 else 31

def date : Reader Unit := do
  let year ← fixedDigits 4 0 9999
  let _ ← char '-'
  let month ← cut (fixedDigits 2 1 12)
  let _ ← cut (char '-')
  let _ ← cut (checked (fixedDigits 2 1 31) fun d =>
    if d > daysIn year month then .error "value is out of range" else .ok d)

def timeOfDay : Reader Unit := do
  let _ ← fixedDigits 2 0 23
  let _ ← char ':'
  cut do
    let _ ← fixedDigits 2 0 59
    let _ ← char ':'
    let _ ← fixedDigits 2 0 60
    let _ ← optional (do
      let _ ← char '.'
      takeWhile1 Char.isDigit)

def timeOffset : Reader Unit := labelled "time offset" (orElse
  (do let _ ← satisfy fun c => c == 'Z' || c == 'z')
  (do
    let _ ← satisfy fun c => c == '+' || c == '-'
    cut do
      let _ ← fixedDigits 2 0 23
      let _ ← char ':'
      let _ ← fixedDigits 2 0 59))

def moment : Reader Value := orElse
  (labelled "date-time" do
    date
    let _ ← optional (do
      let _ ← satisfy fun c => c == 'T' || c == 't' || c == ' '
      timeOfDay
      optional timeOffset)
    return .moment)
  (labelled "time" do
    timeOfDay
    return .moment)

/-! ## Values -/

def orText {α : Type} (r : Reader α) : Reader α :=
  expecting ["`\"`", "`'`"] (labelled "string" r)

def list (value : Reader Value) : Reader Value := do
  let _ ← char '['
  let items ← cut do
    if (← peek) == some ']' then return []
    let items ← separated (do
      listBlanks
      let v ← value
      listBlanks
      return v) (char ',')
    if !items.isEmpty then
      let _ ← optional (char ',')
    listBlanks
    return items
  let _ ← expecting ["`]`"] (labelled "array" (cut (char ']')))
  return .list items

def equals : Reader Unit := do
  let _ ← expecting ["`.`", "`=`"] (char '=')

def splitKey (ks : List Key) : List Key × Key :=
  (ks.dropLast, ks.getLast?.getD ⟨"", "", ⟨0, 0⟩⟩)

def inlineTable (value : Reader Value) : Reader Value := do
  let _ ← char '\x7b'
  let pair : Reader (List Key × Key × Value) := do
    let ks ← key
    cut do
      equals
      let _ ← blanks
      let v ← value
      let _ ← blanks
      let (path, k) := splitKey ks
      return (path, k, v)
  let t ← cut (checked (do
    let pairs ← separated pair (char ',')
    let _ ← blanks
    return pairs) fun pairs => (Value.ofPairs pairs).mapError Clash.message)
  let _ ← expecting ["`\x7d`"] (labelled "inline table" (cut (char '\x7d')))
  return t

def value : Nat → Reader Value
  | 0 => fun c => .miss { cause := some tooDeep } c
  | depth + 1 => do
      match ← peek with
      | none => miss
      | some '[' => list (value depth)
      | some '\x7b' => inlineTable (value depth)
      | some '_' => expecting ["leading digit"] integer
      | some '.' => expecting ["leading digit"] float
      | some 't' => orText (cut (do literal "true"; return .bool true))
      | some 'f' => orText (cut (do literal "false"; return .bool false))
      | some 'i' => orText (do literal "inf"; return .float (1.0 / 0.0))
      | some 'n' => orText (do literal "nan"; return .float (0.0 / 0.0))
      | some c =>
          if c == '"' || c == apostrophe then return .text (← string)
          else if c.isDigit || c == '+' || c == '-' then orElse moment (orElse float integer)
          else orText miss

/-! ## Lines -/

def restOfLine : Reader Unit := expecting ["newline", "`#`"] lineRest

def keyValue (d : Draft) : Reader Draft :=
  checked (do
    let ks ← key
    cut do
      equals
      let _ ← blanks
      let (v, span) ← spanned (value maxDepth)
      restOfLine
      return (ks, v, span)) fun (ks, v, span) =>
    let (path, k) := splitKey ks
    (d.add path k v span).mapError Clash.message

def headerLine (d : Draft) (opening closing : String)
    (take : Draft → List Key → Span → Except Clash Draft) :
    Reader Draft :=
  checked (do
    let h ← spanned do
      literal opening
      let ks ← cut key
      expecting ["`.`", "`" ++ closing ++ "`"] (cut (literal closing))
      return ks
    cut restOfLine
    return h) fun (ks, span) => (take d ks span).mapError Clash.message

def header (d : Draft) : Reader Draft := labelled "table header" fun c =>
  match c.rest with
  | '[' :: '[' :: _ => headerLine d "[[" "]]" Draft.listHeader c
  | _ :: _ :: _ => headerLine d "[" "]" Draft.header c
  | _ => .miss {} c

def line (d : Draft) : Reader Draft := do
  match ← peek with
  | none => miss
  | some '#' => cut (do comment; lineEnd; return d)
  | some '[' => cut (header d)
  | some '\n' | some '\r' =>
      newline
      return d
  | some _ => cut (keyValue d)

def lines : Nat → Draft → Reader Draft
  | 0, d => return d
  | n + 1, d => fun c =>
      match (do let d ← line d; let _ ← blanks; return d : Reader Draft) c with
      | .ok d c' => lines n d c'
      | .miss _ _ => .ok d c
      | .stop n c => .stop n c

def document : Reader Draft := do
  let _ ← optional (char (Char.ofNat 0xfeff))
  let _ ← blanks
  let d ← lines ((← remaining) + 1) {}
  endOfText
  return d

end Reader

/-! ## Faults -/

/-- A fault of a text: the stretch it concerns and what is said of it. -/
structure Fault where
  span : Span
  message : String

/-- The line and the column of a place, counted from zero. -/
def position (text : String) (index : Nat) : Nat × Nat :=
  let size := text.utf8ByteSize
  if size == 0 then (0, index)
  else
    let safe := min index (size - 1)
    let rec go : List Char → Nat → Nat → Nat → Nat → Nat × Nat
      | [], _, line, _, column => (line, column)
      | c :: cs, pos, line, start, column =>
          let next := pos + c.utf8Size
          if safe < next then
            -- a place at a character of several bytes is counted in bytes
            (line, if next == safe + 1 then column else safe - start)
          else if c == '\n' then go cs next (line + 1) next 0
          else go cs next line start (column + 1)
    let (line, column) := go text.toList 0 0 0 0
    (line, column + (index - safe))

def Fault.report (f : Fault) (text : String) : String :=
  let (line, column) := position text f.span.start
  let number := toString (line + 1)
  let gutter := "".pushn ' ' (number.length + 1) ++ "|"
  let content := ((text.splitOn "\n")[line]?).getD ""
  let width := min (f.span.stop - f.span.start) (content.utf8ByteSize - column)
  s!"TOML parse error at line {number}, column {column + 1}\n"
    ++ gutter ++ "\n" ++ number ++ " | " ++ content ++ "\n"
    ++ gutter ++ "".pushn ' ' (column + 1) ++ "".pushn '^' (max width 1) ++ "\n"
    ++ f.message ++ "\n"

/-- Reads a text: its members in order. -/
def read (text : String) : Except Fault (List (Key × Node)) :=
  let fault (n : Notes) (c : Cursor) : Except Fault (List (Key × Node)) :=
    .error ⟨⟨c.pos, c.pos + ((c.rest.head?.map Char.utf8Size).getD 0)⟩, n.message⟩
  match Reader.document ⟨text.toList, 0⟩ with
  | .ok d c =>
      match d.settle with
      | .ok d => .ok d.root.members
      | .error e => fault { cause := some e.message } c
  | .miss n c | .stop n c => fault n c

end Inlay.Toml
