import Inlay.Engine.Number
import Inlay.Engine.Units
import Inlay.Text.Word

/-! # Tokens of scripts

    Tokens are read one at a time.  Where the language is ambiguous, the reader of expressions asks
    for another reading of the same place: a slash as the start of a regular expression, a closing
    brace as the next piece of a template. -/

namespace Inlay.Engine.Syntax

open Inlay.Text

/-- A line and a column, both counted from one. -/
structure Spot where
  line : Nat := 1
  col : Nat := 1
  deriving DecidableEq, Inhabited

/-- Why a script cannot be read. -/
inductive Fault where
  | expected (tokens : List String) (found : String) (spot : Spot) (context : String)
  | unexpected (found : String) (spot : Spot) (message : String)
  | abruptEnd
  | general (message : String) (spot : Spot)
  /-- A fault without a place. -/
  | plain (message : String)

def alternatives : List String → String
  | [] => ""
  | [a] => s!"'{a}'"
  | [a, b] => s!"'{a}' or '{b}'"
  | a :: rest => s!"'{a}', " ++ alternatives rest

def Fault.message : Fault → String
  | expected [t] found p context =>
      s!"expected token '{t}', got '{found}' in {context} at line {p.line}, col {p.col}"
  | expected ts found p context =>
      s!"expected one of {alternatives ts}, got '{found}' in {context} "
        ++ s!"at line {p.line}, col {p.col}"
  | unexpected found p message =>
      let more := if message.isEmpty then "" else s!", {message}"
      s!"unexpected token '{found}'{more} at line {p.line}, col {p.col}"
  | abruptEnd => "abrupt end"
  | general message p => s!"{message} at line {p.line}, col {p.col}"
  | plain message => message

inductive Token where
  | eof
  /-- A name or a keyword; `escaped` if it was written with escapes. -/
  | name (text : String) (escaped : Bool)
  | hidden (text : String)
  | punct (text : String)
  /-- A number, with what strict code has against the way it is written. -/
  | num (x : Num) (strictFault : Option String)
  | bigint (n : Int)
  /-- A string, with what strict code has against its first old-fashioned escape, and where. -/
  | str (s : Units) (strictFault : Option (String × Spot))
  | template (raw : Units) (cooked : Option Units) (isTail : Bool)
  /-- A regular expression, and where its flags start. -/
  | regex (pattern flags : Units) (flagSpot : Spot)
  deriving Inhabited

/-- A place between two tokens. -/
structure Cursor where
  rest : List Char
  spot : Spot := {}
  deriving Inhabited

def Cursor.step (c : Cursor) : Option (Char × Cursor) :=
  match c.rest with
  | [] => none
  | '\r' :: '\n' :: cs => some ('\n', ⟨cs, ⟨c.spot.line + 1, 1⟩⟩)
  | ch :: cs =>
      if isLineEnd ch then some (ch, ⟨cs, ⟨c.spot.line + 1, 1⟩⟩)
      else some (ch, ⟨cs, { c.spot with col := c.spot.col + 1 }⟩)

abbrev L := EStateM Fault Cursor

namespace L

def peek : L (Option Char) := do return (← get).rest.head?

def peekAt (n : Nat) : L (Option Char) := do return (← get).rest[n]?

def next : L (Option Char) := do
  match (← get).step with
  | none => return none
  | some (ch, c) =>
      set c
      return some ch

def skip : Nat → L Unit
  | 0 => return
  | n + 1 => do
      let _ ← next
      skip n

def spot : L Spot := do return (← get).spot

def fuel : L Nat := do return (← get).rest.length + 1

def fail {α : Type} (message : String) (p : Spot) : L α := throw (.general message p)

/-- Reads characters as long as they pass a test. -/
def takeWhile (p : Char → Bool) : L (List Char) := do
  let s ← get
  let taken := s.rest.takeWhile p
  skip taken.length
  return taken

/-! ## Blanks and comments -/

/-- The rest of a comment that may span lines; whether it did. -/
def blockComment : Nat → Bool → L Bool
  | 0, b => return b
  | n + 1, hasBreak => do
      match ← next with
      | none => fail "unterminated multiline comment" (← spot)
      | some '*' =>
          if (← peek) == some '/' then
            let _ ← next
            return hasBreak
          else blockComment n hasBreak
      | some c => blockComment n (hasBreak || isLineEnd c)

/-- Skips blanks and comments; where a line first ended on the way.  A comment that spans lines ends
    one where it starts. -/
def blanks : Nat → Option Spot → L (Option Spot)
  | 0, b => return b
  | n + 1, ended => do
      let here ← spot
      match ← peek with
      | none => return ended
      | some '/' =>
          match ← peekAt 1 with
          | some '/' =>
              let _ ← takeWhile (!isLineEnd ·)
              blanks n ended
          | some '*' =>
              skip 2
              let spans ← blockComment n false
              blanks n (if spans then ended <|> some here else ended)
          | _ => return ended
      | some c =>
          if isLineEnd c then
            let _ ← next
            blanks n (ended <|> some here)
          else if isBlank c then
            let _ ← next
            blanks n ended
          else return ended

/-! ## Escapes -/

def hexDigits (count : Nat) (start : Spot) (message : String) : L Nat := do
  let s ← get
  let ds := s.rest.take count
  match ds.mapM hexDigit? with
  | some vs =>
      if vs.length < count then fail message start
      skip count
      return vs.foldl (fun n d => 16 * n + d) 0
  | none => fail message start

/-- What follows `\u`. -/
def unicodeEscape (start : Spot) : L Nat := do
  if (← peek) == some '\x7b' then
    let _ ← next
    let ds ← takeWhile isHex
    if ds.isEmpty || (← peek) != some '\x7d' then
      fail "malformed Unicode character escape sequence" start
    let _ ← next
    let n := ds.foldl (fun n c => 16 * n + (hexDigit? c).getD 0) 0
    if n > 0x10ffff then
      fail "Unicode codepoint must not be greater than 0x10FFFF in escape sequence" start
    return n
  else hexDigits 4 start "invalid Unicode escape sequence"

def isOctal (c : Char) : Bool := '0' ≤ c && c ≤ '7'

/-- What an escape in a string stands for; an old-fashioned one with what strict code has against
    it. -/
inductive Escape where
  | units (u : Units)
  | legacy (u : Units) (strictFault : String)

def escape (start : Spot) (inTemplate : Bool) : L Escape := do
  let one (n : Nat) : L Escape := return .units (.ofCodePoint n)
  match ← next with
  | none => throw (.plain "unterminated escape sequence in literal")
  | some 'b' => one 8
  | some 't' => one 9
  | some 'n' => one 10
  | some 'v' => one 11
  | some 'f' => one 12
  | some 'r' => one 13
  | some 'x' => one (← hexDigits 2 start "invalid Hexadecimal escape sequence")
  | some 'u' => one (← unicodeEscape start)
  | some c =>
      if isLineEnd c then return .units .empty
      if c == '0' && !((← peek).map isDigit).getD false then return ← one 0
      if isDigit c then
        if inTemplate then fail "octal escape sequences are not allowed in template literal" start
        if !isOctal c then
          return .legacy (.ofCodePoint c.toNat) "\\8 and \\9 are not allowed in strict mode"
        let more ← do
          match ← peek with
          | some d =>
              if isOctal d then
                let _ ← next
                match ← peek with
                | some e =>
                    if c ≤ '3' && isOctal e then
                      let _ ← next
                      pure [d, e]
                    else pure [d]
                | none => pure [d]
              else pure []
          | none => pure []
        return .legacy (.ofCodePoint ((c :: more).foldl (fun n d => 8 * n + (d.toNat - 48)) 0))
          "octal escape sequences are not allowed in strict mode"
      one c.toNat

/-! ## Strings and templates -/

def string (quote : Char) : Nat → Array UInt16 → Option (String × Spot) → L Token
  | 0, out, fault => return .str ⟨out⟩ fault
  | n + 1, out, fault => do
      match ← peek with
      | none => throw (.plain "unterminated string literal")
      | some '\\' =>
          let here ← spot
          let _ ← next
          match ← escape here false with
          | .units u => string quote n (out ++ u.data) fault
          | .legacy u m => string quote n (out ++ u.data) (fault <|> some (m, here))
      | some c =>
          if c == '\n' || c == '\r' then throw (.plain "unterminated string literal")
          let _ ← next
          if c == quote then return .str ⟨out⟩ fault
          string quote n (Units.pushChar out c) fault

/-- The rest of a piece of a template: its raw text and what it stands for. -/
def template : Nat → Array UInt16 → Option (Array UInt16) → L Token
  | 0, raw, _ => return .template ⟨raw⟩ none true
  | n + 1, raw, cooked => do
      match ← peek with
      | none => throw (.plain "unterminated template literal")
      | some '`' =>
          let _ ← next
          return .template ⟨raw⟩ (cooked.map Units.mk) true
      | some '$' =>
          let _ ← next
          if (← peek) == some '\x7b' then
            let _ ← next
            return .template ⟨raw⟩ (cooked.map Units.mk) false
          template n (raw.push 36) (cooked.map (·.push 36))
      | some '\\' =>
          let before ← get
          let _ ← next
          let r : Option Escape ← tryCatch (some <$> escape before.spot true) fun _ => pure none
          match r with
          | some (.units u) | some (.legacy u _) =>
              let taken := before.rest.take (before.rest.length - (← get).rest.length)
              template n (normalize taken |>.foldl Units.pushChar raw) (cooked.map (· ++ u.data))
          | none =>
              -- an escape that means nothing stays in the raw text only
              set before
              let _ ← next
              match ← next with
              | some c => template n (Units.pushChar (raw.push 92) c) none
              | none => throw (.plain "unterminated template literal")
      | some _ =>
          match ← next with
          | some c =>
              let c := if c == '\r' then '\n' else c
              template n (Units.pushChar raw c) (cooked.map (Units.pushChar · c))
          | none => throw (.plain "unterminated template literal")
where
  /-- Line ends in raw text are line feeds. -/
  normalize : List Char → List Char
  | '\r' :: '\n' :: cs => '\n' :: normalize cs
  | '\r' :: cs => '\n' :: normalize cs
  | c :: cs => c :: normalize cs
  | [] => []

/-! ## Numbers -/

def natOf (base : Nat) (ds : List Char) : Nat :=
  ds.foldl (fun n c => base * n + (hexDigit? c).getD 0) 0

/-- A whole number written by digits in a base; beyond thirty-two bits, one that is not decimal is
    rounded at each digit. -/
def wholeOf (base : Nat) (ds : List Char) : Num :=
  let n := natOf base ds
  if Num.fits n then .int n
  else if base == 10 then .real (Inlay.Number.scaled n 0)
  else .real (roundedDigits base (ds.map fun c => c.toNat.toUInt16))

def isDigitOf (base : Nat) (c : Char) : Bool :=
  match hexDigit? c with
  | some d => d < base
  | none => false

/-- Digits of a base with single separators between them, if separators may stand there. -/
def digits (base : Nat) (canSeparate : Bool) : Nat → List Char → Bool → Spot → L (List Char)
  | 0, out, _, _ => return out.reverse
  | n + 1, out, isSeparator, last => do
      let here ← spot
      match ← peek with
      | some '_' =>
          let _ ← next
          if !canSeparate then fail "separator is not allowed" here
          if isSeparator then
            fail "only one underscore is allowed as numeric separator" (← spot)
          digits base canSeparate n out true here
      | some c =>
          if isDigitOf base c then
            let _ ← next
            digits base canSeparate n (c :: out) false here
          else stop out isSeparator last
      | none => stop out isSeparator last
where
  stop (out : List Char) (isSeparator : Bool) (last : Spot) : L (List Char) := do
    if isSeparator then
      fail "underscores are not allowed at the end of numeric literals" last
    return out.reverse

def checkNumberEnd (t : Token) : L Token := do
  match ← peek with
  | some c =>
      if c.isAlphanum || c == '$' || c == '_' then
        fail "a numeric literal must not be directly followed by an alphanumeric, $ or _ characters"
          (← spot)
      return t
  | none => return t

def exponentPart : L Int := do
  let n ← fuel
  let signed (sign : Char) : L Unit := do
    if !((← peek).map isDigit).getD false then
      fail s!"No digit found after {sign} symbol" (← spot)
  let read : L Int := do
    let ds ← digits 10 true n [] false (← spot)
    return min (natOf 10 ds) 100000
  match ← next with
  | some '+' =>
      signed '+'
      read
  | some '-' =>
      signed '-'
      return -(← read)
  | some c =>
      if !isDigit c then
        fail "When lexing exponential value found unexpected char" (← spot)
      let ds ← digits 10 true n [c] false (← spot)
      return min (natOf 10 ds) 100000
  | none => fail "Abrupt end: No exponential value found" (← spot)

def radixNumber (base : Nat) (name : String) : L Token := do
  skip 2
  let n ← fuel
  if !((← peek).map (isDigitOf base)).getD false then
    fail s!"expected {name} digit after number base prefix" (← spot)
  let ds ← digits base true n [] false (← spot)
  if (← peek) == some 'n' then
    let _ ← next
    checkNumberEnd (.bigint (natOf base ds))
  else checkNumberEnd (.num (wholeOf base ds) none)

/-- What follows the whole part of a decimal number: a fraction, an exponent, or nothing. -/
def decimalRest (whole : List Char) (strictFault : Option String) : L Token := do
  let n ← fuel
  let mark ← peek
  let fraction ← do
    if mark == some '.' then
      let _ ← next
      if (← peek) == some '_' then fail "numeric separator not allowed after '.'" (← spot)
      digits 10 true n [] false (← spot)
    else pure []
  let hasExponent := (← peek) == some 'e' || (← peek) == some 'E'
  let exponent ← do
    if hasExponent then
      let _ ← next
      exponentPart
    else pure 0
  let x : Num := if mark != some '.' && !hasExponent then wholeOf 10 whole
    else .ofLiteral
      (Inlay.Number.scaled (natOf 10 (whole ++ fraction)) (exponent - fraction.length))
  checkNumberEnd (.num x strictFault)

/-- A number that starts with a zero before another digit, or with a zero alone. -/
def zeroNumber : L Token := do
  let n ← fuel
  let _ ← next
  let rest (whole : List Char) (fault : Option String) : L Token := do
    if (← peek) == some 'n' then
      fail "'n' suffix not allowed in octal representation" (← spot)
    decimalRest whole fault
  match ← peek with
  | none => return .num (.int 0) none
  | some 'n' =>
      let _ ← next
      return .bigint 0
  | some c =>
      if isDigitOf 8 c then
        let fault := some "implicit octal literals are not allowed in strict mode"
        let ds ← digits 8 false n [] false (← spot)
        if ((← peek).map fun c => isDigit c || c == '_').getD false then
          rest (← digits 10 false n ds.reverse false (← spot)) fault
        else
          if (← peek) == some 'n' then
            fail "'n' suffix not allowed in octal representation" (← spot)
          checkNumberEnd (.num (wholeOf 8 ds) fault)
      else if isDigit c then
        rest (← digits 10 false n [] false (← spot))
          (some "leading 0's are not allowed in strict mode")
      else rest (← digits 10 false n ['0'] false (← spot)) none

def number : L Token := do
  match ← peek, ← peekAt 1 with
  | some '0', some 'x' | some '0', some 'X' => radixNumber 16 "hexadecimal"
  | some '0', some 'o' | some '0', some 'O' => radixNumber 8 "octal"
  | some '0', some 'b' | some '0', some 'B' => radixNumber 2 "binary"
  | some '0', _ => zeroNumber
  | some '.', _ => decimalRest [] none
  | _, _ =>
      let n ← fuel
      let whole ← digits 10 true n [] false (← spot)
      if (← peek) == some 'n' then
        let _ ← next
        checkNumberEnd (.bigint (natOf 10 whole))
      else decimalRest whole none

/-! ## Names -/

/-- The characters of a name, and whether escapes were used. -/
def word : Nat → List Char → Bool → L (String × Bool)
  | 0, out, e => return (String.ofList out.reverse, e)
  | n + 1, out, escaped => do
      let done : L (String × Bool) := return (String.ofList out.reverse, escaped)
      match ← peek with
      | some '\\' =>
          if (← peekAt 1) != some 'u' then return ← done
          let start ← spot
          skip 2
          let c := Char.ofNat (← unicodeEscape start)
          if out.isEmpty && !isWordStart c then fail "invalid identifier start" start
          if !out.isEmpty && !isWordPart c then fail "invalid identifier part" start
          word n (c :: out) true
      | some c =>
          if isWordPart c then
            let _ ← next
            word n (c :: out) escaped
          else done
      | none => done

def atWord : L Bool := do
  match ← peek with
  | some '\\' => return (← peekAt 1) == some 'u'
  | some c => return isWordStart c
  | none => return false

/-! ## Punctuators -/

def puncts : List String :=
  [">>>=", "...", "===", "!==", "**=", "<<=", ">>=", ">>>", "&&=", "||=", "??=",
    "=>", "==", "!=", "<=", ">=", "&&", "||", "??", "?.", "++", "--", "+=", "-=", "*=", "/=", "%=",
    "&=", "|=", "^=", "<<", ">>", "**",
    "\x7b", "\x7d", "(", ")", "[", "]", ";", ",", "<", ">", "+", "-", "*", "/", "%", "&", "|", "^",
    "!", "~", "?", ":", "=", "."]

def startsWith : List Char → List Char → Bool
  | [], _ => true
  | p :: ps, c :: cs => p == c && startsWith ps cs
  | _, [] => false

/-- The longest punctuator ahead; `?.` is none in front of a digit. -/
def punct? (cs : List Char) : Option String :=
  puncts.find? fun p =>
    startsWith p.toList cs && !(p == "?." && ((cs[2]?).map isDigit).getD false)

/-- Punctuators that may go on: the text must not end behind them. -/
def openEnded : List String :=
  ["+", "-", "*", "%", "|", "&", "^", "=", "<", ">", "!", "**", "||", "&&", "??", "<<", ">>", ">>>"]

def punctuator : L Token := do
  let start ← spot
  match punct? (← get).rest with
  | some p =>
      skip p.length
      let ends := (← peek).isNone
      if p == "/" && ends then fail "Abrupt end: Expecting Token /,*,= or regex" start
      if openEnded.contains p && ends then
        fail "abrupt end - could not preview next value as part of the operator" (← spot)
      if p == "." && (← peek) == some '.' then
        skip 1
        fail "Expecting Token '.' as part of spread" (← spot)
      return .punct p
  | none =>
      let c := ((← peek).getD ' ')
      fail s!"unexpected '{c}' at line {start.line}, column {start.col}" start

/-- A regular expression whose slash has been read: its text up to the closing slash. -/
def regexBody : Nat → List Char → Bool → L (List Char)
  | 0, out, _ => return out.reverse
  | n + 1, out, inClass => do
      let cut {α : Type} : L α := do fail "abrupt end on regular expression" (← spot)
      let noBreak (c : Char) : L Unit := do
        if isLineEnd c then fail "new lines are not allowed in regular expressions" (← spot)
      match ← next with
      | none => cut
      | some '/' => if inClass then regexBody n ('/' :: out) true else return out.reverse
      | some '[' => regexBody n ('[' :: out) true
      | some ']' => regexBody n (']' :: out) false
      | some '\\' =>
          match ← next with
          | none => cut
          | some c =>
              noBreak c
              regexBody n (c :: '\\' :: out) inClass
      | some c =>
          noBreak c
          regexBody n (c :: out) inClass

/-- A regular expression, and where its flags start. -/
def regex : L Token := do
  skip 1
  let body ← regexBody (← fuel) [] false
  let here ← spot
  let flags ← takeWhile Char.isAlpha
  return .regex (.ofChars body) (.ofChars flags) here

def singleQuote : Char := Char.ofNat 39

def token : L Token := do
  let start ← spot
  let n ← fuel
  match ← peek with
  | none => return .eof
  | some '`' =>
      let _ ← next
      template n #[] (some #[])
  | some '#' =>
      let _ ← next
      if !(← atWord) then fail "Abrupt end: Expecting private identifier" start
      return .hidden (← word n [] false).1
  | some c =>
      if c == '"' || c == singleQuote then
        let _ ← next
        string c n #[] none
      else if isDigit c || (c == '.' && ((← peekAt 1).map isDigit).getD false) then number
      else if ← atWord then
        let (w, e) ← word n [] false
        return .name w e
      else punctuator

end L

/-- A token with its place. -/
structure Lexeme where
  token : Token
  /-- Where the token starts, and where it ends. -/
  start : Spot
  stop : Spot
  /-- Where a line ended between the token before and this one. -/
  breakSpot : Option Spot
  /-- The cursor at the start of the token, and behind it. -/
  before : Cursor
  after : Cursor
  deriving Inhabited

/-- Whether a line ended between the token before and this one. -/
def Lexeme.lineBreak (l : Lexeme) : Bool := l.breakSpot.isSome

def Cursor.read (c : Cursor) (breakSpot : Option Spot) (r : L Token) : Except Fault Lexeme :=
  match r c with
  | .ok t after => .ok
      { token := t, start := c.spot, stop := after.spot, breakSpot, before := c, after }
  | .error f _ => .error f

def Cursor.next (c : Cursor) : Except Fault Lexeme :=
  match L.blanks (c.rest.length + 1) none c with
  | .error f _ => .error f
  | .ok breakSpot c => c.read breakSpot L.token

def Lexeme.asRegex (l : Lexeme) : Except Fault Lexeme := l.before.read l.breakSpot L.regex

/-- The same place, a closing brace, read as the next piece of a template. -/
def Lexeme.asTemplate (l : Lexeme) : Except Fault Lexeme :=
  l.before.read l.breakSpot do
    L.skip 1
    L.template (← L.fuel) #[] (some #[])

/-- Words that the language gives a meaning of its own. -/
def keywords : List String :=
  ["await", "async", "break", "case", "catch", "class", "continue", "const", "debugger", "default",
    "delete", "do", "else", "enum", "export", "extends", "false", "finally", "for",
    "function", "if",
    "import", "in", "instanceof", "let", "new", "null", "of", "return", "super", "switch", "this",
    "throw", "true", "try", "typeof", "var", "void", "while", "with", "yield"]

def Token.text : Token → String
  | eof => "end of file"
  | name t _ => t
  | hidden t => "#" ++ t
  | punct p => p
  | num x _ => plainText x.toFloat
  | bigint n => toString n ++ "n"
  | str s _ => s.text
  | template raw _ _ => raw.text
  | regex p f _ => "/" ++ p.text ++ "/" ++ f.text

end Inlay.Engine.Syntax
