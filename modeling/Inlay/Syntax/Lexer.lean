import Inlay.Syntax.Token
import Inlay.Text.Word

/-! # Reading tokens

    A cursor stands behind a token.  Reading from it skips blanks and comments, attaches the
    comments to the token before or after them, and yields the next token.  The readers for
    regular expressions, template text and markup are separate, because only the grammar knows
    where they apply. -/

namespace Inlay.Syntax

open Inlay.Text

/-- A fault and where it lies. -/
structure Fault where
  problem : Problem
  span : Span

/-- A place between two tokens, with the comments seen so far. -/
structure Cursor where
  rest : List Char
  pos : Nat
  /-- The token before, if any. -/
  last : Option Token := none
  lastEnd : Nat
  /-- Comments that wait for the token they stand before, newest first. -/
  pending : List Comment := []
  /-- Comments already attached, newest first. -/
  attached : List Attached := []

/-- How reading depends on the context of the grammar. -/
structure LexMode where
  isStrict : Bool := false
  inType : Bool := false
  isTypeScript : Bool := false

/-- A token with what reading it found out. -/
structure Lexed where
  token : Token
  span : Span
  lineBreak : Bool
  after : Cursor
  faults : List Fault := []
  /-- Faults that count only if the text turns out to be a module. -/
  moduleFaults : List Fault := []

/-! ## Blanks and comments -/

/-- Skips blanks and line ends; tells whether a line ended. -/
def skipBlanks : List Char → Nat → Bool → List Char × Nat × Bool
  | [], p, nl => ([], p, nl)
  | c :: cs, p, nl =>
      if isLineEnd c then skipBlanks cs (p + 1) true
      else if isBlank c then skipBlanks cs (p + 1) nl
      else (c :: cs, p, nl)

/-- What skipping has collected. -/
structure Trivia where
  rest : List Char
  pos : Nat
  lineBreak : Bool
  pending : List Comment
  attached : List Attached
  faults : List Fault := []
  moduleFaults : List Fault := []

/-- Inside which kind of trivia the reader stands; comments carry their start, the characters
    read so far (newest first) and whether they belong to the token that follows. -/
inductive TriviaMode where
  | blank
  | line (start : Nat) (text : List Char) (forNext : Bool)
  | block (start : Nat) (text : List Char) (forNext : Bool)

/-- Whether a line starts with the mark that a failed merge leaves.  Where `<` and `>` are
    brackets only the mark in the middle is known. -/
def isConflictMark (inType : Bool) (cs : List Char) : Bool :=
  "=======".toList.isPrefixOf cs ||
    (!inType && ("<<<<<<< ".toList.isPrefixOf cs || ">>>>>>> ".toList.isPrefixOf cs))

namespace Trivia

def file (t : Trivia) (lastEnd : Nat) (c : Comment) (forNext : Bool) : Trivia :=
  if forNext then { t with pending := c :: t.pending }
  else { t with attached := ⟨false, lastEnd, c⟩ :: t.attached }

/-- Skips blanks and comments.  `takesBlock` and `takesLine` tell whether the token before owns
    the comments that follow it on its line. -/
def skip (takesBlock takesLine inType : Bool) (lastEnd : Nat) :
    TriviaMode → List Char → Nat → Trivia →
    Trivia
  | .blank, '/' :: '/' :: cs, p, t =>
      skip takesBlock takesLine inType lastEnd (.line p [] (t.lineBreak || !takesLine)) cs (p + 2) t
  | .blank, '/' :: '*' :: cs, p, t =>
      skip takesBlock takesLine inType lastEnd
        (.block p [] (t.lineBreak || !takesBlock)) cs (p + 2) t
  | .blank, '<' :: '!' :: '-' :: '-' :: cs, p, t =>
      skip takesBlock takesLine inType lastEnd (.line p [] (t.lineBreak || !takesLine)) cs (p + 4)
        { t with moduleFaults := t.moduleFaults ++ [⟨.legacyComment, ⟨p, p + 4⟩⟩] }
  | .blank, '-' :: '-' :: '>' :: cs, p, t =>
      if t.lineBreak then
        skip takesBlock takesLine inType lastEnd (.line p [] true) cs (p + 3)
          { t with moduleFaults := t.moduleFaults ++ [⟨.legacyComment, ⟨p, p + 3⟩⟩] }
      else { t with rest := '-' :: '-' :: '>' :: cs, pos := p }
  | .blank, c :: cs, p, t =>
      if isLineEnd c then
        skip takesBlock takesLine inType lastEnd .blank cs (p + 1) { t with lineBreak := true }
      else if isBlank c then skip takesBlock takesLine inType lastEnd .blank cs (p + 1) t
      else if t.lineBreak && isConflictMark inType (c :: cs) then
        skip takesBlock takesLine inType lastEnd (.line p [] true) cs (p + 1)
          { t with faults := t.faults ++ [⟨.conflictMarker, ⟨p, p + 7⟩⟩] }
      else { t with rest := c :: cs, pos := p }
  | .blank, [], p, t => { t with rest := [], pos := p }
  | .line start text forNext, c :: cs, p, t =>
      if isLineEnd c then
        let comment := ⟨false, ⟨start, p⟩, String.ofList text.reverse⟩
        skip takesBlock takesLine inType lastEnd .blank cs (p + 1)
          { t.file lastEnd comment forNext with lineBreak := true }
      else skip takesBlock takesLine inType lastEnd (.line start (c :: text) forNext) cs (p + 1) t
  | .line start text forNext, [], p, t =>
      let comment := ⟨false, ⟨start, p⟩, String.ofList text.reverse⟩
      { t.file lastEnd comment forNext with rest := [], pos := p }
  | .block start text forNext, '*' :: '/' :: cs, p, t =>
      let comment := ⟨true, ⟨start, p + 2⟩, String.ofList text.reverse⟩
      let ends := match skipBlanks cs 0 false with
        | (';' :: _, _, _) => true
        | _ => false
      skip takesBlock takesLine inType lastEnd .blank cs (p + 2)
        (t.file lastEnd comment (forNext && !ends))
  | .block start text forNext, c :: cs, p, t =>
      skip takesBlock takesLine inType lastEnd (.block start (c :: text) forNext) cs (p + 1)
        { t with lineBreak := t.lineBreak || isLineEnd c }
  | .block _ _ _, [], p, t =>
      { t with rest := [], pos := p, faults := t.faults ++ [⟨.unterminatedComment, ⟨p, p⟩⟩] }

end Trivia

/-- Skips what stands between the cursor and the next token. -/
def Cursor.trivia (c : Cursor) (inType : Bool := false) : Trivia :=
  let (takesBlock, takesLine) := match c.last with
    | none => (false, true)
    | some t => (t.takesComment, t.takesLineComment)
  Trivia.skip takesBlock takesLine inType c.lastEnd .blank c.rest c.pos
    { rest := c.rest, pos := c.pos, lineBreak := c.last.isNone,
      pending := c.pending, attached := c.attached }

/-! ## Escapes -/

/-- What follows a backslash: the characters it stands for and how many it takes, or a fault. -/
inductive Escape where
  | chars (value : List Char) (count : Nat) (isOctal : Bool)
  | bad (p : Problem)

/-- The character with a code, unless the code is a surrogate or too large. -/
def charOfCode? (n : Nat) : Option Char :=
  if h : n.isValidChar then some (Char.ofNatAux n h) else none

def takeHex : List Char → List Char
  | [] => []
  | c :: cs => if isHex c then c :: takeHex cs else []

/-- Reads the escape after `\u`; a surrogate stands for its own spelling. -/
def readUnicodeEscape : List Char → Escape
  | '\x7b' :: cs =>
      let digits := takeHex cs
      let n := hexValue digits
      if digits.isEmpty then .bad (.badEscape "1-6 hex characters")
      else if n > 0x10ffff then
        .bad (.badEscape "1-6 hex characters in the range 0 to 10FFFF.")
      else if cs.drop digits.length |>.head? |> (· != some '\x7d') then
        .bad .invalidStringEscape
      else
        match charOfCode? n with
        | some c => .chars [c] (digits.length + 3) false
        | none =>
            .chars (['\\', 'u', '\x7b'] ++ digits ++ ['\x7d']) (digits.length + 3) false
  | a :: b :: c :: d :: _ =>
      let digits := [a, b, c, d]
      if digits.all isHex then
        match charOfCode? (hexValue digits) with
        | some ch => .chars [ch] 5 false
        | none => .chars ('\\' :: 'u' :: digits) 5 false
      else .bad (.badEscape "4 hex characters")
  | _ => .bad (.badEscape "4 hex characters")

def isOctalDigit (c : Char) : Bool := '0' ≤ c && c ≤ '7'

/-- Up to three octal digits whose value fits in eight bits. -/
def octalDigits : List Char → List Char
  | a :: b :: c :: _ =>
      if isOctalDigit a && isOctalDigit b && isOctalDigit c && a ≤ '3' then [a, b, c]
      else if isOctalDigit a && isOctalDigit b then [a, b]
      else [a]
  | a :: b :: _ => if isOctalDigit b then [a, b] else [a]
  | cs => cs

/-- Reads what follows a backslash in a string or template. -/
def readEscape : List Char → Escape
  | [] => .bad .invalidStringEscape
  | 'n' :: _ => .chars ['\n'] 1 false
  | 'r' :: _ => .chars ['\r'] 1 false
  | 't' :: _ => .chars ['\t'] 1 false
  | 'b' :: _ => .chars ['\x08'] 1 false
  | 'v' :: _ => .chars ['\x0b'] 1 false
  | 'f' :: _ => .chars ['\x0c'] 1 false
  | '\r' :: '\n' :: _ => .chars [] 2 false
  | 'x' :: cs =>
      match cs with
      | a :: b :: _ =>
          if isHex a && isHex b then .chars [Char.ofNat (hexValue [a, b])] 3 false
          else .bad (.badEscape "2 hex characters")
      | _ => .bad (.badEscape "2 hex characters")
  | 'u' :: cs => readUnicodeEscape cs
  | c :: cs =>
      if isLineEnd c then .chars [] 1 false
      else if c == '0' && !(cs.head?.map isOctalDigit).getD false then
        .chars [Char.ofNat 0] 1 false
      else if isOctalDigit c then
        let ds := octalDigits (c :: cs)
        let n := ds.foldl (fun n d => n * 8 + (d.toNat - 48)) 0
        .chars [Char.ofNat n] ds.length true
      else .chars [c] 1 false

/-! ## Strings -/

/-- A string literal as read: its value and spelling (both newest first), how it ended. -/
structure StringScan where
  value : List Char
  raw : List Char
  rest : List Char
  pos : Nat
  isClosed : Bool := true
  octalAt : Option Nat := none
  failed : Option (Problem × Nat) := none

/-- Reads up to the closing quote; a line end or the end of the text leaves it open. -/
def scanString (quote : Char) : Nat → List Char → Nat → List Char → List Char → Option Nat →
    StringScan
  | 0, cs, p, value, raw, oct =>
      { value, raw, rest := cs, pos := p, isClosed := false, octalAt := oct }
  | _ + 1, [], p, value, raw, oct =>
      { value, raw, rest := [], pos := p, isClosed := false, octalAt := oct }
  | fuel + 1, c :: cs, p, value, raw, oct =>
      if c == quote then
        { value, raw := c :: raw, rest := cs, pos := p + 1, octalAt := oct }
      else if c == '\n' || c == '\r' then
        { value, raw, rest := c :: cs, pos := p, isClosed := false, octalAt := oct }
      else if c == '\\' then
        match readEscape cs with
        | .bad problem =>
            { value, raw, rest := cs, pos := p + 1, octalAt := oct, failed := some (problem, p) }
        | .chars vs n isOctal =>
            scanString quote fuel (cs.drop n) (p + 1 + n) (vs.reverse ++ value)
              ((cs.take n).reverse ++ c :: raw) (oct.or (if isOctal then some p else none))
      else scanString quote fuel cs (p + 1) (c :: value) (c :: raw) oct

/-! ## Templates -/

inductive QuasiEnd where
  | tail | hole | eof
  deriving DecidableEq

/-- The text of a template between two holes: its spelling (newest first), how it ended and the
    first escape that has no meaning. -/
structure QuasiScan where
  raw : List Char
  stop : QuasiEnd
  rest : List Char
  pos : Nat
  failed : Option Fault := none

/-- Reads template text up to a hole or the closing backquote, which it takes. -/
def scanQuasi : Nat → List Char → Nat → List Char → Option Fault → QuasiScan
  | 0, cs, p, raw, failed => { raw, stop := .eof, rest := cs, pos := p, failed }
  | _ + 1, [], p, raw, failed => { raw, stop := .eof, rest := [], pos := p, failed }
  | _ + 1, '`' :: cs, p, raw, failed => { raw, stop := .tail, rest := cs, pos := p + 1, failed }
  | _ + 1, '$' :: '\x7b' :: cs, p, raw, failed =>
      { raw, stop := .hole, rest := cs, pos := p + 2, failed }
  | fuel + 1, '\\' :: cs, p, raw, failed =>
      match readEscape cs with
      | .bad problem =>
          let n := if cs.isEmpty then 0 else 1
          scanQuasi fuel (cs.drop n) (p + 1 + n) ((cs.take n).reverse ++ '\\' :: raw)
            (failed.or (some ⟨problem, ⟨p, p + 1⟩⟩))
      | .chars _ n isOctal =>
          scanQuasi fuel (cs.drop n) (p + 1 + n) ((cs.take n).reverse ++ '\\' :: raw)
            (failed.or (if isOctal then some ⟨.legacyOctal, ⟨p, p + 1⟩⟩ else none))
  | fuel + 1, c :: cs, p, raw, failed => scanQuasi fuel cs (p + 1) (c :: raw) failed

/-! ## Numbers -/

/-- Digits of a radix with separators: the spelling, the rest, and whether every separator stands
    between two digits. -/
structure DigitScan where
  raw : List Char
  rest : List Char
  isClean : Bool
  hasDigit : Bool

def isDigitOf (radix : Nat) (c : Char) : Bool :=
  match hexDigit? c with
  | some n => n < radix
  | none => false

def scanDigits (radix : Nat) : List Char → Option Char → DigitScan
  | [], _ => ⟨[], [], true, false⟩
  | c :: cs, before =>
      if c == '_' then
        let r := scanDigits radix cs (some c)
        let fits := (before.map (isDigitOf radix)).getD false &&
          (cs.head?.map (isDigitOf radix)).getD false
        ⟨c :: r.raw, r.rest, r.isClean && fits, r.hasDigit⟩
      else if isDigitOf radix c then
        let r := scanDigits radix cs (some c)
        ⟨c :: r.raw, r.rest, r.isClean, true⟩
      else ⟨[], c :: cs, true, false⟩

/-- A numeric literal as read. -/
structure NumberScan where
  token : Token
  rest : List Char
  length : Nat
  faults : List Fault := []
  /-- Faults of strict code only. -/
  strictFaults : List Problem := []

def checkNumberEnd (p : Nat) (s : NumberScan) : NumberScan :=
  match s.rest with
  | c :: _ =>
      if isWordStart c then
        let q := p + s.length
        { s with token := .error .identAfterNumber ⟨q, q⟩ }
      else s
  | [] => s

/-- Reads a number after `0x`, `0o` or `0b`. -/
def scanRadixNumber (radix : Nat) (lead : List Char) (cs : List Char) (p : Nat) : NumberScan :=
  let d := scanDigits radix cs none
  let faults := if d.isClean then [] else [⟨.loneSeparator, ⟨p, p⟩⟩]
  if !d.hasDigit then
    { token := .error (.digitExpected radix) ⟨p + 2, p + 2⟩, rest := d.rest, length := 2 }
  else
    let raw := lead ++ d.raw
    match d.rest with
    | 'n' :: rest =>
        { token := .bigint (String.ofList (raw ++ ['n'])), rest, length := raw.length + 1, faults }
    | rest =>
        checkNumberEnd p { token := .num (String.ofList raw), rest, length := raw.length, faults }

def scanExponent (cs : List Char) : Option (List Char × List Char) :=
  match cs with
  | e :: rest =>
      if e == 'e' || e == 'E' then
        let (sign, rest) := match rest with
          | '+' :: r => (['+'], r)
          | '-' :: r => (['-'], r)
          | r => ([], r)
        let d := scanDigits 10 rest none
        some (e :: sign ++ d.raw, d.rest)
      else none
  | [] => none

/-- Reads a number that starts with a digit or with a point before a digit. -/
def scanNumber (cs : List Char) (p : Nat) : NumberScan :=
  match cs with
  | '0' :: x :: rest =>
      if x == 'x' || x == 'X' then scanRadixNumber 16 ['0', x] rest p
      else if x == 'o' || x == 'O' then scanRadixNumber 8 ['0', x] rest p
      else if x == 'b' || x == 'B' then scanRadixNumber 2 ['0', x] rest p
      else scanDecimal
  | _ => scanDecimal
where
  scanDecimal : NumberScan :=
    let whole := scanDigits 10 cs none
    let dirty (d : DigitScan) : List Fault :=
      if d.isClean then [] else [⟨.loneSeparator, ⟨p, p⟩⟩]
    let isLegacy := whole.raw.head? == some '0' && whole.raw.length > 1
    let isOctal := isLegacy && whole.raw.all fun c => isOctalDigit c || c == '_'
    match whole.rest with
    | 'n' :: rest =>
        if whole.hasDigit then
          let raw := whole.raw ++ ['n']
          { token := .bigint (String.ofList raw), rest, length := raw.length,
            faults := dirty whole }
        else fraction whole []
    | _ =>
        if isOctal then
          checkNumberEnd p
            { token := .num (String.ofList whole.raw), rest := whole.rest,
              length := whole.raw.length, faults := dirty whole,
              strictFaults := [.legacyOctal] }
        else fraction whole (if isLegacy then [.legacyDecimal] else [])
  fraction (whole : DigitScan) (strictFaults : List Problem) : NumberScan :=
    let dirty (d : DigitScan) : List Fault :=
      if d.isClean then [] else [⟨.loneSeparator, ⟨p, p⟩⟩]
    let (raw, rest, faults) := match whole.rest with
      | '.' :: r =>
          let d := scanDigits 10 r none
          (whole.raw ++ '.' :: d.raw, d.rest, dirty whole ++ dirty d)
      | r => (whole.raw, r, dirty whole)
    match scanExponent rest with
    | some (expo, rest') =>
        let full := raw ++ expo
        if expo.getLast?.map isDigit != some true then
          let q := p + full.length
          { token := .error (if rest'.isEmpty && expo.length == 1 then .exponentExpected
                else .digitExpected 10) ⟨q, q⟩,
            rest := rest', length := full.length }
        else
          checkNumberEnd p
            { token := .num (String.ofList full), rest := rest', length := full.length, faults,
              strictFaults }
    | none =>
        checkNumberEnd p
          { token := .num (String.ofList raw), rest, length := raw.length, faults, strictFaults }

/-! ## Words -/

def takeWord : List Char → List Char × List Char
  | [] => ([], [])
  | c :: cs =>
      if isWordPart c then
        let (w, r) := takeWord cs
        (c :: w, r)
      else ([], c :: cs)

/-- A name as read, with the number of characters it takes. -/
structure WordScan where
  name : List Char
  rest : List Char
  length : Nat
  hasEscape : Bool := false
  failed : Option (Problem × Nat) := none

/-- Reads a name that may spell characters as escapes. -/
def scanWord : Nat → List Char → WordScan
  | 0, cs => { name := [], rest := cs, length := 0 }
  | fuel + 1, cs =>
      let (w, rest) := takeWord cs
      match rest with
      | '\\' :: more =>
          match more with
          | 'u' :: r =>
              match readUnicodeEscape r with
              | .chars [c] n _ =>
                  if !isWordPart c then
                    { name := w, rest := more, length := w.length, hasEscape := true,
                      failed := some (.invalidIdentChar, w.length) }
                  else
                    let t := scanWord fuel (more.drop n)
                    { t with
                      name := w ++ c :: t.name
                      length := w.length + 1 + n + t.length
                      hasEscape := true
                      failed := t.failed.map fun (f, k) => (f, k + w.length + 1 + n) }
              | .chars .. =>
                  { name := w, rest := more, length := w.length, hasEscape := true,
                    failed := some (.invalidIdentChar, w.length) }
              | .bad problem =>
                  { name := w, rest := more, length := w.length, hasEscape := true,
                    failed := some (problem, w.length) }
          | _ =>
              { name := w, rest := more, length := w.length, hasEscape := true,
                failed := some (.unicodeEscapeExpected, w.length) }
      | _ => { name := w, rest, length := w.length }

/-! ## Marks -/

/-- Marks, longest first, under their first character. -/
def readPunct : List Char → Option (Punct × Nat)
  | '(' :: _ => some (.lparen, 1)
  | ')' :: _ => some (.rparen, 1)
  | '[' :: _ => some (.lbrack, 1)
  | ']' :: _ => some (.rbrack, 1)
  | '\x7b' :: _ => some (.lbrace, 1)
  | '\x7d' :: _ => some (.rbrace, 1)
  | ';' :: _ => some (.semi, 1)
  | ',' :: _ => some (.comma, 1)
  | ':' :: _ => some (.colon, 1)
  | '@' :: _ => some (.atSign, 1)
  | '#' :: _ => some (.hash, 1)
  | '`' :: _ => some (.backquote, 1)
  | '~' :: _ => some (.tilde, 1)
  | '.' :: '.' :: '.' :: _ => some (.ellipsis, 3)
  | '.' :: _ => some (.dot, 1)
  | '?' :: '?' :: '=' :: _ => some (.assign (.update .nullish), 3)
  | '?' :: '?' :: _ => some (.binary .nullish, 2)
  | '?' :: _ => some (.question, 1)
  | '=' :: '=' :: '=' :: _ => some (.binary .same, 3)
  | '=' :: '=' :: _ => some (.binary .eq, 2)
  | '=' :: '>' :: _ => some (.arrow, 2)
  | '=' :: _ => some (.assign .set, 1)
  | '!' :: '=' :: '=' :: _ => some (.binary .differ, 3)
  | '!' :: '=' :: _ => some (.binary .ne, 2)
  | '!' :: _ => some (.bang, 1)
  | '+' :: '+' :: _ => some (.increment, 2)
  | '+' :: '=' :: _ => some (.assign (.update .add), 2)
  | '+' :: _ => some (.binary .add, 1)
  | '-' :: '-' :: _ => some (.decrement, 2)
  | '-' :: '=' :: _ => some (.assign (.update .sub), 2)
  | '-' :: _ => some (.binary .sub, 1)
  | '*' :: '*' :: '=' :: _ => some (.assign (.update .exp), 3)
  | '*' :: '*' :: _ => some (.binary .exp, 2)
  | '*' :: '=' :: _ => some (.assign (.update .mul), 2)
  | '*' :: _ => some (.binary .mul, 1)
  | '/' :: '=' :: _ => some (.assign (.update .div), 2)
  | '/' :: _ => some (.binary .div, 1)
  | '%' :: '=' :: _ => some (.assign (.update .rem), 2)
  | '%' :: _ => some (.binary .rem, 1)
  | '<' :: '<' :: '=' :: _ => some (.assign (.update .shl), 3)
  | '<' :: '<' :: _ => some (.binary .shl, 2)
  | '<' :: '=' :: _ => some (.binary .le, 2)
  | '<' :: _ => some (.binary .lt, 1)
  | '>' :: '>' :: '>' :: '=' :: _ => some (.assign (.update .ushr), 4)
  | '>' :: '>' :: '>' :: _ => some (.binary .ushr, 3)
  | '>' :: '>' :: '=' :: _ => some (.assign (.update .shr), 3)
  | '>' :: '>' :: _ => some (.binary .shr, 2)
  | '>' :: '=' :: _ => some (.binary .ge, 2)
  | '>' :: _ => some (.binary .gt, 1)
  | '|' :: '|' :: '=' :: _ => some (.assign (.update .or), 3)
  | '|' :: '|' :: _ => some (.binary .or, 2)
  | '|' :: '=' :: _ => some (.assign (.update .bitOr), 2)
  | '|' :: _ => some (.binary .bitOr, 1)
  | '^' :: '=' :: _ => some (.assign (.update .bitXor), 2)
  | '^' :: _ => some (.binary .bitXor, 1)
  | '&' :: '&' :: '=' :: _ => some (.assign (.update .and), 3)
  | '&' :: '&' :: _ => some (.binary .and, 2)
  | '&' :: '=' :: _ => some (.assign (.update .bitAnd), 2)
  | '&' :: _ => some (.binary .bitAnd, 1)
  | _ => none

/-! ## Tokens -/

/-- A token read at a place, before comments are filed. -/
structure RawToken where
  token : Token
  length : Nat
  rest : List Char
  faults : List Fault := []
  strictFaults : List Fault := []

def readToken (mode : LexMode) (cs : List Char) (p : Nat) : RawToken :=
  match cs with
  | [] => { token := .eof, length := 0, rest := [] }
  | c :: rest =>
      let startsNumber := isDigit c ||
        (c == '.' && (rest.head?.map isDigit).getD false)
      if isWordStart c || c == '\\' then
        let w := scanWord (rest.length + 2) cs
        match w.failed with
        | some (problem, k) =>
            { token := .error problem ⟨p + k, p + k + 1⟩, length := w.length + 1, rest := w.rest }
        | none =>
            { token := .word (String.ofList w.name) w.hasEscape, length := w.length,
              rest := w.rest }
      else if startsNumber then
        let n := scanNumber cs p
        let octal := n.strictFaults.contains .legacyOctal && mode.isTypeScript
        { token := n.token, length := n.length, rest := n.rest,
          faults := n.faults ++ (if octal then [⟨.legacyOctalLiteral, ⟨p, p + n.length⟩⟩] else []),
          strictFaults := n.strictFaults.map (⟨·, ⟨p, p + n.length⟩⟩) }
      else if c == '"' || c == '\'' then
        let s := scanString c (rest.length + 1) rest (p + 1) [] [c] none
        match s.failed with
        | some (problem, q) =>
            { token := .error problem ⟨q, q + 1⟩, length := s.pos - p, rest := s.rest }
        | none =>
            { token := .str (String.ofList s.value.reverse) (String.ofList s.raw.reverse),
              length := s.pos - p, rest := s.rest,
              faults := if s.isClosed then [] else [⟨.unterminatedString, ⟨p, s.pos⟩⟩],
              strictFaults := match s.octalAt with
                | some q => [⟨.legacyOctal, ⟨q, q + 1⟩⟩]
                | none => [] }
      else if mode.inType && (c == '<' || c == '>') then
        { token := .punct (.binary (if c == '<' then .lt else .gt)), length := 1, rest }
      else
        match readPunct cs with
        | some (q, n) => { token := .punct q, length := n, rest := cs.drop n }
        | none =>
            { token := .error (.unexpectedChar c) ⟨p, p + 1⟩, length := 1, rest }

namespace Cursor

/-- At the end of the text comments still waiting go to the last token, or stand before the whole
    text if there is none. -/
def settle (t : Trivia) (lastEnd : Nat) (isFirst : Bool) : List Attached :=
  t.pending.reverse.foldl (fun out c => ⟨isFirst, lastEnd, c⟩ :: out) t.attached

/-- Files the comments before a token that starts at `lo` and moves behind it. -/
def past (c : Cursor) (t : Trivia) (token : Token) (lo : Nat) (length : Nat) (rest : List Char) :
    Cursor :=
  match token with
  | .eof =>
      { c with
        rest := [], pos := lo, pending := []
        attached := settle t c.lastEnd c.last.isNone }
  | _ =>
      { rest, pos := lo + length, last := some token, lastEnd := lo + length, pending := []
        attached := t.pending.reverse.foldl (fun out k => ⟨true, lo, k⟩ :: out) t.attached }

def next (mode : LexMode) (c : Cursor) : Lexed :=
  let t := c.trivia mode.inType
  let r := readToken mode t.rest t.pos
  { token := r.token
    span := ⟨t.pos, t.pos + r.length⟩
    lineBreak := t.lineBreak
    after := c.past t r.token t.pos r.length r.rest
    faults := t.faults ++ r.faults ++ (if mode.isStrict then r.strictFaults else [])
    moduleFaults := t.moduleFaults ++ (if mode.isStrict then [] else r.strictFaults) }

/-- Reads a `#!` line at the start of a file. -/
def shebang? (c : Cursor) : Option (String × Cursor) :=
  match c.rest with
  | '#' :: '!' :: cs =>
      let line := cs.takeWhile (!isLineEnd ·)
      let n := line.length + 2
      some (String.ofList line,
        { c with rest := cs.drop line.length, pos := c.pos + n, lastEnd := c.pos + n })
  | _ => none

/-! ## Readers on request -/

/-- Reads the body of a regular expression: characters (newest first) up to the closing slash. -/
def regexBody : List Char → Bool → Bool → List Char → Option (List Char × List Char)
  | [], _, _, _ => none
  | c :: cs, escaped, inClass, out =>
      if isLineEnd c then none
      else if escaped then regexBody cs false inClass (c :: out)
      else if c == '/' && !inClass then some (out, cs)
      else
        regexBody cs (c == '\\') (if c == '[' then true else if c == ']' then false else inClass)
          (c :: out)

/-- Reads a regular expression literal that starts at the next slash. -/
def regex (c : Cursor) : Lexed :=
  let t := c.trivia
  let lo := t.pos
  match regexBody (t.rest.drop 1) false false [] with
  | some (body, rest) =>
      let (flags, rest') := takeWord rest
      let length := body.length + 2 + flags.length
      let token := Token.regex (String.ofList body.reverse) (String.ofList flags)
      { token, span := ⟨lo, lo + length⟩, lineBreak := t.lineBreak,
        after := c.past t token lo length rest' }
  | none =>
      let token := Token.error .unterminatedRegex ⟨lo, lo + 1⟩
      { token, span := ⟨lo, lo + 1⟩, lineBreak := t.lineBreak,
        after := c.past t token lo 1 (t.rest.drop 1) }

def quasi (c : Cursor) : QuasiScan :=
  scanQuasi (c.rest.length + 1) c.rest c.pos [] none

/-- The name characters of markup, where a hyphen may stand inside. -/
def takeMarkupName : List Char → List Char × List Char
  | [] => ([], [])
  | c :: cs =>
      if isWordPart c || c == '-' then
        let (w, r) := takeMarkupName cs
        (c :: w, r)
      else ([], c :: cs)

def tagToken (c : Cursor) : Lexed :=
  let t := c.trivia
  let lo := t.pos
  let done (token : Token) (length : Nat) (rest : List Char) (faults : List Fault) : Lexed :=
    { token, span := ⟨lo, lo + length⟩, lineBreak := t.lineBreak,
      after := c.past t token lo length rest, faults := t.faults ++ faults }
  match t.rest with
  | [] => done .eof 0 [] []
  | ch :: cs =>
      if isWordStart ch then
        let (w, r) := takeMarkupName cs
        done (.jsxName (String.ofList (ch :: w))) (w.length + 1) r []
      else if ch == '>' then done .jsxEnd 1 cs []
      else if ch == '"' || ch == '\'' then
        let body := cs.takeWhile (· != ch)
        let rest := cs.drop body.length
        match rest with
        | _ :: after =>
            let raw := String.ofList (ch :: body ++ [ch])
            done (.str (String.ofList body) raw) (body.length + 2) after []
        | [] =>
            done (.error .unterminatedString ⟨lo, lo + body.length + 1⟩) (body.length + 1) [] []
      else if ch == '<' then done (.punct (.binary .lt)) 1 cs []
      else
        match readPunct (ch :: cs) with
        | some (q, n) => done (.punct q) n ((ch :: cs).drop n) []
        | none => done (.error (.unexpectedChar ch) ⟨lo, lo + 1⟩) 1 cs []

/-- Markup text up to a tag or a brace (newest first); a stray `>` or closing brace is a fault. -/
def scanText : List Char → Nat → List Char → List Fault → List Char × List Char × List Fault
  | [], _, out, faults => (out, [], faults)
  | c :: cs, p, out, faults =>
      if c == '<' || c == '\x7b' then (out, c :: cs, faults)
      else if c == '>' then
        scanText cs (p + 1) (c :: out)
          (faults ++ [⟨.strayMarkup "`\x7b'>'\x7d`" "`&gt;`", ⟨p, p + 1⟩⟩])
      else if c == '\x7d' then
        scanText cs (p + 1) (c :: out)
          (faults ++ [⟨.strayMarkup "`\x7b'\x7d'\x7d`" "`&rbrace;`", ⟨p, p + 1⟩⟩])
      else scanText cs (p + 1) (c :: out) faults

/-- Reads markup content: text, the start of a tag or the brace of an expression. -/
def content (c : Cursor) : Lexed :=
  let lo := c.pos
  let t : Trivia :=
    { rest := c.rest, pos := c.pos, lineBreak := false, pending := c.pending,
      attached := c.attached }
  let (text, rest, faults) := scanText c.rest lo [] []
  if text.isEmpty then
    match c.rest with
    | '<' :: cs =>
        { token := .jsxStart, span := ⟨lo, lo + 1⟩, lineBreak := false,
          after := c.past t .jsxStart lo 1 cs }
    | '\x7b' :: cs =>
        { token := .punct .lbrace, span := ⟨lo, lo + 1⟩, lineBreak := false,
          after := c.past t (.punct .lbrace) lo 1 cs }
    | _ =>
        { token := .eof, span := ⟨lo, lo⟩, lineBreak := false, after := c.past t .eof lo 0 [] }
  else
    let token := Token.jsxText (String.ofList text.reverse)
    { token, span := ⟨lo, lo + text.length⟩, lineBreak := false,
      after := c.past t token lo text.length rest, faults }

end Cursor

end Inlay.Syntax
