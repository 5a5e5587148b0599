import Inlay.Engine.Regex.Pattern
import Inlay.Text.Emoji
import Inlay.Text.Word

/-! # Reading patterns: characters and escapes

    A pattern is read from the code points of its text. -/

namespace Inlay.Engine.Regex

open Inlay.Text

structure ReadState where
  rest : List Nat
  /-- The number of the next group. -/
  next : Nat := 1

structure ReadEnv where
  /-- The flags that hold where the reader stands. -/
  flags : Flags
  /-- How many groups the whole pattern has, and the names of groups with their numbers. -/
  total : Nat
  names : List (Units × Nat)

abbrev R := ReaderT ReadEnv (EStateM String ReadState)

/-- What a class holds: characters, and texts that are not of one character. -/
structure ClassSet where
  chars : Ranges
  texts : List (List Nat) := []
  deriving Inhabited

namespace ClassSet

def single (c : Nat) : ClassSet := { chars := ⟨#[(c, c)]⟩ }

/-- A set of texts, of which those of one character are characters. -/
def ofTexts (ts : List (List Nat)) : ClassSet where
  chars := .ofRuns (ts.filterMap fun t => match t with
    | [c] => some (c, c)
    | _ => none)
  texts := ts.filter (·.length != 1)

def union (a b : ClassSet) : ClassSet :=
  { chars := .unite [a.chars, b.chars], texts := a.texts ++ b.texts.filter (!a.texts.contains ·) }

def meet (a b : ClassSet) : ClassSet :=
  { chars := a.chars.meet b.chars, texts := a.texts.filter (b.texts.contains ·) }

def minus (a b : ClassSet) : ClassSet :=
  { chars := a.chars.minus b.chars, texts := a.texts.filter (!b.texts.contains ·) }

end ClassSet

/-! ## Sets that have an escape -/

def digits : Ranges := ⟨#[(48, 57)]⟩

def wordChars : Ranges := ⟨#[(48, 57), (65, 90), (95, 95), (97, 122)]⟩

def blanks : Ranges :=
  ⟨#[(9, 13), (32, 32), (0xa0, 0xa0), (0x1680, 0x1680), (0x2000, 0x200a), (0x2028, 0x2029),
    (0x202f, 0x202f), (0x205f, 0x205f), (0x3000, 0x3000), (0xfeff, 0xfeff)]⟩

/-! ## Names of groups -/

def hex? (c : Nat) : Option Nat := hexDigit? (Char.ofNat c)

def hexNumber (cs : List Nat) : Nat := cs.foldl (fun n c => 16 * n + (hex? c).getD 0) 0

/-- Takes exactly four digits in base sixteen. -/
def takeHex4? (cs : List Nat) : Option (Nat × List Nat) :=
  let ds := cs.take 4
  if ds.length == 4 && ds.all fun c => (hex? c).isSome then some (hexNumber ds, cs.drop 4) else none

/-- Takes digits in base sixteen between braces; the brace that opens has been taken. -/
def takeBraced? (cs : List Nat) : Option (Nat × List Nat) :=
  let ds := cs.takeWhile fun c => (hex? c).isSome
  match cs.drop ds.length with
  | 0x7d :: rest =>
      if ds.isEmpty || hexNumber ds > 0x10ffff then none else some (hexNumber ds, rest)
  | _ => none

/-- Takes what follows `\u`: a code point between braces where `braces` allows them, or four digits,
    two of which may form a pair. -/
def takeUnicode? (braces pairs : Bool) (cs : List Nat) : Option (Nat × List Nat) :=
  match cs with
  | 0x7b :: rest => if braces then takeBraced? rest else none
  | _ => do
      let (high, rest) ← takeHex4? cs
      if !pairs || high < 0xd800 || high > 0xdbff then return (high, rest)
      match rest with
      | 92 :: 117 :: more =>
          match takeHex4? more with
          | some (low, more) =>
              if low < 0xdc00 || low > 0xdfff then return (high, rest)
              return ((high - 0xd800) * 0x400 + (low - 0xdc00) + 0x10000, more)
          | none => return (high, rest)
      | _ => return (high, rest)

/-- Takes the name of a group up to `>`; `taken` are its characters so far, the last one first. -/
def takeName? : Nat → List Nat → List Nat → Option (Units × List Nat)
  | 0, _, _ => none
  | fuel + 1, taken, cs => do
      let (c, rest) ← match cs with
        | 92 :: 117 :: rest => takeUnicode? true true rest
        | 62 :: rest =>
            if taken.isEmpty then none
            else return (.join (taken.reverse.map Units.ofCodePoint), rest)
        | c :: rest => some (c, rest)
        | [] => none
      let isFit := if taken.isEmpty then isWordStart (Char.ofNat c) else isWordPart (Char.ofNat c)
      if isFit then takeName? fuel (c :: taken) rest else none

/-- The name of a group that `<` opens, and what follows it. -/
def groupName? (cs : List Nat) : Option (Units × List Nat) :=
  match cs with
  | 60 :: rest => takeName? (rest.length + 1) [] rest
  | _ => none

namespace R

def peek : R (Option Nat) := do return (← get).rest.head?

def skip (n : Nat) : R Unit := modify fun s => { s with rest := s.rest.drop n }

def setRest (cs : List Nat) : R Unit := modify fun s => { s with rest := cs }

def next : R (Option Nat) := do
  let c ← peek
  skip 1
  return c

def at_ (c : Char) : R Bool := do return (← peek) == some c.toNat

def eat (c : Char) : R Bool := do
  if ← at_ c then
    skip 1
    return true
  return false

def startsWith (s : String) : R Bool := do
  let cs := s.toList.map Char.toNat
  return (← get).rest.take cs.length == cs

def eatText (s : String) : R Bool := do
  if ← startsWith s then
    skip s.length
    return true
  return false

def flags : R Flags := do return (← read).flags

def isUnicode : R Bool := do return (← flags).isUnicode

def isDigit (c : Nat) : Bool := 48 ≤ c && c ≤ 57

def number (cs : List Nat) : Nat := cs.foldl (fun n c => 10 * n + (c - 48)) 0

def decimal : R (Option Nat) := do
  let ds := (← get).rest.takeWhile isDigit
  if ds.isEmpty then return none
  skip ds.length
  return some (number ds)

/-- What follows `\p`: the name of a property, or of a property and one of its values. -/
def propertyEscape (isNegated : Bool) : R ClassSet := do
  if !(← eat '\x7b') then throw "Invalid character at property escape start"
  let cs := (← get).rest.takeWhile (· != 0x7d)
  skip cs.length
  if !(← eat '\x7d') then throw "Invalid property name"
  let text := String.ofList (cs.map Char.ofNat)
  let found := match text.splitOn "=" with
    | [name] => property? name none
    | [name, value] => property? name (some value)
    | _ => none
  match found with
  | some r => return { chars := if isNegated then r.complement else r }
  | none =>
      let texts := if (← flags).unicodeSets then Emoji.sequences? text else none
      match texts with
      | some ts =>
          if isNegated then throw "Invalid character escape"
          return .ofTexts ts
      | none => throw "Invalid property name"

/-- An escape that stands for a set, behind the backslash. -/
def setEscape? : R (Option ClassSet) := do
  let plain (r : Ranges) (isNegated : Bool) : R (Option ClassSet) := do
    skip 1
    return some { chars := if isNegated then r.complement else r }
  match (← peek).map Char.ofNat with
  | some 'd' => plain digits false
  | some 'D' => plain digits true
  | some 'w' => plain wordChars false
  | some 'W' => plain wordChars true
  | some 's' => plain blanks false
  | some 'S' => plain blanks true
  | some 'p' =>
      if !(← isUnicode) then return none
      skip 1
      return some (← propertyEscape false)
  | some 'P' =>
      if !(← isUnicode) then return none
      skip 1
      return some (← propertyEscape true)
  | _ => return none

def markChars : List Char := "^$\\.*+?()[]\x7b\x7d|/".toList

/-- An escape that stands for one character, behind the backslash. -/
def charEscape : R Nat := do
  let u ← isUnicode
  match ← next with
  | none => throw "Incomplete escape"
  | some c =>
      match Char.ofNat c with
      | 't' => return 9
      | 'n' => return 10
      | 'v' => return 11
      | 'f' => return 12
      | 'r' => return 13
      | 'c' =>
          match ← peek with
          | some l =>
              if (65 ≤ l && l ≤ 90) || (97 ≤ l && l ≤ 122) then
                skip 1
                return l % 32
              plainControl u c
          | none => plainControl u c
      | 'x' =>
          let ds := (← get).rest.take 2
          if ds.length == 2 && ds.all fun d => (hex? d).isSome then
            skip 2
            return hexNumber ds
          if u then throw "Invalid character escape"
          return c
      | 'u' =>
          match takeUnicode? u u (← get).rest with
          | some (n, rest) =>
              setRest rest
              return n
          | none =>
              if u then throw "Invalid unicode escape"
              return c
      | ch =>
          if ch == '0' && !(((← peek).map isDigit).getD false) then return 0
          if u then
            if markChars.contains ch then return c
            throw "Invalid character escape"
          if '0' ≤ ch && ch ≤ '7' then
            -- up to three digits in base eight, at most 377
            let more := ((← get).rest.takeWhile fun d => 48 ≤ d && d ≤ 55).take
              (if ch ≤ '3' then 2 else 1)
            skip more.length
            return (c :: more).foldl (fun n d => 8 * n + (d - 48)) 0
          return c
where
  /-- A backslash that stands for itself in front of a letter. -/
  plainControl (u : Bool) (c : Nat) : R Nat := do
    if u then throw "Invalid character escape"
    modify fun s => { s with rest := c :: s.rest }
    return 92

end R

end Inlay.Engine.Regex
