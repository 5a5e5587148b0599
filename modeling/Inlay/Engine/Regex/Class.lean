import Inlay.Engine.Regex.Escape

/-! # Reading patterns: classes of characters

    A class lists characters, ranges and sets.  With set notation classes nest, may be intersected
    and subtracted, and may hold texts of several characters. -/

namespace Inlay.Engine.Regex

open Inlay.Text

/-- One item of a class: a character or a set. -/
inductive ClassItem where
  | char (c : Nat)
  | set (s : ClassSet)

namespace ClassItem

def toSet : ClassItem → ClassSet
  | char c => .single c
  | set s => s

end ClassItem

namespace R

/-! ## Plain classes -/

def classItem : R ClassItem := do
  match ← next with
  | none => throw "Unbalanced bracket"
  | some 92 =>
      match (← peek).map Char.ofNat with
      | none => throw "Unterminated escape"
      | some 'b' =>
          skip 1
          return .char 8
      | some ch =>
          if ch == '-' && (← isUnicode) then
            skip 1
            return .char 45
          match ← setEscape? with
          | some s => return .set s
          | none => return .char (← charEscape)
  | some c => return .char c

/-- The characters of a class up to the bracket that closes it. -/
def classRuns : Nat → List (Nat × Nat) → R (List (Nat × Nat))
  | 0, _ => throw "Unbalanced bracket"
  | n + 1, out => do
      match ← peek with
      | none => throw "Unbalanced bracket"
      | some 93 =>
          skip 1
          return out
      | some _ =>
          let a ← classItem
          let isRange := match (← get).rest with
            | 45 :: 93 :: _ => false
            | 45 :: _ => true
            | _ => false
          if !isRange then classRuns n (runs a ++ out)
          else
            skip 1
            let b ← classItem
            match a, b with
            | .char x, .char y =>
                if x > y then
                  throw "Range values reversed, start char code is greater than end char code."
                classRuns n ((x, y) :: out)
            | _, _ =>
                if ← isUnicode then throw "Invalid character range"
                classRuns n (runs a ++ (45, 45) :: runs b ++ out)
where
  runs (i : ClassItem) : List (Nat × Nat) := i.toSet.chars.runs.toList

/-! ## Set notation -/

/-- Characters that stand for themselves only behind a backslash. -/
def setMarks : List Char := "()[]\x7b\x7d/-\\|".toList

/-- Characters that do not stand for themselves twice in a row. -/
def setDoubles : List Char := "&!#$%*+,.:;<=>?@^`~".toList

/-- Characters that may follow a backslash though they need none. -/
def setEscapes : List Char := "&-!#%,:;<=>@`~".toList

def setCharEscape : R Nat := do
  match (← peek).map Char.ofNat with
  | none => throw "Incomplete escape"
  | some 'b' =>
      skip 1
      return 8
  | some ch =>
      if setEscapes.contains ch then
        skip 1
        return ch.toNat
      charEscape

def setChar : R Nat := do
  match (← get).rest with
  | [] => throw "Unbalanced class set bracket"
  | 92 :: _ =>
      skip 1
      setCharEscape
  | c :: rest =>
      let ch := Char.ofNat c
      if setMarks.contains ch then throw "Invalid class set character"
      if setDoubles.contains ch && rest.head? == some c then throw "Invalid class set character"
      skip 1
      return c

/-- The texts between braces, behind `\q` and the brace. -/
def setTexts : Nat → List Nat → List (List Nat) → R (List (List Nat))
  | 0, _, _ => throw "Unbalanced class set bracket"
  | n + 1, text, out => do
      if ← eat '\x7d' then return (text.reverse :: out).reverse
      else if ← eat '|' then setTexts n [] (text.reverse :: out)
      else setTexts n ((← setChar) :: text) out

/-- One operand of a set; `nested` reads a class within. -/
def setOperand (nested : R ClassSet) : R ClassItem := do
  if ← eat '[' then
    let isNegated ← eat '^'
    let s ← nested
    return .set (if isNegated then { chars := s.chars.complement } else s)
  if ← startsWith "\\" then
    if ← eatText "\\q\x7b" then
      return .set (.ofTexts (← setTexts ((← get).rest.length + 1) [] []))
    skip 1
    match ← setEscape? with
    | some s => return .set s
    | none => return .char (← setCharEscape)
  return .char (← setChar)

/-- What a set holds besides `out`, by listing. -/
def setUnion (nested : R ClassSet) : Nat → ClassSet → R ClassSet
  | 0, _ => throw "Unbalanced class set bracket"
  | n + 1, out => do
      match ← peek with
      | none => throw "Unbalanced class set bracket"
      | some 93 =>
          skip 1
          return out
      | some _ =>
          let a ← setOperand nested
          if !(← eat '-') then setUnion nested n (out.union a.toSet)
          else
            match a, ← setOperand nested with
            | .char x, .char y =>
                if x > y then throw "Invalid class set range"
                setUnion nested n (out.union { chars := ⟨#[(x, y)]⟩ })
            | _, _ => throw "Invalid class set range"

/-- Further operands, each behind an operator of two equal characters. -/
def setOperations (nested : R ClassSet) (operator sort : String)
    (combine : ClassSet → ClassSet → ClassSet) : Nat → ClassSet → R ClassSet
  | 0, _ => throw "Unbalanced class set bracket"
  | n + 1, out => do
      if ← eat ']' then return out
      if (← peek).isNone then throw "Unbalanced class set bracket"
      if !(← eatText operator) then throw s!"Unexpected character in class set {sort}"
      let b ← setOperand nested
      setOperations nested operator sort combine n (combine out b.toSet)

/-- A set up to the bracket that closes it; classes nest at most `n` deep. -/
def setExpression : Nat → R ClassSet
  | 0 => throw "Unbalanced class set bracket"
  | n + 1 => do
      let nested := setExpression n
      let size := (← get).rest.length + 1
      let before := (← get).rest
      if ← eat ']' then return { chars := .empty }
      if before.isEmpty then throw "Unbalanced class set bracket"
      let first ← setOperand nested
      if ← startsWith "&&" then
        setOperations nested "&&" "intersection" ClassSet.meet size first.toSet
      else if ← startsWith "--" then
        setOperations nested "--" "subtraction" ClassSet.minus size first.toSet
      else
        setRest before
        setUnion nested size { chars := .empty }

/-! ## Classes as patterns -/

def textPattern (folding : Folding) (cs : List Nat) : Pattern :=
  match cs with
  | [] => .empty
  | c :: cs => cs.foldl (fun p c => .seq p (.char c folding)) (.char c folding)

/-- A set as a pattern: longer texts are tried first. -/
def setPattern (folding : Folding) (s : ClassSet) (ignoresCase : Bool) : Pattern :=
  let texts := (s.texts.filter (!·.isEmpty)).mergeSort fun a b => a.length ≥ b.length
  let chars := if s.chars.isEmpty && !s.texts.isEmpty then []
    else [Pattern.oneOf s.chars false ignoresCase]
  let empty := if s.texts.contains [] then [Pattern.empty] else []
  match (texts.map (textPattern folding) ++ chars ++ empty).reverse with
  | [] => .oneOf .empty false false
  | p :: ps => ps.foldl (fun q p => .alt p q) p

def characterClass : R Pattern := do
  let f ← flags
  let isNegated ← eat '^'
  let size := (← get).rest.length + 1
  if f.unicodeSets then
    let s ← setExpression size
    if isNegated then return .oneOf s.chars true f.ignoreCase
    return setPattern f.folding s f.ignoreCase
  return .oneOf (.ofRuns (← classRuns size [])) isNegated f.ignoreCase

end R

end Inlay.Engine.Regex
