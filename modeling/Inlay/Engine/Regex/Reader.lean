import Inlay.Engine.Regex.Class

/-! # Reading patterns

    The names of all groups are collected first, since a reference may stand in front of its
    group. -/

namespace Inlay.Engine.Regex

open Inlay.Text

namespace R

def atomEscape : R Pattern := do
  let env ← read
  let folding := env.flags.folding
  match ← peek with
  | none => throw "Incomplete escape"
  | some c =>
      match Char.ofNat c with
      | 'b' =>
          skip 1
          return .boundary false
      | 'B' =>
          skip 1
          return .boundary true
      | 'k' =>
          if !env.flags.isUnicode && env.names.isEmpty then return .char (← charEscape) folding
          skip 1
          match groupName? (← get).rest with
          | some (name, rest) =>
              setRest rest
              match env.names.lookup name with
              | some g => return .back g folding
              | none => throw s!"Backreference to invalid named capture group: {name.text}"
          | none => throw "Unexpected end of named backreference"
      | ch =>
          if '1' ≤ ch && ch ≤ '9' then
            let before ← get
            let n := (← decimal).getD 0
            if n ≤ env.total then return .back n folding
            if env.flags.isUnicode then throw "Invalid character escape"
            set before
          match ← setEscape? with
          | some s => return setPattern folding s false
          | none => return .char (← charEscape) folding

/-- Bounds of a repetition between braces, if that is what stands there. -/
def bounds? : R (Option (Nat × Option Nat)) := do
  let before ← get
  skip 1
  match ← decimal with
  | none =>
      set before
      return none
  | some least =>
      let most ← if ← eat ',' then decimal else pure (some least)
      if ← eat '\x7d' then return some (least, most)
      set before
      return none

def quantifier? : R (Option (Nat × Option Nat)) := do
  match ← peek with
  | some 42 =>
      skip 1
      return some (0, none)
  | some 43 =>
      skip 1
      return some (1, none)
  | some 63 =>
      skip 1
      return some (0, some 1)
  | some 0x7b =>
      match ← bounds? with
      | some b => return some b
      | none =>
          if ← isUnicode then throw "Invalid quantifier"
          return none
  | _ => return none

/-- Puts the quantifier ahead, if there is one, on a pattern whose groups start at `first`. -/
def quantified (first : Nat) (p : Pattern) (isAllowed : Bool) : R Pattern := do
  match ← quantifier? with
  | none => return p
  | some (least, most) =>
      let isLazy ← eat '?'
      if !isAllowed then throw "Quantifier not allowed here"
      match most with
      | some m => if least > m then throw "Invalid quantifier"
      | none => pure ()
      return .rep least most (!isLazy) first ((← get).next - 1) p

/-- The rest of a group behind what opened it. -/
def closed (inner : R Pattern) : R Pattern := do
  let p ← inner
  if !(← eat ')') then throw "Unbalanced parenthesis"
  return p

def lookaround (inner : R Pattern) (isAhead isNegated : Bool) : R Pattern := do
  let first := (← get).next
  let p ← closed inner
  return .look isAhead isNegated first ((← get).next - 1) p

def capture (inner : R Pattern) : R Pattern := do
  let index := (← get).next
  modify fun s => { s with next := index + 1 }
  return .group index (← closed inner)

/-- Letters that switch flags on or off within a group. -/
def modifiers : Flags → List Nat → Bool → List Nat → Option (Flags × List Nat)
  | f, _, _, 58 :: rest => some (f, rest)
  | f, seen, true, 45 :: rest => modifiers f seen false rest
  | f, seen, isOn, c :: rest =>
      if seen.contains c then none
      else match Char.ofNat c with
        | 'i' => modifiers { f with ignoreCase := isOn } (c :: seen) isOn rest
        | 'm' => modifiers { f with multiline := isOn } (c :: seen) isOn rest
        | 's' => modifiers { f with dotAll := isOn } (c :: seen) isOn rest
        | _ => none
  | _, _, _, [] => none

/-- What a parenthesis opens; whether a quantifier may follow it. -/
def parenthesis (inner : R Pattern) : R (Pattern × Bool) := do
  let u ← isUnicode
  if ← eatText "(?=" then return (← lookaround inner true false, !u)
  if ← eatText "(?!" then return (← lookaround inner true true, !u)
  if ← eatText "(?<=" then return (← lookaround inner false false, false)
  if ← eatText "(?<!" then return (← lookaround inner false true, false)
  if ← eatText "(?:" then return (← closed inner, true)
  if !(← eatText "(?") then
    skip 1
    return (← capture inner, true)
  let rest := (← get).rest
  match groupName? rest with
  | some (_, rest) =>
      setRest rest
      return (← capture inner, true)
  | none =>
      if !((rest.head?.map fun c => "ims-".toList.contains (Char.ofNat c)).getD false) then
        throw "Invalid token at named capture group identifier"
      match modifiers (← flags) [] true rest with
      | none => throw "Invalid group modifier"
      | some (f, more) =>
          if rest.take 2 == [45, 58] then throw "Invalid group modifier"
          setRest more
          return (← withReader (fun e => { e with flags := f }) (closed inner), true)

/-- A character that stands for itself.  One that has two units stands for them where texts are
    taken by units. -/
def plainChar (c : Nat) : R Pattern := do
  skip 1
  let f ← flags
  if c < 0x10000 || f.isUnicode then return .char c f.folding
  modify fun s => { s with rest := (0xdc00 + (c - 0x10000) % 0x400) :: s.rest }
  return .char (0xd800 + (c - 0x10000) / 0x400) f.folding

/-- One term of an alternative, without its quantifier; whether it may have one. -/
def atom (inner : R Pattern) (c : Nat) : R (Pattern × Bool) := do
  let f ← flags
  match Char.ofNat c with
  | '^' =>
      skip 1
      return (.lineStart f.multiline, false)
  | '$' =>
      skip 1
      return (.lineEnd f.multiline, false)
  | '(' => parenthesis inner
  | '.' =>
      skip 1
      return (.any f.dotAll, true)
  | '[' =>
      skip 1
      return (← characterClass, true)
  | '\\' =>
      skip 1
      return (← atomEscape, true)
  | '*' | '+' | '?' => throw "Invalid atom character"
  | '\x7b' =>
      if f.isUnicode then throw "Invalid atom character"
      if (← bounds?).isSome then throw "Invalid braced quantifier"
      return (← plainChar c, true)
  | ch =>
      if (ch == '\x7d' || ch == ']') && f.isUnicode then throw "Invalid atom character"
      return (← plainChar c, true)

def alternative (inner : R Pattern) : Nat → Pattern → R Pattern
  | 0, p => return p
  | n + 1, p => do
      match ← peek with
      | none | some 124 | some 41 => return p
      | some c =>
          let first := (← get).next
          let (a, isAllowed) ← atom inner c
          let t ← quantified first a isAllowed
          let p := match p with
            | .empty => t
            | p => .seq p t
          alternative inner n p

def alternatives (inner : R Pattern) : Nat → R Pattern
  | 0 => throw "Pattern too long"
  | n + 1 => do
      let p ← alternative inner (2 * (← get).rest.length + 1) .empty
      if ← eat '|' then
        let q ← alternatives inner n
        return .alt p q
      return p

/-- A pattern up to a closing parenthesis or the end; groups nest at most `n` deep. -/
def disjunction : Nat → R Pattern
  | 0 => throw "Pattern too deep"
  | n + 1 => do alternatives (disjunction n) ((← get).rest.length + 1)

def whole : R Pattern := do
  let p ← disjunction ((← get).rest.length + 1)
  match ← peek with
  | none => return p
  | some 41 => throw "Unbalanced parenthesis"
  | some c => throw s!"Unexpected char: {Char.ofNat c}"

end R

/-- The groups of a pattern before it is read: their number and their names. -/
def countGroups : List Nat → Bool → Nat → List (Units × Nat) → Nat × List (Units × Nat)
  | [], _, n, names => (n, names.reverse)
  | 92 :: _ :: cs, inClass, n, names => countGroups cs inClass n names
  | 91 :: cs, _, n, names => countGroups cs true n names
  | 93 :: cs, _, n, names => countGroups cs false n names
  | 40 :: cs, false, n, names =>
      match cs with
      | 63 :: rest =>
          match groupName? rest with
          | some (name, _) => countGroups cs false (n + 1) ((name, n + 1) :: names)
          | none => countGroups cs false n names
      | _ => countGroups cs false (n + 1) names
  | _ :: cs, inClass, n, names => countGroups cs inClass n names

def hasDuplicate : List (Units × Nat) → Bool
  | [] => false
  | (x, _) :: rest => rest.any (·.1 == x) || hasDuplicate rest

def read (pattern : Units) (flags : Flags) : Except String Expression :=
  let cs := pattern.codePoints
  let (total, names) := countGroups cs false 0 []
  if hasDuplicate names then .error "Duplicate capture group name"
  else match R.whole { flags, total, names } { rest := cs } with
    | .ok p s => .ok { pattern := p, flags, groups := s.next - 1, names }
    | .error e _ => .error e

end Inlay.Engine.Regex
