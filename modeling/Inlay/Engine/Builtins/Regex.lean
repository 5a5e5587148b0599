import Inlay.Engine.Builtins.String

/-! # Built-in functions on regular expressions -/

namespace Inlay.Engine

open Exec

namespace Builtins.Regexes

def lastIndexKey : Key := Key.text "lastIndex"

def objectThis (c : Call) (name : String) : Exec Ref := do
  match c.this with
  | .obj r => return r
  | _ => typeError s!"RegExp.prototype{name} method called on incompatible value"

def make (c : Call) (callee : Ref) : Exec Value := do
  let pattern := c.arg 0
  let flags := c.arg 1
  let isPattern ← Texts.isRegex pattern
  if !c.isConstruct && isPattern && flags.isUndefined then
    let ctor ← getMember pattern (Key.text "constructor")
    if ctor.strictEq (.obj callee) then return pattern
  let own ← match pattern with
    | .obj r => do
        match ← kind r with
        | .regex rx source => pure (some (rx.flags, source))
        | _ => pure none
    | _ => pure none
  let (p, f) ← match own with
    | some (fl, source) =>
        pure (Value.str source, if flags.isUndefined then Value.text fl.text else flags)
    | none => do
        if isPattern then
          let p ← getMember pattern (Key.text "source")
          let f ← if flags.isUndefined then getMember pattern (Key.text "flags") else pure flags
          pure (p, f)
        else pure (pattern, flags)
  let proto ← protoFor c.newTarget Intrinsic.regexProto
  let p ← if p.isUndefined then pure Units.empty else toText p
  let f ← if f.isUndefined then pure Units.empty else toText f
  return .obj (← Step.newRegex p f proto)

/-! ## Matching -/

def matchArray (rx : Regex.Expression) (s : Units) (groups : Array (Option (Nat × Nat))) :
    Exec Value := do
  let part (g : Option (Nat × Nat)) : Value := match g with
    | some (a, b) => .str (s.extract a b)
    | none => .undefined
  let span (g : Option (Nat × Nat)) : Exec Value := do
    match g with
    | some (a, b) => arrayOf #[.nat a, .nat b]
    | none => return .undefined
  let named (value : Option (Nat × Nat) → Exec Value) : Exec Value := do
    if rx.names.isEmpty then return .undefined
    let r ← alloc { proto := none }
    for (x, i) in rx.names do
      let v ← value ((groups[i]?).join)
      let isTaken := ((← obj r).listed? (.str x)).isSome
      if !isTaken || !v.isUndefined then modifyObj r (·.put (.str x) (.plain v))
    return .obj r
  let r ← newArray (groups.map part)
  let start := match (groups[0]?).join with
    | some (a, _) => a
    | none => 0
  let names ← named fun g => return part g
  modifyObj r fun o =>
    ((o.put (Key.text "index") (.plain (.nat start))).put (Key.text "input") (.plain (.str s))).put
      (Key.text "groups") (.plain names)
  if rx.flags.hasIndices then
    let mut spans := #[]
    for g in groups do
      spans := spans.push (← span g)
    let indices ← newArray spans
    let names ← named span
    modifyObj indices (·.put (Key.text "groups") (.plain names))
    modifyObj r (·.put (Key.text "indices") (.plain (.obj indices)))
  return .obj r

def setLastIndex (r : Ref) (n : Nat) : Exec Unit := Object.set r lastIndexKey (.nat n)

/-- Matches once, from where the last match ended if the flags say so. -/
def matchOnce (r : Ref) (rx : Regex.Expression) (s : Units) : Exec Value := do
  let last ← toLength (← Object.get r lastIndexKey)
  let keeps := rx.flags.global || rx.flags.sticky
  let last := if keeps then last else 0
  let found := if last > s.size then none
    else if rx.flags.sticky then rx.matchAt s last
    else rx.find s last
  match found with
  | none =>
      if keeps then setLastIndex r 0
      return .null
  | some groups =>
      if keeps then
        setLastIndex r (match (groups[0]?).join with
          | some (_, b) => b
          | none => 0)
      matchArray rx s groups

/-- Matches with the `exec` method of an object. -/
def execOn (r : Ref) (s : Units) : Exec Value := do
  let f ← Object.get r (Key.text "exec")
  if ← Object.isCallable f then
    match ← Object.call f (.obj r) #[.str s] with
    | .obj m => return .obj m
    | .null => return .null
    | _ => typeError "regexp exec returned neither object nor null"
  else match ← kind r with
    | .regex rx _ => matchOnce r rx s
    | _ => typeError "RegExpExec called with invalid value"

/-- The position behind the character at another one. -/
def advance (s : Units) (i : Nat) (isUnicode : Bool) : Nat :=
  if !isUnicode then i + 1
  else match (s.extract i (i + 2)).codePoints with
    | n :: _ => i + (Units.ofCodePoint n).size
    | [] => i + 1

def flagsOf (r : Ref) : Exec Units := do toText (← Object.get r (Key.text "flags"))

def hasFlag (flags : Units) (c : Char) : Bool := flags.data.contains c.toNat.toUInt16

def isUnicodeFlags (flags : Units) : Bool := hasFlag flags 'u' || hasFlag flags 'v'

def allMatches (r : Ref) (s : Units) (isUnicode : Bool) : Nat → List Ref → Exec (List Ref)
  | 0, out => return out.reverse
  | n + 1, out => do
      match ← execOn r s with
      | .obj m =>
          let text ← toText (← Object.get m (.index 0))
          if text.isEmpty then
            let i ← toLength (← Object.get r lastIndexKey)
            setLastIndex r (advance s i isUnicode)
          allMatches r s isUnicode n (m :: out)
      | _ => return out.reverse

def matching (c : Call) : Exec Value := do
  let r ← objectThis c ".match"
  let s ← toText (c.arg 0)
  let flags ← flagsOf r
  if !hasFlag flags 'g' then return ← execOn r s
  setLastIndex r 0
  let ms ← allMatches r s (isUnicodeFlags flags) iterLimit []
  if ms.isEmpty then return .null
  let mut out := #[]
  for m in ms do
    out := out.push (.str (← toText (← Object.get m (.index 0))))
  arrayOf out

def matchAll (c : Call) : Exec Value := do
  let r ← objectThis c ".match_all"
  let s ← toText (c.arg 0)
  let ctor ← speciesOf r Intrinsic.regexCtor
  let flags ← flagsOf r
  match ← Object.construct ctor #[.obj r, .str flags] with
  | .obj m =>
      let i ← toLength (← Object.get r lastIndexKey)
      setLastIndex m i
      return .obj (← alloc {
        proto := some Intrinsic.matchIteratorProto
        kind := .matchIter m s (hasFlag flags 'g') (isUnicodeFlags flags) false })
  | _ => typeError "constructor returned no object"

def matchNext (c : Call) : Exec Value := do
  match c.this with
  | .obj r =>
      match ← kind r with
      | .matchIter m s isGlobal isUnicode isDone =>
          if isDone then return ← iterResult .undefined true
          match ← execOn m s with
          | .obj found =>
              if !isGlobal then setKind r (.matchIter m s isGlobal isUnicode true)
              else
                let text ← toText (← Object.get found (.index 0))
                if text.isEmpty then
                  let i ← toLength (← Object.get m lastIndexKey)
                  setLastIndex m (advance s i isUnicode)
              iterResult (.obj found) false
          | _ =>
              setKind r (.matchIter m s isGlobal isUnicode true)
              iterResult .undefined true
      | _ => typeError "`this` is not a RegExpStringIterator"
  | _ => typeError "`this` is not a RegExpStringIterator"

/-! ## Replacing -/

/-- The text that takes the place of one match, and the stretch it replaces. -/
def replacement (m : Ref) (s : Units) (value : Value) (isFunction : Bool) (template : Units) :
    Exec (Nat × Nat × Units) := do
  let n ← lengthOf m
  let matched ← toText (← Object.get m (.index 0))
  let at_ ← toIntegerClamped (← Object.get m (Key.text "index"))
  let start := min at_.toNat s.size
  let mut groups : List Value := []
  for i in [1:n] do
    let g ← Object.get m (.index i)
    let g ← if g.isUndefined then pure g else do pure (Value.str (← toText g))
    groups := groups ++ [g]
  let named ← Object.get m (Key.text "groups")
  let text ← do
    if isFunction then
      let more := if named.isUndefined then #[] else #[named]
      let args := #[Value.str matched] ++ groups.toArray ++ #[.nat start, .str s] ++ more
      toText (← Object.call value .undefined args)
    else
      let named ← if named.isUndefined then pure named else do pure (Value.obj (← toObject named))
      Texts.substituted ⟨s, start, start + matched.size, groups, named⟩ template
  return (start, start + matched.size, text)

def replace (c : Call) : Exec Value := do
  let r ← objectThis c "[Symbol.replace]"
  let s ← toText (c.arg 0)
  let isFunction ← Object.isCallable (c.arg 1)
  let template ← if isFunction then pure Units.empty else toText (c.arg 1)
  let flags ← flagsOf r
  let ms ← do
    if hasFlag flags 'g' then
      setLastIndex r 0
      allMatches r s (isUnicodeFlags flags) iterLimit []
    else match ← execOn r s with
      | .obj m => pure [m]
      | _ => pure []
  let mut out : Units := .empty
  let mut next := 0
  for m in ms do
    let (start, stop, text) ← replacement m s (c.arg 1) isFunction template
    if start ≥ next then
      out := out ++ s.extract next start ++ text
      next := stop
  return .str (out ++ s.drop next)

def search (c : Call) : Exec Value := do
  let r ← objectThis c "[Symbol.search]"
  let s ← toText (c.arg 0)
  let old ← Object.get r lastIndexKey
  if !old.same (.nat 0) then setLastIndex r 0
  let m ← execOn r s
  let now ← Object.get r lastIndexKey
  if !now.same old then Object.set r lastIndexKey old
  match m with
  | .obj m => Object.get m (Key.text "index")
  | _ => return .int (-1)

/-! ## Splitting -/

/-- Cuts a text at the matches of a sticky expression. -/
def splitFrom (splitter : Ref) (s : Units) (isUnicode : Bool) (limit : Nat) :
    Nat → Nat → Nat → Array Value → Exec (Array Value)
  | 0, _, _, out => return out
  | n + 1, p, q, out => do
      if q ≥ s.size then return out.push (.str (s.drop p))
      setLastIndex splitter q
      match ← execOn splitter s with
      | .obj m =>
          let e := min (← toLength (← Object.get splitter lastIndexKey)) s.size
          if e == p then splitFrom splitter s isUnicode limit n p (advance s q isUnicode) out
          else
            let mut out := out.push (.str (s.extract p q))
            if out.size == limit then return out
            for i in [1:← lengthOf m] do
              if out.size < limit then out := out.push (← Object.get m (.index i))
            if out.size == limit then return out
            splitFrom splitter s isUnicode limit n e e out
      | _ => splitFrom splitter s isUnicode limit n p (advance s q isUnicode) out

def split (c : Call) : Exec Value := do
  let r ← objectThis c ".split"
  let s ← toText (c.arg 0)
  let ctor ← speciesOf r Intrinsic.regexCtor
  let flags ← flagsOf r
  let sticky := if hasFlag flags 'y' then flags else flags ++ .ofString "y"
  match ← Object.construct ctor #[.obj r, .str sticky] with
  | .obj splitter =>
      let limit ← if (c.arg 1).isUndefined then pure 4294967295 else do
        pure (← toNumber (c.arg 1)).toUInt32
      if limit == 0 then return ← arrayOf #[]
      if s.isEmpty then
        match ← execOn splitter s with
        | .obj _ => return ← arrayOf #[]
        | _ => return ← arrayOf #[.str s]
      arrayOf (← splitFrom splitter s (isUnicodeFlags flags) limit (2 * s.size + 2) 0 0 #[])
  | _ => typeError "constructor returned no object"

/-! ## Parts of a regular expression -/

/-- The text of a pattern as it can stand between slashes. -/
def escaped (s : Units) : Units :=
  if s.isEmpty then .ofString "(?:)"
  else .join (s.data.toList.map fun u =>
    if u == 47 then .ofString "\\/" else if u == 10 then .ofString "\\n"
    else if u == 13 then .ofString "\\r" else ⟨#[u]⟩)

def flagNames : List (Char × String) :=
  [('d', "hasIndices"), ('g', "global"), ('i', "ignoreCase"), ('m', "multiline"), ('s', "dotAll"),
    ('u', "unicode"), ('v', "unicodeSets"), ('y', "sticky")]

def flag (c : Call) (letter : Char) : Exec Value := do
  let name := (flagNames.lookup letter).getD ""
  match c.this with
  | .obj r =>
      match ← kind r with
      | .regex rx _ => return .bool (rx.flags.text.toList.contains letter)
      | _ =>
          if r == Intrinsic.regexProto then return .undefined
          typeError s!"RegExp.prototype.{name} getter called on non-RegExp object"
  | _ => typeError s!"RegExp.prototype.{name} getter called on non-object"

def flags (c : Call) : Exec Value := do
  let r ← match c.this with
    | .obj r => pure r
    | _ => typeError "RegExp.prototype.flags getter called on non-object"
  let mut out := ""
  for (letter, name) in flagNames do
    if (← Object.get r (Key.text name)).truthy then out := out.push letter
  return .text out

def source (c : Call) : Exec Value := do
  let r ← objectThis c ".source"
  match ← kind r with
  | .regex _ s => return .str (escaped s)
  | _ =>
      if r == Intrinsic.regexProto then return .text "(?:)"
      typeError "RegExp.prototype.source method called on incompatible value"

def run (f : RegexFn) (c : Call) (callee : Ref) : Exec Value := do
  match f with
  | .make => make c callee
  | .exec =>
      let message := "RegExp.prototype.exec called with invalid value"
      match c.this with
      | .obj r =>
          match ← kind r with
          | .regex rx _ => matchOnce r rx (← toText (c.arg 0))
          | _ => typeError message
      | _ => typeError message
  | .test =>
      let r ← objectThis c ".test"
      return .bool (← execOn r (← toText (c.arg 0))).isObject
  | .toText =>
      let r ← objectThis c ".toString"
      let p ← toText (← Object.get r (Key.text "source"))
      let f ← flagsOf r
      return .str (.ofString "/" ++ p ++ .ofString "/" ++ f)
  | .species => return c.this
  | .flags => flags c
  | .source => source c
  | .flag letter => flag c letter
  | .match_ => matching c
  | .matchAll => matchAll c
  | .replace => replace c
  | .search => search c
  | .split => split c
  | .matchNext => matchNext c

end Builtins.Regexes

end Inlay.Engine
