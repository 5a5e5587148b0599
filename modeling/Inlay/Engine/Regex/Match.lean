import Inlay.Engine.Regex.Pattern

/-! # Matching of regular expressions

    A pattern is matched against a text by trying its alternatives in order; what follows a pattern
    is given as a continuation, so that a later failure makes an earlier choice be tried again. -/

namespace Inlay.Engine.Regex

open Inlay.Text

/-- Where a match stands, and what its groups hold. -/
structure Place where
  pos : Nat
  groups : Array (Option (Nat × Nat))

structure Input where
  text : Units
  /-- Whether the text is taken by code points. -/
  isUnicode : Bool

namespace Input

def size (i : Input) : Nat := i.text.size

/-- The character at a position and the position behind it. -/
def after (i : Input) (pos : Nat) : Option (Nat × Nat) :=
  match i.text.get? pos with
  | none => none
  | some u =>
      if i.isUnicode && Units.isHigh u then
        match i.text.get? (pos + 1) with
        | some l =>
            if Units.isLow l then some (Units.pair u l, pos + 2) else some (u.toNat, pos + 1)
        | none => some (u.toNat, pos + 1)
      else some (u.toNat, pos + 1)

/-- The character in front of a position and the position before it. -/
def before (i : Input) (pos : Nat) : Option (Nat × Nat) :=
  if pos == 0 then none
  else match i.text.get? (pos - 1) with
    | none => none
    | some u =>
        if i.isUnicode && Units.isLow u && pos ≥ 2 then
          match i.text.get? (pos - 2) with
          | some h =>
              if Units.isHigh h then some (Units.pair h u, pos - 2) else some (u.toNat, pos - 1)
          | none => some (u.toNat, pos - 1)
        else some (u.toNat, pos - 1)

def step (i : Input) (isForward : Bool) (pos : Nat) : Option (Nat × Nat) :=
  if isForward then i.after pos else i.before pos

end Input

def isLineBreak (c : Nat) : Bool := c == 10 || c == 13 || c == 0x2028 || c == 0x2029

def isWordChar (c : Nat) : Bool :=
  (48 ≤ c && c ≤ 57) || (65 ≤ c && c ≤ 90) || c == 95 || (97 ≤ c && c ≤ 122)

/-- Whether a class holds a character, or one that differs from it in case only. -/
def classContains (set : Ranges) (ignoresCase : Bool) (c : Nat) : Bool :=
  set.contains c || (ignoresCase && (caseVariants c).any set.contains)

/-- Forgets what the groups `first … last` held. -/
def forget (first last : Nat) (p : Place) : Place :=
  { p with
    groups := (List.range' first (last + 1 - first)).foldl (fun gs g => gs.set! g none) p.groups }

abbrev Continue := Place → Option Place

/-- Repetition: `m` matches one round.  A round that takes nothing ends the repetition. -/
def repeats (m : Place → Continue → Option Place) (isGreedy : Bool) (first last : Nat) :
    Nat → Nat → Option Nat → Place → Continue → Option Place
  | 0, _, _, _, _ => none
  | fuel + 1, least, most, p, k =>
      if most == some 0 then k p
      else
        let round (_ : Unit) : Option Place := m (forget first last p) fun q =>
          if least == 0 && q.pos == p.pos then none
          else repeats m isGreedy first last fuel (least - 1) (most.map (· - 1)) q k
        if least > 0 then round ()
        else if isGreedy then
          match round () with
          | some q => some q
          | none => k p
        else
          match k p with
          | some q => some q
          | none => round ()

def again (i : Input) (isForward : Bool) (folding : Folding) (start stop : Nat) (p : Place)
    (k : Continue) :
    Option Place :=
  let n := stop - start
  let from_ := if isForward then p.pos else p.pos - n
  if (!isForward && p.pos < n) || from_ + n > i.size then none
  else
    let agrees := (List.range n).all fun j =>
      match i.text.get? (start + j), i.text.get? (from_ + j) with
      | some a, some b => folding.agrees a.toNat b.toNat
      | _, _ => false
    if agrees then k { p with pos := if isForward then from_ + n else from_ } else none

def isWordAt (i : Input) (pos : Nat) : Bool :=
  match i.text.get? pos with
  | some u => isWordChar u.toNat
  | none => false

def matches_ (i : Input) (isForward : Bool) : Pattern → Place → Continue → Option Place
  | .empty, p, k => k p
  | .char c folding, p, k =>
      match i.step isForward p.pos with
      | some (d, pos) => if folding.agrees c d then k { p with pos } else none
      | none => none
  | .any takesBreaks, p, k =>
      match i.step isForward p.pos with
      | some (d, pos) => if takesBreaks || !isLineBreak d then k { p with pos } else none
      | none => none
  | .oneOf set isNegated ignoresCase, p, k =>
      match i.step isForward p.pos with
      | some (d, pos) =>
          if classContains set ignoresCase d != isNegated then k { p with pos } else none
      | none => none
  | .seq a b, p, k =>
      if isForward then matches_ i isForward a p fun q => matches_ i isForward b q k
      else matches_ i isForward b p fun q => matches_ i isForward a q k
  | .alt a b, p, k =>
      match matches_ i isForward a p k with
      | some q => some q
      | none => matches_ i isForward b p k
  | .group index a, p, k =>
      matches_ i isForward a p fun q =>
        let span := if isForward then (p.pos, q.pos) else (q.pos, p.pos)
        k { q with groups := q.groups.set! index (some span) }
  | .back g folding, p, k =>
      match (p.groups[g]?).join with
      | some (start, stop) => again i isForward folding start stop p k
      | none => k p
  | .lineStart isMultiline, p, k =>
      let holds := p.pos == 0 || (isMultiline && match i.text.get? (p.pos - 1) with
        | some u => isLineBreak u.toNat
        | none => false)
      if holds then k p else none
  | .lineEnd isMultiline, p, k =>
      let holds := p.pos == i.size || (isMultiline && match i.text.get? p.pos with
        | some u => isLineBreak u.toNat
        | none => false)
      if holds then k p else none
  | .boundary isNegated, p, k =>
      let left := p.pos > 0 && isWordAt i (p.pos - 1)
      if (left != isWordAt i p.pos) != isNegated then k p else none
  | .look isAhead isNegated first last a, p, k =>
      match matches_ i isAhead a p some with
      | some q => if isNegated then none else k { q with pos := p.pos }
      | none => if isNegated then k (forget first last p) else none
  | .rep least most isGreedy first last a, p, k =>
      repeats (matches_ i isForward a) isGreedy first last (i.size + least + 2) least most p k

/-- The groups of a match that starts at a position; group zero is the whole match. -/
def Expression.matchAt (r : Expression) (text : Units) (start : Nat) :
    Option (Array (Option (Nat × Nat))) :=
  let i : Input := ⟨text, r.flags.isUnicode⟩
  match matches_ i true r.pattern ⟨start, Array.replicate (r.groups + 1) none⟩ some with
  | some p => some (p.groups.set! 0 (some (start, p.pos)))
  | none => none

def Expression.search (r : Expression) (text : Units) :
    Nat → Nat → Option (Array (Option (Nat × Nat)))
  | 0, _ => none
  | n + 1, start =>
      if start > text.size then none
      else match r.matchAt text start with
        | some m => some m
        | none =>
            match Input.after ⟨text, r.flags.isUnicode⟩ start with
            | some (_, next) => r.search text n next
            | none => none

def Expression.find (r : Expression) (text : Units) (start : Nat) :
    Option (Array (Option (Nat × Nat))) :=
  r.search text (text.size + 2) start

end Inlay.Engine.Regex
