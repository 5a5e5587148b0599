/-! # Tables of characters

    Tables are written as groups of numbers.  A number is written in base 26 with letters for
    digits, the last of them a capital, so that nothing has to stand between two numbers; `+` joins
    the numbers of a group.

    A set of characters is a table of runs in ascending order.  The group `d+n+s` is the run that
    starts `d` behind the last code point before it and goes on for `n` code points, of which it
    takes every `s`-th; without `s` it takes all of them, without `n` only the first.  A character
    is looked up by a binary search over the runs. -/

namespace Inlay.Text

def hexDigit? (c : Char) : Option Nat :=
  if '0' ≤ c ∧ c ≤ '9' then some (c.toNat - '0'.toNat)
  else if 'a' ≤ c ∧ c ≤ 'f' then some (c.toNat - 'a'.toNat + 10)
  else if 'A' ≤ c ∧ c ≤ 'F' then some (c.toNat - 'A'.toNat + 10)
  else none

/-- Reads the digits of a base-16 numeral, most significant first. -/
def hexValue (cs : List Char) : Nat :=
  cs.foldl (fun n c => n * 16 + (hexDigit? c).getD 0) 0

def letterValue (c : Char) : Nat := c.toNat % 32 - 1

/-- Reads groups of numbers; `n` is the value of the digits before. -/
def groupsAfter (n : Nat) : List Char → List (List Nat)
  | [] => []
  | c :: '+' :: cs =>
      match groupsAfter 0 cs with
      | g :: gs => ((26 * n + letterValue c) :: g) :: gs
      | [] => [[26 * n + letterValue c]]
  | c :: cs =>
      if c.isUpper then [26 * n + letterValue c] :: groupsAfter 0 cs
      else groupsAfter (if c.isLower then 26 * n + letterValue c else n) cs

def groups (s : String) : List (List Nat) := groupsAfter 0 s.toList

/-- The code points `first`, `first + step`, … up to `last`. -/
structure Run where
  first : Nat
  last : Nat
  step : Nat

namespace Run

def behind (before : Nat) : List Nat → Run
  | [] => ⟨before, before, 1⟩
  | [d] => ⟨before + d, before + d, 1⟩
  | [d, n] => ⟨before + d, before + d + n, 1⟩
  | d :: n :: s :: _ => ⟨before + d, before + d + n, s⟩

/-- The single code points of a run, or the whole of it if it has no gaps. -/
def pieces (r : Run) : List (Nat × Nat) :=
  if r.step == 1 then [(r.first, r.last)]
  else (List.range ((r.last - r.first) / r.step + 1)).map fun i =>
    (r.first + r.step * i, r.first + r.step * i)

end Run

/-- Binary search among the entries `low … high - 1` for the one whose bounds enclose `n`. -/
def halving {α : Type} (bounds : α → Nat × Nat) (xs : Array α) (n : Nat) :
    Nat → Nat → Nat → Option α
  | 0, _, _ => none
  | fuel + 1, low, high =>
      if low ≥ high then none
      else
        let mid := (low + high) / 2
        match xs[mid]? with
        | none => none
        | some x =>
            if n < (bounds x).1 then halving bounds xs n fuel low mid
            else if (bounds x).2 < n then halving bounds xs n fuel (mid + 1) high
            else some x

/-- Ascending, disjoint runs of code points, both ends included. -/
structure Ranges where
  runs : Array (Nat × Nat)
  deriving Inhabited

namespace Ranges

/-- The runs without gaps that groups denote behind a code point. -/
def runsBehind : Nat → List (List Nat) → List (Nat × Nat)
  | _, [] => []
  | before, g :: gs =>
      let r := Run.behind before g
      r.pieces ++ runsBehind r.last gs

def ofText (s : String) : Ranges := ⟨(runsBehind 0 (groups s)).toArray⟩

/-- Whether a code point lies in one of the runs. -/
def contains (r : Ranges) (n : Nat) : Bool :=
  (halving id r.runs n (r.runs.size + 1) 0 r.runs.size).isSome

/-! ## Operations on sets -/

def lastCodePoint : Nat := 0x10ffff

/-- Adds a run behind others, the last of which comes first; runs that touch become one. -/
def joined (out : List (Nat × Nat)) (run : Nat × Nat) : List (Nat × Nat) :=
  match out with
  | [] => [run]
  | (first, last) :: rest =>
      if run.1 ≤ last + 1 then (first, max last run.2) :: rest else run :: out

def ofRuns (runs : List (Nat × Nat)) : Ranges :=
  let sorted := runs.mergeSort fun a b => a.1 ≤ b.1
  ⟨(sorted.foldl joined []).reverse.toArray⟩

def empty : Ranges := ⟨#[]⟩

def isEmpty (r : Ranges) : Bool := r.runs.isEmpty

def unite (rs : List Ranges) : Ranges := ofRuns (rs.flatMap fun r => r.runs.toList)

def gaps (start : Nat) : List (Nat × Nat) → List (Nat × Nat)
  | [] => if start ≤ lastCodePoint then [(start, lastCodePoint)] else []
  | (first, last) :: rest =>
      if start < first then (start, first - 1) :: gaps (last + 1) rest else gaps (last + 1) rest

/-- All code points that a set does not hold. -/
def complement (r : Ranges) : Ranges := ⟨(gaps 0 r.runs.toList).toArray⟩

def meet (a b : Ranges) : Ranges := (unite [a.complement, b.complement]).complement

/-- What the first of two sets holds and the second does not. -/
def minus (a b : Ranges) : Ranges := a.meet b.complement

end Ranges

/-! ## Mappings -/

/-- Characters and what they are mapped to; the first part of it moves with the character. -/
structure Mapping extends Run where
  head : Nat
  tail : List Nat

namespace Mapping

/-- The runs of characters that have a target each.  The code points of `d+n` have targets of their
    own; those of `d+n+s` have one together. -/
def sourcesBehind : Nat → List (List Nat) → List Run
  | _, [] => []
  | before, g :: gs =>
      let r := Run.behind before g
      let single := (List.range (r.last + 1 - r.first)).map fun i => ⟨r.first + i, r.first + i, 1⟩
      (if g.length ≤ 2 then single else [r]) ++ sourcesBehind r.last gs

/-- What lies `k / 2` above a number, or `k / 2 + 1` below it if `k` is odd. -/
def moved (k m : Nat) : Nat := if k % 2 == 0 then m + k / 2 else m - (k / 2 + 1)

/-- Moves the numbers of a list, which goes on with zeros. -/
def movedAll : List Nat → List Nat → List Nat
  | [], _ => []
  | k :: ks, ms => moved k (ms.headD 0) :: movedAll ks ms.tail

/-- Targets; each part is given by its distance from the last part that stood in its place. -/
def targetsBehind (last : List Nat) : List (List Nat) → List (List Nat)
  | [] => []
  | g :: gs =>
      let t := movedAll g last
      t :: targetsBehind (t ++ last.drop t.length) gs

/-- The mappings that two written tables denote: the characters, and their targets. -/
def ofTexts (sources targets : String) : Array Mapping :=
  (List.zipWith (fun r t => { toRun := r, head := t.headD 0, tail := t.tail })
    (sourcesBehind 0 (groups sources)) (targetsBehind [] (groups targets))).toArray

def find? (ms : Array Mapping) (c : Nat) : Option Mapping :=
  (halving (fun m => (m.first, m.last)) ms c (ms.size + 1) 0 ms.size).filter fun m =>
    (c - m.first) % m.step == 0

def apply (m : Mapping) (c : Nat) : List Nat := (m.head + (c - m.first)) :: m.tail

end Mapping

end Inlay.Text
