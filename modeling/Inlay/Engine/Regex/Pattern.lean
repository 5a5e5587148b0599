import Inlay.Engine.Units
import Inlay.Text.Case

/-! # Patterns of regular expressions

    What a pattern matches is in the pattern itself: flags that change within a pattern are kept
    with the parts they hold for.  Groups are numbered in the order of their opening parentheses,
    from one. -/

namespace Inlay.Engine.Regex

open Inlay.Text

structure Flags where
  hasIndices : Bool := false
  global : Bool := false
  ignoreCase : Bool := false
  multiline : Bool := false
  dotAll : Bool := false
  unicode : Bool := false
  unicodeSets : Bool := false
  sticky : Bool := false
  deriving Inhabited

namespace Flags

/-- Whether texts are taken by code points. -/
def isUnicode (f : Flags) : Bool := f.unicode || f.unicodeSets

/-- Reads flags; each may stand once. -/
def read (s : List Char) : Except String Flags :=
  s.foldlM (fun f c =>
    let once (old : Bool) (new : Flags) : Except String Flags :=
      if old then .error s!"repeated regular expression flag {c}" else .ok new
    match c with
    | 'd' => once f.hasIndices { f with hasIndices := true }
    | 'g' => once f.global { f with global := true }
    | 'i' => once f.ignoreCase { f with ignoreCase := true }
    | 'm' => once f.multiline { f with multiline := true }
    | 's' => once f.dotAll { f with dotAll := true }
    | 'u' => once f.isUnicode { f with unicode := true }
    | 'v' => once f.isUnicode { f with unicodeSets := true }
    | 'y' => once f.sticky { f with sticky := true }
    | c => .error s!"invalid regular expression flag {c}") {}

def text (f : Flags) : String :=
  String.ofList ([('d', f.hasIndices), ('g', f.global), ('i', f.ignoreCase), ('m', f.multiline),
    ('s', f.dotAll), ('u', f.unicode), ('v', f.unicodeSets), ('y', f.sticky)].filterMap
    fun (c, b) => if b then some c else none)

end Flags

/-- Which characters are taken for the same. -/
inductive Folding where
  | exact
  /-- Those with the same upper case. -/
  | upper
  /-- Those that differ in case only. -/
  | full
  deriving DecidableEq, Inhabited

namespace Folding

/-- The character that stands for all that are taken for the same. -/
def apply : Folding → Nat → Nat
  | exact, c => c
  | upper, c => simpleUpper c
  | full, c => foldedCase c

def agrees (f : Folding) (c d : Nat) : Bool := c == d || (f != exact && f.apply c == f.apply d)

end Folding

def Flags.folding (f : Flags) : Folding :=
  if !f.ignoreCase then .exact else if f.isUnicode then .full else .upper

inductive Pattern where
  | empty
  | char (c : Nat) (folding : Folding)
  /-- Any character; the end of a line only where it may be. -/
  | any (takesBreaks : Bool)
  | oneOf (set : Ranges) (isNegated : Bool) (ignoresCase : Bool)
  | seq (a b : Pattern)
  | alt (a b : Pattern)
  | group (index : Nat) (p : Pattern)
  /-- The text of a group again. -/
  | back (group : Nat) (folding : Folding)
  | lineStart (isMultiline : Bool)
  | lineEnd (isMultiline : Bool)
  | boundary (isNegated : Bool)
  | look (isAhead isNegated : Bool) (first last : Nat) (p : Pattern)
  /-- `p` repeated; groups `first … last` are inside. -/
  | rep (least : Nat) (most : Option Nat) (isGreedy : Bool) (first last : Nat) (p : Pattern)
  deriving Inhabited

/-- A regular expression that has been read. -/
structure Expression where
  pattern : Pattern
  flags : Flags
  /-- How many groups there are. -/
  groups : Nat
  /-- The names of groups with their numbers, in order of their numbers. -/
  names : List (Units × Nat)
  deriving Inhabited

end Inlay.Engine.Regex
