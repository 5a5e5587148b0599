import Inlay.Failure
import Inlay.Text.Quoted

/-! # Keywords

    The names that mark an invocation.  A set of keywords is never empty, has no repetition, and
    holds plain identifiers only. -/

namespace Inlay

/-- One keyword, or a list of them. -/
inductive KeywordOption where
  | one (name : String)
  | many (names : List String)
  deriving DecidableEq

namespace KeywordOption

def names : KeywordOption → List String
  | one n => [n]
  | many ns => ns

end KeywordOption

namespace Keyword

def usual : String := "precall"

/-- The letters of ASCII, `_` and `$`. -/
def isStart (c : Char) : Bool := c.isAlpha || c == '_' || c == '$'

def isPart (c : Char) : Bool := c.isAlphanum || c == '_' || c == '$'

def isValid (name : List Char) : Bool :=
  match name with
  | c :: cs => isStart c && cs.all isPart
  | [] => false

def distinct : List String → List String → List String
  | _, [] => []
  | seen, n :: ns => if seen.contains n then distinct seen ns else n :: distinct (n :: seen) ns

end Keyword

/-- The keywords of a run, in the order in which they were given. -/
structure Keywords where
  names : List String

namespace Keywords

def ofNames (names : List String) : Except Failure Keywords :=
  let names := Keyword.distinct [] names
  if names.isEmpty then .error (.config "at least one keyword must be configured")
  else match names.find? (fun n => !Keyword.isValid n.toList) with
    | some bad => .error (.config s!"keyword {Text.quoted bad} is not a valid identifier")
    | none => .ok ⟨names⟩

def contains (k : Keywords) (name : String) : Bool := k.names.contains name

/-- Whether a text starts with this keyword and an opening parenthesis or backtick. -/
def opensWith (text keyword : List Char) : Bool :=
  match keyword, text with
  | [], c :: _ => c == '(' || c == '`'
  | k :: ks, c :: cs => k == c && opensWith cs ks
  | _, [] => false

/-- Whether a text starts with an invocation of a keyword. -/
def isInvoked (k : Keywords) (text : String) : Bool :=
  k.names.any fun n => opensWith text.toList n.toList

def pattern (k : Keywords) : String :=
  let escaped (n : String) : String :=
    String.join (n.toList.map fun c => if c == '$' then "\\$" else c.toString)
  "^(?:" ++ "|".intercalate (k.names.map escaped) ++ ")[(`]"

end Keywords

/-- How a run is set up. -/
structure Options where
  value : KeywordOption := .one Keyword.usual
  /-- Whether module specifiers that start with an invocation are expanded. -/
  expandSpecifiers : Bool := true
  /-- The name given to fragments, if it is not that of the file. -/
  fileName : Option String := none
  deriving DecidableEq

def Options.override (o : Options) (values : List String) (noSpecifiers : Bool) : Options :=
  { o with
    value := if values.isEmpty then o.value else .many values
    expandSpecifiers := o.expandSpecifiers && !noSpecifiers }

end Inlay
