import Inlay.Engine.Syntax.Node

/-! # What scripts contain

    Rules that look at a whole function or script: where `super` may stand, which private names are
    known, where jumps lead, and that a default stands only in a pattern. -/

namespace Inlay.Engine.Syntax

/-! ## Forms -/

mutual

/-- Whether a form that passes a test occurs in a node.  Functions keep theirs to themselves, arrow
    functions only if `intoArrows` is off. -/
def contains (hit : Form → Bool) (intoArrows : Bool) : Node → Bool
  | .mk form parts =>
      let goesOn := match form with
        | .fn info => intoArrows && info.sort == .arrow
        | _ => true
      hit form || (goesOn && anyContains hit intoArrows parts)

def anyContains (hit : Form → Bool) (intoArrows : Bool) : List Node → Bool
  | [] => false
  | n :: ns => contains hit intoArrows n || anyContains hit intoArrows ns

end

def Form.isSuperCall : Form → Bool
  | .superCall => true
  | _ => false

def Form.isSuperMember : Form → Bool
  | .superMember _ | .superIndex => true
  | _ => false

def Form.isSuper (f : Form) : Bool := Form.isSuperCall f || Form.isSuperMember f

def Form.isNewTarget : Form → Bool
  | .newTarget => true
  | _ => false

def Form.isYield : Form → Bool
  | .yield | .yieldAll => true
  | _ => false

def Form.isAwait : Form → Bool
  | .await | .forOf true _ _ => true
  | _ => false

/-- Whether a form refers to `arguments`. -/
def Form.isArguments : Form → Bool
  | .ident x => x == .ofString "arguments"
  | _ => false

/-- Whether the parameters or the body of a function, of any sort, call `super`. -/
def callsSuper (f : Node) : Bool := anyContains Form.isSuperCall true f.parts

/-! ## Private names -/

def hiddenName? (element : Node) : Option Name :=
  match (element.part 0).form with
  | .hiddenName x => some x
  | _ => none

def hiddenNames (cls : Node) : List Name := (cls.part 2).parts.filterMap hiddenName?

mutual

/-- Whether every private name belongs to a class around it. -/
def namesValid (known : List Name) : Node → Bool
  | .mk form parts =>
      match form, parts with
      | .privateMember x, ps | .privateIn x, ps => known.contains x && allNamesValid known ps
      | .cls .., [parent, ctor, elements] =>
          let inner := hiddenNames (.mk form [parent, ctor, elements]) ++ known
          namesValid known parent && namesValid inner ctor && namesValid inner elements
      | _, ps => allNamesValid known ps

def allNamesValid (known : List Name) : List Node → Bool
  | [] => true
  | n :: ns => namesValid known n && allNamesValid known ns

end

/-- What a private name is used for. -/
inductive HiddenUse where
  | getter (isStatic : Bool)
  | setter (isStatic : Bool)
  | other
  deriving DecidableEq

def hiddenUse (element : Node) : HiddenUse :=
  match element.form with
  | .methodElement s .getter => .getter s
  | .methodElement s .setter => .setter s
  | _ => .other

/-- Whether two elements of a class may share a private name: a getter and its setter may. -/
def HiddenUse.agree : HiddenUse → HiddenUse → Bool
  | getter a, setter b | setter a, getter b => a == b
  | _, _ => false

def repeatsHidden (before : List Node) (element : Node) : Bool :=
  match hiddenName? element with
  | none => false
  | some x =>
      match before.filter (hiddenName? · == some x) with
      | [] => false
      | [e] => !(hiddenUse e).agree (hiddenUse element)
      | _ => true

/-! ## Labels -/

/-- What is wrong with a label or a jump. -/
inductive LabelFault where
  | repeated (label : Name)
  | noBreakTarget (label : Name)
  | noContinueTarget (label : Name)
  | strayBreak
  | strayContinue

def LabelFault.message : LabelFault → String
  | repeated x => s!"duplicate label: {x.text}"
  | noBreakTarget x => s!"undefined break target: {x.text}"
  | noContinueTarget x => s!"undefined continue target: {x.text}"
  | strayBreak => "illegal break statement"
  | strayContinue => "illegal continue statement"

/-- What surrounds a statement in its function. -/
structure Labels where
  all : List Name := []
  /-- Labels of loops. -/
  loops : List Name := []
  /-- Labels that stand directly in front of the statement. -/
  fresh : List Name := []
  inLoop : Bool := false
  inSwitch : Bool := false

def Form.isLoop : Form → Bool
  | .whileLoop | .doLoop | .forLoop _ | .forIn .. | .forOf .. => true
  | _ => false

mutual

/-- The first fault of the labels and jumps of a function; functions inside have their own. -/
def labelFault? (l : Labels) : Node → Option LabelFault
  | .mk form parts =>
      match form with
      | .fn _ => none
      | .labelled x =>
          if l.all.contains x then some (.repeated x)
          else labelFaultIn? { l with all := x :: l.all, fresh := x :: l.fresh } parts
      | .breakTo none => if l.inLoop || l.inSwitch then none else some .strayBreak
      | .breakTo (some x) => if l.all.contains x then none else some (.noBreakTarget x)
      | .continueTo none => if l.inLoop then none else some .strayContinue
      | .continueTo (some x) => if l.loops.contains x then none else some (.noContinueTarget x)
      | .switch _ => labelFaultIn? { l with fresh := [], inSwitch := true } parts
      | form =>
          if Form.isLoop form then
            labelFaultIn? { l with loops := l.fresh ++ l.loops, fresh := [], inLoop := true } parts
          else labelFaultIn? { l with fresh := [] } parts

def labelFaultIn? (l : Labels) : List Node → Option LabelFault
  | [] => none
  | n :: ns => labelFault? l n <|> labelFaultIn? l ns

end

/-! ## Defaults in object literals -/

mutual

/-- Whether an object literal holds a default, which only a pattern may. -/
def hasStrayDefault : Node → Bool
  | .mk form parts =>
      match form, parts with
      | .fn _, _ => false
      | .init, [_, .mk .withDefault _] => true
      | _, ps => anyStrayDefault ps

def anyStrayDefault : List Node → Bool
  | [] => false
  | n :: ns => hasStrayDefault n || anyStrayDefault ns

end

end Inlay.Engine.Syntax
