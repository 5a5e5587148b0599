import Inlay.Syntax.Grammar.Markup
import Inlay.Syntax.Grammar.Module

/-! # The grammar as a whole

    Ties the nonterminals together by one recursion on fuel and reads files. -/

namespace Inlay.Syntax

/-- The reader of a nonterminal, in terms of readers for the nonterminals inside it. -/
def P.ofGoal : Goal → P Ast
  | .expr => sequence
  | .assign => assignExpr
  | .unary => unaryExpr
  | .lhs => lhsExpr primary
  | .bindingPat => bindingPatOrIdent false
  | .statement includeDecl _ => do innerItem includeDecl (← read).size
  | .block directives => block directives
  | .functionRest start isAsync isGenerator ds => functionRest start isAsync isGenerator ds
  | .classRest start nameRequired ds => classRest start nameRequired ds
  | .object => objectLit
  | .objectPat => objectBindingPat
  | .template isTagged => template isTagged
  | .markup inTag => markup inTag
  | .type => type
  | .plainType => plainType
  | .typeArgs => typeArgs
  | .typeParams variance const => typeParams variance const
  | .returnType isArrow => returnType isArrow
  | .formalParams => formalParams
  | .callArgs isImport => callArgs isImport
  | .subscripts base noCall noComputed => subscripts base noCall noComputed

/-- The grammar with a bound on how deep nonterminals may nest. -/
def tie (size : Nat) : Nat → Goal → Ctx → State → EStateM.Result Fault State Ast
  | 0, _, _, s => .error ⟨.eof, s.span⟩ s
  | fuel + 1, g, ctx, s => P.ofGoal g { ctx, size, again := tie size fuel } s

/-- The outcome of reading a file: its tree if there is one, the faults in the order in which they
    are reported, and the comments that were attached. -/
structure Parsed where
  tree : Option Ast
  faults : List Fault
  comments : List Attached

/-- The comments count only once the whole text has been read. -/
def State.comments (s : State) : List Attached :=
  match s.token with
  | .eof => s.after.attached.reverse
  | _ => []

/-- Reads a file whose first character stands at position `base`. -/
def parse (dialect : Dialect) (source : String) (base : Nat) : Parsed :=
  let chars := source.toList
  let size := chars.length + 2
  let start : Cursor := { rest := chars, pos := base, lastEnd := base }
  let (shebang, start) := match start.shebang? with
    | some (text, c) => (some text, c)
    | none => (none, start)
  let ctx : Ctx := { dialect }
  let first := P.checkEscape ctx (start.next ctx.mode)
  let state : State :=
    { before := start, token := first.token, span := first.span, lineBreak := first.lineBreak
      after := first.after, faults := first.faults.reverse
      moduleFaults := first.moduleFaults.reverse, prev := ⟨base, base⟩ }
  let fuel := 100 * size
  match P.fileItems { ctx, size, again := tie size fuel } state with
  | .ok items s =>
      let isModule := s.foundModuleItem || items.any P.isModuleItem
      let faults := if isModule then s.moduleFaults ++ s.faults else s.faults
      let hi := s.prev.hi
      let lo := match items with
        | t :: _ => t.span.lo
        | [] => base
      let shape := if isModule then Shape.moduleRoot shebang else .scriptRoot shebang
      let lo := if shebang.isSome then base else lo
      { tree := some (.node shape ⟨lo, hi⟩ items), faults := faults.reverse
        comments := s.comments }
  | .error f s => { tree := none, faults := f :: s.faults.reverse, comments := s.comments }

end Inlay.Syntax
