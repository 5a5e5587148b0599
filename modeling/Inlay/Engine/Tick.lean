import Inlay.Engine.Step

/-! # One instruction after another -/

namespace Inlay.Engine

open Exec

namespace Step

/-! ## Groups of instructions -/

def access (i : Instr) : Exec Unit := do
  match i with
  | .getName x => push (← getName x)
  | .typeofName x => push (← typeofName x)
  | .setName x => setName x (← top)
  | .initName x => initName x (← pop)
  | .updateName x isIncrement isFirst =>
      let old ← toNumeric (← getName x)
      let new := stepped isIncrement old
      setName x new
      push (if isFirst then new else old.toValue)
  | .deleteName x => push (.bool (← deleteName x))
  | .getThis => push (← getThis)
  | .getNewTarget => push (← getNewTarget)
  | .getNamed x => push (← getMember (← pop) (.str x))
  | .getIndexed =>
      let k ← pop
      let o ← pop
      if o.isNullish then noObject
      push (← getMember o (← toKey k))
  | .getHidden x => push (← getHidden (← pop) x)
  | .getSuper =>
      push (← getSuper (← toKey (← pop)))
  | .keepNamed x => push (← getMember (← top) (.str x))
  | .keepIndexed =>
      let k ← pop
      let o ← top
      if o.isNullish then noObject
      let k ← toKey k
      push k.toValue
      push (← getMember o k)
  | .keepHidden x => push (← getHidden (← top) x)
  | .setNamed x =>
      let v ← pop
      let o ← pop
      setMember o (.str x) v (← frame).strict
      push v
  | .setIndexed =>
      let v ← pop
      let k ← pop
      let o ← pop
      if o.isNullish then noObject
      setMember o (← toKey k) v (← frame).strict
      push v
  | .setHidden x =>
      let v ← pop
      let o ← pop
      setHidden o x v
      push v
  | .setSuper =>
      let v ← pop
      let k ← toKey (← pop)
      putSuper k v
      push v
  | .putNamed x =>
      let o ← pop
      let v ← pop
      setMember o (.str x) v (← frame).strict
  | .putIndexed =>
      let k ← pop
      let o ← pop
      let v ← pop
      if o.isNullish then noObject
      setMember o (← toKey k) v (← frame).strict
  | .putHidden x =>
      let o ← pop
      let v ← pop
      setHidden o x v
  | .putSuper =>
      let k ← toKey (← pop)
      putSuper k (← pop)
  | .updateNamed x isIncrement isFirst => updateMember (← pop) (.str x) isIncrement isFirst
  | .updateIndexed isIncrement isFirst =>
      let k ← pop
      let o ← pop
      if o.isNullish then noObject
      updateMember o (← toKey k) isIncrement isFirst
  | .updateHidden x isIncrement isFirst =>
      let o ← pop
      let old ← toNumeric (← getHidden o x)
      let new := stepped isIncrement old
      setHidden o x new
      push (if isFirst then new else old.toValue)
  | .updateSuper isIncrement isFirst =>
      let k ← toKey (← pop)
      let old ← toNumeric (← getSuper k)
      let new := stepped isIncrement old
      putSuper k new
      push (if isFirst then new else old.toValue)
  | .deleteSuper => referenceError "cannot delete a property of `super`"
  | .deleteNamed x => deleteMember (← pop) (.str x)
  | .deleteIndexed =>
      let k ← pop
      let o ← pop
      if o.isNullish then noObject
      deleteMember o (← toKey k)
  | .hasHidden x =>
      let v ← pop
      if !v.isObject then
        typeError s!"right-hand side of 'in' should be an object, got `{← typeOf v}`"
      push (.bool (← hiddenMember? v (← hiddenId x)).isSome)
  | _ => return
where
  getSuper (k : Key) : Exec Value := do
    let this ← getThis
    match ← superBase with
    | .obj r => Object.getAs r k this
    | v => getMember v k
  putSuper (k : Key) (v : Value) : Exec Unit := do
    let this ← getThis
    match ← superBase with
    | .obj r =>
        let done ← Object.setAs r k v this
        if !done && (← frame).strict then
          typeError s!"cannot set non-writable property: {← keyText k}"
    | u => setMember u k v (← frame).strict

def literal (i : Instr) : Exec Unit := do
  match i with
  | .startList => pushSlot (.list #[])
  | .addItem => addItem (some (← pop))
  | .addHole => addItem none
  | .addSpread => addItems ((← iterableItems (← pop)).map some)
  | .makeArray =>
      let items ← popList
      push (.obj (← alloc {
        proto := some Intrinsic.arrayProto, kind := .array items items.size true }))
  | .joinTemplate texts => push (.str (joinTemplate texts (← popArguments)))
  | .templateObject site cooked raw => push (.obj (← templateObject site cooked raw))
  | .makeObject => push (.obj (← newObject))
  | .initProp =>
      let v ← pop
      let k ← popKey
      withObject fun r => Object.createDataOrThrow r k v
  | .initNamedProp x =>
      let v ← pop
      withObject fun r => Object.createDataOrThrow r (.str x) v
  | .initProto =>
      let v ← pop
      withObject fun r => match v with
        | .obj p => modifyObj r fun o => { o with proto := some p }
        | .null => modifyObj r fun o => { o with proto := none }
        | _ => return
  | .initSpread =>
      let v ← pop
      withObject fun r => copyProperties r v []
  | .initMethod sort n =>
      let k ← popKey
      withObject fun r => do
        let f ← makeMethod n r (← methodName sort k)
        defineMethod r sort k f true
  | .makeRegex p f => push (.obj (← newRegex p f))
  | .makeFunction n => push (.obj (← makeFunction n))
  | _ => return
where
  withObject (f : Ref → Exec Unit) : Exec Unit := do
    match ← top with
    | .obj r => f r
    | _ => return

def classInstr (i : Instr) : Exec Unit := do
  match i with
  | .startClass n name => startClass n name
  | .makeClass ctor name hasParent => makeClass ctor name hasParent
  | .classMethod isStatic sort n =>
      let k ← popKey
      let home := homeOf (← draft) isStatic
      let f ← makeMethod n home (← methodName sort k)
      defineMethod home sort k f false
  | .classHiddenMethod isStatic sort x n =>
      let id ← hiddenId x
      let home := homeOf (← draft) isStatic
      let f ← makeMethod n home (← methodName sort (.str (.ofString "#" ++ x)))
      let m : HiddenMethod := ⟨id, sort, f⟩
      modifyDraft fun d =>
        if isStatic then { d with staticHidden := d.staticHidden ++ [m] }
        else { d with hidden := d.hidden ++ [m] }
  | .classField isStatic n =>
      let k ← popKey
      let init ← initializerFor (← draft) isStatic n k
      addField isStatic ⟨.open_ k, init⟩
  | .classHiddenField isStatic x n =>
      let id ← hiddenId x
      let init ← initializerFor (← draft) isStatic n (.str (.ofString "#" ++ x))
      addField isStatic ⟨.hidden id, init⟩
  | .classBlock n =>
      let d ← draft
      let f ← makeMethod n d.ctor .empty
      modifyDraft fun d => { d with statics := d.statics ++ [.block f] }
  | .finishClass x => finishClass x
  | _ => return

def patternInstr (i : Instr) : Exec Unit := do
  match i with
  | .bind mode p => schedule (patternCode mode p)
  | .requireObject =>
      let v ← top
      if v.isNullish then destructuring v
      pushSlot (.keys [])
  | .patternKey =>
      let k ← popKey
      match ← popSlot with
      | .keys ks =>
          let v ← top
          pushSlot (.keys (k :: ks))
          push (← getMember v k)
      | _ => return
  | .patternRest =>
      match ← popSlot with
      | .keys ks =>
          let v ← top
          pushSlot (.keys ks)
          let r ← newObject
          copyProperties r v ks
          push (.obj r)
      | _ => return
  | .bindItems mode items =>
      let v ← pop
      if v.isNullish then destructuring v
      let id ← iterate v
      pushSlot (.iter id)
      schedule (arrayPatternCode mode items ++ [.pop, .closing id])
  | .iterStep =>
      match (← frame).stack.head? with
      | some (.iter id) => push ((← Iter.step id).getD .undefined)
      | _ => return
  | .iterRest =>
      match (← frame).stack.head? with
      | some (.iter id) => push (.obj (← newArray (← Iter.collect id)))
      | _ => return
  | .orDefault n name =>
      let v ← top
      if v.isUndefined then
        let _ ← pop
        match name with
        | some k => if isAnonymous n then schedule [.evalNamed n k] else schedule [.eval n]
        | none => schedule [.eval n]
  | _ => return

def statementInstr (i : Instr) : Exec Unit := do
  match i with
  | .complete =>
      let v ← pop
      modifyFrame fun f => { f with completion := v }
  | .clearCompletion => modifyFrame fun f => { f with completion := .undefined }
  | .leave s => setScope s
  | .enterBlock lexical functions => enterBlock lexical functions
  | .enterWith =>
      let r ← toObject (← pop)
      let s ← newScope { parent := some (← frame).scope, sort := .object r }
      setScope s
  | .whileTest t b labels =>
      let f ← frame
      schedule [.eval t, .branch
        [.eval b, .continueMark labels f.stack, .whileTest t b labels] []]
  | .doTest t b labels =>
      let f ← frame
      schedule [.eval t, .branch
        [.eval b, .continueMark labels f.stack, .doTest t b labels] []]
  | .forTest names t u b labels =>
      let f ← frame
      let body := [.eval b, .continueMark labels f.stack, .copyScope names]
        ++ optional u [.eval u, .pop] ++ [.forTest names t u b labels]
      if t.isAbsent then schedule body else schedule [.eval t, .branch body []]
  | .copyScope names => copyScope names
  | .startForIn sort names p b labels =>
      let v ← pop
      if !v.isNullish then
        let r ← toObject v
        let ks ← enumerableKeys 1000 r [] []
        schedule [.nextKey r ks.reverse sort names p b labels]
  | .nextKey r ks sort names p b labels =>
      match ks with
      | [] => return
      | k :: rest =>
          let again := Instr.nextKey r rest sort names p b labels
          if ← Object.has r k then round k.toValue sort names p b labels again
          else schedule [again]
  | .nextItem id sort names p b labels =>
      match ← Iter.step id with
      | some v => round v sort names p b labels (.nextItem id sort names p b labels)
      | none => return
  | .closing id => Iter.close id
  | .finallyMark b _ _ => schedule [.eval b]
  | .switchTest todo all =>
      match todo with
      | [] =>
          let _ ← pop
          let from_ := all.dropWhile fun c => !(c.part 0).isAbsent
          schedule (from_.flatMap fun c => (c.part 1).parts.map .eval)
      | c :: rest =>
          if (c.part 0).isAbsent then schedule [.switchTest rest all]
          else schedule [.eval (c.part 0), .switchMatch todo all]
  | .switchMatch todo all =>
      let v ← pop
      if v.strictEq (← top) then
        let _ ← pop
        schedule (todo.flatMap fun c => (c.part 1).parts.map .eval)
      else schedule [.switchTest (todo.drop 1) all]
  | _ => return

def endChain : List Instr → Option (List Slot × List Instr)
  | [] => none
  | .chainEnd stack :: rest => some (stack, rest)
  | _ :: rest => endChain rest

def callInstr (i : Instr) : Exec Unit := do
  match i with
  | .getMethod x =>
      let o ← top
      push (← getMember o (.str x))
  | .getMethodIndexed =>
      let k ← pop
      let o ← top
      if o.isNullish then noObject
      push (← getMember o (← toKey k))
  | .getMethodHidden x => push (← getHidden (← top) x)
  | .getMethodSuper =>
      let k ← toKey (← pop)
      let this ← getThis
      let f ← match ← superBase with
        | .obj r => Object.getAs r k this
        | v => getMember v k
      push this
      push f
  | .call =>
      let args ← popArguments
      let f ← pop
      let this ← pop
      callValue f this args
  | .callEval =>
      let args ← popArguments
      let f ← pop
      let this ← pop
      match f, (args[0]? : Option Value) with
      | .obj r, some (.str s) =>
          if r == Intrinsic.evaluate then
            let fr ← frame
            push (← (← read).evaluate s (some fr.scope) fr.strict)
          else callValue f this args
      | _, _ => callValue f this args
  | .construct =>
      let args ← popArguments
      constructValue (← pop) args
  | .superCall => superCall (← popArguments)
  | .checkLink =>
      let v ← top
      if v.isNullish then
        match endChain (← frame).code with
        | some (stack, rest) =>
            modifyFrame fun f => { f with stack := .val .undefined :: stack, code := rest }
        | none => return
  | .importModule =>
      let v ← pop
      let p ← Promise.new
      try
        let _ ← toText v
        Promise.reject p (.obj (← newError .type "could not find module"))
      catch
        | .throw e => Promise.reject p e
        | a => throw a
      push (.obj p)
  | _ => return

def carryOut (i : Instr) : Exec Signal := do
  match i with
  | .eval n =>
      schedule (expand (← frame) n)
      return .next
  | .evalNamed n k =>
      let name ← keyName k
      match n.form with
      | .fn _ => push (.obj (← makeFunction n (some name)))
      | .cls _ _ => startClass n name
      | _ => schedule [.eval n]
      return .next
  | .evalKeyed n =>
      match (← frame).stack.head? with
      | some (.key k) => schedule [.evalNamed n k]
      | _ => schedule [.eval n]
      return .next
  | .evalLabelled n labels =>
      schedule (labelledCode (← frame) n labels)
      return .next
  | .push v =>
      push v
      return .next
  | .pop =>
      let _ ← popSlot
      return .next
  | .dup =>
      push (← top)
      return .next
  | .nip =>
      let v ← popSlot
      let _ ← popSlot
      pushSlot v
      return .next
  | .unary op =>
      push (← unary op (← pop))
      return .next
  | .binary op =>
      let b ← pop
      let a ← pop
      push (← binary op a b)
      return .next
  | .toKey =>
      let k ← toKey (← pop)
      pushSlot (.key k)
      return .next
  | .toText =>
      push (.str (← toText (← pop)))
      return .next
  | .branch yes no =>
      schedule (if (← pop).truthy then yes else no)
      return .next
  | .decide op kept dropped =>
      let v ← top
      let keeps := match op with
        | .and => !v.truthy
        | .or => v.truthy
        | .nullish => !v.isNullish
      if keeps then schedule kept
      else
        let _ ← pop
        schedule dropped
      return .next
  | .resume (.thrown v) => raise v
  | .resume c | .jump c => leaveWith c
  | .doReturn =>
      let v ← pop
      leaveWith (.returned v)
  | .doThrow => raise (← pop)
  | .startGenerator => startGenerator
  | .yield => yieldValue (← pop)
  | .startDelegate =>
      let id ← iterate (← pop)
      push .undefined
      schedule [.delegate id]
      return .next
  | .delegate id => delegate id (.normal (← pop))
  | .await => awaitValue (← pop)
  | .startForOf isAwait sort names p b labels =>
      let v ← pop
      if isAwait then startAwaitLoop v
      else
        let id ← iterate v
        schedule [.nextItem id sort names p b labels, .closing id]
        return .next
  | .breakMark _ _ _ | .continueMark _ _ | .catchMark _ _ _ | .chainEnd _ => return .next
  | .startList | .addItem | .addHole | .addSpread | .makeArray | .joinTemplate _
  | .templateObject _ _ _ | .makeObject | .initProp | .initNamedProp _ | .initProto | .initSpread
  | .initMethod _ _ | .makeRegex _ _ | .makeFunction _ =>
      literal i
      return .next
  | .startClass _ _ | .makeClass _ _ _ | .classMethod _ _ _ | .classHiddenMethod _ _ _ _
  | .classField _ _ | .classHiddenField _ _ _ | .classBlock _ | .finishClass _ =>
      classInstr i
      return .next
  | .bind _ _ | .requireObject | .patternKey | .patternRest | .bindItems _ _ | .iterStep | .iterRest
  | .orDefault _ _ =>
      patternInstr i
      return .next
  | .complete | .clearCompletion | .leave _ | .enterBlock _ _ | .enterWith | .whileTest _ _ _
  | .doTest _ _ _ | .forTest _ _ _ _ _ | .copyScope _ | .startForIn _ _ _ _ _
  | .nextKey _ _ _ _ _ _ _ | .nextItem _ _ _ _ _ _ | .closing _ | .finallyMark _ _ _
  | .switchTest _ _ | .switchMatch _ _ =>
      statementInstr i
      return .next
  | .getMethod _ | .getMethodIndexed | .getMethodHidden _ | .getMethodSuper | .call | .callEval
  | .construct | .superCall | .checkLink | .importModule =>
      callInstr i
      return .next
  | i =>
      access i
      return .next

/-! ## The loop -/

/-- What a script or function yields when no instruction is left. -/
def finalValue (f : Frame) : Value :=
  match f.sort with
  | .script => f.completion
  | _ => .undefined

def stepOnce : Exec Signal := do
  let f ← frame
  match f.code with
  | [] => finish (finalValue f)
  | i :: rest =>
      setCode rest
      carryOut i

/-- Finds out what becomes of a thrown value, activation by activation. -/
def handle (v : Value) : Nat → Exec Signal
  | 0 => raise v
  | n + 1 => do
      if ← unwind (.thrown v) (← frame).code then return .next
      let f ← frame
      match f.sort with
      | .async p =>
          popFrame
          Promise.reject p v
          deliver f.isEntry (.obj p)
      | .generator g =>
          setKind g (.generator .finished)
          popFrame
          raise v
      | .asyncGenerator g =>
          setKind g (.asyncGenerator .finished)
          popFrame
          raise v
      | _ =>
          popFrame
          if f.isEntry then raise v else handle v n

/-- Carries out one instruction, or finds out what becomes of what it throws. -/
def tick : Exec Signal :=
  tryCatch stepOnce fun a =>
    match a with
    | .throw v => do handle v ((← get).depth + 1)
    | a => throw a

/-- Repeats steps until the activation that was started ends. -/
def loop : Nat → Exec Value
  | 0 => halt "exceeded maximum number of steps"
  | n + 1 => do
      match ← tick with
      | .next => loop n
      | .done v => return v

end Step

end Inlay.Engine
