import Mathlib
import Inlay.Engine.Object.Access
import Inlay.Engine.Run

/-! # Objects of the machine

    What reading a property comes to for objects whose properties all stand in the general list. -/

namespace Inlay.Engine

open Exec

/-! ## Programs that only look -/

def Kind.isListed : Kind → Bool
  | .array .. | .str _ | .arguments .. | .typed .. | .proxy .. => false
  | _ => true

/-- The value of a data property of an object with all its properties in the general list. -/
def Obj.data? (o : Obj) (k : Key) : Option Value :=
  if o.kind.isListed then
    match (o.listed? k).map Property.content with
    | some (.data v _) => some v
    | _ => none
  else none

theorem bind_of_ok {α β : Type} {p : Exec α} {f : α → Exec β} {again : Again} {m m' : Machine}
    {a : α} (h : p again m = .ok a m') : (p >>= f) again m = f a again m' := by
  show EStateM.bind (p again) (fun a => f a again) m = _
  rw [EStateM.bind, h]

/-- At every level, the program gives this value and leaves the machine as it is. -/
def Looks {α : Type} (p : Exec α) (m : Machine) (v : α) : Prop := ∀ again, p again m = .ok v m

namespace Looks

variable {α β : Type} {m : Machine} {r : Ref} {k : Key} {v : Value}

theorem pure (a : α) : Looks (Pure.pure a) m a := fun _ => rfl

theorem bind {p : Exec α} {f : α → Exec β} {a : α} {b : β} (hp : Looks p m a)
    (hf : Looks (f a) m b) : Looks (p >>= f) m b := by
  intro again
  rw [bind_of_ok (hp again)]
  exact hf again

theorem outside {p : Exec α} {a : α} (h : Looks p m a) : Run.outside p m = (.ok a, m) := by
  have hrun : (p.run (Run.levels Run.maxLevels)).run m = .ok a m := h _
  rw [Run.outside, hrun]

theorem obj : Looks (Exec.obj r) m m.heap[r]! := fun _ => rfl

theorem isCallable : Looks (Object.isCallable (.obj r)) m (m.heap[r]!).isCallable :=
  obj.bind (pure _)

theorem isProxy (h : (m.heap[r]!).kind.isListed) : Looks (Object.isProxy r) m false := by
  refine bind (a := (m.heap[r]!).kind) (obj.bind (pure _)) ?_
  cases hk : (m.heap[r]!).kind <;> first | exact pure _ | (rw [hk] at h; contradiction)

theorem ownProperty (h : (m.heap[r]!).kind.isListed) :
    Looks (Object.ownProperty r k) m ((m.heap[r]!).listed? k) := by
  refine obj.bind ?_
  cases hk : (m.heap[r]!).kind <;> first | exact pure _ | (rw [hk] at h; contradiction)

/-- Reading a member finds an own data property. -/
theorem get (h : (m.heap[r]!).data? k = some v) : Looks (Object.get r k) m v := by
  unfold Obj.data? at h
  split at h
  case isFalse => contradiction
  case isTrue hlisted =>
    cases hp : (m.heap[r]!).listed? k with
    | none => simp [hp] at h
    | some p =>
        refine (isProxy hlisted).bind ?_
        simp only [Bool.false_eq_true, if_false]
        refine (ownProperty hlisted).bind ?_
        rw [hp] at h ⊢
        cases hcontent : p.content with
        | accessor g s => simp [hcontent] at h
        | data w b =>
            simp only [Option.map_some, hcontent, Option.some.injEq] at h ⊢
            exact h ▸ pure _

end Looks

end Inlay.Engine
