import Inlay.Proofs.Engine.Object

/-! # What a function says of itself

    Turning a function into text looks up members of it: `Symbol.toPrimitive`, then `toString`,
    then, in the built-in `toString` of functions, `name`.  Each may stand on the function or on one
    of its prototypes.

    * `Machine.member?`: what looking up a member finds, as long as no script can run on the way;
    * `Settles`: programs that call nothing but built-in functions, at whatever level;
    * `settles_toText`: the text of a function whose `toString` is the built-in one;
    * `text_nativeText`: that text as characters, for every name. -/

namespace Inlay.Engine

open Exec

/-! ## Members along the prototypes -/

/-- What looking up a key finds within `n` objects; nothing is said if a script could run. -/
def Machine.find? (m : Machine) (k : Key) : Nat → Ref → Option Value
  | 0, _ => some .undefined
  | n + 1, r =>
      if (m.heap[r]!).kind.isListed then
        match ((m.heap[r]!).listed? k).map Property.content with
        | some (.data v _) => some v
        | some (.accessor none _) => some .undefined
        | some (.accessor (some _) _) => none
        | none =>
            match (m.heap[r]!).proto with
            | some p => m.find? k n p
            | none => some .undefined
      else none

/-- What reading a member of an object finds. -/
def Machine.member? (m : Machine) (r : Ref) (k : Key) : Option Value :=
  m.find? k Object.protoDepth r

namespace Looks

variable {m : Machine} {r : Ref} {k : Key} {v : Value}

theorem isElementKey (h : (m.heap[r]!).kind.isListed) :
    Looks (Object.isElementKey r k) m false := by
  refine bind (a := (m.heap[r]!).kind) (obj.bind (pure _)) ?_
  cases hk : (m.heap[r]!).kind <;> first | exact pure _ | (rw [hk] at h; contradiction)

/-- The lookup goes from object to object as the machine does. -/
theorem getFrom {n : Nat} (receiver : Value) (h : m.find? k n r = some v) :
    Looks (Object.getFrom k receiver n r) m v := by
  induction n generalizing r with
  | zero =>
      rw [Machine.find?, Option.some.injEq] at h
      exact h ▸ pure _
  | succ n ih =>
      rw [Machine.find?] at h
      split at h
      case isFalse => contradiction
      case isTrue hlisted =>
        refine (isProxy hlisted).bind ?_
        simp only [Bool.false_eq_true, if_false]
        refine (ownProperty hlisted).bind ?_
        -- the object has the property itself, or it is looked for in the prototype
        cases hp : (m.heap[r]!).listed? k with
        | some p =>
            rw [hp] at h
            cases hcontent : p.content with
            | data w b =>
                simp only [Option.map_some, hcontent, Option.some.injEq] at h ⊢
                exact h ▸ pure _
            | accessor g s =>
                cases g with
                | some g => simp [hcontent] at h
                | none =>
                    simp only [Option.map_some, hcontent, Option.some.injEq] at h ⊢
                    exact h ▸ pure _
        | none =>
            rw [hp] at h
            refine (isElementKey hlisted).bind ?_
            simp only [Bool.false_eq_true, if_false]
            refine obj.bind ?_
            cases hproto : (m.heap[r]!).proto with
            | some p =>
                simp only [Option.map_none, hproto] at h ⊢
                exact ih h
            | none =>
                simp only [Option.map_none, hproto, Option.some.injEq] at h ⊢
                exact h ▸ pure _

theorem member (h : m.member? r k = some v) : Looks (Object.get r k) m v := getFrom _ h

end Looks

/-! ## Programs that call built-in functions -/

/-- At every level that has one below it, the program gives this value and leaves the machine as it
    is. -/
def Settles {α : Type} (p : Exec α) (m : Machine) (v : α) : Prop :=
  ∀ below, p (Run.level below) m = .ok v m

theorem Looks.settles {α : Type} {p : Exec α} {m : Machine} {v : α} (h : Looks p m v) :
    Settles p m v := fun below => h (Run.level below)

namespace Settles

variable {α β : Type} {m : Machine}

theorem bind {p : Exec α} {f : α → Exec β} {a : α} {b : β} (hp : Settles p m a)
    (hf : Settles (f a) m b) : Settles (p >>= f) m b := by
  intro below
  rw [bind_of_ok (hp below)]
  exact hf below

theorem outside {p : Exec α} {a : α} (h : Settles p m a) : Run.outside p m = (.ok a, m) := by
  have hrun : (p.run (Run.levels Run.maxLevels)).run m = .ok a m := h (Run.levels 1499)
  rw [Run.outside, hrun]

theorem call_native {g : Ref} {f : Native} {isCtor : Bool} {data : List Value} {this v : Value}
    {args : Array Value} (hkind : (m.heap[g]!).kind = .native f isCtor data)
    (hrun : Looks (f.run g { this, args, data }) m v) :
    Settles (Object.call (.obj g) this args) m v := by
  intro below
  show Run.call (.obj g) this args below m = .ok v m
  have hlook : Looks (kind g) m (.native f isCtor data) := by
    rw [← hkind]
    exact Looks.obj.bind (Looks.pure _)
  rw [Run.call, bind_of_ok (hlook below)]
  exact hrun below

end Settles

/-! ## Texts side by side -/

namespace Units

/-- No pair of surrogates lies across the border of two texts. -/
def Apart (a b : List UInt16) : Prop :=
  ∀ x ∈ a.getLast?, ∀ y ∈ b.head?, (isHigh x && isLow y) = false

theorem go_append {a b : List UInt16} (h : Apart a b) :
    codePoints.go (a ++ b) = codePoints.go a ++ codePoints.go b := by
  induction a using codePoints.go.induct with
  | case1 x y rest hpair ih =>
      have hrest : Apart rest b := fun z hz => h z (by
        rw [List.getLast?_cons, List.getLast?_cons, Option.mem_def.mp hz]
        rfl)
      simp only [List.cons_append, codePoints.go, hpair, if_true, ih hrest]
  | case2 x y rest hpair ih =>
      have hrest : Apart (y :: rest) b := fun z hz => h z (by
        rw [List.getLast?_cons_cons]
        exact hz)
      rw [List.cons_append, List.cons_append, codePoints.go, if_neg hpair,
        ← List.cons_append, ih hrest, codePoints.go, if_neg hpair, List.cons_append]
  | case3 x =>
      cases b with
      | nil => rfl
      | cons y b =>
          have hpair : ¬ (isHigh x && isLow y) = true := by
            rw [h x rfl y rfl]
            exact Bool.false_ne_true
          rw [List.cons_append, List.nil_append, codePoints.go, if_neg hpair]
          rfl
  | case4 => rfl

/-- The characters written for a code point. -/
def written (n : Nat) : String :=
  if isSurrogate n then "\\u" ++ (hex4 n).toUpper else String.singleton (Char.ofNat n)

theorem text_eq (s : Units) : s.text = String.join (s.codePoints.map written) := by
  have hfold : ∀ (ns : List Nat) (out : String),
      ns.foldl (fun out n =>
          if isSurrogate n then out ++ "\\u" ++ (hex4 n).toUpper else out.push (Char.ofNat n)) out
        = out ++ String.join (ns.map written) := by
    intro ns
    induction ns with
    | nil => simp
    | cons n ns ih =>
        intro out
        rw [List.foldl_cons, ih, List.map_cons, String.join_cons, ← String.append_assoc]
        congr 1
        unfold written
        split
        · rw [String.append_assoc]
        · rw [String.append_singleton]
  rw [text, hfold, String.empty_append]

theorem text_append {a b : Units} (h : Apart a.data.toList b.data.toList) :
    (a ++ b).text = a.text ++ b.text := by
  have hpoints : (a ++ b).codePoints = a.codePoints ++ b.codePoints := by
    show codePoints.go (a.data ++ b.data).toList = _
    rw [Array.toList_append, go_append h]
    rfl
  rw [text_eq, text_eq, text_eq, hpoints, List.map_append, String.join_append]

/-- The characters below the surrogates; each is one unit. -/
def isPlain (c : Char) : Bool := c.toNat < 0xd800

theorem toList_pushChars {cs : List Char} (h : cs.all isPlain) (out : Array UInt16) :
    (cs.foldl pushChar out).toList = out.toList ++ cs.map (·.toNat.toUInt16) := by
  induction cs generalizing out with
  | nil => simp
  | cons c cs ih =>
      obtain ⟨hc, hcs⟩ := Bool.and_eq_true_iff.mp h
      have hpush : pushChar out c = out.push c.toNat.toUInt16 :=
        if_pos (Nat.lt_trans (of_decide_eq_true hc) (by decide))
      rw [List.foldl_cons, hpush, ih hcs]
      simp

theorem go_plain {cs : List Char} (h : cs.all isPlain) :
    codePoints.go (cs.map (·.toNat.toUInt16)) = cs.map Char.toNat := by
  induction cs with
  | nil => rfl
  | cons c cs ih =>
      obtain ⟨hc, hcs⟩ := Bool.and_eq_true_iff.mp h
      have hlt : c.toNat < 0xd800 := of_decide_eq_true hc
      have hunit : c.toNat.toUInt16.toNat = c.toNat := by
        rw [Nat.toUInt16, UInt16.toNat_ofNat']
        omega
      have hhigh : isHigh c.toNat.toUInt16 = false := by
        rw [isHigh, Bool.and_eq_false_iff]
        left
        rw [decide_eq_false_iff_not, UInt16.le_iff_toNat_le, hunit]
        exact Nat.not_le.mpr hlt
      cases cs with
      | nil => simp [codePoints.go, hunit]
      | cons d cs =>
          rw [List.map_cons, List.map_cons, codePoints.go, hhigh]
          simpa [hunit] using ih hcs

theorem join_written {cs : List Char} (h : cs.all isPlain) :
    String.join ((cs.map Char.toNat).map written) = String.ofList cs := by
  induction cs with
  | nil => simp
  | cons c cs ih =>
      obtain ⟨hc, hcs⟩ := Bool.and_eq_true_iff.mp h
      have hlt : c.toNat < 0xd800 := of_decide_eq_true hc
      have hplain : isSurrogate c.toNat = false := by
        simp only [isSurrogate, Bool.and_eq_false_iff, decide_eq_false_iff_not]
        omega
      rw [List.map_cons, List.map_cons, String.join_cons, ih hcs, written, hplain]
      simp

/-- Such characters are the text of their units. -/
theorem text_ofChars {cs : List Char} (h : cs.all isPlain) :
    (ofChars cs).text = String.ofList cs := by
  have hdata : (ofChars cs).data.toList = cs.map (·.toNat.toUInt16) := toList_pushChars h #[]
  rw [text_eq, codePoints, hdata, go_plain h, join_written h]

end Units

/-! ## The text of a function -/

/-- The text that the built-in `toString` gives of a function with this name. -/
def nativeText (name : Units) : Units :=
  .ofString "function " ++ name ++ .ofString "() \x7b [native code] \x7d"

theorem text_nativeText (name : Units) :
    (nativeText name).text = "function " ++ name.text ++ "() \x7b [native code] \x7d" := by
  have hfront : Units.Apart (Units.ofString "function ").data.toList name.data.toList := by
    intro x hx y _
    obtain rfl : x = 32 := by
      have hlast : (Units.ofString "function ").data.toList.getLast? = some 32 := by decide +kernel
      exact (Option.some.inj (hlast.symm.trans hx)).symm
    rfl
  have hback : Units.Apart (Units.ofString "function " ++ name).data.toList
      (Units.ofString "() \x7b [native code] \x7d").data.toList := by
    intro x _ y hy
    obtain rfl : y = 40 := by
      have hfirst : (Units.ofString "() \x7b [native code] \x7d").data.toList.head? = some 40 := by
        decide +kernel
      exact (Option.some.inj (hfirst.symm.trans hy)).symm
    rw [show Units.isLow 40 = false from rfl, Bool.and_false]
  have hhead : (Units.ofString "function ").text = "function " := by decide +kernel
  have htail : (Units.ofString "() \x7b [native code] \x7d").text
      = "() \x7b [native code] \x7d" := by
    decide +kernel
  rw [nativeText, Units.text_append hback, Units.text_append hfront, hhead, htail]

/-- In this machine, turning the function into text comes to the built-in `toString` of functions,
    which finds this name. -/
structure SpeaksNatively (m : Machine) (f : Ref) (name : Units) : Prop where
  toPrimitive : m.member? f (.sym WellKnown.toPrimitive) = some .undefined
  toText : ∃ g isCtor data, m.member? f (Key.text "toString") = some (.obj g) ∧
    (m.heap[g]!).kind = .native (.function .toText) isCtor data
  named : m.member? f (Key.text "name") = some (.str name)

section Text

variable {m : Machine} {f : Ref} {name : Units}

theorem looks_textOf (hf : (m.heap[f]!).isCallable)
    (hname : m.member? f (Key.text "name") = some (.str name)) :
    Looks (Builtins.Functions.textOf (.obj f)) m (.str (nativeText name)) := by
  have hcallable : Looks (Object.isCallable (.obj f)) m true := hf ▸ Looks.isCallable
  refine hcallable.bind ?_
  simp only [Bool.not_true, Bool.false_eq_true, if_false]
  exact (Looks.member hname).bind (Looks.pure _)

/-- The text of a function that speaks natively, whatever else was done to it. -/
theorem settles_toText (hf : (m.heap[f]!).isCallable) (h : SpeaksNatively m f name) :
    Settles (toText (.obj f)) m (nativeText name) := by
  obtain ⟨g, isCtor, data, hg, hkind⟩ := h.toText
  have hmethod : Looks (getMethod (.obj f) (.sym WellKnown.toPrimitive)) m none :=
    (Looks.member h.toPrimitive).bind (Looks.pure _)
  have hcallable : Looks (Object.isCallable (.obj g)) m true := by
    have hg : (m.heap[g]!).isCallable = true := by
      rw [Obj.isCallable, hkind]
    exact hg ▸ Looks.isCallable
  have hcall : Settles (Object.call (.obj g) (.obj f)) m (.str (nativeText name)) :=
    Settles.call_native hkind (looks_textOf hf h.named)
  have htry : Settles (tryMethods f ["toString", "valueOf"]) m (.str (nativeText name)) := by
    refine (Looks.member hg).settles.bind (hcallable.settles.bind ?_)
    exact hcall.bind (Looks.pure _).settles
  have hprimitive : Settles (toPrimitive (.obj f) .string) m (.str (nativeText name)) :=
    hmethod.settles.bind htry
  exact hprimitive.bind (Looks.pure _).settles

end Text

end Inlay.Engine
