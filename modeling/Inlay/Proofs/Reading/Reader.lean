import Inlay.Proofs.Reading.Quoted
import Inlay.Syntax.Grammar

/-! # Readers keep to the text

    A reader starts at a place in a text and returns trees.  It *keeps to* the text if every string
    in what it returns is spelled there, provided this holds of what it was given: of its arguments,
    of the current token, of the places it may go back to, and of the readers for the other
    nonterminals.

    * `Spelled src a`: every string that `a` holds is `Quoted` in `src`.  This is defined for
      values, for places, for readers, and for functions between them;
    * `Faithful a`: `a` brings in no string of its own, so it is spelled in every text;
    * `Faithful.of_steps`: the argument that all readers share.  A reader is faithful if each of its
      steps is; what follows a branch is looked at once. -/

namespace Inlay.Syntax

/-- Values that may hold strings of a text. -/
class Spells (α : Type) where
  spelled : List Char → α → Prop

/-- Every string in the value is spelled in the text. -/
def Spelled {α : Type} [Spells α] (src : List Char) (a : α) : Prop := Spells.spelled src a

/-- A value with no strings of its own. -/
class Faithful {α : Type} [Spells α] (a : α) : Prop where
  spelled (src : List Char) : Spelled src a

/-- A type that holds no strings of the text. -/
class Plain (α : Type) [Spells α] : Prop where
  spelled (src : List Char) (a : α) : Spelled src a

variable {src : List Char} {α β γ δ ε ζ η : Type}
variable [Spells α] [Spells β] [Spells γ] [Spells δ] [Spells ε] [Spells ζ] [Spells η]

/-- A value of a type without strings is spelled in every text. -/
@[grind ←] theorem spelled_of_plain [Plain α] (a : α) : Spelled src a := Plain.spelled src a

/-- A value without strings brings none in. -/
instance [Plain α] (a : α) : Faithful a := ⟨fun _ => spelled_of_plain a⟩

/-! ## Functions -/

/-- A function keeps to the text if it does so wherever its argument does. -/
instance : Spells (α → β) := ⟨fun src f => ∀ a, Spelled src a → Spelled src (f a)⟩

instance [Plain β] : Plain (α → β) := ⟨fun _ _ _ _ => spelled_of_plain _⟩

namespace Spelled

/-- A function keeps to the text if its results do. -/
theorem lam {f : α → β} (h : ∀ a, Spelled src a → Spelled src (f a)) : Spelled src f := h

variable {a : α} {b : β} {c : γ} {d : δ} {e : ε} {z : ζ}

/-- A function that keeps to the text, applied to a value that does. -/
theorem app {f : α → β} (hf : Spelled src f) (ha : Spelled src a) : Spelled src (f a) := hf a ha

/-- A faithful function of one argument; the next ones are about two to six arguments. -/
theorem app₁ {f : α → β} [Faithful f] (ha : Spelled src a) : Spelled src (f a) :=
  app (Faithful.spelled src) ha

theorem app₂ {f : α → β → γ} [Faithful f] (ha : Spelled src a) (hb : Spelled src b) :
    Spelled src (f a b) := app₁ (f := f) ha b hb

theorem app₃ {f : α → β → γ → δ} [Faithful f] (ha : Spelled src a) (hb : Spelled src b)
    (hc : Spelled src c) : Spelled src (f a b c) := app₂ (f := f) ha hb c hc

theorem app₄ {f : α → β → γ → δ → ε} [Faithful f] (ha : Spelled src a) (hb : Spelled src b)
    (hc : Spelled src c) (hd : Spelled src d) : Spelled src (f a b c d) :=
  app₃ (f := f) ha hb hc d hd

theorem app₅ {f : α → β → γ → δ → ε → ζ} [Faithful f] (ha : Spelled src a) (hb : Spelled src b)
    (hc : Spelled src c) (hd : Spelled src d) (he : Spelled src e) : Spelled src (f a b c d e) :=
  app₄ (f := f) ha hb hc hd e he

theorem app₆ {f : α → β → γ → δ → ε → ζ → η} [Faithful f] (ha : Spelled src a)
    (hb : Spelled src b) (hc : Spelled src c) (hd : Spelled src d) (he : Spelled src e)
    (hz : Spelled src z) : Spelled src (f a b c d e z) := app₅ (f := f) ha hb hc hd he z hz

/-- Of a branch both sides are looked at, whatever its condition. -/
protected theorem ite {p : Prop} [Decidable p] {a b : α} (ha : Spelled src a) (hb : Spelled src b) :
    Spelled src (if p then a else b) := by
  split
  · exact ha
  · exact hb

end Spelled

/-! ## Values

    Numbers, flags, spans and faults hold no strings of the text; a list, an option, a pair or a sum
    holds what its parts hold. -/

instance : Spells Unit := ⟨fun _ _ => True⟩
instance : Spells Bool := ⟨fun _ _ => True⟩
instance : Spells Nat := ⟨fun _ _ => True⟩
instance : Spells String := ⟨fun _ _ => True⟩
instance : Spells Span := ⟨fun _ _ => True⟩
instance : Spells Fault := ⟨fun _ _ => True⟩
instance : Spells Problem := ⟨fun _ _ => True⟩
instance : Spells Punct := ⟨fun _ _ => True⟩
instance : Spells LexMode := ⟨fun _ _ => True⟩
instance : Spells Ctx := ⟨fun _ _ => True⟩
instance : Plain Unit := ⟨fun _ _ => trivial⟩
instance : Plain Bool := ⟨fun _ _ => trivial⟩
instance : Plain Nat := ⟨fun _ _ => trivial⟩
instance : Plain String := ⟨fun _ _ => trivial⟩
instance : Plain Span := ⟨fun _ _ => trivial⟩
instance : Plain Fault := ⟨fun _ _ => trivial⟩
instance : Plain Problem := ⟨fun _ _ => trivial⟩
instance : Plain Punct := ⟨fun _ _ => trivial⟩
instance : Plain LexMode := ⟨fun _ _ => trivial⟩
instance : Plain Ctx := ⟨fun _ _ => trivial⟩

instance : Spells (List α) := ⟨fun src l => ∀ a ∈ l, Spelled src a⟩
instance : Spells (Option α) := ⟨fun src o => ∀ a ∈ o, Spelled src a⟩
instance : Spells (α × β) := ⟨fun src p => Spelled src p.1 ∧ Spelled src p.2⟩

instance : Spells (α ⊕ β) where
  spelled
    | src, .inl a => Spelled src a
    | src, .inr b => Spelled src b

instance : Spells (Except Fault α) where
  spelled
    | src, .ok a => Spelled src a
    | _, .error _ => True

instance [Plain α] : Plain (List α) := ⟨fun _ _ a _ => spelled_of_plain a⟩
instance [Plain α] : Plain (Option α) := ⟨fun _ _ a _ => spelled_of_plain a⟩
instance [Plain α] [Plain β] : Plain (α × β) :=
  ⟨fun _ _ => ⟨spelled_of_plain _, spelled_of_plain _⟩⟩

/-! ### Lists -/

/-- A list is spelled in the text if its members are. -/
@[grind =] theorem spelled_cons {a : α} {l : List α} :
    Spelled src (a :: l) ↔ Spelled src a ∧ Spelled src l := List.forall_mem_cons

@[grind =] theorem spelled_append {l m : List α} :
    Spelled src (l ++ m) ↔ Spelled src l ∧ Spelled src m := List.forall_mem_append

@[grind →] theorem Spelled.mem {l : List α} (h : Spelled src l) {a : α} (ha : a ∈ l) :
    Spelled src a := h a ha

/-- A list of some members of another one is spelled where the other is. -/
theorem Spelled.sublist {l m : List α} (h : Spelled src m) (hs : l ⊆ m) : Spelled src l :=
  fun a ha => h a (hs ha)

instance : Faithful ([] : List α) := ⟨fun _ _ h => nomatch h⟩
instance : Faithful (@List.cons α) := ⟨fun _ _ ha _ hl => spelled_cons.mpr ⟨ha, hl⟩⟩

instance : Faithful (HAppend.hAppend : List α → List α → List α) :=
  ⟨fun _ _ hl _ hm => spelled_append.mpr ⟨hl, hm⟩⟩

instance : Faithful (@List.reverse α) := ⟨fun _ _ h => h.sublist fun _ => List.mem_reverse.mp⟩

instance (n : Nat) : Faithful (@List.drop α n) :=
  ⟨fun _ _ h => h.sublist fun _ => List.mem_of_mem_drop⟩

instance (p : α → Bool) : Faithful (List.dropWhile p) :=
  ⟨fun _ _ h => h.sublist fun _ ha => (List.dropWhile_suffix p).mem ha⟩

instance : Faithful (@List.map α β) where
  spelled src f hf l hl := by
    intro b hb
    obtain ⟨a, ha, rfl⟩ := List.mem_map.mp hb
    exact hf a (hl a ha)

instance : Faithful (@List.head? α) := ⟨fun _ _ h a ha => h a (List.mem_of_mem_head? ha)⟩

/-! ### Options, pairs and sums

    None of the functions on them makes up a value. -/

/-- Present values are spelled if what they hold is; so are pairs and sums below. -/
@[grind =] theorem spelled_some {a : α} : Spelled src (some a) ↔ Spelled src a :=
  ⟨fun h => h a rfl, fun h _ hb => Option.some.inj hb ▸ h⟩

@[grind =] theorem spelled_inl {a : α} : Spelled src (.inl a : α ⊕ β) ↔ Spelled src a := Iff.rfl
@[grind =] theorem spelled_inr {b : β} : Spelled src (.inr b : α ⊕ β) ↔ Spelled src b := Iff.rfl

@[grind =] theorem spelled_ok {a : α} : Spelled src (.ok a : Except Fault α) ↔ Spelled src a :=
  Iff.rfl

instance : Faithful (none : Option α) := ⟨fun _ _ h => nomatch h⟩
instance : Faithful (@some α) := ⟨fun _ _ => spelled_some.mpr⟩

instance : Faithful (@Option.getD α) where
  spelled _ o ho a ha := by
    cases o with
    | none => exact ha
    | some b => exact ho b rfl

instance : Faithful (@Option.map α β) where
  spelled src f hf o ho := by
    intro b hb
    obtain ⟨a, ha, rfl⟩ := Option.map_eq_some_iff.mp hb
    exact hf a (ho a ha)

instance : Faithful (@Prod.mk α β) := ⟨fun _ _ ha _ hb => ⟨ha, hb⟩⟩
instance : Faithful (@Sum.inl α β) := ⟨fun _ _ => id⟩
instance : Faithful (@Sum.inr α β) := ⟨fun _ _ => id⟩

/-! ## Trees -/

/-- The only shape that holds a string of the text is that of a string literal. -/
def Shape.Spelled (src : List Char) : Shape → Prop
  | .str v _ => Quoted src v
  | _ => True

instance : Spells Shape := ⟨Shape.Spelled⟩

mutual

/-- Every string in a tree is spelled in the text. -/
def Ast.Spelled (src : List Char) : Ast → Prop
  | .node shape _ parts => shape.Spelled src ∧ Ast.AllSpelled src parts

/-- Every string in some trees is spelled in the text. -/
def Ast.AllSpelled (src : List Char) : List Ast → Prop
  | [] => True
  | t :: ts => t.Spelled src ∧ Ast.AllSpelled src ts

end

instance : Spells Ast := ⟨Ast.Spelled⟩

/-- For lists of trees, the definition by recursion says what it says for any list. -/
theorem allSpelled_iff {ts : List Ast} : Ast.AllSpelled src ts ↔ Spelled src ts := by
  induction ts with
  | nil => exact iff_of_true (by rw [Ast.AllSpelled]; trivial) (Faithful.spelled src)
  | cons t ts ih =>
      rw [Ast.AllSpelled, spelled_cons, ih]
      rfl

/-- A tree is spelled in the text if its shape and its parts are. -/
@[grind =] theorem spelled_node {shape : Shape} {span : Span} {parts : List Ast} :
    Spelled src (Ast.node shape span parts) ↔ Spelled src shape ∧ Spelled src parts := by
  rw [← allSpelled_iff]
  show Ast.Spelled src _ ↔ _
  rw [Ast.Spelled]
  rfl

/-- What is known of a shape by computation, in the form that readers use. -/
theorem spelled_shape {shape : Shape} (h : shape.Spelled src) : Spelled src shape := h

@[grind →] theorem Spelled.parts {t : Ast} (h : Spelled src t) : Spelled src t.parts := by
  obtain ⟨shape, span, parts⟩ := t
  exact (spelled_node.mp h).2

/-- The items of a tree are among its parts. -/
@[grind →] theorem Spelled.items {t : Ast} (h : Spelled src t) : Spelled src t.items := by
  unfold Ast.items
  split
  · exact (spelled_node.mp h).2
  · exact (spelled_node.mp h).2
  · exact Faithful.spelled src

instance : Faithful Ast.node := ⟨fun _ _ hs _ _ _ hp => spelled_node.mpr ⟨hs, hp⟩⟩
instance : Faithful Ast.absent := ⟨fun _ => spelled_node.mpr ⟨trivial, Faithful.spelled _⟩⟩
instance : Faithful Ast.group := ⟨fun _ _ h => spelled_node.mpr ⟨trivial, h⟩⟩

instance : Faithful Ast.parts := ⟨fun _ _ h => h.parts⟩

instance : Faithful Ast.items := ⟨fun _ _ h => h.items⟩

instance : Faithful Ast.part where
  spelled src t h i _ := by
    have hp : Spelled src t.parts := .app₁ h
    unfold Ast.part
    exact .app₂ (fun a ha => hp a (List.mem_of_getElem? ha)) (Faithful.spelled src)

instance : Faithful Ast.withSpan where
  spelled _ t h _ _ := by
    obtain ⟨shape, _, parts⟩ := t
    exact spelled_node.mpr (spelled_node.mp h)

instance : Faithful Ast.unparen where
  spelled _ t h := by
    unfold Ast.unparen
    split
    · exact (spelled_cons.mp (spelled_node.mp h).2).1
    · exact h

/-! ## Places -/

instance : Spells Token := ⟨Token.Spelled⟩
instance : Spells Cursor := ⟨Cursor.Within⟩
instance : Spells Lexed := ⟨Lexed.Within⟩

/-- The current token is spelled in the text, and both places next to it lie in the text. -/
structure State.Within (src : List Char) (s : State) : Prop where
  token : s.token.Spelled src
  before : s.before.Within src
  after : s.after.Within src

instance : Spells State := ⟨State.Within⟩

/-- A token that was read ahead, with the place behind it. -/
@[grind =] theorem spelled_lexed {l : Lexed} :
    Spelled src l ↔ Spelled src l.token ∧ Spelled src l.after :=
  ⟨fun h => ⟨h.token, h.after⟩, fun h => ⟨h.1, h.2⟩⟩

/-- A reader's place is given by its token and the two places next to it. -/
@[grind =] theorem spelled_state {s : State} :
    Spelled src s ↔ Spelled src s.token ∧ Spelled src s.before ∧ Spelled src s.after :=
  ⟨fun h => ⟨h.token, h.before, h.after⟩, fun h => ⟨h.1, h.2.1, h.2.2⟩⟩

/-- A place lies in the text if what follows it is an end of the text. -/
@[grind =] theorem spelled_cursor {c : Cursor} : Spelled src c ↔ c.rest <:+ src := Iff.rfl

/-- Reading on inside a template leads to a place in the same text. -/
@[grind ←] theorem Spelled.quasi {c : Cursor} (h : Spelled src c) : c.quasi.rest <:+ src :=
  c.quasi_within h

instance : Faithful State.token := ⟨fun _ _ h => h.token⟩
instance : Faithful State.before := ⟨fun _ _ h => h.before⟩
instance : Faithful State.after := ⟨fun _ _ h => h.after⟩
instance : Faithful Cursor.next := ⟨fun _ mode _ c h => c.next_within h mode⟩
instance : Faithful Cursor.regex := ⟨fun _ c h => c.regex_within h⟩
instance : Faithful Cursor.tagToken := ⟨fun _ c h => c.tagToken_within h⟩
instance : Faithful Cursor.content := ⟨fun _ c h => c.content_within h⟩

/-- The trees inside a nonterminal that goes on behind them. -/
def Goal.Spelled (src : List Char) : Goal → Prop
  | .functionRest _ _ _ ds | .classRest _ _ ds => Syntax.Spelled src ds
  | .subscripts base _ _ => Syntax.Spelled src base
  | _ => True

instance : Spells Goal := ⟨Goal.Spelled⟩

/-- What is known of a nonterminal by computation, in the form that readers use. -/
theorem spelled_goal {g : Goal} (h : g.Spelled src) : Spelled src g := h

instance : Faithful Goal.functionRest := ⟨fun _ _ _ _ _ _ _ _ h => h⟩
instance : Faithful Goal.classRest := ⟨fun _ _ _ _ _ _ h => h⟩
instance : Faithful Goal.subscripts := ⟨fun _ _ h _ _ _ _ => h⟩

/-! ## Readers -/

/-- What a reader may leave: a value and a place, or after a fault only a place. -/
instance : Spells (EStateM.Result Fault State α) where
  spelled
    | src, .ok a s => Spelled src a ∧ Spelled src s
    | src, .error _ s => Spelled src s

/-- The readers of the whole grammar keep to the text. -/
instance : Spells Env := ⟨fun src env => Spelled src env.again⟩

/-- A reader keeps to the text. -/
instance : Spells (P α) :=
  ⟨fun src m => ∀ env, Spelled src env → ∀ s, Spelled src s → Spelled src (m env s)⟩

namespace Spelled

/-- One reader after another: the second starts where the first has stopped, also after a fault. -/
protected theorem bind {m : P α} {k : α → P β} (hm : Spelled src m)
    (hk : ∀ a, Spelled src a → Spelled src (k a)) : Spelled src (m >>= k) := by
  intro env henv s hs
  have h := hm env henv s hs
  show Spelled src (EStateM.bind (m env) (fun a => k a env) s)
  unfold EStateM.bind
  split
  · rename_i a s' heq
    rw [heq] at h
    exact hk a h.1 env henv s' h.2
  · rename_i f s' heq
    rw [heq] at h
    exact h

/-- A function of a pair, by its two halves. -/
theorem lam_pair {f : α × β → γ}
    (h : ∀ a b, Spelled src a → Spelled src b → Spelled src (f (a, b))) :
    Spelled src f := fun p hp => h p.1 p.2 hp.1 hp.2

/-- A reader after one that returns a pair. -/
theorem bind_pair {m : P (α × β)} {k : α × β → P γ} (hm : Spelled src m)
    (hk : ∀ a b, Spelled src a → Spelled src b → Spelled src (k (a, b))) : Spelled src (m >>= k) :=
  .bind hm (lam_pair hk)

/-- What is named is looked at once, so what follows a branch is not taken apart per branch. -/
theorem share {a : α} (b : β) (h : Spelled src b) (k : Spelled src b → Spelled src a) :
    Spelled src a := k h

end Spelled

/-! ### The operations of the monad

    They hand on the state, the surroundings and the values they are given. -/

instance : Faithful (pure : α → P α) := ⟨fun _ _ ha _ _ _ hs => ⟨ha, hs⟩⟩

instance : Faithful (Functor.map : (α → β) → P α → P β) :=
  ⟨fun _ _ hf _ hm => Spelled.bind hm fun a ha => .app₁ (f := pure) (hf a ha)⟩

instance (f : Fault) : Faithful (throw f : P α) := ⟨fun _ _ _ _ hs => hs⟩
instance : Faithful (get : P State) := ⟨fun _ _ _ _ hs => ⟨hs, hs⟩⟩
instance : Faithful (read : P Env) := ⟨fun _ _ henv _ hs => ⟨henv, hs⟩⟩
instance : Faithful (set : State → P Unit) := ⟨fun _ _ h _ _ _ _ => ⟨trivial, h⟩⟩
instance : Faithful (modify : (State → State) → P Unit) := ⟨fun _ _ h _ _ s hs => ⟨trivial, h s hs⟩⟩

instance : Faithful (List.forM : List α → (α → P PUnit) → P PUnit) where
  spelled src l hl f hf := by
    induction l with
    | nil => exact .app₁ (f := pure) trivial
    | cons a l ih =>
        obtain ⟨ha, hl⟩ := spelled_cons.mp hl
        exact .bind (hf a ha) fun _ _ => ih hl

namespace P

/-- The nonterminals keep to the text because the readers they stand for do. -/
instance : Faithful goal := ⟨fun _ g hg env henv s hs => henv g hg env.ctx trivial s hs⟩

/-- The grammar does not depend on the context it is used in. -/
instance (f : Ctx → Ctx) : Faithful (withCtx f : P α → P α) :=
  ⟨fun _ _ h env henv s hs => h { env with ctx := f env.ctx } henv s hs⟩

/-- An attempt that fails goes back to where it began. -/
instance : Faithful (attempt : P (Option α) → P (Option α)) where
  spelled src m h env henv s hs := by
    have hm := h { env with ctx := { env.ctx with ignoreFaults := true } } henv s hs
    unfold attempt
    split
    · rename_i heq
      rw [heq] at hm
      exact hm
    · exact ⟨Faithful.spelled src, hs⟩

/-- Looking ahead leaves the reader where it is. -/
instance (m : P Bool) : Faithful (lookAhead m) where
  spelled src env henv s hs := by
    unfold lookAhead
    split
    · exact ⟨trivial, hs⟩
    · exact ⟨trivial, hs⟩

/-- A fault that is got over leaves the reader where the fault came up. -/
instance : Faithful (recover : P α → P (Except Fault α)) where
  spelled src m h env henv s hs := by
    have hm := h env henv s hs
    unfold recover
    split
    · rename_i heq
      rw [heq] at hm
      exact hm
    · rename_i heq
      rw [heq] at hm
      exact ⟨trivial, hm⟩

/-- A loop keeps to the text if its step does. -/
instance : Faithful (repeatStep : (β → P (β ⊕ α)) → Nat → β → P α) where
  spelled src step h n _ b hb := by
    induction n generalizing b with
    | zero => exact .bind (Faithful.spelled src) fun _ _ => Faithful.spelled src
    | succ n ih =>
        unfold repeatStep
        refine .bind (h b hb) fun r hr => ?_
        split
        · exact ih (spelled_of_plain n) _ hr
        · exact .app₁ (f := pure) hr

/-- A loop with as many rounds as the text allows. -/
instance : Faithful (iterate : β → (β → P (β ⊕ α)) → P α) where
  spelled src _ hb _ h := by
    unfold iterate
    exact .bind (Faithful.spelled src) fun _ _ => .app₃ (f := repeatStep) h (spelled_of_plain _) hb

end P

/-! ## Steps -/

/-- A value is spelled in the text once `needs` holds, which is about what it is made of. -/
class Made (src : List Char) (a : α) (needs : outParam Prop) : Prop where
  spelled : needs → Spelled src a

section

variable {a : α} {b : β} {c : γ} {d : δ} {e : ε} {z : ζ}

-- The priorities try what is known of a whole first, then sequences, then functions and branches,
-- then functions of more and more arguments.
instance (priority := 1100) [Faithful a] : Made src a True := ⟨fun _ => Faithful.spelled src⟩

instance (priority := 1090) {m : P (α × β)} {k : α × β → P γ} : Made src (m >>= k)
    (Spelled src m ∧ ∀ a b, Spelled src a → Spelled src b → Spelled src (k (a, b))) :=
  ⟨fun h => .bind_pair h.1 h.2⟩

instance (priority := 1080) {m : P α} {k : α → P β} : Made src (m >>= k)
    (Spelled src m ∧ ∀ a, Spelled src a → Spelled src (k a)) :=
  ⟨fun h => .bind h.1 h.2⟩

instance (priority := 1070) {f : α × β → γ} : Made src f
    (∀ a b, Spelled src a → Spelled src b → Spelled src (f (a, b))) := ⟨.lam_pair⟩

instance (priority := 1060) {f : α → β} : Made src f (∀ a, Spelled src a → Spelled src (f a)) :=
  ⟨.lam⟩

instance (priority := 1050) {p : Prop} [Decidable p] {a b : α} :
    Made src (if p then a else b) (Spelled src a ∧ Spelled src b) := ⟨fun h => .ite h.1 h.2⟩

instance (priority := 1040) {f : α → β} [Faithful f] : Made src (f a) (Spelled src a) := ⟨.app₁⟩

instance (priority := 1030) {f : α → β → γ} [Faithful f] :
    Made src (f a b) (Spelled src a ∧ Spelled src b) := ⟨fun h => .app₂ h.1 h.2⟩

instance (priority := 1020) {f : α → β → γ → δ} [Faithful f] :
    Made src (f a b c) (Spelled src a ∧ Spelled src b ∧ Spelled src c) :=
  ⟨fun h => .app₃ h.1 h.2.1 h.2.2⟩

instance (priority := 1010) {f : α → β → γ → δ → ε} [Faithful f] :
    Made src (f a b c d) (Spelled src a ∧ Spelled src b ∧ Spelled src c ∧ Spelled src d) :=
  ⟨fun h => .app₄ h.1 h.2.1 h.2.2.1 h.2.2.2⟩

instance {f : α → β → γ → δ → ε → ζ} [Faithful f] : Made src (f a b c d e)
    (Spelled src a ∧ Spelled src b ∧ Spelled src c ∧ Spelled src d ∧ Spelled src e) :=
  ⟨fun h => .app₅ h.1 h.2.1 h.2.2.1 h.2.2.2.1 h.2.2.2.2⟩

instance (priority := 990) {f : α → β → γ → δ → ε → ζ → η} [Faithful f] :
    Made src (f a b c d e z) (Spelled src a ∧ Spelled src b ∧ Spelled src c ∧ Spelled src d ∧
      Spelled src e ∧ Spelled src z) :=
  ⟨fun h => .app₆ h.1 h.2.1 h.2.2.1 h.2.2.2.1 h.2.2.2.2.1 h.2.2.2.2.2⟩

end

/-- A function keeps to the text if its steps do.  Sequencing, branching and known functions are
    taken apart; what is left follows from what is known of the values that were matched. -/
theorem Spelled.of_steps {a : α} (h : Spelled src a := by
    repeat' first
      | extract_lets -underBinder +onlyGivenNames b
        refine Spelled.share b ?_ fun _ => ?_
        rotate_left
        clear_value b
        revert b
        intro _ _
        rotate_right
        dsimp -zeta only [b]
        clear b
      | with_reducible first
          | assumption
          | refine Made.spelled ?_
            repeat' apply And.intro
            all_goals first
              | exact True.intro
              | intro _ _ _ _
                dsimp -zeta only
              | intros
      | with_reducible refine Spelled.app ‹_› ?_
      | with_reducible refine spelled_shape ?_
        trivial
      | with_reducible refine spelled_goal ?_
        trivial
      | with_reducible refine (Spelled.app ‹_› ?_).app ?_
      | with_reducible refine (Spelled.app ‹_› ?_).app ?_ |>.app ?_
      | with_reducible refine (Spelled.app ‹_› ?_).app ?_ |>.app ?_ |>.app ?_
      | dsimp -zeta only
      | split
      | grind) : Spelled src a := h

/-- A function is faithful if in every text its steps keep to the text. -/
theorem Faithful.of_steps {a : α} (h : ∀ src, Spelled src a := by exact fun _ => .of_steps) :
    Faithful a := ⟨h⟩

/-! ## The machinery of readers

    From here on a reader is unfolded once and taken apart at its steps. -/

namespace P

instance : Faithful ctx := by
  unfold ctx
  exact .of_steps

instance : Faithful isTypeScript := by
  unfold isTypeScript
  exact .of_steps

instance : Faithful (withIn : Bool → P α → P α) := by
  unfold withIn
  exact .of_steps

/-! ### Faults -/

instance : Faithful addFault := by
  unfold addFault
  exact .of_steps

instance : Faithful emit := by
  unfold emit
  exact .of_steps

instance : Faithful emitStrict := by
  unfold emitStrict
  exact .of_steps

instance : Faithful (fail : Problem → Span → P α) := by
  unfold fail
  exact .of_steps

instance : Faithful (failHere : Problem → P α) := by
  unfold failHere
  exact .of_steps

instance : Faithful (unexpected : String → P α) := by
  unfold unexpected
  exact .of_steps

/-! ### Tokens

    Only three readers touch the token and the places next to it: `accept`, which takes a token that
    was read, `reread` and `advance`.  The others ask for the token or go on by one of these. -/

instance : Faithful cur := by
  unfold cur
  exact .of_steps

instance : Faithful curSpan := by
  unfold curSpan
  exact .of_steps

instance : Faithful curPos := by
  unfold curPos
  exact .of_steps

instance : Faithful prevSpan := by
  unfold prevSpan
  exact .of_steps

instance : Faithful hadBreak := by
  unfold hadBreak
  exact .of_steps

instance : Faithful need := by
  unfold need
  exact .of_steps

/-- A word with an escape may turn into a fault, never into a string. -/
instance : Faithful checkEscape where
  spelled _ c _ l h := by
    unfold checkEscape
    split
    · split
      · exact spelled_lexed.mpr ⟨trivial, h.after⟩
      · exact h
    · exact h

/-- A token is taken together with the places before and behind it. -/
instance : Faithful accept where
  spelled src l hl before hb := by
    unfold accept
    refine .bind (Faithful.spelled src) fun c _ => .app₁ (f := modify) (.lam fun s hs => ?_)
    have h : Spelled src (checkEscape c l) := .app₂ (spelled_of_plain c) hl
    exact ⟨h.token, hb, h.after⟩

instance : Faithful reread := by
  unfold reread
  exact .of_steps

/-- Going on starts from the place behind the current token. -/
instance : Faithful advance where
  spelled src read h := by
    unfold advance
    refine .bind (Faithful.spelled src) fun s hs => .bind (.app₁ ?_) fun _ _ => ?_
    · exact ⟨hs.token, hs.before, hs.after⟩
    · exact .app₂ (h _ hs.after) hs.after

instance : Faithful bump := by
  unfold bump
  exact .of_steps

instance : Faithful peek := by
  unfold peek
  exact .of_steps

instance : Faithful isP := by
  unfold isP
  exact .of_steps

instance : Faithful isW := by
  unfold isW
  exact .of_steps

instance : Faithful isWordToken := by
  unfold isWordToken
  exact .of_steps

instance : Faithful isEof := by
  unfold isEof
  exact .of_steps

instance : Faithful isAnyP := by
  unfold isAnyP
  exact .of_steps

instance : Faithful isAnyW := by
  unfold isAnyW
  exact .of_steps

instance : Faithful isName := by
  unfold isName
  exact .of_steps

instance : Faithful peekIsP := by
  unfold peekIsP
  exact .of_steps

instance : Faithful peekIsW := by
  unfold peekIsW
  exact .of_steps

instance : Faithful peekIsWord := by
  unfold peekIsWord
  exact .of_steps

instance : Faithful peekIsName := by
  unfold peekIsName
  exact .of_steps

instance : Faithful onlyIf := by
  unfold onlyIf
  exact .of_steps

instance : Faithful eatP := by
  unfold eatP
  exact .of_steps

instance : Faithful eatW := by
  unfold eatW
  exact .of_steps

instance : Faithful expectText := by
  unfold expectText
  exact .of_steps

instance : Faithful expectP := by
  unfold expectP
  exact .of_steps

instance : Faithful expectW := by
  unfold expectW
  exact .of_steps

instance : Faithful isEnd := by
  unfold isEnd
  exact .of_steps

instance : Faithful eatEnd := by
  unfold eatEnd
  exact .of_steps

instance : Faithful expectEnd := by
  unfold expectEnd
  exact .of_steps

/-! ### Nodes, loops and types

    A node is made of trees that were read; a context for types changes how tokens are read, and no
    token is read anywhere else than in the text. -/

instance : Faithful spanFrom := by
  unfold spanFrom
  exact .of_steps

instance : Faithful mk := by
  unfold mk
  exact .of_steps

instance : Faithful collect := by
  unfold collect
  exact .of_steps

instance : Faithful inType.startsAngle := by
  unfold inType.startsAngle
  exact .of_steps

instance : Faithful (inType : P α → P α) := by
  unfold inType
  exact .of_steps

instance : Faithful (outOfType : P α → P α) := by
  unfold outOfType
  exact .of_steps

end P

end Inlay.Syntax
