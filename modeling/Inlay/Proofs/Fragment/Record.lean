import Inlay.ModuleRecord
import Inlay.Proofs.Engine.FunctionText

/-! # Records that outlive a fragment

    A record can execute any number of units and be asked for its exports in between.  Its machine
    goes on from one request to the next, with all the functions made so far, but there is one table
    of definitions: an execution puts the table of its own unit in place of the old one before
    anything runs, so also when it then fails.

    * `ModuleRecord.Moves`: what a request may change besides that table is the machine only;
    * `after_moves`: through any requests, the table is that of the unit executed last;
    * `exportValue_last_unit`: an exported function that carries a number is given by the text which
      the unit executed last has under that number, whichever unit made the function. -/

namespace Inlay

open Engine Engine.Exec

/-! ## Requests -/

/-- What a record can be asked for. -/
inductive Request where
  | execute (unit : ScriptUnit)
  | exportValue

namespace ModuleRecord

def serve (r : ModuleRecord) : Request → ModuleRecord
  | .execute unit => (r.execute unit).2
  | .exportValue => r.exportValue.2

def after (r : ModuleRecord) (requests : List Request) : ModuleRecord := requests.foldl serve r

/-- One record has become another: only the machine may differ. -/
def Moves (r r' : ModuleRecord) : Prop := ∃ machine, r' = { r with machine }

namespace Moves

variable {r r' r'' : ModuleRecord}

theorem refl (r : ModuleRecord) : r.Moves r := ⟨r.machine, rfl⟩

theorem trans (h : r.Moves r') (h' : r'.Moves r'') : r.Moves r'' := by
  obtain ⟨m, rfl⟩ := h
  obtain ⟨m', rfl⟩ := h'
  exact ⟨m', rfl⟩

theorem run {α : Type} (r : ModuleRecord) (p : Exec α) (failed : String → Failure) :
    r.Moves (r.run p failed).2 := by
  unfold ModuleRecord.run
  split
  · exact ⟨_, rfl⟩
  · exact ⟨_, rfl⟩

/-- A record that ran a program, taken apart. -/
theorem of_run {α : Type} {p : Exec α} {failed : String → Failure} {res : Except Failure α}
    (h : r.run p failed = (res, r')) : r.Moves r' := by
  have := run r p failed
  rwa [h] at this

/-- An execution changes the table of definitions, and then the machine only. -/
theorem execute (r : ModuleRecord) (unit : ScriptUnit) :
    Moves { r with sources := unit.sources } (r.execute unit).2 := by
  unfold ModuleRecord.execute
  dsimp only
  split
  next hwrap => exact of_run hwrap
  next f r₁ hwrap =>
    split
    next r₂ hfn => exact ((of_run hwrap).trans (of_run hfn)).trans (run r₂ _ _)
    next hfn => exact (of_run hwrap).trans (of_run hfn)

/-- An export changes the machine only. -/
theorem exportValue (r : ModuleRecord) : r.Moves r.exportValue.2 := by
  unfold ModuleRecord.exportValue
  dsimp only
  -- each branch runs some programs, one after the other
  split
  next hgot => exact of_run hgot
  next hgot => exact of_run hgot
  next v r₁ _ hgot =>
    have h₁ := of_run hgot
    split
    next htyped => exact h₁.trans (of_run htyped)
    next htyped =>
      have h₂ := h₁.trans (of_run htyped)
      split
      next htext => exact h₂.trans (of_run htext)
      next htext => exact h₂.trans (of_run htext)
    next htyped =>
      have h₂ := h₁.trans (of_run htyped)
      split
      next hjson => exact h₂.trans (of_run hjson)
      next hjson => split <;> exact h₂.trans (of_run hjson)
      next hjson => exact h₂.trans (of_run hjson)

end Moves

/-! ## The table of definitions -/

def unit? : Request → Option ScriptUnit
  | .execute unit => some unit
  | .exportValue => none

def lastUnit? (requests : List Request) : Option ScriptUnit := (requests.filterMap unit?).getLast?

/-- The definitions that a record with these ones has after some requests. -/
def sourcesAfter (sources : List String) (requests : List Request) : List String :=
  ((lastUnit? requests).map ScriptUnit.sources).getD sources

theorem sourcesAfter_cons (sources : List String) (q : Request) (rest : List Request) :
    sourcesAfter sources (q :: rest)
      = sourcesAfter (((unit? q).map ScriptUnit.sources).getD sources) rest := by
  cases q with
  | exportValue => rfl
  | execute unit =>
      have hlast : lastUnit? (.execute unit :: rest) = some ((lastUnit? rest).getD unit) :=
        List.getLast?_cons
      rw [sourcesAfter, hlast, sourcesAfter]
      cases lastUnit? rest <;> rfl

/-- One request changes the table of definitions as it should, and then the machine only. -/
theorem serve_moves (r : ModuleRecord) (q : Request) :
    Moves { r with sources := ((unit? q).map ScriptUnit.sources).getD r.sources } (r.serve q) := by
  cases q with
  | execute unit => exact Moves.execute r unit
  | exportValue => exact Moves.exportValue r

/-- Through any requests, a record keeps its module and its tagging function, and its definitions
    are those of the unit executed last. -/
theorem after_moves (r : ModuleRecord) (requests : List Request) :
    Moves { r with sources := sourcesAfter r.sources requests } (r.after requests) := by
  induction requests generalizing r with
  | nil => exact Moves.refl r
  | cons q rest ih =>
      obtain ⟨m, hm⟩ := serve_moves r q
      -- the rest starts from the table that the first request leaves
      have hrest := ih (r.serve q)
      rw [hm] at hrest
      obtain ⟨m', hm'⟩ := hrest
      refine ⟨m', ?_⟩
      show (r.serve q).after rest = _
      rw [hm, hm', sourcesAfter_cons]

/-! ## Exported functions -/

/-- In this machine, the exports of the module are a function. -/
structure Exports (m : Machine) (module f : Ref) : Prop where
  held : (m.heap[module]!).data? (Key.text "exports") = some (.obj f)
  isCallable : (m.heap[f]!).isCallable

/-- In this machine, an object carries a number where the tagging function puts it. -/
def Tagged (m : Machine) (tagKey : SymbolId) (f : Ref) (i : Nat) : Prop :=
  ∃ n : Engine.Num, n.toInt? = some (i : Int) ∧ (m.heap[f]!).data? (.sym tagKey) = some (.num n)

section Export

variable {r : ModuleRecord} {f : Ref} {i : Nat} {s : String}

theorem run_of_looks {α : Type} {p : Exec α} {a : α} (h : Looks p r.machine a)
    (failed : String → Failure) : r.run p failed = (.ok a, r) := by
  rw [run, h.outside]

/-- A function with a number is given by the definition of that number. -/
theorem looks_definition (htag : Tagged r.machine r.tagKey f i) (hs : r.sources[i]? = some s) :
    Looks (r.definition f) r.machine s := by
  obtain ⟨n, hn, hheld⟩ := htag
  have hsource : Looks (r.taggedSource? f) r.machine (some s) := by
    refine (Looks.get hheld).bind ?_
    rw [← hs]
    simp only [hn]
    exact Looks.pure _
  exact hsource.bind (Looks.pure s)

theorem exportValue_of_definition (hf : Exports r.machine r.module f)
    (hdefinition : ∀ failed, r.run (r.definition f) failed = (.ok s, r)) :
    r.exportValue = (.ok (.callable s), r) := by
  have hexports : Looks (Object.get r.module (Key.text "exports")) r.machine (.obj f) :=
    Looks.get hf.held
  have hcallable : Looks (Object.isCallable (.obj f)) r.machine true := by
    rw [← hf.isCallable]
    exact Looks.isCallable
  have htype : Looks (typeName (.obj f)) r.machine "function" := hcallable.bind (Looks.pure _)
  have htyped : Looks (do return (← typeName (.obj f), ← Object.isCallable (.obj f))) r.machine
      ("function", true) := htype.bind (hcallable.bind (Looks.pure _))
  rw [exportValue, run_of_looks hexports]
  dsimp only
  rw [run_of_looks htyped]
  dsimp only
  rw [hdefinition]

/-- An export of a function with a number runs no script, so it leaves the record as it is. -/
theorem exportValue_of_tagged (hf : Exports r.machine r.module f)
    (htag : Tagged r.machine r.tagKey f i) (hs : r.sources[i]? = some s) :
    r.exportValue = (.ok (.callable s), r) :=
  exportValue_of_definition hf (run_of_looks (looks_definition htag hs))

end Export

/-- After any requests, whatever state they left the machine in: if the module exports a function
    with the number `i`, an export gives the text of definition `i` of the unit executed last.
    Which unit made the function plays no part. -/
theorem exportValue_last_unit (r : ModuleRecord) {requests : List Request} {unit : ScriptUnit}
    {machine : Machine} {f : Ref} {i : Nat} {s : String} (hunit : lastUnit? requests = some unit)
    (hf : Exports machine r.module f) (htag : Tagged machine r.tagKey f i)
    (hs : unit.sources[i]? = some s) :
    exportValue { r.after requests with machine }
      = (.ok (.callable s), { r.after requests with machine }) := by
  obtain ⟨m, hm⟩ := after_moves r requests
  have hsources : sourcesAfter r.sources requests = unit.sources := by
    rw [sourcesAfter, hunit]
    rfl
  rw [hm, hsources]
  exact exportValue_of_tagged hf htag hs

/-! ## A record in use -/

theorem append_ofList {s t : String} {a b : List Char} (hs : s = String.ofList a)
    (ht : t = String.ofList b) : s ++ t = String.ofList (a ++ b) := by
  rw [hs, ht, String.ofList_append]

/-- A script of plain characters can be read without going through its units. -/
theorem script_ofString {s : String} {cs : List Char} (hs : s = String.ofList cs)
    (h : cs.all Units.isPlain) : Run.script (.ofString s) = Run.scriptOf cs := by
  rw [hs, Run.script, Units.ofString, String.toList_ofList, Units.text_ofChars h,
    String.toList_ofList]

/-- A machine with those built-in functions only that the tagging function is made with. -/
def smallMachine : Machine := { Machine.initial with
  heap := ((do
    Realm.collection "Object" fun r => Realm.method r "defineProperty" 3 (.object .defineProperty)
    Realm.global "Symbol" (.obj (← Realm.alloc (Realm.functionObject (.symbol .make) "Symbol" 0)))
    : Realm.Build Unit).run (Array.replicate Intrinsic.count default)).2 }

/-- The machine of a record once a function has been made, tagged and exported. -/
def numbered (r : ModuleRecord) : Machine :=
  (Run.outside (do
    let f ← Exec.alloc { proto := none, kind := .closure { node := default, scope := 0 } }
    let tagged ← Object.call r.tag .undefined #[.obj f, .num (.int 0)]
    Object.set r.module (Key.text "exports") tagged) r.machine).2

/-- Whether the exports of a new record are then a function with the number zero. -/
def exportsNumbered : Except Failure ModuleRecord → Bool
  | .ok r =>
      match ((numbered r).heap[r.module]!).data? (Key.text "exports") with
      | some (.obj f) => ((numbered r).heap[f]!).isCallable &&
          match ((numbered r).heap[f]!).data? (.sym r.tagKey) with
          | some (.num n) => n.toInt? == some 0
          | _ => false
      | _ => false
  | .error _ => false

theorem tagged_of_exportsNumbered {x : Except Failure ModuleRecord} (h : exportsNumbered x) :
    ∃ r f, x = .ok r ∧ Exports (numbered r) r.module f ∧ Tagged (numbered r) r.tagKey f 0 := by
  unfold exportsNumbered at h
  split at h
  · split at h
    · rename_i hf
      obtain ⟨hcallable, hnumber⟩ := Bool.and_eq_true_iff.mp h
      split at hnumber
      · rename_i n hn
        exact ⟨_, _, rfl, ⟨hf, hcallable⟩, n, eq_of_beq hnumber, hn⟩
      · cases hnumber
    · cases h
  · cases h

/-- The tagging function of a new record puts the number where it is looked for. -/
theorem exportsNumbered_new :
    exportsNumbered (ofStart "a.js" (Run.outside setUp smallMachine)) := by
  unfold setUp
  have htag : Run.script (.ofString tagScript) = _ := script_ofString
    (append_ofList (append_ofList (append_ofList rfl rfl) rfl) rfl) (by decide +kernel)
  rw [htag]
  decide +kernel

/-- A unit with one function, which is put into the target. -/
def unitOf (target name : String) : ScriptUnit where
  file := "a.js"
  code := target ++ " = __precall_source(function " ++ name ++ "() \x7b\x7d, 0);\n"
  sources := ["function " ++ name ++ "() \x7b\x7d"]

/-- The first unit exports its function, the second one makes another: what is exported passes for
    the function of the second. -/
theorem exportValue_second_unit :
    ∃ r, ofStart "a.js" (Run.outside setUp smallMachine) = .ok r ∧
      (exportValue {
        r.after [.execute (unitOf "module.exports" "a"), .execute (unitOf "var x" "b")]
        with machine := numbered r }).1 = .ok (.callable "function b() \x7b\x7d") := by
  obtain ⟨r, f, hr, hf, htag⟩ := tagged_of_exportsNumbered exportsNumbered_new
  exact ⟨r, hr, congrArg Prod.fst (exportValue_last_unit r rfl hf htag rfl)⟩

end ModuleRecord

end Inlay
