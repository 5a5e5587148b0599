import Inlay.Command
import Inlay.Proofs.Command.Files

/-! # What a command does to the world

    A command expands its feeds, the texts it is given, one after the other.  One step reads a feed,
    expands it and puts the result in its place (`Step`); a step that fails changes no file and
    writes nothing (`expandFeed_fails`).  A run is a chain of steps up to the first that fails. -/

namespace Inlay

namespace ExpandCommand

/-! ## Programs on a world -/

def outcome {α : Type} (x : ExceptT CommandFailure (StateM World) α) (w : World) :
    Except CommandFailure α × World := x.run.run w

section Outcome

variable {α β : Type} {x : ExceptT CommandFailure (StateM World) α}
variable {k : α → ExceptT CommandFailure (StateM World) β} {w w₁ w' : World}

theorem outcome_bind (x : ExceptT CommandFailure (StateM World) α)
    (k : α → ExceptT CommandFailure (StateM World) β) (w : World) :
    outcome (x >>= k) w =
      match outcome x w with
      | (.ok a, w₁) => outcome (k a) w₁
      | (.error e, w₁) => (.error e, w₁) := by
  show (match outcome x w with | (r, w₁) => (ExceptT.bindCont k r) w₁) = _
  obtain ⟨r, w₁⟩ := outcome x w
  cases r <;> rfl

@[simp] theorem outcome_pure (a : α) (w : World) : outcome (pure a) w = (.ok a, w) := rfl

@[simp] theorem outcome_throw (e : CommandFailure) (w : World) :
    outcome (throw e : ExceptT CommandFailure (StateM World) α) w = (.error e, w) := rfl

theorem outcome_bind_ok {a : α} (h : outcome x w = (.ok a, w₁)) :
    outcome (x >>= k) w = outcome (k a) w₁ := by
  rw [outcome_bind, h]

theorem outcome_bind_error {e : CommandFailure} (h : outcome x w = (.error e, w₁)) :
    outcome (x >>= k) w = (.error e, w₁) := by
  rw [outcome_bind, h]

end Outcome

end ExpandCommand

/-! ## Worlds that look alike -/

/-- The same files and the same streams; messages and directories may have come. -/
structure World.Still (w w' : World) : Prop where
  files : w.files.Same w'.files
  input : w'.input = w.input
  output : w'.output = w.output

namespace World.Still

theorem refl (w : World) : w.Still w := ⟨.refl w.files, rfl, rfl⟩

theorem trans {w w₁ w₂ : World} (h : w.Still w₁) (h' : w₁.Still w₂) : w.Still w₂ :=
  ⟨h.files.trans h'.files, h'.input.trans h.input, h'.output.trans h.output⟩

end World.Still

/-- Nothing but messages have come. -/
structure World.Quiet (w w' : World) : Prop where
  files : w'.files = w.files
  input : w'.input = w.input
  output : w'.output = w.output

namespace World.Quiet

theorem refl (w : World) : w.Quiet w := ⟨rfl, rfl, rfl⟩

theorem trans {w w₁ w₂ : World} (h : w.Quiet w₁) (h' : w₁.Quiet w₂) : w.Quiet w₂ :=
  ⟨h'.files.trans h.files, h'.input.trans h.input, h'.output.trans h.output⟩

theorem still {w w' : World} (h : w.Quiet w') : w.Still w' :=
  ⟨h.files ▸ .refl w.files, h.input, h.output⟩

end World.Quiet

def World.note (w : World) (l : Level) (s : String) : World :=
  { w with messages := (l.text ++ ": " ++ s) :: w.messages }

theorem World.quiet_note (w : World) (l : Level) (s : String) : w.Quiet (w.note l s) :=
  ⟨rfl, rfl, rfl⟩

namespace ExpandCommand

/-! ## Feeds -/

/-- One of the texts that a command expands. -/
inductive Feed where
  | file (path : String)
  | standard

def feeds (c : ExpandCommand) : List Feed :=
  if c.inputs.isEmpty then [.standard] else c.inputs.map .file

namespace Feed

def name (c : ExpandCommand) : Feed → String
  | file path => path
  | standard => c.inputName.getD usualInputName

def text (w : World) : Feed → Except FileFault String
  | file path => w.files.read path
  | standard => .ok w.input

/-- The path to which the result of a feed is written; standard output has none. -/
def targetPath? (c : ExpandCommand) : Feed → Option String
  | file path =>
      match c.output, c.outDir with
      | some o, _ => some o
      | none, some dir => (Path.fileName? path).map (Path.join dir)
      | none, none => none
  | standard => c.output

/-- The place among files to which the result of a feed is written. -/
def goal? (c : ExpandCommand) (here : Location) (x : Feed) : Option Location :=
  (x.targetPath? c).map (Path.spot here)

end Feed

/-! ## One step -/

section Steps

variable {m : Type → Type} [Monad m]

def Feed.read (s : System m) : Feed → m (Except FileFault String)
  | .file path => s.readFile path
  | .standard => s.readInput

def Feed.target (c : ExpandCommand) (s : System m) :
    Feed → ExceptT CommandFailure m (Option String)
  | .file path =>
      match c.output, c.outDir with
      | some o, _ => pure (some o)
      | none, some dir => some <$> targetIn s dir path
      | none, none => pure none
  | .standard => pure c.output

def Feed.report (s : System m) : Feed → ExceptT CommandFailure m Unit
  | .file path => s.log .info s!"expanded {path}"
  | .standard => pure ()

def expandFeed (c : ExpandCommand) (p : Pass) (s : System m) (x : Feed) :
    ExceptT CommandFailure m Unit := do
  let source ← ofFile (← (x.read s : m (Except FileFault String)))
  let code ← expandSource p s source (x.name c)
  let target ← x.target c s
  writeResult s target code
  x.report s

theorem expandInput_eq (c : ExpandCommand) (p : Pass) (s : System m) (path : String) :
    c.expandInput p s path = c.expandFeed p s (.file path) := by
  unfold expandInput expandFeed Feed.target
  cases c.output with
  | some o => rfl
  | none => cases c.outDir <;> rfl

end Steps

/-- A text that was read, and what it was expanded to. -/
structure Result where
  source : String
  code : String

/-- A feed is read and expanded, and the result is put in its place. -/
structure Step (c : ExpandCommand) (p : Pass) (x : Feed) (w w' : World) (r : Result) : Prop where
  read : x.text w = .ok r.source
  expanded : (p.source engineEvaluator r.source (x.name c) ()).1 = .ok r.code
  input : w'.input = w.input
  written : ∀ l, x.goal? c w.files.here = some l →
    w.files.Update w'.files l r.code.toUTF8 ∧ w'.output = w.output
  printed : x.goal? c w.files.here = none →
    w.files.Same w'.files ∧ w'.output = w.output ++ r.code
  named : ∀ path, x = .file path → c.outDir.isSome → (x.goal? c w.files.here).isSome

/-- Why a step fails, and what is reported. -/
inductive Fails (c : ExpandCommand) (p : Pass) (x : Feed) (w : World) : CommandFailure → Prop where
  | unreadable {fault : FileFault} (hread : x.text w = .error fault) : Fails c p x w (.io fault)
  | not_expanded {source : String} {f : Failure} (hread : x.text w = .ok source)
      (hfail : (p.source engineEvaluator source (x.name c) ()).1 = .error f) :
      Fails c p x w (.expansion (Diagnostic.of f (x.name c) source))
  | nameless {path : String} {r : Result} (hread : x.text w = .ok r.source)
      (hcode : (p.source engineEvaluator r.source (x.name c) ()).1 = .ok r.code)
      (hx : x = .file path) (hname : Path.fileName? path = none) :
      Fails c p x w (.input s!"{path} has no file name")
  | not_written {r : Result} {fault : FileFault} (hread : x.text w = .ok r.source)
      (hcode : (p.source engineEvaluator r.source (x.name c) ()).1 = .ok r.code)
      (hgoal : (x.targetPath? c).isSome) : Fails c p x w (.io fault)

section Operations

variable {w : World}

theorem outcome_change (change : Files → Except FileFault Files) (w : World) :
    outcome (do ofFile (← (World.change change : StateM World (Except FileFault Unit)))) w =
      match change w.files with
      | .ok files => (.ok (), { w with files })
      | .error e => (.error (.io e), w) := by
  show (match (match change w.files with
      | .ok files => (.ok (), { w with files })
      | .error e => (.error e, w) : Except FileFault Unit × World) with
    | (r, w₁) => outcome (ofFile r) w₁) = _
  cases change w.files <;> rfl

theorem makeDirectories_cases (dir : String) (w : World) :
    let make : ExceptT CommandFailure (StateM World) Unit := do
      ofFile (← World.system.makeDirectories dir)
    (∃ w', outcome make w = (.ok (), w') ∧ w.Still w') ∨
      ∃ fault, outcome make w = (.error (.io fault), w) := by
  intro make
  have hmake : outcome make w = _ := outcome_change (·.makeDirectories dir) w
  rw [hmake]
  cases h : w.files.makeDirectories dir with
  | ok files => exact .inl ⟨_, rfl, Files.same_of_makeDirectories h, rfl, rfl⟩
  | error e => exact .inr ⟨e, rfl⟩

theorem writeFile_cases (path content : String) (w : World) :
    let write : ExceptT CommandFailure (StateM World) Unit := do
      ofFile (← World.system.writeFile path content)
    (∃ w', outcome write w = (.ok (), w') ∧ w'.input = w.input ∧ w'.output = w.output ∧
        w.files.Update w'.files (Path.spot w.files.here path) content.toUTF8) ∨
      ∃ fault, outcome write w = (.error (.io fault), w) := by
  intro write
  have hwrite : outcome write w = _ := outcome_change (·.write path content.toUTF8) w
  rw [hwrite]
  cases h : w.files.write path content.toUTF8 with
  | ok files => exact .inl ⟨_, rfl, rfl, rfl, Files.update_of_write h⟩
  | error e => exact .inr ⟨e, rfl⟩

/-- Before a file is written, the directory for it is made. -/
theorem writeResult_some (path code : String) (w : World) :
    (∃ w₁, w.Still w₁ ∧ outcome (writeResult World.system (some path) code) w =
        outcome (do ofFile (← World.system.writeFile path code)) w₁) ∨
      ∃ fault, outcome (writeResult World.system (some path) code) w = (.error (.io fault), w) := by
  unfold writeResult
  dsimp only
  cases Path.parent? path with
  | none => exact .inl ⟨w, .refl w, rfl⟩
  | some dir =>
      dsimp only
      split
      · rw [← bind_assoc]
        rcases makeDirectories_cases dir w with ⟨w₁, hmake, hstill⟩ | ⟨fault, hmake⟩
        · exact .inl ⟨w₁, hstill, outcome_bind_ok hmake⟩
        · exact .inr ⟨fault, outcome_bind_error hmake⟩
      · exact .inl ⟨w, .refl w, rfl⟩

/-- A result is printed, or the file for it is written, or nothing is. -/
theorem writeResult_cases (target : Option String) (code : String) (w : World) :
    (∃ w', outcome (writeResult World.system target code) w = (.ok (), w') ∧ w'.input = w.input ∧
        (∀ path, target = some path →
          w.files.Update w'.files (Path.spot w.files.here path) code.toUTF8 ∧
            w'.output = w.output) ∧
        (target = none → w.files.Same w'.files ∧ w'.output = w.output ++ code)) ∨
      ∃ fault w', outcome (writeResult World.system target code) w = (.error (.io fault), w') ∧
        w.Still w' ∧ target.isSome := by
  cases target with
  | none =>
      refine .inl ⟨{ w with output := w.output ++ code }, rfl, rfl, ?_, ?_⟩
      · intro path h
        cases h
      · intro _
        exact ⟨.refl _, rfl⟩
  | some path =>
      rcases writeResult_some path code w with ⟨w₁, hstill, hmade⟩ | ⟨fault, hmade⟩
      · rw [hmade]
        rcases writeFile_cases path code w₁ with ⟨w', hwrite, hin, hout, hupdate⟩ | ⟨fault, hwrite⟩
        · rw [hstill.files.here] at hupdate
          refine .inl ⟨w', hwrite, hin.trans hstill.input, ?_, ?_⟩
          · intro path' h
            cases h
            exact ⟨hstill.files.update hupdate, hout.trans hstill.output⟩
          · intro h
            cases h
        · exact .inr ⟨fault, w₁, hwrite, hstill, rfl⟩
      · exact .inr ⟨fault, w, hmade, .refl w, rfl⟩

/-- The place for a result is found and its directory made, or the step fails. -/
theorem target_cases (c : ExpandCommand) (x : Feed) (w : World) :
    (∃ w', outcome (x.target c World.system) w = (.ok (x.targetPath? c), w') ∧ w.Still w' ∧
        ∀ path, x = .file path → c.outDir.isSome → (x.targetPath? c).isSome) ∨
      (∃ path, x = .file path ∧ Path.fileName? path = none ∧
        outcome (x.target c World.system) w = (.error (.input s!"{path} has no file name"), w)) ∨
      ∃ fault, outcome (x.target c World.system) w = (.error (.io fault), w) ∧
        (x.targetPath? c).isSome := by
  cases x with
  | standard => exact .inl ⟨w, rfl, .refl w, fun path h => nomatch h⟩
  | file path =>
      unfold Feed.target Feed.targetPath?
      cases c.output with
      | some o => exact .inl ⟨w, rfl, .refl w, fun _ _ _ => rfl⟩
      | none =>
          cases c.outDir with
          | none => exact .inl ⟨w, rfl, .refl w, fun _ _ h => nomatch h⟩
          | some dir =>
              dsimp only
              unfold targetIn
              cases hname : Path.fileName? path with
              | none => exact .inr (.inl ⟨path, rfl, hname, rfl⟩)
              | some name =>
                  rcases makeDirectories_cases dir w with ⟨w₁, hmake, hstill⟩ | ⟨fault, hmake⟩
                  · refine .inl ⟨w₁, ?_, hstill, fun _ _ _ => rfl⟩
                    dsimp only
                    rw [map_eq_pure_bind, ← bind_assoc, bind_assoc, outcome_bind_ok hmake]
                    rfl
                  · refine .inr (.inr ⟨fault, ?_, rfl⟩)
                    dsimp only
                    rw [map_eq_pure_bind, ← bind_assoc, bind_assoc, outcome_bind_error hmake]

theorem outcome_read (x : Feed) (w : World) :
    outcome (do ofFile (← (x.read World.system : StateM World (Except FileFault String)))) w =
      match x.text w with
      | .ok source => (.ok source, w)
      | .error e => (.error (.io e), w) := by
  cases x with
  | standard => rfl
  | file path =>
      show outcome (ofFile (w.files.read path)) w = _
      rw [Feed.text]
      cases w.files.read path <;> rfl

theorem outcome_log (l : Level) (s : String) (w : World) :
    outcome (World.system.log l s) w = (.ok (), w.note l s) := rfl

theorem outcome_report (x : Feed) (w : World) :
    ∃ w', w.Quiet w' ∧ outcome (x.report World.system) w = (.ok (), w') := by
  cases x with
  | file path => exact ⟨_, w.quiet_note _ _, outcome_log _ _ w⟩
  | standard => exact ⟨w, .refl w, rfl⟩

theorem outcome_expandSource (p : Pass) (source name : String) (w : World) :
    ∃ w', w.Still w' ∧ outcome (expandSource p World.system source name) w =
      match (p.source engineEvaluator source name ()).1 with
      | .ok code => (.ok code, w')
      | .error f => (.error (.expansion (Diagnostic.of f name source)), w') := by
  refine ⟨w.note .debug s!"expanding {name}", (w.quiet_note _ _).still, ?_⟩
  unfold expandSource
  rw [outcome_bind_ok (outcome_log _ _ w)]
  cases (p.source engineEvaluator source name ()).1 <;> rfl

/-- A step puts the result of its feed in its place; a step that fails changes nothing. -/
theorem expandFeed_cases (c : ExpandCommand) (p : Pass) (x : Feed) (w : World) :
    (∃ w' r, outcome (c.expandFeed p World.system x) w = (.ok (), w') ∧ Step c p x w w' r) ∨
      ∃ e w', outcome (c.expandFeed p World.system x) w = (.error e, w') ∧ Fails c p x w e ∧
        w.Still w' := by
  unfold expandFeed
  rw [← bind_assoc]
  -- the steps in their order: reading, expanding, naming the result, writing it
  have hread := outcome_read x w
  cases htext : x.text w with
  | error fault =>
      rw [htext] at hread
      exact .inr ⟨_, w, outcome_bind_error hread, .unreadable htext, .refl w⟩
  | ok source =>
      rw [htext] at hread
      rw [outcome_bind_ok hread]
      obtain ⟨w₁, hstill₁, hsource⟩ := outcome_expandSource p source (x.name c) w
      cases hcode : (p.source engineEvaluator source (x.name c) ()).1 with
      | error f =>
          rw [hcode] at hsource
          exact .inr ⟨_, w₁, outcome_bind_error hsource, .not_expanded htext hcode, hstill₁⟩
      | ok code =>
          rw [hcode] at hsource
          rw [outcome_bind_ok hsource]
          rcases target_cases c x w₁ with ⟨w₂, htarget, hstill₂, hnamed⟩ |
            ⟨path, rfl, hname, htarget⟩ | ⟨fault, htarget, hgoal⟩
          · rw [outcome_bind_ok htarget]
            have hstill := hstill₁.trans hstill₂
            rcases writeResult_cases (x.targetPath? c) code w₂ with
              ⟨w₃, hwrite, hin, hwritten, hprinted⟩ | ⟨fault, w₃, hwrite, hstill₃, hgoal⟩
            · obtain ⟨w₄, hquiet, hreport⟩ := outcome_report x w₃
              have hstill₄ := hquiet.still
              rw [outcome_bind_ok hwrite]
              refine .inl ⟨w₄, ⟨source, code⟩, hreport, htext, hcode,
                hstill₄.input.trans (hin.trans hstill.input), ?_, ?_, ?_⟩
              · intro l hl
                obtain ⟨path, hpath, rfl⟩ := Option.map_eq_some_iff.mp hl
                obtain ⟨hupdate, hout⟩ := hwritten path hpath
                rw [hstill.files.here] at hupdate
                exact ⟨hstill.files.update (hupdate.same hstill₄.files),
                  hstill₄.output.trans (hout.trans hstill.output)⟩
              · intro hl
                obtain ⟨hsame, hout⟩ := hprinted (Option.map_eq_none_iff.mp hl)
                refine ⟨hstill.files.trans (hsame.trans hstill₄.files), ?_⟩
                rw [hstill₄.output, hout, hstill.output]
              · intro path hx hdir
                rw [Feed.goal?, Option.isSome_map]
                exact hnamed path hx hdir
            · exact .inr ⟨_, w₃, outcome_bind_error hwrite,
                .not_written (r := ⟨source, code⟩) htext hcode hgoal, hstill.trans hstill₃⟩
          · exact .inr ⟨_, w₁, outcome_bind_error htarget,
              .nameless (r := ⟨source, code⟩) htext hcode rfl hname, hstill₁⟩
          · exact .inr ⟨_, w₁, outcome_bind_error htarget,
              .not_written (r := ⟨source, code⟩) htext hcode hgoal, hstill₁⟩

end Operations

/-! ## Chains of steps -/

section Chains

variable (c : ExpandCommand) (p : Pass)

/-- Feeds are expanded one after the other, with these results. -/
inductive Chain : List Feed → World → List Result → World → Prop where
  | nil {w w' : World} (h : w.Quiet w') : Chain [] w [] w'
  | cons {x : Feed} {xs : List Feed} {w w₁ w₂ : World} {r : Result} {rs : List Result}
      (h : Step c p x w w₁ r) (hrest : Chain xs w₁ rs w₂) : Chain (x :: xs) w (r :: rs) w₂

end Chains

variable {c : ExpandCommand} {p : Pass} {x : Feed} {xs : List Feed} {w w₁ w' : World}
variable {r : Result} {rs : List Result} {l : Location} {i j : Nat}

/-- The place to which the result of the feed with this number is written. -/
def goalAt? (c : ExpandCommand) (here : Location) (xs : List Feed) (i : Nat) : Option Location :=
  xs[i]?.bind (·.goal? c here)

namespace Step

theorem of_quiet (hw : w.Quiet w₁) (h : Step c p x w₁ w' r) : Step c p x w w' r := by
  have htext : x.text w₁ = x.text w := by
    cases x with
    | file path => exact congrArg (·.read path) hw.files
    | standard => exact congrArg Except.ok hw.input
  obtain ⟨hread, hcode, hin, hwritten, hprinted, hnamed⟩ := h
  rw [hw.files] at hwritten hprinted hnamed
  rw [hw.output] at hwritten hprinted
  exact ⟨htext ▸ hread, hcode, hin.trans hw.input, hwritten, hprinted, hnamed⟩

theorem here (h : Step c p x w w' r) : w'.files.here = w.files.here := by
  cases hgoal : x.goal? c w.files.here with
  | none => exact (h.printed hgoal).1.here
  | some l => exact (h.written l hgoal).1.here

/-- A step changes no file but the one in the place of its result. -/
theorem bytes_of_ne (h : Step c p x w w' r) (hl : x.goal? c w.files.here ≠ some l) :
    w'.files.bytes? l = w.files.bytes? l := by
  cases hgoal : x.goal? c w.files.here with
  | none => exact (h.printed hgoal).1.bytes l
  | some k =>
      have hne : l ≠ k := fun heq => hl (heq ▸ hgoal)
      rw [(h.written k hgoal).1.bytes, if_neg hne]

theorem bytes_of_goal (h : Step c p x w w' r) (hl : x.goal? c w.files.here = some l) :
    w'.files.bytes? l = some r.code.toUTF8 := by
  rw [(h.written l hl).1.bytes, if_pos rfl]

end Step

namespace Chain

theorem of_quiet (hw : w.Quiet w₁) (h : Chain c p xs w₁ rs w') : Chain c p xs w rs w' := by
  cases h with
  | nil h => exact .nil (hw.trans h)
  | cons h hrest => exact .cons (h.of_quiet hw) hrest

theorem length_eq (h : Chain c p xs w rs w') : rs.length = xs.length := by
  induction h with
  | nil _ => rfl
  | cons _ _ ih => rw [List.length_cons, List.length_cons, ih]

/-- Files in no place of a result are unchanged. -/
theorem bytes_of_ne (h : Chain c p xs w rs w') (hl : ∀ i, goalAt? c w.files.here xs i ≠ some l) :
    w'.files.bytes? l = w.files.bytes? l := by
  induction h with
  | nil h => rw [h.files]
  | cons h _ ih =>
      rw [ih, h.bytes_of_ne (hl 0)]
      intro i
      rw [h.here]
      exact hl (i + 1)

/-- Each result is the expansion of the text that was read. -/
theorem expanded (h : Chain c p xs w rs w') (hx : xs[i]? = some x) (hr : rs[i]? = some r) :
    (p.source engineEvaluator r.source (x.name c) ()).1 = .ok r.code := by
  induction h generalizing i with
  | nil _ => cases hx
  | cons h _ ih =>
      cases i with
      | zero =>
          cases hx
          cases hr
          exact h.expanded
      | succ i => exact ih hx hr

/-- What is read of a file is what it held at first, unless a result has been written there. -/
theorem source_of_fresh {path : String} (h : Chain c p xs w rs w') (hx : xs[i]? = some (.file path))
    (hr : rs[i]? = some r)
    (hfresh : ∀ j < i, goalAt? c w.files.here xs j ≠ some (Path.spot w.files.here path)) :
    (w.files.bytes? (Path.spot w.files.here path)).bind String.fromUTF8? = some r.source := by
  induction h generalizing i with
  | nil _ => cases hx
  | cons h _ ih =>
      cases i with
      | zero =>
          cases hx
          cases hr
          exact Files.bytes?_of_read h.read
      | succ i =>
          rw [← h.bytes_of_ne (hfresh 0 (Nat.succ_pos i)), ← h.here]
          refine ih hx hr fun j hj => ?_
          rw [h.here]
          exact hfresh (j + 1) (Nat.succ_lt_succ hj)

/-- What is read of a file to which a result has been written is the latest such result. -/
theorem source_of_written {path : String} (h : Chain c p xs w rs w')
    (hx : xs[i]? = some (.file path)) (hr : rs[i]? = some r) (hj : j < i)
    (hgoal : goalAt? c w.files.here xs j = some (Path.spot w.files.here path))
    (hlast : ∀ k, j < k → k < i → goalAt? c w.files.here xs k
      ≠ some (Path.spot w.files.here path)) :
    ∃ r', rs[j]? = some r' ∧ r.source = r'.code := by
  induction h generalizing i j with
  | nil _ => cases hx
  | @cons x xs w w₁ w₂ r₀ rs h hrest ih =>
      obtain ⟨i, rfl⟩ := Nat.exists_eq_succ_of_ne_zero (Nat.ne_of_gt (Nat.zero_lt_of_lt hj))
      cases j with
      | zero =>
          refine ⟨r₀, rfl, ?_⟩
          have hsource := hrest.source_of_fresh hx hr (by
            intro k hk
            rw [h.here]
            exact hlast (k + 1) (Nat.succ_pos k) (Nat.succ_lt_succ hk))
          rw [h.here, h.bytes_of_goal hgoal, Option.bind_some, Files.fromUTF8?_toUTF8] at hsource
          exact (Option.some.inj hsource).symm
      | succ j =>
          rw [← h.here] at hgoal
          refine ih hx hr (Nat.lt_of_succ_lt_succ hj) hgoal fun k hjk hki => ?_
          rw [h.here]
          exact hlast (k + 1) (Nat.succ_lt_succ hjk) (Nat.succ_lt_succ hki)

/-- The last result for a place is what is there in the end. -/
theorem bytes_of_last (h : Chain c p xs w rs w') (hr : rs[i]? = some r)
    (hgoal : goalAt? c w.files.here xs i = some l)
    (hlast : ∀ j > i, goalAt? c w.files.here xs j ≠ some l) :
    w'.files.bytes? l = some r.code.toUTF8 := by
  induction h generalizing i with
  | nil _ => cases hr
  | cons h hrest ih =>
      cases i with
      | zero =>
          cases hr
          rw [← h.bytes_of_goal hgoal]
          refine hrest.bytes_of_ne fun j => ?_
          rw [h.here]
          exact hlast (j + 1) (Nat.succ_pos j)
      | succ i =>
          rw [← h.here] at hgoal
          refine ih hr hgoal fun j hj => ?_
          rw [h.here]
          exact hlast (j + 1) (Nat.succ_lt_succ hj)

/-- Results that go to no file are printed in order. -/
theorem output_of_none (h : Chain c p xs w rs w')
    (hnone : ∀ x ∈ xs, x.goal? c w.files.here = none) :
    w'.output = w.output ++ String.join (rs.map Result.code) := by
  induction h with
  | nil h => simp [h.output, String.join]
  | cons h _ ih =>
      rw [ih, (h.printed (hnone _ List.mem_cons_self)).2]
      · rw [List.map_cons, String.join_cons, String.append_assoc]
      · intro x hx
        rw [h.here]
        exact hnone x (List.mem_cons_of_mem _ hx)

/-- If every result goes to a file, nothing is printed. -/
theorem output_of_some (h : Chain c p xs w rs w')
    (hsome : ∀ x ∈ xs, (x.goal? c w.files.here).isSome) : w'.output = w.output := by
  induction h with
  | nil h => exact h.output
  | cons h _ ih =>
      obtain ⟨l, hl⟩ := Option.isSome_iff_exists.mp (hsome _ List.mem_cons_self)
      rw [ih, (h.written l hl).2]
      intro x hx
      rw [h.here]
      exact hsome x (List.mem_cons_of_mem _ hx)

/-- With a directory for results, every file that was expanded has a place in it. -/
theorem named {path : String} (h : Chain c p xs w rs w') (hdir : c.outDir.isSome)
    (hx : .file path ∈ xs) : (Feed.goal? c w.files.here (.file path)).isSome := by
  induction h with
  | nil _ => cases hx
  | cons h _ ih =>
      rcases List.mem_cons.mp hx with rfl | hx
      · exact h.named path rfl hdir
      · rw [← h.here]
        exact ih hx

end Chain

/-! ## Runs -/

theorem forM_cases (c : ExpandCommand) (p : Pass) (xs : List Feed) (w : World) :
    (∃ w' rs, outcome (xs.forM (c.expandFeed p World.system)) w = (.ok (), w') ∧
        Chain c p xs w rs w') ∨
      ∃ e w' before x after rs w₁,
        outcome (xs.forM (c.expandFeed p World.system)) w = (.error e, w') ∧
        xs = before ++ x :: after ∧
        outcome (before.forM (c.expandFeed p World.system)) w = (.ok (), w₁) ∧
        Chain c p before w rs w₁ ∧ Fails c p x w₁ e ∧ w₁.Still w' := by
  induction xs generalizing w with
  | nil => exact .inl ⟨w, [], rfl, .nil (.refl w)⟩
  | cons x xs ih =>
      rcases expandFeed_cases c p x w with ⟨w₁, r, hfeed, hstep⟩ | ⟨e, w', hfeed, hfails, hstill⟩
      · have hrun : ∀ ys : List Feed, outcome ((x :: ys).forM (c.expandFeed p World.system)) w =
            outcome (ys.forM (c.expandFeed p World.system)) w₁ := fun ys => outcome_bind_ok hfeed
        rw [hrun]
        rcases ih w₁ with ⟨w', rs, hrest, hchain⟩ |
          ⟨e, w', before, y, after, rs, w₂, hrest, rfl, hbefore, hchain, hfails, hstill⟩
        · exact .inl ⟨w', r :: rs, hrest, .cons hstep hchain⟩
        · exact .inr ⟨e, w', x :: before, y, after, r :: rs, w₂, hrest, rfl,
            (hrun before).trans hbefore, .cons hstep hchain, hfails, hstill⟩
      · exact .inr ⟨e, w', [], x, xs, [], w, outcome_bind_error hfeed, rfl, rfl, .nil (.refl w),
          hfails, hstill⟩

section Checks

variable {m : Type → Type} [Monad m] {o : Options}

/-- Options that are not valid are reported before anything else is done. -/
theorem run_of_options {f : Failure}
    (h : Pass.of (o.override c.values c.noSpecifiers) = .error f) (s : System m) :
    c.run o s = throw (.options f) := by
  unfold run
  rw [h]

/-- Several inputs for one file are refused before anything is read. -/
theorem run_of_output [LawfulMonad m]
    (h : Pass.of (o.override c.values c.noSpecifiers) = .ok p) (hout : c.output.isSome)
    (hlen : 1 < c.inputs.length) (s : System m) :
    c.run o s = (do
      s.log .debug "configured keywords"
      throw (.input "--output takes a single input; use --out-dir for several")) := by
  have hcheck : (c.output.isSome && decide (c.inputs.length > 1)) = true := by
    rw [hout, Bool.true_and, decide_eq_true hlen]
  unfold run
  rw [h]
  dsimp only
  rw [if_pos hcheck]
  congr 1
  funext _
  show (pure (.error _) >>= ExceptT.bindCont _ : m (Except CommandFailure Nat)) = _
  rw [pure_bind]
  rfl

/-- Otherwise the feeds are expanded one after the other. -/
theorem run_of_feeds (h : Pass.of (o.override c.values c.noSpecifiers) = .ok p)
    (hlen : ¬ (c.output.isSome ∧ 1 < c.inputs.length)) (w : World) :
    outcome (c.run o World.system) w =
      match outcome (c.feeds.forM (c.expandFeed p World.system))
        (w.note .debug "configured keywords") with
      | (.ok _, w') => (.ok c.feeds.length, w')
      | (.error e, w') => (.error e, w') := by
  unfold run
  rw [h]
  dsimp only
  rw [outcome_bind_ok (outcome_log _ _ w), if_neg (by simpa using hlen)]
  suffices hprogram : (if c.inputs.isEmpty = true then _ else _) =
      (c.feeds.forM (c.expandFeed p World.system) >>= fun _ => pure c.feeds.length) by
    rw [hprogram, outcome_bind]
    obtain ⟨r, w'⟩ := outcome (c.feeds.forM (c.expandFeed p World.system))
      (w.note .debug "configured keywords")
    cases r <;> rfl
  -- without inputs the standard one is a list of one
  cases hempty : c.inputs.isEmpty with
  | true =>
      have hfeeds : c.feeds = [.standard] := by
        rw [feeds, if_pos hempty]
      rw [hfeeds, if_pos rfl]
      simp only [List.forM_eq_forM, List.forM_cons, List.forM_nil, expandFeed, Feed.read,
        Feed.target, Feed.report, bind_assoc, pure_bind, List.length_singleton, Feed.name]
  | false =>
      have hfeeds : c.feeds = c.inputs.map .file := by
        rw [feeds, hempty]
        rfl
      have hinputs : c.expandInput p World.system =
          fun path => c.expandFeed p World.system (.file path) :=
        funext fun path => expandInput_eq c p World.system path
      rw [hfeeds, if_neg Bool.false_ne_true, hinputs, List.length_map, List.forM_eq_forM,
        List.forM_eq_forM, List.forM_map]

end Checks

end ExpandCommand

end Inlay
