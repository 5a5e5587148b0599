import Mathlib
import Inlay.Files

/-! # What happens to files

    A path that can be followed leads to a place that its text and the current directory determine
    (`Path.spot`): what else is in the file system decides whether it can be followed, not where it
    leads.  So making directories leaves every file as it was (`Files.Same`), and writing changes
    the one file that the path leads to (`Files.Update`). -/

namespace Inlay

namespace Path

/-! ## Places -/

def follow : Location → List String → Location
  | l, [] => l
  | l, p :: ps =>
      if isIdle p then follow l ps
      else if p == ".." then follow l.dropLast ps
      else follow (l ++ [p]) ps

/-- Where a path leads from the current directory. -/
def spot (here : Location) (path : String) : Location :=
  follow (if isRooted path then [] else here) (pieces path)

/-- A piece that names an entry of a directory. -/
def IsName (piece : String) : Prop := piece ≠ "" ∧ piece ≠ "." ∧ piece ≠ ".."

theorem follow_append (l : Location) (ps qs : List String) :
    follow l (ps ++ qs) = follow (follow l ps) qs := by
  induction ps generalizing l with
  | nil => rfl
  | cons p ps ih =>
      rw [List.cons_append, follow, follow]
      split
      · exact ih l
      · split
        · exact ih l.dropLast
        · exact ih (l ++ [p])

theorem follow_idle {l : Location} {ps : List String} (h : ∀ p ∈ ps, isIdle p = true) :
    follow l ps = l := by
  induction ps with
  | nil => rfl
  | cons p ps ih =>
      rw [follow, if_pos (h p List.mem_cons_self)]
      exact ih fun q hq => h q (List.mem_cons_of_mem p hq)

theorem follow_name {name : String} (h : IsName name) (l : Location) :
    follow l [name] = l ++ [name] := by
  have hidle : ¬ isIdle name = true := by
    simp [isIdle, h.1, h.2.1]
  have hup : ¬ (name == "..") = true := by
    simp [h.2.2]
  rw [follow, if_neg hidle, if_neg hup, follow]

/-! ## Cutting a path into pieces -/

section Name

variable {name : String} (hname : IsName name) (hslash : '/' ∉ name.toList)

include hname hslash

end Name

end Path

namespace Files

variable {f f' f'' : Files} {l l' : Location} {path : String}

theorem of_bind_ok {α β : Type} {x : Except FileFault α} {g : α → Except FileFault β} {b : β}
    (h : x >>= g = .ok b) : ∃ a, x = .ok a ∧ g a = .ok b := by
  cases x with
  | error e => cases h
  | ok a => exact ⟨a, rfl, h⟩

/-! ## Following and looking up -/

theorem walk_cons (f : Files) (l : Location) (p : String) (ps : List String) :
    f.walk l (p :: ps) =
      if f.isDirectoryAt l then
        if Path.isIdle p then f.walk l ps
        else if p == ".." then f.walk l.dropLast ps
        else if p.utf8ByteSize > maxName then .error .longName
        else match f.entry? (l ++ [p]) with
          | some _ => f.walk (l ++ [p]) ps
          | none => .error .missing
      else .error .notDirectory := by
  rw [walk]
  cases f.isDirectoryAt l <;> rfl

/-- The entries met on the way do not change where the way leads. -/
theorem walk_eq {ps : List String} (h : f.walk l ps = .ok l') : l' = Path.follow l ps := by
  induction ps generalizing l with
  | nil =>
      cases h
      rfl
  | cons p ps ih =>
      rw [walk_cons] at h
      rw [Path.follow]
      split at h
      · split at h
        · rw [if_pos ‹_›]
          exact ih h
        · rw [if_neg ‹_›]
          split at h
          · rw [if_pos ‹_›]
            exact ih h
          · rw [if_neg ‹_›]
            split at h
            · cases h
            · split at h
              · exact ih h
              · cases h
      · cases h

theorem locate_eq (h : f.locate path = .ok l) : l = Path.spot f.here path := by
  obtain ⟨-, -, hwalk⟩ := of_bind_ok h
  exact walk_eq hwalk

theorem follow_innerPieces (l : Location) (path : String) :
    Path.follow l (innerPieces path) = Path.follow l (Path.pieces path) := by
  have hsplit : Path.pieces path = innerPieces path ++
      ((Path.pieces path).reverse.takeWhile (· == "")).reverse := by
    rw [innerPieces, ← List.reverse_append, List.takeWhile_append_dropWhile, List.reverse_reverse]
  have hidle : ∀ p ∈ ((Path.pieces path).reverse.takeWhile (· == "")).reverse,
      Path.isIdle p = true := by
    intro p hp
    have hempty := List.all_eq_true.mp List.all_takeWhile p (List.mem_reverse.mp hp)
    rw [Path.isIdle, hempty, Bool.true_or]
  rw [hsplit, Path.follow_append, Path.follow_idle hidle]

theorem innerPieces_last {name : String} (h : (innerPieces path).getLast? = some name) :
    name ≠ "" := by
  rw [innerPieces, List.getLast?_reverse] at h
  have hne := List.head?_dropWhile_not (· == "") (Path.pieces path).reverse
  rw [h] at hne
  simpa using hne

/-- The place for a new entry is where its path leads. -/
theorem target_eq (h : f.target path = .ok (some l)) : l = Path.spot f.here path ∧ l ≠ [] := by
  obtain ⟨-, -, h⟩ := of_bind_ok h
  dsimp only at h
  split at h
  · cases h
  · rename_i name hlast
    split at h
    · obtain ⟨-, -, h⟩ := of_bind_ok h
      cases h
    · rename_i hdots
      obtain ⟨dir, hwalk, h⟩ := of_bind_ok h
      have hl : l = dir ++ [name] := by
        split at h
        · cases h
        · split at h
          · cases h
          · cases h
            rfl
      have hname : Path.IsName name := by
        rw [Bool.or_eq_true, beq_iff_eq, beq_iff_eq, not_or] at hdots
        exact ⟨innerPieces_last hlast, hdots.1, hdots.2⟩
      obtain ⟨above, hsplit⟩ := List.getLast?_eq_some_iff.mp hlast
      rw [hsplit, List.dropLast_concat] at hwalk
      refine ⟨?_, by simp [hl]⟩
      rw [Path.spot, ← follow_innerPieces, hsplit, Path.follow_append, Path.follow_name hname, hl,
        walk_eq hwalk, origin]

def bytes? (f : Files) (l : Location) : Option ByteArray :=
  match f.entry? l with
  | some (.file bytes) => some bytes
  | _ => none

theorem lookup_map_put (entries : List (Location × Entry)) (l l' : Location) (e : Entry) :
    (entries.map fun x => if x.1 == l then (l, e) else x).lookup l' =
      if l' = l then (entries.lookup l).map fun _ => e else entries.lookup l' := by
  induction entries with
  | nil =>
      split <;> rfl
  | cons x entries ih =>
      obtain ⟨k, d⟩ := x
      rw [List.map_cons]
      by_cases hk : k = l
      · subst hk
        rw [if_pos BEq.rfl]
        by_cases hl : l' = k
        · subst hl
          rw [if_pos rfl, List.lookup_cons_self, List.lookup_cons_self, Option.map_some]
        · have hne : (l' == k) = false := by simpa using hl
          rw [if_neg hl, List.lookup_cons, List.lookup_cons, hne, ih, if_neg hl]
      · rw [if_neg (by simpa using hk), List.lookup_cons, ih]
        by_cases hl : l' = l
        · subst hl
          have hne : (l' == k) = false := by simpa using Ne.symm hk
          rw [if_pos rfl, if_pos rfl, List.lookup_cons, hne]
        · rw [if_neg hl, if_neg hl, List.lookup_cons]

theorem lookup_put (f : Files) (l l' : Location) (e : Entry) :
    (f.put l e).entries.lookup l' = if l' = l then some e else f.entries.lookup l' := by
  unfold put
  split
  · rename_i hsome
    obtain ⟨d, hd⟩ := Option.isSome_iff_exists.mp hsome
    show (f.entries.map _).lookup l' = _
    rw [lookup_map_put, hd, Option.map_some]
  · rename_i hnone
    show (f.entries ++ [(l, e)]).lookup l' = _
    rw [List.lookup_append]
    by_cases hl : l' = l
    · subst hl
      rw [Option.not_isSome_iff_eq_none.mp hnone, if_pos rfl, List.lookup_cons_self]
      rfl
    · have hne : (l' == l) = false := by simpa using hl
      rw [if_neg hl, List.lookup_cons, hne]
      exact Option.or_none

theorem here_put (f : Files) (l : Location) (e : Entry) : (f.put l e).here = f.here := by
  unfold put
  split <;> rfl

theorem entry?_put (hl : l ≠ []) (e : Entry) (l' : Location) :
    Files.entry? (f.put l e) l' = if l' = l then some e else f.entry? l' := by
  unfold entry?
  by_cases hroot : l' = []
  · subst hroot
    rw [if_neg (Ne.symm hl)]
    rfl
  · have hempty : ¬ List.isEmpty l' = true := fun h => hroot (List.isEmpty_iff.mp h)
    rw [if_neg hempty, if_neg hempty, lookup_put]

/-! ## Changes -/

/-- The same files in the same current directory; directories may have come. -/
structure Same (f f' : Files) : Prop where
  here : f'.here = f.here
  bytes : ∀ l, f'.bytes? l = f.bytes? l

theorem Same.refl (f : Files) : Same f f := ⟨rfl, fun _ => rfl⟩

theorem Same.trans (h : Same f f') (h' : Same f' f'') : Same f f'' :=
  ⟨h'.here.trans h.here, fun l => (h'.bytes l).trans (h.bytes l)⟩

/-- The file at one place holds other bytes, or is new. -/
structure Update (f f' : Files) (l : Location) (bytes : ByteArray) : Prop where
  here : f'.here = f.here
  bytes : ∀ l', f'.bytes? l' = if l' = l then some bytes else f.bytes? l'

theorem Same.update {bytes : ByteArray} (h : Same f f') (h' : Update f' f'' l bytes) :
    Update f f'' l bytes := by
  refine ⟨h'.here.trans h.here, fun l' => ?_⟩
  rw [h'.bytes, h.bytes]

theorem Update.same {bytes : ByteArray} (h : Update f f' l bytes) (h' : Same f' f'') :
    Update f f'' l bytes := by
  refine ⟨h'.here.trans h.here, fun l' => ?_⟩
  rw [h'.bytes, h.bytes]

theorem same_of_makeDirectory (h : f.makeDirectory path = .ok f') : Same f f' := by
  obtain ⟨place, htarget, h⟩ := of_bind_ok h
  split at h
  · cases h
  · rename_i l
    split at h
    · cases h
    · rename_i hentry
      cases h
      refine ⟨here_put f l _, fun l' => ?_⟩
      rw [bytes?, bytes?, entry?_put (target_eq htarget).2]
      by_cases hl : l' = l
      · rw [if_pos hl, hl, hentry]
      · rw [if_neg hl]

theorem same_of_makeDirectoriesWithin {n : Nat} (h : f.makeDirectoriesWithin n path = .ok f') :
    Same f f' := by
  induction n generalizing f path f' with
  | zero => cases h
  | succ n ih =>
      rw [makeDirectoriesWithin] at h
      split at h
      · cases h
        exact .refl f
      · split at h
        · rename_i hmake
          cases h
          exact same_of_makeDirectory hmake
        · split at h
          · cases h
          · obtain ⟨f₁, hparent, h⟩ := of_bind_ok h
            refine (ih hparent).trans ?_
            split at h
            · rename_i hmake
              cases h
              exact same_of_makeDirectory hmake
            · split at h
              · cases h
                exact .refl _
              · cases h
        · split at h
          · cases h
            exact .refl f
          · cases h

/-- Making directories leaves every file as it was. -/
theorem same_of_makeDirectories (h : f.makeDirectories path = .ok f') : Same f f' :=
  same_of_makeDirectoriesWithin h

theorem update_of_write {bytes : ByteArray} (h : f.write path bytes = .ok f') :
    Update f f' (Path.spot f.here path) bytes := by
  obtain ⟨place, htarget, h⟩ := of_bind_ok h
  split at h
  · cases h
  · rename_i l
    obtain ⟨hspot, hl⟩ := target_eq htarget
    split at h
    · cases h
    · cases h
      refine ⟨here_put f l _, fun l' => ?_⟩
      rw [bytes?, entry?_put hl, ← hspot]
      by_cases hl' : l' = l
      · rw [if_pos hl', if_pos hl']
      · rw [if_neg hl', if_neg hl', bytes?]

theorem bytes?_of_read {text : String} (h : f.read path = .ok text) :
    (f.bytes? (Path.spot f.here path)).bind String.fromUTF8? = some text := by
  obtain ⟨l, hlocate, h⟩ := of_bind_ok h
  rw [← locate_eq hlocate, bytes?]
  split at h
  · rename_i bytes hentry
    rw [hentry]
    split at h
    · rename_i hutf
      cases h
      exact hutf
    · cases h
  · cases h
  · cases h

theorem fromUTF8?_toUTF8 (text : String) : String.fromUTF8? text.toUTF8 = some text := by
  unfold String.fromUTF8?
  rw [String.toUTF8_eq_toByteArray, dif_pos text.isValidUTF8]
  rfl

end Files

end Inlay
