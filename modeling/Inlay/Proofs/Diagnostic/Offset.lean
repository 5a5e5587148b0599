import Mathlib
import Inlay.Diagnostic

/-! # Places and byte offsets

    A text is cut behind each line end (`Cut`); a place names a piece and a number of characters in
    it.  `offsetOf` turns places into byte offsets.  The text up to such an offset is `upTo`: a
    prefix of the whole that ends in the piece, and that grows with the place.  In the other
    direction, what stands before a character gives its place (`placeAfter`), and `offsetOf` leads
    back from there. -/

namespace Inlay

/-! ## Bytes -/

theorem byteLength_append (cs ds : List Char) :
    byteLength (cs ++ ds) = byteLength cs + byteLength ds := by
  induction cs with
  | nil => simp [byteLength]
  | cons c cs ih => simp [byteLength, ih, Nat.add_assoc]

theorem byteLength_le_of_isPrefix {cs ds : List Char} (h : cs <+: ds) :
    byteLength cs ≤ byteLength ds := by
  obtain ⟨es, rfl⟩ := h
  rw [byteLength_append]
  exact Nat.le_add_right _ _

theorem byteLength_eq (cs : List Char) : byteLength cs = (String.ofList cs).utf8ByteSize := by
  induction cs with
  | nil => rfl
  | cons c cs ih =>
      rw [byteLength, ih, String.ofList_cons, String.utf8ByteSize_append,
        String.utf8ByteSize_singleton]

theorem isValid_of_isPrefix {cs : List Char} {source : String} (h : cs <+: source.toList) :
    (⟨byteLength cs⟩ : String.Pos.Raw).IsValid source := by
  obtain ⟨ds, hds⟩ := h
  refine String.Pos.Raw.isValid_iff_exists_append.mpr ⟨String.ofList cs, String.ofList ds, ?_, ?_⟩
  · rw [← String.ofList_append, hds, String.ofList_toList]
  · rw [byteLength_eq]
    rfl

/-! ## Pieces -/

/-- A text and its pieces when it is cut behind each line end. -/
inductive Cut : List Char → List (List Char) → Prop where
  | nil : Cut [] []
  | last {l : List Char} (hline : '\n' ∉ l) (hne : l ≠ []) : Cut l [l]
  | next {l cs : List Char} {ls : List (List Char)} (hline : '\n' ∉ l) (hrest : Cut cs ls) :
      Cut (l ++ '\n' :: cs) ((l ++ ['\n']) :: ls)

theorem Cut.flatten {cs : List Char} {ls : List (List Char)} (h : Cut cs ls) : ls.flatten = cs := by
  induction h with
  | nil => rfl
  | last _ _ => simp
  | next _ _ ih => simp [ih]

theorem cut_linesOf (cs : List Char) : Cut cs (linesOf cs) := by
  induction cs with
  | nil => exact .nil
  | cons c cs ih =>
      rw [linesOf]
      by_cases hc : c = '\n'
      · subst hc
        exact .next (l := []) List.not_mem_nil ih
      · have hnot {l : List Char} (hl : '\n' ∉ l) : '\n' ∉ c :: l :=
          List.not_mem_cons_of_ne_of_not_mem (Ne.symm hc) hl
        rw [if_neg (by simpa using hc)]
        -- the character belongs to the first piece of the rest
        generalize linesOf cs = ls at ih
        cases ih with
        | nil => exact .last (hnot List.not_mem_nil) (List.cons_ne_nil _ _)
        | last hl _ => exact .last (hnot hl) (List.cons_ne_nil _ _)
        | next hl hrest => exact .next (l := c :: _) (hnot hl) hrest

/-! ## Places -/

/-- The characters before a place: the pieces before its line, and its column of the line. -/
def upTo (ls : List (List Char)) (p : Place) : List Char :=
  (ls.take (p.line - 1)).flatten ++ (ls[p.line - 1]?.getD []).take (p.column - 1)

theorem offsetOf_eq_some_iff {source : String} {p : Place} {o : Nat} :
    offsetOf source p = some o ↔
      1 ≤ p.line ∧ p.line ≤ (linesOf source.toList).length ∧
        o = byteLength (upTo (linesOf source.toList) p) := by
  unfold offsetOf upTo
  dsimp only
  by_cases hline : p.line = 0
  · simp [hline]
  rw [if_neg (by simpa using hline), byteLength_append]
  by_cases hlen : p.line ≤ (linesOf source.toList).length
  · have hget := List.getElem?_eq_getElem (l := linesOf source.toList) (i := p.line - 1) (by omega)
    rw [hget, Option.map_some, Option.some_inj, Option.getD_some]
    exact ⟨fun h => ⟨by omega, hlen, h.symm⟩, fun h => h.2.2.symm⟩
  · rw [List.getElem?_eq_none (by omega), Option.map_none]
    exact ⟨nofun, fun h => absurd h.2.1 hlen⟩

/-- The pieces up to a place, with that of the place itself. -/
theorem flatten_take_succ (ls : List (List Char)) (n : Nat) :
    (ls.take (n + 1)).flatten = (ls.take n).flatten ++ ls[n]?.getD [] := by
  rw [List.take_add_one, List.flatten_append]
  cases ls[n]? <;> simp

theorem upTo_isPrefix_line (ls : List (List Char)) {p : Place} (hp : 1 ≤ p.line) :
    upTo ls p <+: (ls.take p.line).flatten := by
  obtain ⟨line, column⟩ := p
  obtain ⟨n, rfl⟩ : ∃ n, line = n + 1 := ⟨line - 1, by dsimp only at hp; omega⟩
  rw [flatten_take_succ]
  exact List.prefix_append_right_inj _ |>.mpr (List.take_prefix _ _)

theorem flatten_take_isPrefix (ls : List (List Char)) {m n : Nat} (h : m ≤ n) :
    (ls.take m).flatten <+: (ls.take n).flatten := by
  rw [← List.take_append_drop m (ls.take n), List.take_take, Nat.min_eq_left h, List.flatten_append]
  exact List.prefix_append _ _

theorem upTo_isPrefix {cs : List Char} {ls : List (List Char)} (h : Cut cs ls) {p : Place}
    (hp : 1 ≤ p.line) : upTo ls p <+: cs := by
  have hall := flatten_take_isPrefix ls (Nat.le_max_left p.line ls.length)
  rw [List.take_of_length_le (Nat.le_max_right _ _), h.flatten] at hall
  exact (upTo_isPrefix_line ls hp).trans hall

theorem upTo_mono (ls : List (List Char)) {p q : Place} (hp : 1 ≤ p.line)
    (h : p.line < q.line ∨ p.line = q.line ∧ p.column ≤ q.column) : upTo ls p <+: upTo ls q := by
  rcases h with hline | ⟨hline, hcolumn⟩
  · exact ((upTo_isPrefix_line ls hp).trans (flatten_take_isPrefix ls (by omega))).trans
      (List.prefix_append _ _)
  · rw [upTo, upTo, hline]
    exact (List.prefix_append_right_inj _).mpr (List.take_prefix_take_left (by omega))

/-- The characters behind the last line end, the last one first. -/
def lineBefore (pre : List Char) : List Char := pre.reverse.takeWhile (· != '\n')

/-- The place of the character that stands behind these. -/
def placeAfter (pre : List Char) : Place := ⟨1 + pre.count '\n', 1 + (lineBefore pre).length⟩

theorem lineBefore_of_not_mem {pre : List Char} (h : '\n' ∉ pre) :
    lineBefore pre = pre.reverse := by
  have hall : ∀ c ∈ pre.reverse, (c != '\n') = true := by
    intro c hc
    rw [bne_iff_ne]
    exact fun heq => h (heq ▸ List.mem_reverse.mp hc)
  rw [lineBefore, ← List.append_nil pre.reverse, List.takeWhile_append_of_pos hall,
    List.takeWhile_nil]

theorem lineBefore_append (l pre : List Char) :
    lineBefore (l ++ '\n' :: pre) = lineBefore pre := by
  have hreverse : (l ++ '\n' :: pre).reverse = pre.reverse ++ '\n' :: l.reverse := by simp
  rw [lineBefore, hreverse, List.takeWhile_append]
  split
  next hall => simp [lineBefore, (List.takeWhile_prefix _).eq_of_length hall]
  next => rfl

/-- The piece in which a character stands: the line ends before the character tell which one it is,
    and the characters behind the last of them how much of it comes first. -/
theorem Cut.split {cs pre post : List Char} {c : Char} {ls : List (List Char)} (h : Cut cs ls)
    (hcs : cs = pre ++ c :: post) :
    ∃ before d e after, ls = before ++ (d ++ c :: e) :: after ∧ pre = before.flatten ++ d ∧
      before.length = pre.count '\n' ∧ d.length = (lineBefore pre).length := by
  have hfirst {l e : List Char} {ls : List (List Char)} {pre : List Char} (hline : '\n' ∉ pre)
      (hl : l = pre ++ c :: e) :
      ∃ before d e after, l :: ls = before ++ (d ++ c :: e) :: after ∧ pre = before.flatten ++ d ∧
        before.length = pre.count '\n' ∧ d.length = (lineBefore pre).length := by
    refine ⟨[], pre, e, ls, by rw [hl, List.nil_append], rfl, ?_, ?_⟩
    · rw [List.count_eq_zero_of_not_mem hline, List.length_nil]
    · rw [lineBefore_of_not_mem hline, List.length_reverse]
  induction h generalizing pre with
  | nil => simp at hcs
  | last hl _ => exact hfirst (fun hmem => hl (hcs ▸ List.mem_append_left _ hmem)) hcs
  | @next l cs ls hl _ ih =>
      rcases List.append_eq_append_iff.mp hcs with ⟨ds, rfl, hds⟩ | ⟨ds, rfl, hds⟩
      · cases ds with
        | nil =>
            obtain ⟨rfl, -⟩ := List.cons.inj hds
            rw [List.append_nil]
            exact hfirst hl rfl
        | cons d ds =>
            obtain ⟨rfl, hrest⟩ := List.cons.inj hds
            obtain ⟨before, d, e, after, rfl, hpre, hcount, hlength⟩ := ih hrest
            refine ⟨(l ++ ['\n']) :: before, d, e, after, rfl, by simp [hpre], ?_, ?_⟩
            · rw [List.length_cons, hcount, List.count_append, List.count_eq_zero_of_not_mem hl,
                List.count_cons_self, Nat.zero_add]
            · rw [lineBefore_append, hlength]
      · have hline : '\n' ∉ pre := fun hmem => hl (List.mem_append_left _ hmem)
        cases ds with
        | nil =>
            obtain ⟨rfl, -⟩ := List.cons.inj hds
            exact hfirst (e := []) hline (by simp)
        | cons d ds =>
            obtain ⟨rfl, -⟩ := List.cons.inj hds
            exact hfirst (e := ds ++ ['\n']) hline (by simp)

theorem upTo_append (before after : List (List Char)) (l : List Char) (column : Nat) :
    upTo (before ++ l :: after) ⟨1 + before.length, column⟩ =
      before.flatten ++ l.take (column - 1) := by
  simp [upTo]

theorem offsetOf_placeAfter {source : String} {pre post : List Char} {c : Char}
    (h : source.toList = pre ++ c :: post) :
    offsetOf source (placeAfter pre) = some (byteLength pre) := by
  obtain ⟨before, d, e, after, hls, rfl, hcount, hlength⟩ := (cut_linesOf source.toList).split h
  rw [offsetOf_eq_some_iff, hls, placeAfter, ← hcount, ← hlength, upTo_append]
  refine ⟨Nat.le_add_right _ _, ?_, by simp⟩
  show 1 + before.length ≤ _
  rw [List.length_append, List.length_cons]
  omega

/-- Prefixes of one text that take as many bytes are equal. -/
theorem prefix_eq_of_byteLength {cs ds es : List Char} (hcs : cs <+: es) (hds : ds <+: es)
    (h : byteLength cs = byteLength ds) : cs = ds := by
  have hnil {cs ds : List Char} (hpre : cs <+: ds) (h : byteLength cs = byteLength ds) :
      cs = ds := by
    obtain ⟨rest, rfl⟩ := hpre
    rw [byteLength_append] at h
    cases rest with
    | nil => rw [List.append_nil]
    | cons c rest =>
        have hpos := Char.utf8Size_pos c
        rw [byteLength] at h
        omega
  rcases List.prefix_or_prefix_of_prefix hcs hds with hpre | hpre
  · exact hnil hpre h
  · exact (hnil hpre h.symm).symm

/-- No other place from the line of a character on has the offset of the character. -/
theorem offsetOf_eq_byteLength_iff {source : String} {pre post : List Char} {c : Char} {p : Place}
    (h : source.toList = pre ++ c :: post) (hline : 1 + pre.count '\n' ≤ p.line) :
    offsetOf source p = some (byteLength pre) ↔
      p.line = 1 + pre.count '\n' ∧ p.column - 1 = (lineBefore pre).length := by
  constructor
  · intro hoffset
    obtain ⟨hone, -, hbytes⟩ := offsetOf_eq_some_iff.mp hoffset
    have hcut := cut_linesOf source.toList
    have hup := (prefix_eq_of_byteLength ⟨c :: post, h.symm⟩ (upTo_isPrefix hcut hone) hbytes).symm
    obtain ⟨before, d, e, after, hls, rfl, hcount, hlength⟩ := hcut.split h
    obtain ⟨line, column⟩ := p
    rw [← hcount] at hline
    rw [← hcount, ← hlength]
    rw [hls] at hup
    rcases Nat.eq_or_lt_of_le hline with rfl | hline
    · rw [upTo_append, List.append_cancel_left_eq] at hup
      have hlen := congrArg List.length hup
      rw [List.length_take, List.length_append, List.length_cons] at hlen
      exact ⟨rfl, show column - 1 = d.length by omega⟩
    · -- the whole piece of the character would come before the place
      have hpiece := upTo_mono (before ++ (d ++ c :: e) :: after)
        (p := ⟨1 + before.length, d.length + 2⟩) (Nat.le_add_right _ _) (.inl hline)
      rw [hup, upTo_append] at hpiece
      have hlen := hpiece.length_le
      rw [List.length_append, List.length_append, List.length_take, List.length_append,
        List.length_cons] at hlen
      omega
  · rintro ⟨hline, hcolumn⟩
    rw [← offsetOf_placeAfter h]
    unfold offsetOf placeAfter
    rw [hline, hcolumn, Nat.add_sub_cancel_left, Nat.add_sub_cancel_left]

/-- Places and byte offsets of a text.  A place has an offset if and only if its line is one of the
    pieces into which the text is cut.  The offset lies in the text and in that line, at its end at
    the most, and between two characters; it does not decrease from a place to a later one.  At the
    place of a character it is the offset of the character. -/
theorem offsetOf_inverts_places (source : String) :
    ∃ pieces, Cut source.toList pieces ∧
      (∀ p, (offsetOf source p).isSome ↔ 1 ≤ p.line ∧ p.line ≤ pieces.length) ∧
      (∀ p o, offsetOf source p = some o →
        o ≤ source.utf8ByteSize ∧ (⟨o⟩ : String.Pos.Raw).IsValid source ∧
          (String.ofList (pieces.take (p.line - 1)).flatten).utf8ByteSize ≤ o ∧
          o ≤ (String.ofList (pieces.take p.line).flatten).utf8ByteSize) ∧
      (∀ p q o o', offsetOf source p = some o → offsetOf source q = some o' →
        p.line < q.line ∨ p.line = q.line ∧ p.column ≤ q.column → o ≤ o') ∧
      ∀ pre c post, source.toList = pre ++ c :: post →
        offsetOf source ⟨1 + pre.count '\n', 1 + (pre.reverse.takeWhile (· != '\n')).length⟩
          = some (String.ofList pre).utf8ByteSize := by
  have hcut := cut_linesOf source.toList
  refine ⟨linesOf source.toList, hcut, fun p => ?_, fun p o ho => ?_, fun p q o o' ho ho' hpq => ?_,
    fun pre c post h => ?_⟩
  · rw [Option.isSome_iff_exists]
    exact ⟨fun ⟨o, ho⟩ => ⟨(offsetOf_eq_some_iff.mp ho).1, (offsetOf_eq_some_iff.mp ho).2.1⟩,
      fun h => ⟨_, offsetOf_eq_some_iff.mpr ⟨h.1, h.2, rfl⟩⟩⟩
  · obtain ⟨hline, -, rfl⟩ := offsetOf_eq_some_iff.mp ho
    have hvalid := isValid_of_isPrefix (upTo_isPrefix hcut hline)
    rw [← byteLength_eq, ← byteLength_eq]
    exact ⟨hvalid.le_utf8ByteSize, hvalid, byteLength_le_of_isPrefix (List.prefix_append _ _),
      byteLength_le_of_isPrefix (upTo_isPrefix_line _ hline)⟩
  · obtain ⟨hline, -, rfl⟩ := offsetOf_eq_some_iff.mp ho
    obtain ⟨-, -, rfl⟩ := offsetOf_eq_some_iff.mp ho'
    exact byteLength_le_of_isPrefix (upTo_mono _ hline hpq)
  · rw [← byteLength_eq]
    exact offsetOf_placeAfter h

end Inlay
