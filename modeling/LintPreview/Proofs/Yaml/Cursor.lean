import LintPreview.Proofs.Yaml.Folded
import LintPreview.Yaml.Token.Stream

/-!
# Cursors

* `EndsGap`, `Continues`: what may stand behind the spaces of a gap, and behind those at the start of a line.
* `Cursor.advanceBy_printable`, `Cursor.advanceBy_newline`: where a cursor stands behind words and behind a line end.
* `Cursor.takeWhile_eq`, `Cursor.takeLineBreak?_newline`, `Cursor.atSeparator_advance`: what a cursor sees there.
-/

namespace LintPreview.Yaml

/-- What stands behind a gap: no blank, and no end of a line. -/
def EndsGap (rest : List CodePoint) : Prop := ∀ x ∈ rest.head?, isBlankOrEnd x = false

/-- What stands at the start of a line behind its spaces: neither a comment nor a mark between documents. -/
structure Continues (rest : List CodePoint) : Prop where
  endsGap : EndsGap rest
  noComment : rest.head? ≠ some (.char '#')
  noSeparator : startsLikeSeparator rest = false

theorem continues_nil : Continues [] := ⟨nofun, nofun, rfl⟩

theorem EndsGap.not_blank {rest : List CodePoint} (h : EndsGap rest) :
    ∀ x ∈ rest.head?, (x == CodePoint.char ' ' || x == CodePoint.char '\t') = false := by
  intro x hx
  obtain ⟨htab, hspace⟩ := Bool.or_eq_false_iff.mp (h x hx)
  rw [htab, (Bool.or_eq_false_iff.mp hspace).1]
  rfl

theorem EndsGap.not_space {rest : List CodePoint} (h : EndsGap rest) : ∀ x ∈ rest.head?, (x == CodePoint.char ' ') = false :=
  fun x hx => (Bool.or_eq_false_iff.mp (h.not_blank x hx)).1

theorem EndsGap.not_break {rest : List CodePoint} (h : EndsGap rest) : ∀ x ∈ rest.head?, isBreak x = false :=
  fun x hx => (Bool.or_eq_false_iff.mp (Bool.or_eq_false_iff.mp (Bool.or_eq_false_iff.mp (h x hx)).2).2).2

theorem IsPrintable.isBreak {x : CodePoint} (h : IsPrintable x) : isBreak x = false :=
  (Bool.or_eq_false_iff.mp h.isBreakOrEnd).2

namespace Cursor

variable {c : Cursor} {x : CodePoint} {w rest : List CodePoint} {m n : ℕ}

/-! ### Places -/

theorem advanceBy_add (m n : ℕ) (c : Cursor) : c.advanceBy (m + n) = (c.advanceBy m).advanceBy n := by
  induction m generalizing c with
  | zero => rw [Nat.zero_add]; rfl
  | succ m ih =>
    rw [Nat.succ_add]
    exact ih c.advance

theorem rest_advance (c : Cursor) : c.advance.rest = c.rest.tail := by
  unfold advance
  split
  · rename_i h
    rw [h]
    rfl
  · rename_i x rest h
    rw [h]
    split
    · rfl
    · split <;> rfl

theorem size_advance (c : Cursor) : c.advance.size = c.size := by
  unfold advance
  split
  · rfl
  · split
    · rfl
    · split <;> rfl

theorem line_le_advance (c : Cursor) : c.line ≤ c.advance.line := by
  unfold advance
  split
  · exact le_rfl
  · split
    · exact Nat.le_succ _
    · split <;> exact le_rfl

@[simp] theorem rest_advanceBy (n : ℕ) (c : Cursor) : (c.advanceBy n).rest = c.rest.drop n := by
  induction n generalizing c with
  | zero => rfl
  | succ n ih => rw [advanceBy, ih, rest_advance, List.drop_tail]

@[simp] theorem size_advanceBy (n : ℕ) (c : Cursor) : (c.advanceBy n).size = c.size := by
  induction n generalizing c with
  | zero => rfl
  | succ n ih => rw [advanceBy, ih, size_advance]

theorem line_le_advanceBy (n : ℕ) (c : Cursor) : c.line ≤ (c.advanceBy n).line := by
  induction n generalizing c with
  | zero => exact le_rfl
  | succ n ih => exact (line_le_advance c).trans (ih c.advance)

/-- The text left is no longer than the whole one. -/
theorem fits_advanceBy (n : ℕ) (h : c.rest.length ≤ c.size) : (c.advanceBy n).rest.length ≤ (c.advanceBy n).size := by
  rw [rest_advanceBy, size_advanceBy, List.length_drop]
  omega

theorem rest_advanceBy_append (h : c.rest = w ++ rest) : (c.advanceBy w.length).rest = rest := by
  rw [rest_advanceBy, h, List.drop_left]

theorem rest_advanceBy_spaces (h : c.rest = List.replicate m (.char ' ') ++ rest) : (c.advanceBy m).rest = rest := by
  have := rest_advanceBy_append h
  rwa [List.length_replicate] at this

/-- Characters that stand for themselves take a column each. -/
theorem advanceBy_printable (h : c.rest = w ++ rest) (hw : ArePrintable w) :
    c.advanceBy w.length = ⟨c.size, rest, c.index + w.length, c.line, c.column + w.length⟩ := by
  induction w generalizing c with
  | nil =>
    obtain ⟨size, crest, index, line, column⟩ := c
    cases h
    rfl
  | cons x w ih =>
    obtain ⟨hx, hw⟩ := List.forall_mem_cons.mp hw
    have hadvance : c.advance = ⟨c.size, w ++ rest, c.index + 1, c.line, c.column + 1⟩ := by
      unfold advance
      rw [h]
      dsimp only [List.cons_append]
      rw [hx.isBreak, hx.ne_mark]
      rfl
    rw [List.length_cons, advanceBy, hadvance, ih rfl hw]
    simp only [Cursor.mk.injEq, true_and]
    omega

theorem advance_lineFeed (h : c.rest = .char '\n' :: rest) : c.advance = ⟨c.size, rest, c.index + 1, c.line + 1, 0⟩ := by
  unfold advance
  rw [h]
  rfl

theorem arePrintable_spaces (n : ℕ) : ArePrintable (List.replicate n (.char ' ')) := by
  intro x hx
  rw [List.eq_of_mem_replicate hx]
  decide

/-- A new line starts behind its spaces. -/
theorem advanceBy_newline (h : c.rest = newline m ++ rest) :
    c.advanceBy (m + 1) = ⟨c.size, rest, c.index + (m + 1), c.line + 1, m⟩ := by
  have hline : c.advance = ⟨c.size, List.replicate m (.char ' ') ++ rest, c.index + 1, c.line + 1, 0⟩ := advance_lineFeed h
  have hafter : c.advance.rest = List.replicate m (.char ' ') ++ rest := by rw [hline]
  have hspaces := advanceBy_printable hafter (arePrintable_spaces m)
  rw [List.length_replicate] at hspaces
  rw [Nat.add_comm m 1, advanceBy_add]
  show c.advance.advanceBy m = _
  rw [hspaces, hline]
  simp only [Cursor.mk.injEq, true_and]
  omega

/-! ### Looking ahead -/

theorem peek_cons (h : c.rest = x :: rest) : c.peek = x := by rw [peek, h]; rfl

theorem takeWhile_eq {p : CodePoint → Bool} (h : c.rest = w ++ rest) (hw : ∀ x ∈ w, p x = true)
    (hrest : ∀ x ∈ rest.head?, p x = false) : c.takeWhile p = (w, c.advanceBy w.length) := by
  have htaken : c.rest.takeWhile p = w := by
    rw [h, List.takeWhile_append_of_pos hw]
    cases rest with
    | nil => simp
    | cons x rest => simp [hrest x rfl]
  rw [takeWhile, htaken]

theorem skipWhile_spaces (h : c.rest = List.replicate m (.char ' ') ++ rest) {p : CodePoint → Bool}
    (hp : p (.char ' ') = true) (hrest : ∀ x ∈ rest.head?, p x = false) : c.skipWhile p = c.advanceBy m := by
  rw [skipWhile, takeWhile_eq h (fun x hx => by rw [List.eq_of_mem_replicate hx]; exact hp) hrest, List.length_replicate]

theorem takeLineBreak?_eq_none (h : ∀ x ∈ c.rest.head?, isBreak x = false) : c.takeLineBreak? = none := by
  unfold takeLineBreak?
  split
  · rename_i heq
    exact absurd (h (.char '\r') (by rw [heq]; rfl)) (by decide)
  · rename_i x rest _ heq
    have hx := h x (by rw [heq]; rfl)
    simp only [isBreak, Bool.or_eq_false_iff] at hx
    obtain ⟨⟨⟨⟨h1, h2⟩, h3⟩, h4⟩, h5⟩ := hx
    rw [h1, h2, h3, h4, h5]
    rfl
  · rfl

theorem takeLineBreak?_newline (h : c.rest = newline m ++ rest) : c.takeLineBreak? = some (.char '\n', c.advance) := by
  unfold takeLineBreak?
  rw [h]
  rfl

theorem atThree_eq_false {mark : Char} (hmark : CodePoint.char '\x00' ≠ .char mark)
    (h : ¬ [CodePoint.char mark, .char mark, .char mark] <+: c.rest) : c.atThree (.char mark) = false := by
  rw [Bool.eq_false_iff]
  intro hthree
  simp only [atThree, peekAt, Bool.and_eq_true, beq_iff_eq] at hthree
  obtain ⟨⟨⟨h0, h1⟩, h2⟩, -⟩ := hthree
  match hrest : c.rest with
  | [] => exact hmark (by simpa [hrest] using h0)
  | [x] => exact hmark (by simpa [hrest] using h1)
  | [x, y] => exact hmark (by simpa [hrest] using h2)
  | x :: y :: z :: rest =>
    rw [hrest] at h h0 h1 h2
    simp only [List.drop_zero, List.drop_succ_cons, List.head?_cons, Option.getD_some] at h0 h1 h2
    subst h0 h1 h2
    exact h (List.prefix_append _ rest)

/-- No mark between documents stands where none is written. -/
theorem atSeparator_eq_false (h : startsLikeSeparator c.rest = false) : c.atSeparator = false := by
  obtain ⟨hdash, hdot⟩ := startsLikeSeparator_eq_false_iff.mp h
  rw [atSeparator, atThree_eq_false (by decide) hdash, atThree_eq_false (by decide) hdot]
  rfl

/-- At the start of a line there is a space, or what follows is no such mark. -/
theorem atSeparator_advance (h : c.rest = newline m ++ rest) (hm : 0 < m ∨ startsLikeSeparator rest = false) :
    c.advance.atSeparator = false := by
  refine atSeparator_eq_false ?_
  rw [rest_advance, h]
  show startsLikeSeparator (List.replicate m (.char ' ') ++ rest) = false
  cases m with
  | zero => exact hm.resolve_left (Nat.lt_irrefl 0)
  | succ m => rfl

end Cursor

end LintPreview.Yaml
