import LintPreview.Proofs.Yaml.Cursor

/-!
# Scalars that are read

* `takePlainFrom_eq`, `takeQuotedFrom_eq`: the words of a text are read across the folds between them, without quotes or
  in single ones.
* `takePlain_newline`, `takePlain_colon`, `takeQuoted_eq`: a scalar is read as it was written.
-/

namespace LintPreview.Yaml

variable {c c' : Cursor} {cs t w rest K : List CodePoint} {m n : ℕ}

/-! ### Without quotes -/

theorem takePlainBreaks_eq (hc : c.rest = List.replicate m (.char ' ') ++ rest) (hrest : EndsGap rest) (fuel : ℕ) :
    takePlainBreaks (fuel + 1) c = ([], false, c.advanceBy m) := by
  have hbehind := Cursor.rest_advanceBy_spaces hc
  rw [takePlainBreaks, Cursor.skipWhile_spaces hc rfl hrest.not_space]
  dsimp only
  rw [Cursor.takeLineBreak?_eq_none (by rw [hbehind]; exact hrest.not_break)]

/-- Spaces within a line. -/
theorem takePlainSpaces_gap (hc : c.rest = List.replicate m (.char ' ') ++ rest) (hrest : EndsGap rest) :
    takePlainSpaces c = (List.replicate m (.char ' '), false, c.advanceBy m) := by
  have hbehind := Cursor.rest_advanceBy_spaces hc
  rw [takePlainSpaces, Cursor.takeWhile_eq hc (fun x hx => by rw [List.eq_of_mem_replicate hx]; rfl) hrest.not_space,
    List.length_replicate]
  dsimp only
  rw [Cursor.takeLineBreak?_eq_none (by rw [hbehind]; exact hrest.not_break)]

/-- A new line counts as a space. -/
theorem takePlainSpaces_newline (hc : c.rest = newline m ++ rest) (hrest : EndsGap rest)
    (hm : 0 < m ∨ startsLikeSeparator rest = false) :
    takePlainSpaces c = ([.char ' '], true, c.advanceBy (m + 1)) := by
  have hnone : c.takeWhile (fun x : CodePoint => x == ' ') = ([], c) :=
    Cursor.takeWhile_eq (w := []) hc nofun (by rintro x ⟨⟩; rfl)
  have hadvance : c.advance.rest = List.replicate m (.char ' ') ++ rest := by
    rw [Cursor.rest_advance, hc]
    rfl
  rw [takePlainSpaces, hnone]
  dsimp only
  rw [Cursor.takeLineBreak?_newline hc]
  dsimp only
  rw [Cursor.atSeparator_advance hc hm, takePlainBreaks_eq hadvance hrest, Nat.add_comm m 1, Cursor.advanceBy_add]
  rfl

/-- The words of a text that is written without quotes. -/
structure IsPlainText (cs : List CodePoint) : Prop where
  printable : ArePrintable cs
  head : cs.head? ≠ some (.char ' ')
  last : cs.getLast? ≠ some (.char ' ')
  marks : innerIndicator (.char ' ') cs = false

theorem innerIndicator_of_hasIndicator (h : hasIndicator cs = false) : innerIndicator (.char ' ') cs = false := by
  cases cs with
  | nil => rfl
  | cons c cs =>
    obtain ⟨hfirst, hinner⟩ := Bool.or_eq_false_iff.mp h
    obtain ⟨-, hfirst⟩ := Bool.or_eq_false_iff.mp hfirst
    obtain ⟨hmarks, hcolon⟩ := Bool.or_eq_false_iff.mp hfirst
    have hcolon : (c == .char ':' && blankNext cs) = false := by
      cases hblank : blankNext cs with
      | false => exact Bool.and_false _
      | true =>
        rw [hblank, Bool.and_true, Bool.or_eq_false_iff, Bool.or_eq_false_iff] at hcolon
        rw [hcolon.1.2]
        rfl
    have hsign : (c == .char '#') = false := by
      rw [beq_eq_false_iff_ne]
      rintro rfl
      cases hmarks
    rw [innerIndicator, hcolon, hsign, hinner]
    rfl

theorem Scalar.IsTame.isPlainText {s : Scalar} (hs : s.IsTame) (h : s.isPlain = true) : IsPlainText s.codes ∧ s.codes ≠ [] := by
  obtain ⟨hformed, hallow⟩ := Bool.and_eq_true_iff.mp h
  obtain ⟨hhead, hlast, hmarks⟩ := (hs.printable.allowPlain_iff (hs.nonempty hformed)).mp hallow
  exact ⟨⟨hs.printable, hhead, hlast, innerIndicator_of_hasIndicator hmarks⟩, hs.nonempty hformed⟩

/-- A word ends in front of a space, and in front of what ends the text. -/
theorem wordLength_append (hw : ∀ x ∈ w, isBlankOrEnd x = false) (previous : CodePoint)
    (hmarks : innerIndicator previous (w ++ rest) = false) (hrest : blankNext rest = true) (hK : wordLength false K = 0) :
    wordLength false (w ++ K) = w.length := by
  induction w generalizing previous with
  | nil => exact hK
  | cons x w ih =>
    obtain ⟨hx, hw⟩ := List.forall_mem_cons.mp hw
    rw [List.cons_append, innerIndicator] at hmarks
    obtain ⟨hmarks, hinner⟩ := Bool.or_eq_false_iff.mp hmarks
    obtain ⟨hcolon, -⟩ := Bool.or_eq_false_iff.mp hmarks
    have hgoes : (x == .char ':' && colonEnds false ((w ++ K).head?.getD '\x00')) = false := by
      cases w with
      | nil =>
        rw [List.nil_append, hrest, Bool.and_true] at hcolon
        rw [hcolon]
        rfl
      | cons y w =>
        have hy : isBlankOrEnd y = false := hw y List.mem_cons_self
        rw [List.cons_append, List.head?_cons, Option.getD_some, colonEnds, hy]
        exact Bool.and_false _
    rw [List.cons_append, wordLength, hx, hgoes]
    simp only [Bool.false_and, Bool.or_false, Bool.false_eq_true, if_false]
    rw [ih hw x hinner]
    rfl

theorem innerIndicator_append {previous : CodePoint} (x : CodePoint) (h : innerIndicator previous (w ++ x :: rest) = false) :
    innerIndicator x rest = false := by
  induction w generalizing previous with
  | nil => exact (Bool.or_eq_false_iff.mp h).2
  | cons y w ih => exact ih (Bool.or_eq_false_iff.mp h).2

theorem innerIndicator_spaces (h : innerIndicator (.char ' ') (List.replicate m (.char ' ') ++ rest) = false) :
    innerIndicator (.char ' ') rest = false := by
  induction m with
  | zero => exact h
  | succ m ih => exact ih (Bool.or_eq_false_iff.mp h).2

theorem IsPlainText.behindGap (h : IsPlainText (w ++ (List.replicate (m + 1) (.char ' ') ++ rest)))
    (hrest : rest.head? ≠ some (.char ' ')) : IsPlainText rest ∧ rest ≠ [] := by
  have hne : rest ≠ [] := by
    rintro rfl
    exact h.last (by simp [List.getLast?_replicate])
  have hmore := (List.forall_mem_append.mp h.printable).2
  refine ⟨⟨(List.forall_mem_append.mp hmore).2, hrest, ?_, ?_⟩, hne⟩
  · simpa [List.getLast?_append, List.getLast?_eq_some_getLast hne] using h.last
  · have hmarks : innerIndicator (.char ' ') (List.replicate m (.char ' ') ++ rest) = false := innerIndicator_append (.char ' ') h.marks
    exact innerIndicator_spaces hmarks

theorem ArePrintable.endsGap (h : ArePrintable cs) (hhead : cs.head? ≠ some (.char ' ')) : EndsGap cs :=
  fun x hx => (h x (List.mem_of_mem_head? hx)).isBlankOrEnd fun heq => hhead (heq ▸ hx)

/-- The first word of a plain text is not empty, starts with no number sign, and goes up to the next space. -/
theorem IsPlainText.word (h : IsPlainText (w ++ rest)) (hw : .char ' ' ∉ w) (hne : w ++ rest ≠ [])
    (hrest : ∀ x ∈ rest.head?, x = .char ' ') (hK : wordLength false K = 0) :
    (∃ x w', w = x :: w' ∧ (x == .char '#') = false) ∧ wordLength false (w ++ K) = w.length := by
  have hblank : blankNext rest = true := by
    cases rest with
    | nil => rfl
    | cons x rest =>
      rw [hrest x rfl]
      rfl
  have hnonblank : ∀ x ∈ w, isBlankOrEnd x = false := fun x hx =>
    (h.printable x (List.mem_append_left _ hx)).isBlankOrEnd fun heq => hw (heq ▸ hx)
  refine ⟨?_, wordLength_append hnonblank _ h.marks hblank hK⟩
  cases w with
  | nil =>
    obtain ⟨x, rest, rfl⟩ := List.exists_cons_of_ne_nil hne
    exact absurd (congrArg some (hrest x rfl)) h.head
  | cons x w =>
    have hmarks := (Bool.or_eq_false_iff.mp (Bool.or_eq_false_iff.mp h.marks).1).2
    exact ⟨x, w, rfl, (Bool.and_true _).symm.trans hmarks⟩

/-- One word, with what follows it. -/
theorem takePlainFrom_word {indent : ℤ} {fuel : ℕ} {spaces : List CodePoint} {broke : Bool}
    (hw : ∃ x w', w = x :: w' ∧ (x == .char '#') = false) (hlength : wordLength false (w ++ K) = w.length)
    (hc : c.rest = w ++ K) {next : List CodePoint} {broke' : Bool} {c' : Cursor}
    (hspaces : takePlainSpaces (c.advanceBy w.length) = (next, broke', c')) :
    takePlainFrom false indent (fuel + 1) spaces broke c =
      if next.isEmpty || c'.peek == .char '#' || decide ((c'.column : ℤ) < indent) then (spaces ++ w, broke', c')
      else
        let more := takePlainFrom false indent fuel next broke' c'
        (spaces ++ w ++ more.1, more.2) := by
  obtain ⟨x, w', rfl, hsign⟩ := hw
  have hpeek : c.peek = x := Cursor.peek_cons hc
  rw [takePlainFrom, hpeek, hsign]
  dsimp only
  rw [hc, hlength, hspaces]
  simp

/-- One word with a gap and more words behind it. -/
theorem takePlainFrom_more {indent : ℤ} {fuel : ℕ} {spaces blanks : List CodePoint} {broke broke₁ broke' : Bool} {c₁ : Cursor}
    (hw : ∃ x w', w = x :: w' ∧ (x == .char '#') = false) (hlength : wordLength false (w ++ K) = w.length)
    (hc : c.rest = w ++ K) (hspaces : takePlainSpaces (c.advanceBy w.length) = (blanks, broke₁, c₁)) (hblanks : blanks ≠ [])
    (hsign : c₁.peek ≠ .char '#') (hcolumn : indent ≤ c₁.column)
    (hmore : takePlainFrom false indent fuel blanks broke₁ c₁ = (blanks ++ rest, broke', c')) :
    takePlainFrom false indent (fuel + 1) spaces broke c = (spaces ++ (w ++ (blanks ++ rest)), broke', c') := by
  have hgoes : (blanks.isEmpty || c₁.peek == .char '#' || decide ((c₁.column : ℤ) < indent)) = false := by
    rw [List.isEmpty_eq_false_iff.mpr hblanks, beq_eq_false_iff_ne.mpr hsign, decide_eq_false (not_lt.mpr hcolumn)]
    rfl
  rw [takePlainFrom_word hw hlength hc hspaces, hgoes]
  dsimp only
  rw [hmore]
  simp

theorem IsPlainText.ne_sign (h : IsPlainText cs) : ∀ x ∈ cs.head?, x ≠ .char '#' := by
  rintro x hx rfl
  cases cs with
  | nil => cases hx
  | cons y cs =>
    cases hx
    exact absurd (Bool.or_eq_false_iff.mp (Bool.or_eq_false_iff.mp h.marks).1).2 (by decide)

theorem Folds.head?_eq {encode : List CodePoint → List CodePoint} (hencode : ∀ w, (encode w).head? = w.head?)
    (h : Folds n encode cs t) (hhead : cs.head? ≠ some (.char ' ')) : t.head? = cs.head? := by
  have hword : ∀ {w rest t' : List CodePoint}, (w ++ .char ' ' :: rest).head? ≠ some (.char ' ') →
      (encode w ++ t').head? = (w ++ .char ' ' :: rest).head? := by
    intro w rest t' hhead
    cases w with
    | nil => exact absurd rfl hhead
    | cons x w => rw [List.head?_append, hencode]; rfl
  cases h with
  | last hw => exact hencode cs
  | gap k hw hnext hmore => exact hword hhead
  | fold hw hnext hinner hmore => exact hword hhead

theorem Folds.head?_append {encode : List CodePoint → List CodePoint} (hencode : ∀ w, (encode w).head? = w.head?)
    (h : Folds n encode cs t) (hhead : cs.head? ≠ some (.char ' ')) (hne : cs ≠ []) (K : List CodePoint) :
    (t ++ K).head? = cs.head? := by
  obtain ⟨x, rest, rfl⟩ := List.exists_cons_of_ne_nil hne
  rw [List.head?_append, h.head?_eq hencode hhead]
  rfl

/-- The text of further words starts with one of them. -/
theorem Folds.endsGap {encode : List CodePoint → List CodePoint} (hencode : ∀ w, (encode w).head? = w.head?)
    (h : Folds n encode cs t) (hprintable : ArePrintable cs) (hhead : cs.head? ≠ some (.char ' ')) (hne : cs ≠ [])
    (K : List CodePoint) : EndsGap (t ++ K) := by
  intro y hy
  rw [h.head?_append hencode hhead hne] at hy
  exact hprintable.endsGap hhead y hy

theorem Folds.peek_ne_sign (h : Folds n id cs t) (htext : IsPlainText cs) (hne : cs ≠ []) (hc : c.rest = t ++ K) :
    c.peek ≠ .char '#' := by
  obtain ⟨x, rest, rfl⟩ := List.exists_cons_of_ne_nil hne
  rw [Cursor.peek, hc, h.head?_append (fun _ => rfl) htext.head hne]
  exact htext.ne_sign x rfl

/-- Words without quotes are read across the folds between them. What follows them ends the text. -/
theorem takePlainFrom_eq (hfolds : Folds n id cs t) (htext : IsPlainText cs) (hne : cs ≠ []) {indent : ℤ} (hn : 0 < n)
    (hindent : indent ≤ n) (hK : wordLength false K = 0) : ∀ {c : Cursor} {fuel : ℕ} {spaces : List CodePoint} {broke : Bool},
    c.rest = t ++ K → t.length < fuel → indent ≤ c.column + 1 → ∀ {next : List CodePoint} {broke' : Bool} {c' : Cursor},
      takePlainSpaces (c.advanceBy t.length) = (next, broke', c') →
      (next.isEmpty || c'.peek == .char '#' || decide ((c'.column : ℤ) < indent)) = true →
        takePlainFrom false indent fuel spaces broke c = (spaces ++ cs, broke', c') := by
  induction hfolds with
  | @last w hw =>
    intro c fuel spaces broke hc hfuel hcolumn next broke' c' hspaces hstop
    rw [← List.append_nil w] at htext hne
    obtain ⟨hword, hlength⟩ := htext.word hw hne nofun hK
    obtain ⟨fuel, rfl⟩ := Nat.exists_eq_add_of_lt (Nat.zero_lt_of_lt hfuel)
    rw [Nat.zero_add, takePlainFrom_word hword hlength hc hspaces, if_pos hstop]
  | @gap w rest t k hw hnext hmore ih =>
    intro c fuel spaces broke hc hfuel hcolumn next broke' c' hspaces hstop
    have hbehind : wordLength false (List.replicate (k + 1) (.char ' ') ++ (t ++ K)) = 0 := rfl
    obtain ⟨hword, hlength⟩ := htext.word hw hne (by rintro x ⟨⟩; rfl) hbehind
    obtain ⟨htext', hne'⟩ := htext.behindGap hnext
    obtain ⟨fuel, rfl⟩ := Nat.exists_eq_add_of_lt (Nat.zero_lt_of_lt hfuel)
    rw [id, List.append_assoc, List.append_assoc] at hc
    have hgap := hmore.endsGap (fun _ => rfl) htext'.printable hnext hne' K
    have hspaces₁ := takePlainSpaces_gap (Cursor.rest_advanceBy_append hc) hgap
    have hc₁ : ((c.advanceBy w.length).advanceBy (k + 1)).rest = t ++ K :=
      Cursor.rest_advanceBy_spaces (Cursor.rest_advanceBy_append hc)
    have hwords : c.rest = (w ++ List.replicate (k + 1) (.char ' ')) ++ (t ++ K) := by rw [hc, List.append_assoc]
    have hprintable : ArePrintable (w ++ List.replicate (k + 1) (.char ' ')) :=
      List.forall_mem_append.mpr ⟨(List.forall_mem_append.mp htext.printable).1, Cursor.arePrintable_spaces _⟩
    have hcolumn₁ : ((c.advanceBy w.length).advanceBy (k + 1)).column = c.column + (w.length + (k + 1)) := by
      have := congrArg Cursor.column (Cursor.advanceBy_printable hwords hprintable)
      rwa [List.length_append, List.length_replicate, Cursor.advanceBy_add] at this
    have hbehind' : c.advanceBy (id w ++ (List.replicate (k + 1) (CodePoint.char ' ') ++ t)).length =
        ((c.advanceBy w.length).advanceBy (k + 1)).advanceBy t.length := by
      rw [← Cursor.advanceBy_add, ← Cursor.advanceBy_add]
      simp [Nat.add_assoc]
    simp only [List.length_append, List.length_replicate, id] at hfuel
    rw [hbehind'] at hspaces
    exact takePlainFrom_more hword hlength hc hspaces₁ nofun (hmore.peek_ne_sign htext' hne' hc₁) (by omega)
      (ih htext' hne' hc₁ (by omega) (by omega) hspaces hstop)
  | @fold w rest t hw hnext hinner hmore ih =>
    intro c fuel spaces broke hc hfuel hcolumn next broke' c' hspaces hstop
    have hbehind : wordLength false (newline n ++ (t ++ K)) = 0 := rfl
    obtain ⟨hword, hlength⟩ := htext.word hw hne (by rintro x ⟨⟩; rfl) hbehind
    obtain ⟨htext', hne'⟩ := htext.behindGap (m := 0) hnext
    obtain ⟨fuel, rfl⟩ := Nat.exists_eq_add_of_lt (Nat.zero_lt_of_lt hfuel)
    rw [id, List.append_assoc, List.append_assoc] at hc
    have hgap := hmore.endsGap (fun _ => rfl) htext'.printable hnext hne' K
    have hnewline := Cursor.rest_advanceBy_append hc
    have hspaces₁ := takePlainSpaces_newline hnewline hgap (.inl hn)
    have hplace := Cursor.advanceBy_newline hnewline
    have hc₁ : ((c.advanceBy w.length).advanceBy (n + 1)).rest = t ++ K := by rw [hplace]
    have hcolumn₁ : ((c.advanceBy w.length).advanceBy (n + 1)).column = n := by rw [hplace]
    have hbehind' : c.advanceBy (id w ++ (newline n ++ t)).length =
        ((c.advanceBy w.length).advanceBy (n + 1)).advanceBy t.length := by
      rw [← Cursor.advanceBy_add, ← Cursor.advanceBy_add]
      simp [Nat.add_assoc]
    simp only [List.length_append, length_newline, id] at hfuel
    rw [hbehind'] at hspaces
    exact takePlainFrom_more hword hlength hc hspaces₁ nofun (hmore.peek_ne_sign htext' hne' hc₁) (by omega)
      (ih htext' hne' hc₁ (by omega) (by omega) hspaces hstop)

section Scalars

variable {s : Scalar}

/-- A plain scalar at the end of a line. -/
theorem takePlain_newline (hs : s.IsTame) (hplain : s.isPlain = true) (ht : s.Laid (n + 2) t) (hc : c.rest = t ++ (newline m ++ rest))
    (hrest : Continues rest) (hm : m ≤ n) (hcolumn : n ≤ c.column) (hsize : c.rest.length ≤ c.size) :
    takePlain false n c = (s.token, true, (c.advanceBy t.length).advanceBy (m + 1)) := by
  obtain ⟨htext, hne⟩ := hs.isPlainText hplain
  rw [Scalar.Laid, if_pos hplain] at ht
  have hnewline := Cursor.rest_advanceBy_append hc
  have hspaces := takePlainSpaces_newline hnewline hrest.endsGap (.inr hrest.noSeparator)
  have hplace : ((c.advanceBy t.length).advanceBy (m + 1)).column = m := by rw [Cursor.advanceBy_newline hnewline]
  have hfuel : t.length < c.size + 1 := by
    rw [hc, List.length_append] at hsize
    omega
  have hstop : (([CodePoint.char ' '] : List CodePoint).isEmpty ||
      ((c.advanceBy t.length).advanceBy (m + 1)).peek == CodePoint.char '#' ||
      decide ((((c.advanceBy t.length).advanceBy (m + 1)).column : ℤ) < (n : ℤ) + 1)) = true := by
    rw [hplace, decide_eq_true (by omega), Bool.or_true]
  rw [takePlain, takePlainFrom_eq ht htext hne (Nat.succ_pos _) (by omega) rfl hc hfuel (by omega) hspaces hstop,
    Scalar.token, hplain]
  rfl

/-- A plain key. -/
theorem takePlain_colon (hs : s.IsTame) (hplain : s.isPlain = true) (hc : c.rest = s.codes ++ .char ':' :: rest)
    (hrest : blankNext rest = true) {parent : ℤ} (hparent : parent ≤ c.column) (hsize : c.rest.length ≤ c.size) :
    takePlain false parent c = (s.token, false, c.advanceBy s.codes.length) := by
  obtain ⟨htext, hne⟩ := hs.isPlainText hplain
  have hfolds : Folds (parent.toNat + 1) id s.codes s.codes := folds_self (fun _ _ => rfl) (fun _ => rfl) _ s.codes
  have hcolon := Cursor.rest_advanceBy_append hc
  have hspaces := takePlainSpaces_gap (m := 0) hcolon (by rintro x ⟨⟩; decide)
  have hfuel : s.codes.length < c.size + 1 := by
    rw [hc, List.length_append] at hsize
    omega
  have hK : wordLength false (.char ':' :: rest) = 0 := by
    have hends : colonEnds false (rest.head?.getD '\x00') = true := Bool.or_eq_true_iff.mpr (.inl hrest)
    rw [wordLength, hends]
    rfl
  rw [takePlain, takePlainFrom_eq hfolds htext hne (Nat.succ_pos _) (by omega) hK hc hfuel (by omega) hspaces rfl, Scalar.token,
    hplain]
  rfl

end Scalars

open Pen (doubleQuotes)

/-! ### In single quotes -/

/-- What stands behind a word in single quotes: a blank, or the closing quote. -/
structure EndsWord (K : List CodePoint) : Prop where
  start : ∃ x K', K = x :: K' ∧ isQuotedPlain x = false ∧ (x == '"' || x == '\\') = false
  single : ∀ K', K ≠ .char '\'' :: .char '\'' :: K'

theorem endsWord_space (K : List CodePoint) : EndsWord (.char ' ' :: K) := ⟨⟨_, K, rfl, by decide, by decide⟩, nofun⟩

theorem endsWord_newline (n : ℕ) (K : List CodePoint) : EndsWord (newline n ++ K) := ⟨⟨_, _, rfl, by decide, by decide⟩, nofun⟩

theorem endsWord_quote (h : K.head? ≠ some (.char '\'')) : EndsWord (.char '\'' :: K) := by
  refine ⟨⟨_, K, rfl, by decide, by decide⟩, fun K' heq => h ?_⟩
  rw [(List.cons.inj heq).2]
  rfl

theorem takeQuotedWord_last (hc : c.rest = w ++ K) (hw : ∀ x ∈ w, isQuotedPlain x = true) (hK : EndsWord K) (fuel : ℕ) :
    takeQuotedWord false (fuel + 1) c = .ok (w, c.advanceBy w.length) := by
  obtain ⟨⟨x, K', rfl, hx, hother⟩, hsingle⟩ := hK
  have hbehind := Cursor.rest_advanceBy_append hc
  have hpeek := Cursor.peek_cons hbehind
  have htwo : (x == CodePoint.char '\'' && (c.advanceBy w.length).peekAt 1 == CodePoint.char '\'') = false := by
    rw [Bool.eq_false_iff, ne_eq, Bool.and_eq_true, beq_iff_eq, beq_iff_eq, Cursor.peekAt, hbehind]
    rintro ⟨rfl, hnext⟩
    cases K' with
    | nil => exact absurd hnext (by decide)
    | cons y K' => exact hsingle K' (by rw [show y = '\'' from hnext])
  rw [takeQuotedWord, Cursor.takeWhile_eq hc hw (by rintro y ⟨⟩; exact hx)]
  dsimp only
  rw [hpeek]
  simp only [Bool.not_false, Bool.true_and, Bool.false_and, htwo, hother, Bool.false_or, Bool.false_eq_true, if_false]

theorem takeQuotedWord_quote (hc : c.rest = w ++ .char '\'' :: .char '\'' :: K) (hw : ∀ x ∈ w, isQuotedPlain x = true) (fuel : ℕ) :
    takeQuotedWord false (fuel + 1) c = (do
      let (rest, c') ← takeQuotedWord false fuel (c.advanceBy (w.length + 2))
      return (w ++ [.char '\''] ++ rest, c')) := by
  have hbehind := Cursor.rest_advanceBy_append hc
  have hpeek := Cursor.peek_cons hbehind
  have hnext : (c.advanceBy w.length).peekAt 1 = '\'' := by rw [Cursor.peekAt, hbehind]; rfl
  rw [takeQuotedWord, Cursor.takeWhile_eq hc hw (by rintro y ⟨⟩; decide)]
  dsimp only
  rw [hpeek, hnext, Cursor.advanceBy_add]
  rfl

theorem takeQuotedWord_other (hc : c.rest = w ++ x :: K) (hw : ∀ x ∈ w, isQuotedPlain x = true)
    (hx : (x == '"' || x == '\\') = true) (fuel : ℕ) :
    takeQuotedWord false (fuel + 1) c = (do
      let (rest, c') ← takeQuotedWord false fuel (c.advanceBy (w.length + 1))
      return (w ++ [x] ++ rest, c')) := by
  have hbehind := Cursor.rest_advanceBy_append hc
  have hpeek := Cursor.peek_cons hbehind
  have hplain : isQuotedPlain x = false := by
    rw [isQuotedPlain, Bool.or_assoc (x == _) (x == _) (x == _), hx, Bool.or_true]
    rfl
  have hquote : (x == CodePoint.char '\'') = false := by
    rw [beq_eq_false_iff_ne]
    rintro rfl
    cases hx
  rw [takeQuotedWord, Cursor.takeWhile_eq hc hw (by rintro y ⟨⟩; exact hplain)]
  dsimp only
  rw [hpeek, hquote, hx, Cursor.advanceBy_add]
  rfl

theorem doubleQuotes_of_plain (hw : ∀ x ∈ w, isQuotedPlain x = true) : doubleQuotes w = w := by
  induction w with
  | nil => rfl
  | cons x w ih =>
    obtain ⟨hx, hw⟩ := List.forall_mem_cons.mp hw
    have hquote : x ≠ '\'' := by
      rintro rfl
      cases hx
    have hone : doubleQuotes [x] = [x] := by
      rw [doubleQuotes, List.flatMap_cons, if_neg (by simpa using hquote)]
      rfl
    rw [← List.singleton_append, Pen.doubleQuotes_append, hone, ih hw]

/-- A word in single quotes goes up to the next blank or to the closing quote. -/
theorem takeQuotedWord_eq (hw : ∀ x ∈ w, isBlankOrEnd x = false) (hK : EndsWord K) (fuel : ℕ)
    (hc : c.rest = doubleQuotes w ++ K) (hfuel : w.length < fuel) :
    takeQuotedWord false fuel c = .ok (w, c.advanceBy (doubleQuotes w).length) := by
  induction hlength : w.length using Nat.strong_induction_on generalizing w c fuel with
  | h size ih =>
    obtain ⟨fuel, rfl⟩ := Nat.exists_eq_add_of_lt (Nat.zero_lt_of_lt hfuel)
    obtain ⟨v, after, rfl, hv, hafter⟩ : ∃ v after, w = v ++ after ∧ (∀ x ∈ v, isQuotedPlain x = true) ∧
        ∀ x ∈ after.head?, isQuotedPlain x = false := by
      refine ⟨w.takeWhile isQuotedPlain, w.dropWhile isQuotedPlain, List.takeWhile_append_dropWhile.symm,
        fun x hx => List.mem_takeWhile_imp hx, fun x hx => ?_⟩
      have := List.head?_dropWhile_not isQuotedPlain w
      rw [hx] at this
      simpa using this
    rw [Pen.doubleQuotes_append, doubleQuotes_of_plain hv] at hc ⊢
    cases after with
    | nil =>
      have hnil : doubleQuotes [] = [] := rfl
      rw [hnil, List.append_nil] at hc ⊢
      exact takeQuotedWord_last hc hv hK _
    | cons x after =>
      have hblank := hw x (List.mem_append_right v List.mem_cons_self)
      have hplain := hafter x rfl
      have hrest : ∀ y ∈ after, isBlankOrEnd y = false := fun y hy =>
        hw y (List.mem_append_right v (List.mem_cons_of_mem x hy))
      simp only [List.length_append, List.length_cons] at hlength hfuel
      by_cases hquote : x = '\''
      · subst hquote
        have hdouble : doubleQuotes (.char '\'' :: after) = .char '\'' :: .char '\'' :: doubleQuotes after := rfl
        rw [hdouble, List.append_assoc] at hc
        have hbehind : (c.advanceBy (v.length + 2)).rest = doubleQuotes after ++ K := by
          rw [Cursor.advanceBy_add, Cursor.rest_advanceBy, Cursor.rest_advanceBy_append hc]
          rfl
        have hlength' : (v ++ doubleQuotes (.char '\'' :: after)).length = v.length + 2 + (doubleQuotes after).length := by
          rw [hdouble, List.length_append, List.length_cons, List.length_cons]
          omega
        rw [takeQuotedWord_quote hc hv, ih after.length (by omega) hrest _ hbehind (by omega) rfl, hlength',
          ← Cursor.advanceBy_add]
        show Except.ok _ = _
        rw [List.append_assoc]
        rfl
      · have hdouble : doubleQuotes (x :: after) = x :: doubleQuotes after := by
          rw [doubleQuotes, List.flatMap_cons, if_neg (by simpa using hquote)]
          rfl
        rw [hdouble, List.append_assoc] at hc
        have hother : (x == '"' || x == '\\') = true := by
          rwa [isQuotedPlain, hblank, beq_eq_false_iff_ne.mpr hquote, Bool.not_eq_false', Bool.false_or,
            Bool.or_false] at hplain
        have hbehind : (c.advanceBy (v.length + 1)).rest = doubleQuotes after ++ K := by
          rw [Cursor.advanceBy_add, Cursor.rest_advanceBy, Cursor.rest_advanceBy_append hc]
          rfl
        have hlength' : (v ++ doubleQuotes (x :: after)).length = v.length + 1 + (doubleQuotes after).length := by
          rw [hdouble, List.length_append, List.length_cons]
          omega
        rw [takeQuotedWord_other hc hv hother, ih after.length (by omega) hrest _ hbehind (by omega) rfl, hlength',
          ← Cursor.advanceBy_add]
        show Except.ok _ = _
        rw [List.append_assoc]
        rfl

theorem takeQuotedSpaces_gap (hc : c.rest = List.replicate m (.char ' ') ++ rest) (hrest : EndsGap rest) (hne : rest ≠ []) :
    takeQuotedSpaces c = .ok (List.replicate m (.char ' '), c.advanceBy m) := by
  have hbehind := Cursor.rest_advanceBy_spaces hc
  rw [takeQuotedSpaces, Cursor.takeWhile_eq hc (fun x hx => by rw [List.eq_of_mem_replicate hx]; rfl) hrest.not_blank,
    List.length_replicate]
  dsimp only
  rw [Cursor.takeLineBreak?_eq_none (by rw [hbehind]; exact hrest.not_break)]
  dsimp only
  rw [hbehind, List.isEmpty_eq_false_iff.mpr hne]
  rfl

/-- A new line inside quotes counts as a space. -/
theorem takeQuotedSpaces_newline (hc : c.rest = newline m ++ rest) (hrest : EndsGap rest) (hm : 0 < m) :
    takeQuotedSpaces c = .ok ([.char ' '], c.advanceBy (m + 1)) := by
  have hnone : c.takeWhile (fun x : CodePoint => x == ' ' || x == '\t') = ([], c) :=
    Cursor.takeWhile_eq (w := []) hc nofun (by rintro x ⟨⟩; rfl)
  have hadvance : c.advance.rest = List.replicate m (.char ' ') ++ rest := by
    rw [Cursor.rest_advance, hc]
    rfl
  have hbreaks : takeQuotedBreaks (c.advance.size + 1) c.advance = .ok ([], c.advanceBy (m + 1)) := by
    have hbehind := Cursor.rest_advanceBy_spaces hadvance
    rw [takeQuotedBreaks, Cursor.atSeparator_advance hc (.inl hm), Cursor.skipWhile_spaces hadvance rfl hrest.not_blank]
    dsimp only
    rw [Cursor.takeLineBreak?_eq_none (by rw [hbehind]; exact hrest.not_break), Nat.add_comm m 1, Cursor.advanceBy_add]
    rfl
  rw [takeQuotedSpaces, hnone]
  dsimp only
  rw [Cursor.takeLineBreak?_newline hc]
  dsimp only
  rw [hbreaks]
  rfl

theorem head?_doubleQuotes (w : List CodePoint) : (doubleQuotes w).head? = w.head? := by
  cases w with
  | nil => rfl
  | cons x w =>
    by_cases hquote : x = '\''
    · subst hquote
      rfl
    · rw [doubleQuotes, List.flatMap_cons, if_neg (by simpa using hquote)]
      rfl

theorem length_le_doubleQuotes (w : List CodePoint) : w.length ≤ (doubleQuotes w).length := by
  induction w with
  | nil => exact le_rfl
  | cons x w ih =>
    rw [← List.singleton_append, Pen.doubleQuotes_append, List.length_append, List.length_append]
    have hone : 0 < (doubleQuotes [x]).length := List.length_pos_of_ne_nil (Pen.doubleQuotes_ne_nil (List.cons_ne_nil x []))
    rw [List.length_singleton]
    omega

theorem Folds.endsGap_quote (h : Folds n doubleQuotes cs t) (hprintable : ArePrintable cs) (hhead : cs.head? ≠ some (.char ' '))
    (K : List CodePoint) : EndsGap (t ++ .char '\'' :: K) := by
  by_cases hne : cs = []
  · have ht := h.head?_eq head?_doubleQuotes hhead
    rw [hne, List.head?_nil, List.head?_eq_none_iff] at ht
    rw [ht]
    rintro x ⟨⟩
    decide
  · exact h.endsGap head?_doubleQuotes hprintable hhead hne _

section Words

variable (hprintable : ArePrintable w) (hw : .char ' ' ∉ w) (hc : c.rest = doubleQuotes w ++ K)
  (hsize : c.rest.length ≤ c.size)

include hprintable hw hc hsize

theorem takeQuotedWord_printable (hK : EndsWord K) :
    takeQuotedWord false (c.size + 1) c = .ok (w, c.advanceBy (doubleQuotes w).length) := by
  have hlength := length_le_doubleQuotes w
  rw [hc, List.length_append] at hsize
  exact takeQuotedWord_eq (fun x hx => (hprintable x hx).isBlankOrEnd fun heq => hw (heq ▸ hx)) hK _ hc (by omega)

theorem takeQuotedFrom_last (hrest : rest.head? ≠ some (.char '\'')) (hquote : K = .char '\'' :: rest) (fuel : ℕ) :
    takeQuotedFrom false (fuel + 1) c = .ok (w, c.advanceBy ((doubleQuotes w).length + 1)) := by
  subst hquote
  have hpeek := Cursor.peek_cons (Cursor.rest_advanceBy_append hc)
  rw [takeQuotedFrom, takeQuotedWord_printable hprintable hw hc hsize (endsWord_quote hrest), Cursor.advanceBy_add]
  show (if (c.advanceBy (doubleQuotes w).length).peek == _ then _ else _) = _
  rw [hpeek]
  rfl

theorem takeQuotedFrom_more (hK : EndsWord K) (hne : K.head? ≠ some (.char '\'')) {blanks : List CodePoint} {c₁ : Cursor}
    (hspaces : takeQuotedSpaces (c.advanceBy (doubleQuotes w).length) = .ok (blanks, c₁)) {fuel : ℕ}
    (hmore : takeQuotedFrom false fuel c₁ = .ok (rest, c')) :
    takeQuotedFrom false (fuel + 1) c = .ok (w ++ (blanks ++ rest), c') := by
  obtain ⟨⟨x, K', rfl, -, -⟩, -⟩ := id hK
  have hpeek := Cursor.peek_cons (Cursor.rest_advanceBy_append hc)
  have hquote : (x == CodePoint.char '\'') = false := beq_eq_false_iff_ne.mpr fun heq => hne (by rw [heq]; rfl)
  rw [takeQuotedFrom, takeQuotedWord_printable hprintable hw hc hsize hK]
  show (if (c.advanceBy (doubleQuotes w).length).peek == .char '\'' then _ else _) = _
  rw [hpeek, hquote, if_neg Bool.false_ne_true, hspaces]
  show (takeQuotedFrom false fuel c₁ >>= _) = _
  rw [hmore, ← List.append_assoc]
  rfl

end Words

/-- Words in single quotes are read across the folds between them. -/
theorem takeQuotedFrom_eq (hfolds : Folds n doubleQuotes cs t) (hprintable : ArePrintable cs) (hn : 0 < n)
    (hK : K.head? ≠ some (.char '\'')) : ∀ {c : Cursor} {fuel : ℕ}, c.rest = t ++ .char '\'' :: K → t.length < fuel →
      c.rest.length ≤ c.size → takeQuotedFrom false fuel c = .ok (cs, c.advanceBy (t.length + 1)) := by
  induction hfolds with
  | @last w hw =>
    intro c fuel hc hfuel hsize
    obtain ⟨fuel, rfl⟩ := Nat.exists_eq_add_of_lt (Nat.zero_lt_of_lt hfuel)
    exact takeQuotedFrom_last hprintable hw hc hsize hK rfl _
  | @gap w rest t k hw hnext hmore ih =>
    intro c fuel hc hfuel hsize
    obtain ⟨fuel, rfl⟩ := Nat.exists_eq_add_of_lt (Nat.zero_lt_of_lt hfuel)
    obtain ⟨hword, hafter⟩ := List.forall_mem_append.mp hprintable
    have hafter := (List.forall_mem_append.mp hafter).2
    rw [List.append_assoc, List.append_assoc] at hc
    have hgap := Cursor.rest_advanceBy_append hc
    have hspaces := takeQuotedSpaces_gap hgap (hmore.endsGap_quote hafter hnext K) (by simp)
    have hc₁ := Cursor.rest_advanceBy_spaces hgap
    simp only [List.length_append, List.length_replicate] at hfuel
    have hplace : c.advanceBy ((doubleQuotes w ++ (List.replicate (k + 1) (CodePoint.char ' ') ++ t)).length + 1) =
        ((c.advanceBy (doubleQuotes w).length).advanceBy (k + 1)).advanceBy (t.length + 1) := by
      rw [← Cursor.advanceBy_add, ← Cursor.advanceBy_add]
      simp [Nat.add_assoc]
    rw [hplace]
    exact takeQuotedFrom_more hword hw hc hsize (endsWord_space _) nofun hspaces
      (ih hafter hc₁ (by omega) (Cursor.fits_advanceBy _ (Cursor.fits_advanceBy _ hsize)))
  | @fold w rest t hw hnext hinner hmore ih =>
    intro c fuel hc hfuel hsize
    obtain ⟨fuel, rfl⟩ := Nat.exists_eq_add_of_lt (Nat.zero_lt_of_lt hfuel)
    obtain ⟨hword, hafter⟩ := List.forall_mem_append.mp hprintable
    have hafter := (List.forall_mem_cons.mp hafter).2
    rw [List.append_assoc, List.append_assoc] at hc
    have hgap := Cursor.rest_advanceBy_append hc
    have hspaces := takeQuotedSpaces_newline hgap (hmore.endsGap_quote hafter hnext K) hn
    have hc₁ : ((c.advanceBy (doubleQuotes w).length).advanceBy (n + 1)).rest = t ++ .char '\'' :: K := by
      rw [Cursor.advanceBy_newline hgap]
    simp only [List.length_append, length_newline] at hfuel
    have hplace : c.advanceBy ((doubleQuotes w ++ (newline n ++ t)).length + 1) =
        ((c.advanceBy (doubleQuotes w).length).advanceBy (n + 1)).advanceBy (t.length + 1) := by
      rw [← Cursor.advanceBy_add, ← Cursor.advanceBy_add]
      simp [Nat.add_assoc]
    rw [hplace]
    exact takeQuotedFrom_more hword hw hc hsize (endsWord_newline n _) nofun hspaces
      (ih hafter hc₁ (by omega) (Cursor.fits_advanceBy _ (Cursor.fits_advanceBy _ hsize)))

/-- A scalar in single quotes. -/
theorem takeQuoted_eq {s : Scalar} (hs : s.IsTame) (hplain : s.isPlain = false) (hn : 0 < n) (ht : s.Laid n t)
    (hc : c.rest = t ++ K) (hK : K.head? ≠ some (.char '\'')) (hsize : c.rest.length ≤ c.size) :
    takeQuoted c = .ok (s.token, c.advanceBy t.length) := by
  rw [Scalar.Laid, if_neg (ne_true_of_eq_false hplain)] at ht
  obtain ⟨u, rfl, hu⟩ := ht
  have hbehind : c.advance.rest = u ++ .char '\'' :: K := by
    rw [Cursor.rest_advance, hc]
    simp
  have hfuel : u.length < c.size + 1 := by
    rw [hc] at hsize
    simp only [List.length_append, List.length_cons] at hsize
    omega
  have hpeek : c.peek = .char '\'' := Cursor.peek_cons hc
  rw [takeQuoted, hpeek]
  show (takeQuotedFrom false (c.size + 1) c.advance >>= _) = _
  rw [takeQuotedFrom_eq hu hs.printable hn hK hbehind hfuel (Cursor.fits_advanceBy 1 hsize), Scalar.token, hplain]
  simp [Cursor.advanceBy, bind, Except.bind, pure, Except.pure]

end LintPreview.Yaml
