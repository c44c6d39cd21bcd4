import LintPreview.Proofs.Yaml.Built
import LintPreview.Proofs.Yaml.Cursor

/-!
# Texts that cannot be read as tokens

* `Unreadable`: what in a text has no meaning although it is written as YAML has it, each with its fault.
* `ReadsOn`: a step reads on within a text, and fails only where the text is malformed or unreadable.
* `Token.unreadable_of_broken_mem`: so does reading the tokens of a text.
-/

namespace LintPreview.Yaml

open Json (AreDigits)
open NodeBuilder (IsWhole)

/-! ### What cannot be read -/

/-- The number that hexadecimal digits write. -/
def hexCode? (digits : List CodePoint) : Option ℕ :=
  (digits.mapM Text.hexValue?).map fun ds => ds.foldl (fun v d => v * 16 + d) 0

/-- What has no meaning in a text although it is written as YAML has it: an escape for a code point that is none, and a
number, as it stands in a version, with too many digits. -/
inductive Unreadable (cs : List CodePoint) : Fault → Prop where
  | codeTooLarge {digits : List CodePoint} {n : ℕ} (written : .char '\\' :: .char 'U' :: digits <:+: cs)
      (eight : digits.length = 8) (code : hexCode? digits = some n) (large : 0x10FFFF < n) (small : n ≤ 0x7FFFFFFF) :
      Unreadable cs .codeTooLarge
  | codeOverflow {digits : List CodePoint} {n : ℕ} (written : .char '\\' :: .char 'U' :: digits <:+: cs)
      (eight : digits.length = 8) (code : hexCode? digits = some n) (large : 0x7FFFFFFF < n) :
      Unreadable cs .codeOverflow
  | numberTooLong {digits : List CodePoint} (written : digits <:+: cs) (areDigits : AreDigits digits)
      (long : maxDecimalDigits < digits.length) : Unreadable cs (.literal (.tooLong digits.length))

/-! ### Reading on -/

variable {α β : Type} {cs : List CodePoint} {P : α → Prop} {Q : β → Prop}

/-- What a step gives is as it is told, and it fails only where the text is malformed or unreadable. -/
abbrev ReadsOn (cs : List CodePoint) (P : α → Prop) (x : Except Fault α) : Prop :=
  Ends (fun fault => fault = .malformed ∨ Unreadable cs fault) P x

theorem ReadsOn.malformed : ReadsOn cs P (.error .malformed) := .error (.inl rfl)

theorem ReadsOn.unreadable {fault : Fault} (h : Unreadable cs fault) : ReadsOn cs P (.error fault) := .error (.inr h)

/-! ### Cursors -/

namespace Cursor

variable {c : Cursor}

/-- What is left at a cursor is an end of the text. -/
def IsIn (cs : List CodePoint) (c : Cursor) : Prop := c.rest <:+ cs

theorem IsIn.advanceBy (h : c.IsIn cs) (n : ℕ) : (c.advanceBy n).IsIn cs := by
  unfold IsIn
  rw [rest_advanceBy]
  exact (List.drop_suffix n c.rest).trans h

theorem IsIn.advance (h : c.IsIn cs) : c.advance.IsIn cs := h.advanceBy 1

theorem IsIn.takeWhile (h : c.IsIn cs) (p : CodePoint → Bool) : (c.takeWhile p).2.IsIn cs := h.advanceBy _

theorem IsIn.skipWhile (h : c.IsIn cs) (p : CodePoint → Bool) : (c.skipWhile p).IsIn cs := h.advanceBy _

theorem IsIn.ite (h : c.IsIn cs) {c' : Cursor} (h' : c'.IsIn cs) (p : Prop) [Decidable p] :
    (if p then c else c').IsIn cs := by
  split
  · exact h
  · exact h'

theorem IsIn.takeLineBreak? (h : c.IsIn cs) {x : CodePoint} {c' : Cursor} (hbreak : c.takeLineBreak? = some (x, c')) :
    c'.IsIn cs := by
  unfold Cursor.takeLineBreak? at hbreak
  split at hbreak
  · cases hbreak
    exact h.advanceBy 2
  · split at hbreak
    · cases hbreak
      exact h.advance
    · split at hbreak
      · cases hbreak
        exact h.advance
      · cases hbreak
  · cases hbreak

theorem IsIn.skipLineBreak (h : c.IsIn cs) : c.skipLineBreak.IsIn cs := by
  unfold Cursor.skipLineBreak
  cases hbreak : c.takeLineBreak? with
  | none => exact h
  | some found => exact h.takeLineBreak? hbreak

/-- What is taken stands in the text. -/
theorem IsIn.takeWhile_isInfix (h : c.IsIn cs) (p : CodePoint → Bool) : (c.takeWhile p).1 <:+: cs :=
  (List.takeWhile_prefix p).isInfix.trans h.isInfix

end Cursor

variable {c : Cursor} {r : TokenReader}

/-- A step gives something and a cursor within the text. -/
abbrev EndsIn (cs : List CodePoint) (found : α × Cursor) : Prop := found.2.IsIn cs

/-! ### Scalars in quotes -/

theorem hexNumber?_eq_some {n k : ℕ} (h : hexNumber? c n = some k) :
    (c.rest.take n).length = n ∧ hexCode? (c.rest.take n) = some k := by
  unfold hexNumber? at h
  dsimp only at h
  split at h
  · cases h
  · rename_i hlength
    refine ⟨Nat.le_antisymm ?_ (Nat.le_of_not_lt hlength), h⟩
    rw [List.length_take]
    exact Nat.min_le_left _ _

theorem hexValue?_lt {x : CodePoint} {d : ℕ} (h : Text.hexValue? x = some d) : d < 16 := by
  unfold Text.hexValue? at h
  split at h
  · rename_i hx
    cases h
    have : x.toNat ≤ 57 := hx.2
    omega
  · split at h
    · rename_i hx
      cases h
      have : x.toNat ≤ 102 := hx.2
      omega
    · split at h
      · rename_i hx
        cases h
        have : x.toNat ≤ 70 := hx.2
        omega
      · cases h

/-- Every digit makes room for sixteen times as many numbers. -/
theorem hexCode?_lt {digits : List CodePoint} {n : ℕ} (h : hexCode? digits = some n) : n < 16 ^ digits.length := by
  obtain ⟨ds, hds, rfl⟩ := Option.map_eq_some_iff.mp h
  suffices hfold : ∀ v, ds.foldl (fun v d => v * 16 + d) v < (v + 1) * 16 ^ digits.length by
    have := hfold 0
    rwa [Nat.zero_add, Nat.one_mul] at this
  clear h
  induction digits generalizing ds with
  | nil =>
    cases hds
    intro v
    simp
  | cons x digits ih =>
    rw [List.mapM_cons] at hds
    obtain ⟨d, hd, hds⟩ := Option.bind_eq_some_iff.mp hds
    obtain ⟨rest, hrest, hds⟩ := Option.bind_eq_some_iff.mp hds
    cases hds
    intro v
    have hlt := hexValue?_lt hd
    calc rest.foldl (fun v d => v * 16 + d) (v * 16 + d)
        < (v * 16 + d + 1) * 16 ^ digits.length := ih _ hrest _
      _ ≤ ((v + 1) * 16) * 16 ^ digits.length := Nat.mul_le_mul_right _ (by omega)
      _ = (v + 1) * 16 ^ (digits.length + 1) := by ring

/-- Only eight digits can write a number that is no code point. -/
theorem eq_of_escapeWidth? {e : CodePoint} {width n : ℕ} (hwidth : escapeWidth? e = some width)
    (hlt : n < 16 ^ width) (hlarge : 0x10FFFF < n) : e = .char 'U' ∧ width = 8 := by
  unfold escapeWidth? at hwidth
  split at hwidth
  · cases hwidth
    omega
  · cases hwidth
    omega
  · cases hwidth
    exact ⟨rfl, rfl⟩
  · cases hwidth

theorem readsOn_takeQuotedBreaks (fuel : ℕ) (h : c.IsIn cs) : ReadsOn cs (EndsIn cs) (takeQuotedBreaks fuel c) := by
  induction fuel generalizing c with
  | zero => exact ReadsOn.malformed
  | succ fuel ih =>
    unfold takeQuotedBreaks
    split
    · exact ReadsOn.malformed
    · dsimp only
      have hskip := h.skipWhile fun x => x == .char ' ' || x == .char '\t'
      split
      · exact .ok hskip
      · rename_i b c' hbreak
        exact (ih (hskip.takeLineBreak? hbreak)).bind fun found hfound => .ok hfound

/-- The escape whose letter and digits come next is written in the text. -/
theorem isInfix_escape (h : c.IsIn cs) (hslash : c.peek = .char '\\') (hletter : c.advance.peek = .char 'U') (n : ℕ) :
    .char '\\' :: .char 'U' :: c.advance.advance.rest.take n <:+: cs := by
  have hrest : c.rest = .char '\\' :: .char 'U' :: c.advance.advance.rest := by
    rw [Cursor.peek, Cursor.rest_advance] at hletter
    rw [Cursor.peek] at hslash
    rw [Cursor.rest_advance, Cursor.rest_advance]
    rcases hc : c.rest with - | ⟨x, - | ⟨y, rest⟩⟩
    · rw [hc] at hslash
      cases hslash
    · rw [hc] at hletter
      cases hletter
    · rw [hc] at hslash hletter
      cases hslash
      cases hletter
      rfl
  have hprefix : .char '\\' :: .char 'U' :: c.advance.advance.rest.take n <+: c.rest := by
    rw [hrest]
    exact List.cons_prefix_cons.mpr ⟨rfl, List.cons_prefix_cons.mpr ⟨rfl, List.take_prefix n _⟩⟩
  exact hprefix.isInfix.trans h.isInfix

/-- An escape for a number above all code points is written with eight digits. -/
theorem exists_escape (h : c.IsIn cs) (hslash : c.peek = .char '\\') {width n : ℕ}
    (hwidth : escapeWidth? c.advance.peek = some width) (hn : hexNumber? c.advance.advance width = some n)
    (hlarge : 0x10FFFF < n) :
    ∃ digits, .char '\\' :: .char 'U' :: digits <:+: cs ∧ digits.length = 8 ∧ hexCode? digits = some n := by
  obtain ⟨hlength, hcode⟩ := hexNumber?_eq_some hn
  have hlt : n < 16 ^ width := by
    have := hexCode?_lt hcode
    rwa [hlength] at this
  obtain ⟨hletter, rfl⟩ := eq_of_escapeWidth? hwidth hlt hlarge
  exact ⟨_, isInfix_escape h hslash hletter 8, hlength, hcode⟩

theorem readsOn_takeQuotedWord (double : Bool) (fuel : ℕ) (h : c.IsIn cs) :
    ReadsOn cs (EndsIn cs) (takeQuotedWord double fuel c) := by
  induction fuel generalizing c with
  | zero => exact ReadsOn.malformed
  | succ fuel ih =>
    have hmore : ∀ (codes : List CodePoint) {c' : Cursor}, c'.IsIn cs → ReadsOn cs (EndsIn cs)
        (takeQuotedWord double fuel c' >>= fun found => pure (codes ++ found.1, found.2)) :=
      -- Every branch that goes on does so from a later place in the text.
      fun codes c' hc' => (ih hc').bind fun found hfound => .ok hfound
    unfold takeQuotedWord
    dsimp only
    have hplain := h.takeWhile isQuotedPlain
    split
    · exact hmore _ (hplain.advanceBy 2)
    · split
      · exact hmore _ hplain.advance
      · split
        · rename_i hslash
          have hslash : (c.takeWhile isQuotedPlain).2.peek = .char '\\' :=
            eq_of_beq (Bool.and_eq_true_iff.mp hslash).2
          have hadvance := hplain.advance
          split
          · exact hmore _ hadvance.advance
          · split
            · rename_i width hwidth
              split
              · exact ReadsOn.malformed
              · rename_i n hn
                split
                · rename_i hlarge
                  obtain ⟨digits, hwritten, hlength, hcode⟩ :=
                    exists_escape hplain hslash hwidth hn (Nat.lt_trans (by decide) hlarge)
                  exact ReadsOn.unreadable (.codeOverflow hwritten hlength hcode hlarge)
                · rename_i hsmall
                  split
                  · rename_i hlarge
                    obtain ⟨digits, hwritten, hlength, hcode⟩ := exists_escape hplain hslash hwidth hn hlarge
                    exact ReadsOn.unreadable (.codeTooLarge hwritten hlength hcode hlarge (Nat.le_of_not_lt hsmall))
                  · exact hmore _ (hadvance.advance.advanceBy width)
            · split
              · exact ReadsOn.malformed
              · rename_i b c' hbreak
                refine (readsOn_takeQuotedBreaks _ (hadvance.takeLineBreak? hbreak)).bind fun found hfound => ?_
                exact hmore _ hfound
        · exact .ok hplain

theorem readsOn_takeQuotedSpaces (h : c.IsIn cs) : ReadsOn cs (EndsIn cs) (takeQuotedSpaces c) := by
  unfold takeQuotedSpaces
  dsimp only
  have hblanks := h.takeWhile fun x => x == .char ' ' || x == .char '\t'
  split
  · rename_i b c' hbreak
    exact (readsOn_takeQuotedBreaks _ (hblanks.takeLineBreak? hbreak)).bind fun found hfound => .ok hfound
  · split
    · exact ReadsOn.malformed
    · exact .ok hblanks

theorem readsOn_takeQuotedFrom (double : Bool) (fuel : ℕ) (h : c.IsIn cs) :
    ReadsOn cs (EndsIn cs) (takeQuotedFrom double fuel c) := by
  induction fuel generalizing c with
  | zero => exact ReadsOn.malformed
  | succ fuel ih =>
    unfold takeQuotedFrom
    refine (readsOn_takeQuotedWord double _ h).bind fun word hword => ?_
    refine .ite (fun _ => .ok hword.advance) fun _ => ?_
    refine (readsOn_takeQuotedSpaces hword).bind fun blanks hblanks => ?_
    exact (ih hblanks).bind fun more hmore => .ok hmore

/-- A step gives a token that can be read, and a cursor within the text. -/
def TakesToken (cs : List CodePoint) (found : Token × Cursor) : Prop := IsWhole found.1 ∧ found.2.IsIn cs

theorem readsOn_takeQuoted (h : c.IsIn cs) : ReadsOn cs (TakesToken cs) (takeQuoted c) :=
  (readsOn_takeQuotedFrom _ _ h.advance).bind fun _ hcodes => .ok ⟨trivial, hcodes⟩

/-! ### Names, tags and directives -/

theorem readsOn_takeAnchorName (h : c.IsIn cs) : ReadsOn cs (EndsIn cs) (takeAnchorName c) := by
  unfold takeAnchorName
  dsimp only
  split
  · exact ReadsOn.malformed
  · split
    · exact .ok (h.advance.takeWhile _)
    · exact ReadsOn.malformed

theorem readsOn_takeTagBytes (fuel : ℕ) (h : c.IsIn cs) : ReadsOn cs (EndsIn cs) (takeTagBytes fuel c) := by
  induction fuel generalizing c with
  | zero => exact .ok h
  | succ fuel ih =>
    unfold takeTagBytes
    split
    · split
      · exact (ih (h.advanceBy 3)).bind fun found hfound => .ok hfound
      · exact ReadsOn.malformed
    · exact .ok h

theorem readsOn_takeTagFrom (fuel : ℕ) (h : c.IsIn cs) : ReadsOn cs (EndsIn cs) (takeTagFrom fuel c) := by
  induction fuel generalizing c with
  | zero => exact .ok h
  | succ fuel ih =>
    unfold takeTagFrom
    dsimp only
    have hplain := h.takeWhile fun x => isNameChar x || isTagPunctuation x
    split
    · refine (readsOn_takeTagBytes _ hplain).bind fun bytes hbytes => ?_
      split
      · exact ReadsOn.malformed
      · exact (ih hbytes).bind fun more hmore => .ok hmore
    · exact .ok hplain

theorem readsOn_takeTagText (h : c.IsIn cs) : ReadsOn cs (EndsIn cs) (takeTagText c) := by
  refine (readsOn_takeTagFrom _ h).bind fun found hfound => ?_
  dsimp only
  split
  · exact ReadsOn.malformed
  · exact .ok hfound

theorem readsOn_takeTagHandle (h : c.IsIn cs) : ReadsOn cs (EndsIn cs) (takeTagHandle c) := by
  unfold takeTagHandle
  dsimp only
  split
  · exact ReadsOn.malformed
  · split
    · exact .ok h.advance
    · split
      · exact .ok (h.advance.takeWhile isNameChar).advance
      · exact ReadsOn.malformed

theorem readsOn_takeTag (h : c.IsIn cs) : ReadsOn cs (TakesToken cs) (takeTag c) := by
  unfold takeTag
  have hend : ∀ found : Token × Cursor, TakesToken cs found → ReadsOn cs (TakesToken cs)
      (if isSpaceOrEnd found.2.peek then pure found else .error .malformed) :=
    fun found hfound => .ite (fun _ => .ok hfound) fun _ => ReadsOn.malformed
  dsimp only
  split
  · refine (readsOn_takeTagText (h.advanceBy 2)).bind fun suffix hsuffix => ?_
    refine .ite (fun _ => ?_) fun _ => ReadsOn.malformed
    exact hend (.tag none suffix.1, suffix.2.advance) ⟨trivial, hsuffix.advance⟩
  · split
    · exact hend (.tag none "!", c.advance) ⟨trivial, h.advance⟩
    · split
      · refine (readsOn_takeTagHandle h).bind fun handle hhandle => ?_
        refine (readsOn_takeTagText hhandle).bind fun suffix hsuffix => ?_
        exact hend (.tag (some handle.1) suffix.1, suffix.2) ⟨trivial, hsuffix⟩
      · refine (readsOn_takeTagText h.advance).bind fun suffix hsuffix => ?_
        exact hend (.tag (some "!") suffix.1, suffix.2) ⟨trivial, hsuffix⟩

/-- A version number fails if it has too many digits. -/
theorem readsOn_takeVersionNumber (h : c.IsIn cs) : ReadsOn cs (EndsIn cs) (takeVersionNumber c) := by
  unfold takeVersionNumber
  dsimp only
  split
  · exact ReadsOn.malformed
  · rename_i hne
    have hdigits : AreDigits (c.takeWhile CodePoint.isDigit).1 := fun x hx => (List.mem_takeWhile_imp hx)
    have hnonempty : (c.takeWhile CodePoint.isDigit).1 ≠ [] := fun hnil => hne (List.isEmpty_iff.mpr hnil)
    rw [readInt_digits_eq hdigits hnonempty]
    split
    · exact ReadsOn.unreadable (.numberTooLong (h.takeWhile_isInfix _) hdigits ‹_›)
    · exact .ok (h.takeWhile _)

theorem readsOn_takeIgnoredLine (h : c.IsIn cs) : ReadsOn cs (Cursor.IsIn cs) (takeIgnoredLine c) := by
  unfold takeIgnoredLine
  have hspaces := h.skipWhile fun x => x == .char ' '
  have hcomment := (hspaces.skipWhile fun x => !isBreakOrEnd x).ite hspaces
  exact .ite (fun _ => .ok (hcomment _).skipLineBreak) fun _ => ReadsOn.malformed

theorem readsOn_takeDirective (h : c.IsIn cs) : ReadsOn cs (TakesToken cs) (takeDirective c) := by
  unfold takeDirective
  dsimp only
  have hname := h.advance.takeWhile isNameChar
  have hspaces : ∀ {c : Cursor}, c.IsIn cs → (c.skipWhile fun x => x == .char ' ').IsIn cs := fun h => h.skipWhile _
  have hend : ∀ found : Directive × Cursor, found.2.IsIn cs → ReadsOn cs (TakesToken cs) (do
      let c ← takeIgnoredLine found.2
      return (.directive found.1, c)) :=
    fun found hfound => (readsOn_takeIgnoredLine hfound).bind fun c' hc' => .ok ⟨trivial, hc'⟩
  split
  · exact ReadsOn.malformed
  · split
    · refine (readsOn_takeVersionNumber (hspaces hname)).bind fun major hmajor => ?_
      refine .ite (fun _ => ReadsOn.malformed) fun _ => ?_
      refine (readsOn_takeVersionNumber hmajor.advance).bind fun minor hminor => ?_
      exact .ite (fun _ => hend (.version major.1 minor.1, minor.2) hminor) fun _ => ReadsOn.malformed
    · split
      · refine (readsOn_takeTagHandle (hspaces hname)).bind fun handle hhandle => ?_
        refine .ite (fun _ => ReadsOn.malformed) fun _ => ?_
        refine (readsOn_takeTagText (hspaces hhandle)).bind fun start hstart => ?_
        exact .ite (fun _ => hend (.tag handle.1 start.1, start.2) hstart) fun _ => ReadsOn.malformed
      · exact hend (.other, _) (hname.skipWhile _)

/-! ### Block scalars -/

theorem isIn_takeChomping (h : c.IsIn cs) : (takeChomping c).2.IsIn cs := by
  unfold takeChomping
  split
  · exact h.advance
  · split
    · exact h.advance
    · exact h

theorem readsOn_takeIncrement (h : c.IsIn cs) : ReadsOn cs (EndsIn cs) (takeIncrement c) :=
  .ite (fun _ => .ite (fun _ => ReadsOn.malformed) fun _ => .ok h.advance) fun _ => .ok h

theorem readsOn_takeBlockHeader (h : c.IsIn cs) : ReadsOn cs (fun found => found.2.2.IsIn cs) (takeBlockHeader c) := by
  unfold takeBlockHeader
  refine (readsOn_takeIncrement (isIn_takeChomping h)).bind fun increment hincrement => ?_
  dsimp only
  split
  · exact .ite (fun _ => .ok (isIn_takeChomping hincrement)) fun _ => ReadsOn.malformed
  · exact .ite (fun _ => .ok hincrement) fun _ => ReadsOn.malformed

theorem isIn_takeLeadingBreaks (fuel widest : ℕ) (h : c.IsIn cs) : (takeLeadingBreaks fuel widest c).2.2.IsIn cs := by
  induction fuel generalizing widest c with
  | zero => exact h
  | succ fuel ih =>
    unfold takeLeadingBreaks
    split
    · rename_i b c' hbreak
      exact ih widest (h.takeLineBreak? hbreak)
    · split
      · exact ih _ h.advance
      · exact h

theorem isIn_takeBlockBreaks (indent fuel : ℕ) (h : c.IsIn cs) : (takeBlockBreaks indent fuel c).2.IsIn cs := by
  induction fuel generalizing c with
  | zero => exact h
  | succ fuel ih =>
    have hskip : (skipIndent indent c).IsIn cs := h.advanceBy _
    unfold takeBlockBreaks
    dsimp only
    split
    · rename_i b c' hbreak
      exact ih (hskip.takeLineBreak? hbreak)
    · exact hskip

theorem isIn_takeBlockLines (folded : Bool) (indent fuel : ℕ) (breaks : List CodePoint) (h : c.IsIn cs) :
    (takeBlockLines folded indent fuel breaks c).2.2.2.IsIn cs := by
  induction fuel generalizing breaks c with
  | zero => exact h
  | succ fuel ih =>
    have hline := h.takeWhile fun x => !isBreakOrEnd x
    unfold takeBlockLines
    dsimp only
    split
    -- The line ends with a break or with the text; what comes behind is the same.
    all_goals
      first
      | rename_i b c' hbreak
        have hnext := isIn_takeBlockBreaks indent (c'.size + 1) (hline.takeLineBreak? hbreak)
      | have hnext := isIn_takeBlockBreaks indent ((c.takeWhile fun x => !isBreakOrEnd x).2.size + 1) hline
      split
      · exact ih _ hnext
      · exact hnext

theorem readsOn_takeBlockScalar (folded : Bool) (parent : Int) (h : c.IsIn cs) :
    ReadsOn cs (TakesToken cs) (takeBlockScalar folded parent c) := by
  have hlines : ∀ (indent : ℕ) (breaks : List CodePoint) {c : Cursor}, c.IsIn cs →
      (if atBlockLine indent c then takeBlockLines folded indent (c.size + 1) breaks c
        else ([], [], breaks, c)).2.2.2.IsIn cs := by
    intro indent breaks c hc
    split
    · exact isIn_takeBlockLines folded indent _ breaks hc
    · exact hc
  unfold takeBlockScalar
  refine (readsOn_takeBlockHeader h.advance).bind fun ⟨chomping, increment, c₁⟩ hheader => ?_
  refine (readsOn_takeIgnoredLine hheader).bind fun c₂ hc₂ => ?_
  cases increment with
  | none => exact .ok ⟨trivial, hlines _ _ (isIn_takeLeadingBreaks (c₂.size + 1) 0 hc₂)⟩
  | some n => exact .ok ⟨trivial, hlines _ _ (isIn_takeBlockBreaks _ (c₂.size + 1) hc₂)⟩

/-! ### Plain scalars -/

theorem isIn_takePlainBreaks (fuel : ℕ) (h : c.IsIn cs) : (takePlainBreaks fuel c).2.2.IsIn cs := by
  induction fuel generalizing c with
  | zero => exact h
  | succ fuel ih =>
    have hspaces := h.skipWhile fun x => x == .char ' '
    unfold takePlainBreaks
    dsimp only
    split
    · exact hspaces
    · rename_i b c' hbreak
      have hc' := hspaces.takeLineBreak? hbreak
      split
      · exact hc'
      · exact ih hc'

theorem isIn_takePlainSpaces (h : c.IsIn cs) : (takePlainSpaces c).2.2.IsIn cs := by
  have hblanks := h.takeWhile fun x => x == .char ' '
  unfold takePlainSpaces
  dsimp only
  split
  · exact hblanks
  · rename_i b c' hbreak
    have hc' := hblanks.takeLineBreak? hbreak
    split
    · exact hc'
    · split
      · exact isIn_takePlainBreaks _ hc'
      · exact isIn_takePlainBreaks _ hc'

theorem isIn_takePlainFrom (inFlow : Bool) (indent : Int) (fuel : ℕ) (spaces : List CodePoint) (broke : Bool)
    (h : c.IsIn cs) : (takePlainFrom inFlow indent fuel spaces broke c).2.2.IsIn cs := by
  induction fuel generalizing spaces broke c with
  | zero => exact h
  | succ fuel ih =>
    unfold takePlainFrom
    dsimp only
    split
    · exact h
    · split
      · exact h
      · have hnext := isIn_takePlainSpaces (h.advanceBy (wordLength inFlow c.rest))
        split
        · exact hnext
        · exact ih _ _ hnext

theorem takesToken_takePlain (inFlow : Bool) (parent : Int) (h : c.IsIn cs) :
    IsWhole (takePlain inFlow parent c).1 ∧ (takePlain inFlow parent c).2.2.IsIn cs :=
  ⟨trivial, isIn_takePlainFrom inFlow (parent + 1) (c.size + 1) [] false h⟩

/-! ### Readers -/

namespace TokenReader

/-- A reader within a text. All tokens that it has put can be read. -/
structure IsIn (cs : List CodePoint) (r : TokenReader) : Prop where
  cursor : r.cursor.IsIn cs
  whole : ∀ t ∈ r.tokens, IsWhole t

theorem IsIn.emit (h : r.IsIn cs) {t : Token} (ht : IsWhole t) : (r.emit t).IsIn cs where
  cursor := h.cursor
  whole := List.forall_mem_cons.mpr ⟨ht, h.whole⟩

theorem IsIn.emitAt (h : r.IsIn cs) (n : ℕ) {t : Token} (ht : IsWhole t) : (r.emitAt n t).IsIn cs where
  cursor := h.cursor
  whole := by
    intro t' ht'
    simp only [TokenReader.emitAt, List.splitAt_eq, List.mem_append, List.mem_cons] at ht'
    rcases ht' with ht' | rfl | ht'
    · exact h.whole t' (List.mem_of_mem_take ht')
    · exact ht
    · exact h.whole t' (List.mem_of_mem_drop ht')

theorem IsIn.step (h : r.IsIn cs) (n : ℕ) : (r.step n).IsIn cs := ⟨h.cursor.advanceBy n, h.whole⟩

theorem readsOn_dropCandidate (h : r.IsIn cs) : ReadsOn cs (IsIn cs) r.dropCandidate := by
  unfold dropCandidate
  split
  · exact .ite (fun _ => ReadsOn.malformed) fun _ => .ok ⟨h.cursor, h.whole⟩
  · exact .ok h

theorem readsOn_freshen (c : Cursor) (k? : Option KeyCandidate) : ReadsOn cs (fun _ => True) (freshen c k?) := by
  unfold freshen
  split
  · exact .ite (fun _ => .ite (fun _ => ReadsOn.malformed) fun _ => .ok trivial) fun _ => .ok trivial
  · exact .ok trivial

theorem readsOn_dropStale (h : r.IsIn cs) : ReadsOn cs (IsIn cs) r.dropStale := by
  refine (readsOn_freshen _ _).bind fun candidate _ => ?_
  exact (Ends.mapM (readsOn_freshen _) _).bind fun outer _ => .ok ⟨h.cursor, h.whole⟩

theorem readsOn_saveCandidate (h : r.IsIn cs) : ReadsOn cs (IsIn cs) r.saveCandidate := by
  refine .ite (fun _ => ?_) fun _ => .ok h
  exact (readsOn_dropCandidate h).bind fun next hnext => .ok ⟨hnext.cursor, hnext.whole⟩

theorem IsIn.unwindTo (h : r.IsIn cs) (column : Int) : (r.unwindTo column).IsIn cs := by
  have hgo : ∀ (outer : List Int) {r : TokenReader}, r.IsIn cs → (unwindTo.go column r outer).IsIn cs := by
    intro outer
    induction outer with
    | nil => exact fun h => h
    | cons i rest ih =>
      intro r hr
      unfold unwindTo.go
      split
      · have hemit := hr.emit (t := .blockEnd) trivial
        exact ih ⟨hemit.cursor, hemit.whole⟩
      · exact hr
  unfold TokenReader.unwindTo
  split
  · exact h
  · exact hgo _ h

theorem IsIn.openAt (h : r.IsIn cs) {column : Int} {next : TokenReader} (hopen : r.openAt column = some next) :
    next.IsIn cs := by
  unfold TokenReader.openAt at hopen
  split at hopen
  · cases hopen
    exact ⟨h.cursor, h.whole⟩
  · cases hopen

theorem IsIn.skipToToken (h : r.IsIn cs) (fuel : ℕ) : (r.skipToToken fuel).IsIn cs := by
  induction fuel generalizing r with
  | zero => exact h
  | succ fuel ih =>
    have hspaces := h.cursor.skipWhile fun x => x == .char ' '
    have hcomment := (hspaces.skipWhile fun x => !isBreakOrEnd x).ite hspaces
    unfold TokenReader.skipToToken
    dsimp only
    split
    · rename_i b c' hbreak
      exact ih ⟨(hcomment _).takeLineBreak? hbreak, h.whole⟩
    · exact ⟨hcomment _, h.whole⟩

theorem readsOn_closeBlocks (h : r.IsIn cs) : ReadsOn cs (IsIn cs) r.closeBlocks :=
  (readsOn_dropCandidate (h.unwindTo (-1))).bind fun _ hnext => .ok ⟨hnext.cursor, hnext.whole⟩

theorem readsOn_openFlow (h : r.IsIn cs) {t : Token} (ht : IsWhole t) : ReadsOn cs (IsIn cs) (r.openFlow t) := by
  refine (readsOn_saveCandidate h).bind fun next hnext => ?_
  have hstep := (hnext.emit ht).step 1
  exact .ok ⟨hstep.cursor, hstep.whole⟩

theorem readsOn_closeFlow (h : r.IsIn cs) {t : Token} (ht : IsWhole t) : ReadsOn cs (IsIn cs) (r.closeFlow t) := by
  refine (readsOn_dropCandidate h).bind fun next hnext => ?_
  have hstep := (hnext.emit ht).step 1
  dsimp only
  split
  · exact ReadsOn.malformed
  · exact .ok ⟨hstep.cursor, hstep.whole⟩

theorem readsOn_blockMark (h : r.IsIn cs) {opens mark : Token} (hopens : IsWhole opens) (hmark : IsWhole mark) :
    ReadsOn cs (IsIn cs) (r.blockMark opens mark) := by
  have hopen : ∀ next, r.openAt r.cursor.column = some next → (next.emit opens).IsIn cs :=
    fun next hnext => (h.openAt hnext).emit hopens
  unfold blockMark
  refine .ite (fun _ => ReadsOn.malformed) fun _ => ?_
  dsimp only
  refine (readsOn_dropCandidate ⟨?_, ?_⟩).bind fun next hnext => .ok ((hnext.emit hmark).step 1)
  · split
    · exact h.cursor
    · split
      · rename_i next hnext
        exact (hopen next hnext).cursor
      · exact h.cursor
  · split
    · exact h.whole
    · split
      · rename_i next hnext
        exact (hopen next hnext).whole
      · exact h.whole

theorem readsOn_valueMark (h : r.IsIn cs) : ReadsOn cs (IsIn cs) r.valueMark := by
  unfold valueMark
  split
  · rename_i k _
    have hdropped : ({ r with candidate := none, keyAllowed := false } : TokenReader).IsIn cs := ⟨h.cursor, h.whole⟩
    have hkey := hdropped.emitAt k.tokens (t := .key) trivial
    refine .ok (IsIn.step (IsIn.emit (t := .value) ?_ trivial) 1)
    split
    · exact hkey
    · split
      · exact (hkey.openAt ‹_›).emitAt _ trivial
      · exact hkey
  · exact readsOn_blockMark h trivial trivial

theorem readsOn_keyToken (h : r.IsIn cs) {take : Cursor → Except Fault (Token × Cursor)}
    (htake : ∀ {c : Cursor}, c.IsIn cs → ReadsOn cs (TakesToken cs) (take c)) :
    ReadsOn cs (IsIn cs) (r.keyToken take) := by
  refine (readsOn_saveCandidate h).bind fun next hnext => ?_
  refine (htake hnext.cursor).bind fun found hfound => ?_
  exact .ok ⟨hfound.2, (hnext.emit hfound.1).whole⟩

theorem readsOn_plainToken (h : r.IsIn cs) : ReadsOn cs (IsIn cs) r.plainToken := by
  refine (readsOn_saveCandidate h).bind fun next hnext => ?_
  have hplain := takesToken_takePlain next.inFlow next.indent hnext.cursor
  dsimp only
  exact .ok ⟨hplain.2, (hnext.emit hplain.1).whole⟩

theorem readsOn_blockScalarToken (h : r.IsIn cs) (folded : Bool) :
    ReadsOn cs (IsIn cs) (r.blockScalarToken folded) := by
  have hallowed : ({ r with keyAllowed := true } : TokenReader).IsIn cs := ⟨h.cursor, h.whole⟩
  refine (readsOn_dropCandidate hallowed).bind fun next hnext => ?_
  refine (readsOn_takeBlockScalar folded _ hnext.cursor).bind fun found hfound => ?_
  exact .ok ⟨hfound.2, (hnext.emit hfound.1).whole⟩

theorem readsOn_flowEntry (h : r.IsIn cs) : ReadsOn cs (IsIn cs) r.flowEntry := by
  have hallowed : ({ r with keyAllowed := true } : TokenReader).IsIn cs := ⟨h.cursor, h.whole⟩
  exact (readsOn_dropCandidate hallowed).bind fun next hnext => .ok ((hnext.emit (t := .flowEntry) trivial).step 1)

theorem readsOn_token (h : r.IsIn cs) : ReadsOn cs (IsIn cs) r.token := by
  have hseparator : ∀ t, IsWhole t → ReadsOn cs (IsIn cs) (do return ((← r.closeBlocks).emit t).step 3) :=
    fun t ht => (readsOn_closeBlocks h).bind fun next hnext => .ok ((hnext.emit ht).step 3)
  have hname : ∀ f : Text → Token, (∀ name, IsWhole (f name)) →
      ∀ {c : Cursor}, c.IsIn cs → ReadsOn cs (TakesToken cs) ((takeAnchorName c).map fun n => (f n.1, n.2)) :=
    fun f hf c hc => (readsOn_takeAnchorName hc).map fun n hn => ⟨hf n.1, hn⟩
  unfold token
  -- One kind of token after the other, in the order in which they are tried.
  refine .ite (fun _ => ?_) fun _ => ?_
  · refine (readsOn_closeBlocks h).bind fun next hnext => ?_
    refine (readsOn_takeDirective hnext.cursor).bind fun found hfound => ?_
    exact .ok ⟨hfound.2, (hnext.emit hfound.1).whole⟩
  refine .ite (fun _ => hseparator _ trivial) fun _ => ?_
  refine .ite (fun _ => hseparator _ trivial) fun _ => ?_
  refine .ite (fun _ => readsOn_openFlow h trivial) fun _ => ?_
  refine .ite (fun _ => readsOn_openFlow h trivial) fun _ => ?_
  refine .ite (fun _ => readsOn_closeFlow h trivial) fun _ => ?_
  refine .ite (fun _ => readsOn_closeFlow h trivial) fun _ => ?_
  refine .ite (fun _ => readsOn_flowEntry h) fun _ => ?_
  refine .ite (fun _ => readsOn_blockMark h trivial trivial) fun _ => ?_
  refine .ite (fun _ => readsOn_blockMark h trivial trivial) fun _ => ?_
  refine .ite (fun _ => readsOn_valueMark h) fun _ => ?_
  refine .ite (fun _ => readsOn_keyToken h (hname .alias fun _ => trivial)) fun _ => ?_
  refine .ite (fun _ => readsOn_keyToken h (hname .anchor fun _ => trivial)) fun _ => ?_
  refine .ite (fun _ => readsOn_keyToken h readsOn_takeTag) fun _ => ?_
  refine .ite (fun _ => readsOn_blockScalarToken h false) fun _ => ?_
  refine .ite (fun _ => readsOn_blockScalarToken h true) fun _ => ?_
  refine .ite (fun _ => readsOn_keyToken h readsOn_takeQuoted) fun _ => ?_
  exact .ite (fun _ => readsOn_plainToken h) fun _ => ReadsOn.malformed

theorem readsOn_next (h : r.IsIn cs) : ReadsOn cs (fun found => found.1.IsIn cs) r.next := by
  refine (readsOn_dropStale (h.skipToToken _)).bind fun fresh hfresh => ?_
  have hunwound := hfresh.unwindTo fresh.cursor.column
  refine .ite (fun _ => ?_) fun _ => ?_
  · refine (readsOn_dropCandidate (hunwound.unwindTo (-1))).bind fun last hlast => ?_
    exact .ok (hlast.emit (t := .streamEnd) trivial)
  · refine (readsOn_token hunwound).bind fun read hread => ?_
    exact (readsOn_dropStale hread).bind fun next hnext => .ok hnext

/-- A token that cannot be read comes from a text that is malformed or unreadable. -/
theorem unreadable_of_broken_mem_readAll (fuel : ℕ) (h : r.IsIn cs) {fault : Fault}
    (hmem : .broken fault ∈ r.readAll fuel) : fault = .malformed ∨ Unreadable cs fault := by
  induction fuel generalizing r with
  | zero => exact False.elim (h.whole (.broken fault) (List.mem_reverse.mp hmem))
  | succ fuel ih =>
    have hnext := readsOn_next h
    unfold readAll at hmem
    split at hmem
    · rename_i fault' hfault
      rcases List.mem_append.mp hmem with hmem | hmem
      · exact False.elim (h.whole (.broken fault) (List.mem_reverse.mp (List.mem_of_mem_take hmem)))
      · cases List.mem_singleton.mp hmem
        exact hnext.fails fault hfault
    · rename_i read hread
      exact ih (hnext.gives (read, true) hread) hmem
    · rename_i read hread
      exact False.elim ((hnext.gives (read, false) hread).whole (.broken fault) (List.mem_reverse.mp hmem))

end TokenReader

/-- A token of a text that cannot be read comes from a text that is malformed or unreadable. -/
theorem Token.unreadable_of_broken_mem {cs : List CodePoint} {fault : Fault} (h : .broken fault ∈ Token.ofText cs) :
    fault = .malformed ∨ Unreadable cs fault := by
  unfold Token.ofText at h
  split at h
  · refine TokenReader.unreadable_of_broken_mem_readAll _ ⟨?_, List.forall_mem_nil _⟩ h
    have hstart : ({ size := cs.length, rest := cs } : Cursor).IsIn cs := List.suffix_refl cs
    exact hstart.advance.ite hstart _
  · cases List.mem_singleton.mp h
    exact .inl rfl

end LintPreview.Yaml
