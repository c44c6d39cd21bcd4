import LintPreview.Proofs.Yaml.Scalar

/-!
# Texts on lines of limited length

* `Folds`: the words of a text with its spaces, where single spaces may be new lines.
* `Pen.exists_plain`, `Pen.exists_single`: a text is written in such a form, without quotes or in single ones.
* `Scalar.Laid`, `Scalar.onOneLine`: the texts of a scalar.
-/

namespace LintPreview.Yaml

/-! ### Words -/

/-- A new line that starts with `n` spaces. -/
def newline (n : ℕ) : List CodePoint := .char '\n' :: List.replicate n (.char ' ')

/-- The words of a text, each of them spelled by `encode`. A single space between words may be a new line. -/
inductive Folds (n : ℕ) (encode : List CodePoint → List CodePoint) : List CodePoint → List CodePoint → Prop where
  | last {w : List CodePoint} (word : .char ' ' ∉ w) : Folds n encode w (encode w)
  | gap {w rest t : List CodePoint} (k : ℕ) (word : .char ' ' ∉ w) (next : rest.head? ≠ some (.char ' '))
      (more : Folds n encode rest t) :
      Folds n encode (w ++ (List.replicate (k + 1) (.char ' ') ++ rest))
        (encode w ++ (List.replicate (k + 1) (.char ' ') ++ t))
  | fold {w rest t : List CodePoint} (word : .char ' ' ∉ w) (next : rest.head? ≠ some (.char ' ')) (inner : rest ≠ [])
      (more : Folds n encode rest t) : Folds n encode (w ++ .char ' ' :: rest) (encode w ++ (newline n ++ t))

variable {cs w rest : List CodePoint} {n : ℕ}

@[simp] theorem length_newline (n : ℕ) : (newline n).length = n + 1 := by rw [newline, List.length_cons, List.length_replicate]

/-- The first word of a text, the spaces behind it, and the rest. -/
theorem exists_word (cs : List CodePoint) : ∃ w k rest, cs = w ++ (List.replicate k (.char ' ') ++ rest) ∧
    .char ' ' ∉ w ∧ rest.head? ≠ some (.char ' ') ∧ (k = 0 → rest = []) := by
  induction cs with
  | nil => exact ⟨[], 0, [], rfl, List.not_mem_nil, nofun, fun _ => rfl⟩
  | cons c cs ih =>
    obtain ⟨w, k, rest, hcs, hw, hrest, hk⟩ := ih
    by_cases hc : c = .char ' '
    · cases w with
      | nil => exact ⟨[], k + 1, rest, by rw [hc, hcs]; rfl, hw, hrest, nofun⟩
      | cons a w =>
        refine ⟨[], 1, cs, by rw [hc]; rfl, List.not_mem_nil, ?_, nofun⟩
        rw [hcs, List.cons_append, List.head?_cons, ne_eq, Option.some.injEq]
        exact fun ha => hw (List.mem_cons.mpr (.inl ha.symm))
    · exact ⟨c :: w, k, rest, by rw [hcs]; rfl, fun h => (List.mem_cons.mp h).elim (fun h => hc h.symm) hw, hrest, hk⟩

/-- What holds of words, and of a text if it holds of what follows the first word and gap, holds of every text. -/
theorem words_induction {P : List CodePoint → Prop} (last : ∀ w, .char ' ' ∉ w → P w)
    (gap : ∀ w k rest, .char ' ' ∉ w → rest.head? ≠ some (.char ' ') → P rest →
      P (w ++ (List.replicate (k + 1) (.char ' ') ++ rest))) (cs : List CodePoint) : P cs := by
  induction hlength : cs.length using Nat.strong_induction_on generalizing cs with
  | h m ih =>
    obtain ⟨w, k, rest, rfl, hw, hrest, hk⟩ := exists_word cs
    cases k with
    | zero =>
      rw [hk rfl]
      simpa using last w hw
    | succ k =>
      refine gap w k rest hw hrest (ih rest.length ?_ rest rfl)
      simp only [List.length_append, List.length_replicate] at hlength
      omega

/-! ### Runs -/

namespace Pen

/-- The run of a word, unless it is empty. -/
def wordRun (w : List CodePoint) : List Run := if w.isEmpty then [] else [.word w]

theorem runs_nonspace (hprintable : ArePrintable rest) (h : rest.head? ≠ some (.char ' ')) (k : ℕ) (more : List Run) :
    runs rest ≠ .spaces k :: more := by
  cases rest with
  | nil => exact nofun
  | cons c rest =>
    have hspace : (c == CodePoint.char ' ') = false := beq_eq_false_iff_ne.mpr fun hc => h (by rw [hc]; rfl)
    have hbreak := (hprintable c List.mem_cons_self).isKeptBreak
    have hruns : runs (c :: rest) = addChar c (runs rest) := rfl
    rw [hruns]
    unfold addChar
    rw [hspace, hbreak]
    cases runs rest with
    | nil => exact nofun
    | cons r rs => cases r <;> exact nofun

theorem runs_spaces (hprintable : ArePrintable rest) (h : rest.head? ≠ some (.char ' ')) (k : ℕ) :
    runs (List.replicate (k + 1) (.char ' ') ++ rest) = .spaces (k + 1) :: runs rest := by
  induction k with
  | zero =>
    have hne := runs_nonspace hprintable h
    show addChar (.char ' ') (runs rest) = _
    cases hrest : runs rest with
    | nil => rfl
    | cons r rs =>
      cases r with
      | spaces n => exact absurd hrest (hne n rs)
      | word ds => rfl
      | breaks ds => rfl
  | succ k ih =>
    show addChar (.char ' ') (runs (List.replicate (k + 1) (.char ' ') ++ rest)) = _
    rw [ih]
    rfl

theorem runs_word (hprintable : ArePrintable w) (hw : .char ' ' ∉ w) {rs : List Run} {after : List CodePoint}
    (hafter : runs after = rs) (hrs : ∀ ds more, rs ≠ .word ds :: more) : runs (w ++ after) = wordRun w ++ rs := by
  induction w with
  | nil => exact hafter
  | cons c w ih =>
    obtain ⟨hc, hprintable⟩ := List.forall_mem_cons.mp hprintable
    have hspace : (c == CodePoint.char ' ') = false :=
      beq_eq_false_iff_ne.mpr fun h => hw (List.mem_cons.mpr (.inl h.symm))
    have ih := ih hprintable fun h => hw (List.mem_cons_of_mem c h)
    show addChar c (runs (w ++ after)) = _
    rw [ih]
    unfold addChar
    rw [hspace, hc.isKeptBreak]
    cases w with
    | nil =>
      cases rs with
      | nil => rfl
      | cons r rs =>
        cases r with
        | word ds => exact absurd rfl (hrs ds rs)
        | spaces n => rfl
        | breaks ds => rfl
    | cons d w => rfl

theorem runs_last (hprintable : ArePrintable w) (hw : .char ' ' ∉ w) : runs w = wordRun w := by
  have hnil : runs [] = [] := rfl
  simpa using runs_word hprintable hw hnil nofun

theorem runs_gap (hword : ArePrintable w) (hw : .char ' ' ∉ w) (hprintable : ArePrintable rest)
    (h : rest.head? ≠ some (.char ' ')) (k : ℕ) :
    runs (w ++ (List.replicate (k + 1) (.char ' ') ++ rest)) = wordRun w ++ .spaces (k + 1) :: runs rest :=
  runs_word hword hw (runs_spaces hprintable h k) nofun

/-! ### Pens -/

/-- More text on the same line has to start with a space. -/
structure AtEnd (p : Pen) : Prop where
  afterBlank : p.afterBlank = false
  atIndent : p.atIndent = false

/-- The pen stands behind a mark at the column `n`, with nothing else in front. -/
structure AtMark (p : Pen) (n : ℕ) : Prop where
  column : p.column = n + 1
  afterBlank : p.afterBlank = false
  atIndent : p.atIndent = true

/-- The pen stands where a value is written: behind a mark at the column `n`, or behind a short key. -/
def Ready (p : Pen) (n : ℕ) (compact : Bool) : Prop := if compact then p.AtMark n else p.AtEnd

/-- The pen starts a line at the column `n` by writing `lead`. -/
structure Leads (p : Pen) (n : ℕ) (lead : List CodePoint) : Prop where
  written : (p.indentTo n).written = lead.reverse ++ p.written
  column : (p.indentTo n).column = n
  afterBlank : (p.indentTo n).afterBlank = true
  atIndent : (p.indentTo n).atIndent = true

variable {p : Pen}

/-- A line that holds more than the indentation is broken. -/
theorem leads_newline (h : p.atIndent = false ∨ n < p.column) : p.Leads n (newline n) := by
  obtain ⟨written, column, afterBlank, atIndent⟩ := p
  have hbreak : indentTo ⟨written, column, afterBlank, atIndent⟩ n =
      ⟨List.replicate n (.char ' ') ++ .char '\n' :: written, n, true, true⟩ := by
    have hcond : (!atIndent || decide (n < column) || (column == n && !afterBlank)) = true := by
      rcases h with h | h <;> simp_all
    unfold indentTo
    simp only [hcond, if_true, breakLine]
    cases n <;> simp [put]
  have hreverse : (newline n).reverse = List.replicate n (.char ' ') ++ [.char '\n'] := by
    rw [newline, List.reverse_cons, List.reverse_replicate]
  refine ⟨?_, ?_, ?_, ?_⟩
  · rw [hbreak, hreverse, List.append_assoc]
    rfl
  all_goals rw [hbreak]

theorem leads_blank (h : p.AtMark n) : p.Leads (n + 2) [.char ' '] := by
  obtain ⟨written, column, afterBlank, atIndent⟩ := p
  obtain ⟨rfl, rfl, rfl⟩ := h
  have hblank : indentTo ⟨written, n + 1, false, true⟩ (n + 2) = ⟨.char ' ' :: written, n + 2, true, true⟩ := by
    simp [indentTo, put]
  refine ⟨?_, ?_, ?_, ?_⟩
  · rw [hblank]
    rfl
  all_goals rw [hblank]

theorem Ready.afterBlank {compact : Bool} (h : p.Ready n compact) : p.afterBlank = false := by
  cases compact with
  | true => exact AtMark.afterBlank h
  | false => exact AtEnd.afterBlank h

theorem leads_start : Pen.Leads {} 0 [] := ⟨rfl, rfl, rfl, rfl⟩

theorem Leads.mark {lead : List CodePoint} (h : p.Leads n lead) (c : Char) :
    ((p.indentTo n).mark [.char c] true false true).AtMark n ∧
      ((p.indentTo n).mark [.char c] true false true).written = (lead ++ [CodePoint.char c]).reverse ++ p.written := by
  refine ⟨⟨?_, rfl, ?_⟩, ?_⟩
  · simp [Pen.mark, put, h.column, h.afterBlank]
  · simp [Pen.mark, put, h.atIndent]
  · simp [Pen.mark, put, h.afterBlank, h.written]

/-! ### Scalars -/

variable {split : Bool}

theorem plainRuns_wordRun (w : List CodePoint) (rs : List Run) :
    plainRuns split n (wordRun w ++ rs) p = plainRuns split n rs (p.put w) := by
  cases w <;> rfl

/-- Words without quotes, with the folds between them. -/
theorem exists_plainRuns (split : Bool) (hprintable : ArePrintable cs) (hlast : cs.getLast? ≠ some (.char ' ')) (h : p.AtEnd) :
    ∃ t, Folds n id cs t ∧ (split = false → t = cs) ∧ (plainRuns split n (runs cs) p).AtEnd ∧
      (plainRuns split n (runs cs) p).written = t.reverse ++ p.written := by
  induction cs using words_induction generalizing p with
  | last w hw =>
    have hput : plainRuns split n (runs w) p = p.put w := by
      rw [runs_last hprintable hw, ← List.append_nil (wordRun w), plainRuns_wordRun]
      rfl
    rw [hput]
    exact ⟨w, .last hw, fun _ => rfl, ⟨h.afterBlank, h.atIndent⟩, rfl⟩
  | gap w k rest hw hrest ih =>
    obtain ⟨hword, hmore⟩ := List.forall_mem_append.mp hprintable
    have hafter : ArePrintable rest := (List.forall_mem_append.mp hmore).2
    have hne : rest ≠ [] := by
      rintro rfl
      exact hlast (by simp [List.getLast?_replicate])
    have hlast' : rest.getLast? ≠ some (.char ' ') := by
      simpa [List.getLast?_append, List.getLast?_eq_some_getLast hne] using hlast
    rw [runs_gap hword hw hafter hrest, plainRuns_wordRun, plainRuns]
    cases hfolds : (p.put w).foldsAt split (k + 1) with
    | true =>
      obtain ⟨⟨hk, -⟩, hsplit⟩ : (k = 0 ∧ _) ∧ split = true := by simpa [foldsAt] using hfolds
      obtain ⟨t, ht, -, hend, hwritten⟩ := ih hafter hlast' (p := ((p.put w).indentTo n).inText) ⟨rfl, rfl⟩
      have hlead := (leads_newline (n := n) (p := p.put w) (.inl h.atIndent)).written
      refine ⟨w ++ (newline n ++ t), ?_, fun h => absurd (hsplit.symm.trans h) nofun, hend, hwritten.trans ?_⟩
      · subst hk
        exact .fold hw hrest hne ht
      · show _ ++ ((p.put w).indentTo n).written = _
        rw [hlead]
        simp [put]
    | false =>
      obtain ⟨t, ht, hsame, hend, hwritten⟩ :=
        ih hafter hlast' (p := (p.put w).put (List.replicate (k + 1) ' ')) ⟨h.afterBlank, h.atIndent⟩
      refine ⟨_, .gap k hw hrest ht, fun hsplit => by rw [hsame hsplit]; rfl, hend, hwritten.trans ?_⟩
      simp [put]

theorem doubleQuotes_append (cs ds : List CodePoint) : doubleQuotes (cs ++ ds) = doubleQuotes cs ++ doubleQuotes ds :=
  List.flatMap_append

theorem doubleQuotes_spaces (k : ℕ) : doubleQuotes (List.replicate k (.char ' ')) = List.replicate k (.char ' ') := by
  induction k with
  | zero => rfl
  | succ k ih =>
    rw [List.replicate_succ]
    exact congrArg (CodePoint.char ' ' :: ·) ih

theorem doubleQuotes_ne_nil (h : cs ≠ []) : doubleQuotes cs ≠ [] := by
  obtain ⟨c, rest, rfl⟩ := List.exists_cons_of_ne_nil h
  rw [doubleQuotes, List.flatMap_cons]
  split <;> exact nofun

theorem singleRuns_wordRun (first : Bool) (w : List CodePoint) (rs : List Run) :
    singleRuns split n first (wordRun w ++ rs) p = singleRuns split n (first && w.isEmpty) rs (p.put (doubleQuotes w)) := by
  cases w with
  | nil =>
    rw [List.isEmpty_nil, Bool.and_true]
    rfl
  | cons c w =>
    rw [List.isEmpty_cons, Bool.and_false]
    rfl

/-- Words in single quotes, with the folds between them. -/
theorem exists_singleRuns (split : Bool) (hprintable : ArePrintable cs) (first : Bool)
    (h : p.atIndent = false ∨ n ≤ p.column ∧ (p.column = n → cs.head? ≠ some (.char ' '))) :
    ∃ t, Folds n doubleQuotes cs t ∧ (split = false → t = doubleQuotes cs) ∧
      (singleRuns split n first (runs cs) p).written = t.reverse ++ p.written := by
  induction cs using words_induction generalizing p first with
  | last w hw =>
    rw [runs_last hprintable hw, ← List.append_nil (wordRun w), singleRuns_wordRun]
    exact ⟨doubleQuotes w, .last hw, fun _ => rfl, rfl⟩
  | gap w k rest hw hrest ih =>
    obtain ⟨hword, hmore⟩ := List.forall_mem_append.mp hprintable
    have hafter : ArePrintable rest := (List.forall_mem_append.mp hmore).2
    have hstrict : (p.put (doubleQuotes w)).atIndent = false ∨ n < (p.put (doubleQuotes w)).column := by
      refine h.imp id fun ⟨hle, hhead⟩ => ?_
      show n < p.column + (doubleQuotes w).length
      cases w with
      | nil => exact lt_of_le_of_ne hle fun heq => hhead heq.symm rfl
      | cons c w =>
        have := List.length_pos_of_ne_nil (doubleQuotes_ne_nil (List.cons_ne_nil c w))
        omega
    rw [runs_gap hword hw hafter hrest, singleRuns_wordRun, singleRuns]
    cases hfolds : ((p.put (doubleQuotes w)).foldsAt split (k + 1) && !(first && w.isEmpty) && !(runs rest).isEmpty) with
    | true =>
      obtain ⟨⟨⟨⟨hk, -⟩, hsplit⟩, -⟩, hnil⟩ : (((k = 0 ∧ _) ∧ split = true) ∧ _) ∧ runs rest ≠ [] := by
        simpa [foldsAt] using hfolds
      have hne : rest ≠ [] := by
        rintro rfl
        exact hnil rfl
      have hlead := leads_newline hstrict
      obtain ⟨t, ht, -, hwritten⟩ := ih hafter false (p := (p.put (doubleQuotes w)).indentTo n)
        (.inr ⟨hlead.column.ge, fun _ => hrest⟩)
      refine ⟨doubleQuotes w ++ (newline n ++ t), ?_, fun h => absurd (hsplit.symm.trans h) nofun, hwritten.trans ?_⟩
      · subst hk
        exact .fold hw hrest hne ht
      · rw [hlead.written]
        simp [put]
    | false =>
      obtain ⟨t, ht, hsame, hwritten⟩ := ih hafter false (p := (p.put (doubleQuotes w)).put (List.replicate (k + 1) ' '))
        (hstrict.imp id fun hlt => ⟨hlt.le.trans (Nat.le_add_right _ _), fun _ => hrest⟩)
      refine ⟨_, .gap k hw hrest ht, fun hsplit => ?_, hwritten.trans ?_⟩
      · rw [hsame hsplit, doubleQuotes_append, doubleQuotes_append, doubleQuotes_spaces]
      · simp [put]

/-- The space that is needed in front of a text. -/
def blank (p : Pen) : List CodePoint := if p.afterBlank then [] else [.char ' ']

/-- A text without quotes. -/
theorem exists_plain (split : Bool) (hprintable : ArePrintable cs) (hne : cs ≠ []) (hlast : cs.getLast? ≠ some (.char ' ')) :
    ∃ t, Folds n id cs t ∧ (split = false → t = cs) ∧ (p.plain split n cs).AtEnd ∧
      (p.plain split n cs).written = (p.blank ++ t).reverse ++ p.written := by
  obtain ⟨t, ht, hsame, hend, hwritten⟩ := exists_plainRuns (n := n) split hprintable hlast
    (p := (if p.afterBlank then p else p.put [' ']).inText) ⟨rfl, rfl⟩
  have hplain : p.plain split n cs = plainRuns split n (runs cs) (if p.afterBlank then p else p.put [' ']).inText := by
    rw [plain, List.isEmpty_eq_false_iff.mpr hne]
    rfl
  refine ⟨t, ht, hsame, hplain ▸ hend, ?_⟩
  rw [hplain, hwritten, blank]
  cases p.afterBlank <;> simp [inText, put]

/-- A text in single quotes. -/
theorem exists_single (split : Bool) (hprintable : ArePrintable cs) :
    ∃ t, Folds n doubleQuotes cs t ∧ (split = false → t = doubleQuotes cs) ∧ (p.single split n cs).AtEnd ∧
      (p.single split n cs).written = (p.blank ++ (CodePoint.char '\'' :: (t ++ [CodePoint.char '\'']))).reverse ++ p.written := by
  obtain ⟨t, ht, hsame, hwritten⟩ := exists_singleRuns (n := n) split hprintable true (p := p.mark ['\''] true)
    (.inl (Bool.and_false _))
  refine ⟨t, ht, hsame, ⟨rfl, Bool.and_false _⟩, ?_⟩
  have hopen : (p.mark ['\''] true).written = (p.blank ++ [CodePoint.char '\'']).reverse ++ p.written := by
    rw [blank, mark]
    cases p.afterBlank <;> simp [put]
  have hclose : (p.single split n cs).written =
      .char '\'' :: (singleRuns split n true (runs cs) (p.mark ['\''] true)).written := by
    rw [single, mark, Bool.not_false, Bool.or_true]
    rfl
  rw [hclose, hwritten, hopen]
  simp

end Pen

/-! ### Texts of scalars -/

namespace Scalar

/-- The text of a scalar whose lines go on at the column `n`. -/
def Laid (n : ℕ) (s : Scalar) (t : List CodePoint) : Prop :=
  if s.isPlain then Folds n id s.codes t
  else ∃ u, t = .char '\'' :: (u ++ [.char '\'']) ∧ Folds n Pen.doubleQuotes s.codes u

/-- The text of a scalar on one line. -/
def onOneLine (s : Scalar) : List CodePoint :=
  if s.isPlain then s.codes else .char '\'' :: (Pen.doubleQuotes s.codes ++ [.char '\''])

end Scalar

/-- A text without folds. -/
theorem folds_self {encode : List CodePoint → List CodePoint} (happend : ∀ cs ds, encode (cs ++ ds) = encode cs ++ encode ds)
    (hspaces : ∀ k, encode (List.replicate k (.char ' ')) = List.replicate k (.char ' ')) (n : ℕ) (cs : List CodePoint) :
    Folds n encode cs (encode cs) := by
  induction cs using words_induction with
  | last w hw => exact .last hw
  | gap w k rest hw hrest ih =>
    rw [happend, happend, hspaces]
    exact .gap k hw hrest ih

theorem Scalar.laid_onOneLine (n : ℕ) (s : Scalar) : s.Laid n s.onOneLine := by
  unfold Scalar.Laid Scalar.onOneLine
  cases s.isPlain with
  | true => exact folds_self (fun _ _ => rfl) (fun _ => rfl) n s.codes
  | false => exact ⟨_, rfl, folds_self Pen.doubleQuotes_append Pen.doubleQuotes_spaces n s.codes⟩

end LintPreview.Yaml
