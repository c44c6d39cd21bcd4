import LintPreview.Text.Case
import LintPreview.Text.Lines
import Mathlib.Data.List.TakeDrop
import Mathlib.Data.List.TakeWhile

/-!
# Trimmed texts, and the pieces of a text

* `trimChars_pad`: blanks put around a text are trimmed off again.
* `splitOnChar_append_cons`: a text without the separator is the first piece of what starts with it.
* `lines_append_cons`: a text without line ends is the first line of what starts with it.
* `cutAt_append_cons`, `eq_of_cutAt`: a text is cut where the separator stands first.
* `trimChars_eq_nil_iff`: nothing is left of a text without the blanks around it if all of it is blank.
* `isTrimmed_trimChars`: what is left of a text without the blanks around it is trimmed, if anything is left.
* `toTitle_ne_empty`: the title form of a text has a letter wherever the text has one.
-/

namespace LintPreview.Text

/-! ### Trimming -/

/-- A text that starts and ends with something that is not blank. -/
structure IsTrimmed (cs : List CodePoint) : Prop where
  ne_nil : cs ≠ []
  head : ∀ c ∈ cs.head?, isBlank c = false
  last : ∀ c ∈ cs.getLast?, isBlank c = false

instance (cs : List CodePoint) : Decidable (IsTrimmed cs) :=
  decidable_of_iff (cs ≠ [] ∧ (∀ c ∈ cs.head?, isBlank c = false) ∧ ∀ c ∈ cs.getLast?, isBlank c = false)
    ⟨fun ⟨h1, h2, h3⟩ => ⟨h1, h2, h3⟩, fun ⟨h1, h2, h3⟩ => ⟨h1, h2, h3⟩⟩

theorem trimLeftChars_of_head {cs : List CodePoint} (h : ∀ c ∈ cs.head?, isBlank c = false) :
    trimLeftChars cs = cs := by
  cases cs with
  | nil => rfl
  | cons c rest =>
    have hc : isBlank c = false := h c rfl
    simp [trimLeftChars, hc]

theorem trimRightChars_of_last {cs : List CodePoint} (h : ∀ c ∈ cs.getLast?, isBlank c = false) :
    trimRightChars cs = cs := by
  have hr : trimLeftChars cs.reverse = cs.reverse := by
    apply trimLeftChars_of_head
    rw [List.head?_reverse]
    exact h
  have : trimRightChars cs = (trimLeftChars cs.reverse).reverse := rfl
  rw [this, hr, List.reverse_reverse]

theorem trimLeftChars_append {blanks : List CodePoint} (h : ∀ c ∈ blanks, isBlank c = true) (cs : List CodePoint) :
    trimLeftChars (blanks ++ cs) = trimLeftChars cs := by
  induction blanks with
  | nil => rfl
  | cons b blanks ih =>
    have hb : isBlank b = true := h b List.mem_cons_self
    have := ih fun c hc => h c (List.mem_cons_of_mem b hc)
    simpa [trimLeftChars, hb] using this

theorem trimRightChars_append {blanks : List CodePoint} (h : ∀ c ∈ blanks, isBlank c = true) (cs : List CodePoint) :
    trimRightChars (cs ++ blanks) = trimRightChars cs := by
  have hr : trimLeftChars (blanks.reverse ++ cs.reverse) = trimLeftChars cs.reverse :=
    trimLeftChars_append (fun c hc => h c (List.mem_reverse.mp hc)) _
  have hcs : ∀ cs, trimRightChars cs = (trimLeftChars cs.reverse).reverse := fun _ => rfl
  rw [hcs, hcs, List.reverse_append, hr]

/-- Blanks around a text are trimmed off. -/
theorem trimChars_pad {before cs after : List CodePoint} (hb : ∀ c ∈ before, isBlank c = true)
    (hcs : IsTrimmed cs) (ha : ∀ c ∈ after, isBlank c = true) : trimChars (before ++ cs ++ after) = cs := by
  have hhead : ∀ c ∈ (cs ++ after).head?, isBlank c = false := by
    obtain ⟨c, rest, rfl⟩ := List.exists_cons_of_ne_nil hcs.ne_nil
    exact hcs.head
  unfold trimChars
  rw [List.append_assoc, trimLeftChars_append hb, trimLeftChars_of_head hhead, trimRightChars_append ha,
    trimRightChars_of_last hcs.last]

theorem IsTrimmed.trimChars_eq {cs : List CodePoint} (h : IsTrimmed cs) : trimChars cs = cs := by
  have hnil : ∀ c ∈ ([] : List CodePoint), isBlank c = true := by simp
  simpa using trimChars_pad hnil h hnil

theorem IsTrimmed.append {cs ds : List CodePoint} (hc : IsTrimmed cs) (hd : IsTrimmed ds) (between : List CodePoint) :
    IsTrimmed (cs ++ between ++ ds) := by
  obtain ⟨c, cs, rfl⟩ := List.exists_cons_of_ne_nil hc.ne_nil
  refine ⟨by simp, hc.head, ?_⟩
  have hor : ((c :: cs ++ between) ++ ds).getLast? = ds.getLast? := by
    rw [List.getLast?_append, List.getLast?_eq_some_getLast hd.ne_nil, Option.some_or]
  rw [hor]
  exact hd.last

/-- Pieces with a mark before them and after each are trimmed, if the mark is not blank. -/
theorem isTrimmed_cons_flatMap {mark : CodePoint} (h : isBlank mark = false) {α : Type} (f : α → List CodePoint)
    (xs : List α) : IsTrimmed (mark :: xs.flatMap fun x => f x ++ [mark]) := by
  have hlast : (mark :: xs.flatMap fun x => f x ++ [mark]).getLast? = some mark := by
    rcases List.eq_nil_or_concat xs with rfl | ⟨init, x, rfl⟩
    · rfl
    · rw [List.concat_eq_append, List.flatMap_append, List.flatMap_singleton, ← List.append_assoc, ← List.cons_append,
        List.getLast?_concat]
  refine ⟨by simp, fun c hc => ?_, fun c hc => ?_⟩
  · rw [← Option.some.inj hc, h]
  · rw [hlast] at hc
    rw [← Option.some.inj hc, h]

theorem trimRightChars_append_cons {c : CodePoint} (h : isBlank c = false) (cs ds : List CodePoint) :
    trimRightChars (cs ++ c :: ds) = cs ++ c :: trimRightChars ds := by
  unfold trimRightChars
  rw [List.reverse_append, List.reverse_cons, List.append_assoc, List.dropWhile_append]
  cases hds : ds.reverse.dropWhile isBlank with
  | nil => simp [h]
  | cons d rest => simp

section

variable {cs : List CodePoint}

theorem head?_trimLeftChars (cs : List CodePoint) : ∀ c ∈ (trimLeftChars cs).head?, isBlank c = false := by
  intro c hc
  have := List.head?_dropWhile_not isBlank cs
  rw [trimLeftChars] at hc
  rw [Option.mem_def.mp hc] at this
  simpa using this

theorem getLast?_trimRightChars (cs : List CodePoint) : ∀ c ∈ (trimRightChars cs).getLast?, isBlank c = false := by
  intro c hc
  have hr : trimRightChars cs = (trimLeftChars cs.reverse).reverse := rfl
  rw [hr, List.getLast?_reverse] at hc
  exact head?_trimLeftChars _ c hc

theorem trimRightChars_isPrefix (cs : List CodePoint) : trimRightChars cs <+: cs := by
  rw [← List.reverse_suffix, trimRightChars, List.reverse_reverse]
  exact List.dropWhile_suffix _

theorem trimChars_isInfix (cs : List CodePoint) : trimChars cs <:+: cs :=
  (trimRightChars_isPrefix _).isInfix.trans (List.dropWhile_suffix _).isInfix

/-- Trimming at the end leaves the first character alone, unless it leaves none. -/
theorem head?_trimRightChars (h : trimRightChars cs ≠ []) : (trimRightChars cs).head? = cs.head? := by
  obtain ⟨after, hafter⟩ := trimRightChars_isPrefix cs
  obtain ⟨c, rest, hc⟩ := List.exists_cons_of_ne_nil h
  rw [hc] at hafter ⊢
  rw [← hafter]
  rfl

theorem isTrimmed_trimChars (h : trimChars cs ≠ []) : IsTrimmed (trimChars cs) where
  ne_nil := h
  head := by
    unfold trimChars at h ⊢
    rw [head?_trimRightChars h]
    exact head?_trimLeftChars cs
  last := getLast?_trimRightChars _

theorem trimChars_eq_nil_iff : trimChars cs = [] ↔ ∀ c ∈ cs, isBlank c = true := by
  have hleft : trimLeftChars cs = [] ↔ ∀ c ∈ cs, isBlank c = true := List.dropWhile_eq_nil_iff
  rw [← hleft]
  constructor
  · intro h
    have hblank := List.dropWhile_eq_nil_iff.mp (List.reverse_eq_nil_iff.mp h)
    cases hcs : trimLeftChars cs with
    | nil => rfl
    | cons c rest =>
      have hhead := head?_trimLeftChars cs c (by rw [hcs]; rfl)
      rw [hblank c (by simp [hcs])] at hhead
      cases hhead
  · intro h
    rw [trimChars, h]
    rfl

end

/-! ### Pieces -/

theorem splitOnChar_of_not_mem {sep : CodePoint} {cs : List CodePoint} (h : sep ∉ cs) : splitOnChar sep cs = [cs] := by
  induction cs with
  | nil => rfl
  | cons c rest ih =>
    have hc : c ≠ sep := fun e => h (e ▸ List.mem_cons_self)
    have hrest : sep ∉ rest := fun m => h (List.mem_cons_of_mem c m)
    simp [splitOnChar, hc, ih hrest]

theorem splitOnChar_append_cons {sep : CodePoint} {cs : List CodePoint} (h : sep ∉ cs) (rest : List CodePoint) :
    splitOnChar sep (cs ++ sep :: rest) = cs :: splitOnChar sep rest := by
  induction cs with
  | nil => simp [splitOnChar]
  | cons c cs ih =>
    have hc : c ≠ sep := fun e => h (e ▸ List.mem_cons_self)
    have hcs : sep ∉ cs := fun m => h (List.mem_cons_of_mem c m)
    simp [splitOnChar, hc, ih hcs]

/-- What stands behind the last separator is the last piece, and not the only one. -/
theorem exists_splitOnChar_append_cons {sep : CodePoint} {last : List CodePoint} (h : sep ∉ last)
    (cs : List CodePoint) : ∃ piece pieces, splitOnChar sep (cs ++ sep :: last) = piece :: (pieces ++ [last]) := by
  induction cs with
  | nil =>
    refine ⟨[], [], ?_⟩
    rw [List.nil_append, splitOnChar, if_pos rfl, splitOnChar_of_not_mem h]
    rfl
  | cons c cs ih =>
    obtain ⟨piece, pieces, hpieces⟩ := ih
    rw [List.cons_append, splitOnChar, hpieces]
    by_cases hc : c = sep
    · rw [if_pos hc]
      exact ⟨[], piece :: pieces, rfl⟩
    · rw [if_neg hc]
      exact ⟨c :: piece, pieces, rfl⟩

/-- Pieces with a separator after each are read back, with nothing after the last one. -/
theorem splitOnChar_flatMap {sep : CodePoint} {pieces : List (List CodePoint)} (h : ∀ p ∈ pieces, sep ∉ p) :
    splitOnChar sep (pieces.flatMap fun p => p ++ [sep]) = pieces ++ [[]] := by
  induction pieces with
  | nil => rfl
  | cons p pieces ih =>
    have hp : sep ∉ p := h p List.mem_cons_self
    have hps := ih fun q hq => h q (List.mem_cons_of_mem p hq)
    rw [List.flatMap_cons, List.append_assoc, List.singleton_append, splitOnChar_append_cons hp, hps, List.cons_append]

/-! ### Lines -/

/-- A text without line ends. -/
def IsLine (cs : List CodePoint) : Prop := ∀ c ∈ cs, isLineEnd c = false

instance (cs : List CodePoint) : Decidable (IsLine cs) :=
  inferInstanceAs (Decidable (∀ c ∈ cs, isLineEnd c = false))

/-- Characters that end no line are added to the current one. -/
theorem linesFrom_append {cs : List CodePoint} (h : IsLine cs) (line rest : List CodePoint) :
    linesFrom line (cs ++ rest) = linesFrom (cs.reverse ++ line) rest := by
  induction cs generalizing line with
  | nil => rfl
  | cons c cs ih =>
    have hc : isLineEnd c = false := h c List.mem_cons_self
    have hr : c ≠ .char '\r' := by
      rintro rfl
      revert hc
      decide
    have step : linesFrom line (c :: (cs ++ rest)) = linesFrom (c :: line) (cs ++ rest) := by
      rw [linesFrom]
      · simp [hc]
      · rintro _ rfl
        exact absurd rfl hr
    rw [List.cons_append, step, ih fun d hd => h d (List.mem_cons_of_mem c hd)]
    simp

theorem lines_append_cons {cs : List CodePoint} (h : IsLine cs) (rest : List CodePoint) :
    lines (cs ++ .char '\n' :: rest) = cs :: lines rest := by
  unfold lines
  rw [linesFrom_append h, linesFrom]
  · have : isLineEnd (.char '\n') = true := by decide
    simp [this]
  · rintro _ ⟨⟩

theorem lines_of_isLine {cs : List CodePoint} (h : IsLine cs) (hne : cs ≠ []) : lines cs = [cs] := by
  have := linesFrom_append h [] []
  rw [List.append_nil] at this
  unfold lines
  rw [this]
  simp [linesFrom, hne]

/-- Texts with a line feed after each. -/
def unlines (ls : List (List CodePoint)) : List CodePoint := ls.flatMap fun l => l ++ [.char '\n']

/-- Whole lines in front of a text are read back. -/
theorem lines_unlines {ls : List (List CodePoint)} (hls : ∀ l ∈ ls, IsLine l) (cs : List CodePoint) :
    lines (unlines ls ++ cs) = ls ++ lines cs := by
  induction ls with
  | nil => rfl
  | cons l ls ih =>
    have hl : IsLine l := hls l List.mem_cons_self
    have hcons : unlines (l :: ls) ++ cs = l ++ .char '\n' :: (unlines ls ++ cs) := by simp [unlines]
    rw [hcons, lines_append_cons hl, ih fun m hm => hls m (List.mem_cons_of_mem l hm), List.cons_append]

/-- Lines are read back as they were put together, also when the last one is left open. -/
theorem lines_unlines_append {ls : List (List CodePoint)} (hls : ∀ l ∈ ls, IsLine l) {last : List CodePoint}
    (hlast : IsLine last) (hne : last ≠ []) : lines (unlines ls ++ last) = ls ++ [last] := by
  rw [lines_unlines hls, lines_of_isLine hlast hne]

/-! ### Cuts -/

section

variable {sep : CodePoint} {cs front rest : List CodePoint}

theorem cutAt_of_not_mem (h : sep ∉ cs) : cutAt sep cs = (cs, none) := by
  have hall : ∀ c ∈ cs, (c != sep) = true := by
    intro c hc
    simp only [bne_iff_ne, ne_eq]
    rintro rfl
    exact h hc
  rw [cutAt, List.span_eq_takeWhile_dropWhile, List.takeWhile_eq_self_iff.mpr hall, List.dropWhile_eq_nil_iff.mpr hall]

theorem cutAt_append_cons (h : sep ∉ front) (rest : List CodePoint) :
    cutAt sep (front ++ sep :: rest) = (front, some rest) := by
  have hall : ∀ c ∈ front, (c != sep) = true := by
    intro c hc
    simp only [bne_iff_ne, ne_eq]
    rintro rfl
    exact h hc
  rw [cutAt, List.span_eq_takeWhile_dropWhile, List.takeWhile_append_of_pos hall, List.dropWhile_append_of_pos hall]
  simp

/-- What a text is cut into. -/
theorem eq_of_cutAt (h : cutAt sep cs = (front, some rest)) : cs = front ++ sep :: rest ∧ sep ∉ front := by
  by_cases hmem : sep ∈ cs
  · obtain ⟨before, after, rfl, hnot⟩ := List.eq_append_cons_of_mem hmem
    rw [cutAt_append_cons hnot] at h
    cases h
    exact ⟨rfl, hnot⟩
  · rw [cutAt_of_not_mem hmem] at h
    cases h

end

/-! ### Title forms -/

theorem titleExpansions_ne_nil : ∀ e ∈ titleExpansions, e.2 ≠ [] := by decide

theorem titleChar_ne_nil (c : CodePoint) : titleChar c ≠ [] := by
  unfold titleChar
  split
  · exact List.cons_ne_nil _ _
  · split
    · rename_i e ns hfind
      have := titleExpansions_ne_nil _ (List.mem_of_find?_eq_some hfind)
      simpa using this
    · exact List.cons_ne_nil _ _

/-- The title form of a text with something in it has something in it. -/
theorem toTitle_ne_empty {s : Text} (h : s ≠ empty) : toTitle s ≠ empty := by
  have hs : s.toList ≠ [] := fun hnil => h (ext_toList hnil)
  obtain ⟨c, rest, hc⟩ := List.exists_cons_of_ne_nil hs
  intro htitle
  have hnil : titleFrom [] (c :: rest) = [] := by
    rw [← hc]
    exact congrArg toList htitle
  rw [titleFrom, List.append_eq_nil_iff] at hnil
  exact titleChar_ne_nil c hnil.1

end LintPreview.Text
