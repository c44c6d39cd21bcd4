import LintPreview.Proofs.Text.Pieces
import LintPreview.Proofs.Text.Search

/-!
# Blocks of lines

* `lines_append_feed`: a line feed at the end of a text makes no difference to its lines, or opens an empty one.
* `unlines_eq_joinWith_append`: lines with a line feed after each are those with line feeds between them and one more.
* `dedent_indented`: lines that are indented by the same blanks, the first one by no more than these, lose them again.
* `prefix_trimChars_filter`, `infix_filter`: characters taken out of a text leave in place what its trimmed form starts
  with and what stands in it, if none of them is there.
-/

namespace LintPreview.Text

variable {cs needle : List CodePoint} {ls : List (List CodePoint)}

/-! ### Line feeds -/

/-- A character that does not start a pair of line ends is read by itself, also with a line feed behind the text. -/
theorem linesFrom_cons_append_feed {c : CodePoint} {rest : List CodePoint}
    (hpair : ∀ rest', c = .char '\r' → rest = .char '\n' :: rest' → False) (hend : c = .char '\r' → rest ≠ [])
    (line : List CodePoint) : linesFrom line (c :: (rest ++ [.char '\n'])) =
      if isLineEnd c then line.reverse :: linesFrom [] (rest ++ [.char '\n'])
      else linesFrom (c :: line) (rest ++ [.char '\n']) := by
  rw [linesFrom]
  intro rest' hc hrest
  cases rest with
  | nil => exact hend hc rfl
  | cons d ds => exact hpair ds hc (congrArg (· :: ds) (List.cons.inj hrest).1)

theorem linesFrom_append_feed (line cs : List CodePoint) :
    linesFrom line (cs ++ [.char '\n']) = linesFrom line cs ∨
      linesFrom line (cs ++ [.char '\n']) = linesFrom line cs ++ [[]] := by
  fun_induction linesFrom line cs with
  | case1 line hline =>
    right
    rw [List.isEmpty_iff.mp hline]
    rfl
  | case2 line hline =>
    left
    rfl
  | case3 line rest ih =>
    rw [List.cons_append, List.cons_append, linesFrom]
    exact ih.imp (congrArg _) (congrArg _)
  | case4 line c rest hpair hend ih =>
    by_cases hlast : c = .char '\r' ∧ rest = []
    · obtain ⟨rfl, rfl⟩ := hlast
      left
      rfl
    · rw [List.cons_append, linesFrom_cons_append_feed hpair fun hc hrest => hlast ⟨hc, hrest⟩, if_pos hend]
      exact ih.imp (congrArg _) (congrArg _)
  | case5 line c rest hpair hend ih =>
    rw [List.cons_append, linesFrom_cons_append_feed hpair, if_neg hend]
    · exact ih
    · rintro rfl
      exact absurd rfl hend

theorem lines_append_feed (cs : List CodePoint) :
    lines (cs ++ [.char '\n']) = lines cs ∨ lines (cs ++ [.char '\n']) = lines cs ++ [[]] :=
  linesFrom_append_feed [] cs

theorem infix_of_mem_linesFrom {l line cs : List CodePoint} (h : l ∈ linesFrom line cs) :
    l <:+: line.reverse ++ cs := by
  fun_induction linesFrom line cs with
  | case1 line hline => cases h
  | case2 line hline =>
    rw [List.mem_singleton.mp h]
    exact (List.prefix_append _ _).isInfix
  | case3 line rest ih =>
    rcases List.mem_cons.mp h with rfl | h
    · exact (List.prefix_append _ _).isInfix
    · exact (ih h).trans ⟨line.reverse ++ ['\r', '\n'], [], by simp⟩
  | case4 line c rest hpair hend ih =>
    rcases List.mem_cons.mp h with rfl | h
    · exact (List.prefix_append _ _).isInfix
    · exact (ih h).trans ⟨line.reverse ++ [c], [], by simp⟩
  | case5 line c rest hpair hend ih =>
    have := ih h
    rwa [List.reverse_cons, List.append_assoc, List.singleton_append] at this

/-- A line of a text stands in it. -/
theorem infix_of_mem_lines {l : List CodePoint} (h : l ∈ lines cs) : l <:+: cs :=
  infix_of_mem_linesFrom h

/-- A line that has begun goes on. -/
theorem exists_linesFrom_eq_cons {line : List CodePoint} (h : line ≠ []) (cs : List CodePoint) :
    ∃ more rest, linesFrom line cs = (line.reverse ++ more) :: rest := by
  fun_induction linesFrom line cs with
  | case1 line hline => exact absurd (List.isEmpty_iff.mp hline) h
  | case2 line hline => exact ⟨[], [], by rw [List.append_nil]⟩
  | case3 line rest ih => exact ⟨[], _, by rw [List.append_nil]⟩
  | case4 line c rest hpair hend ih => exact ⟨[], _, by rw [List.append_nil]⟩
  | case5 line c rest hpair hend ih =>
    obtain ⟨more, rest', heq⟩ := ih (List.cons_ne_nil c line)
    exact ⟨c :: more, rest', by rw [heq]; simp⟩

/-- The first line of a text starts with what the text starts with, up to a line end. -/
theorem exists_lines_append_eq_cons {start : List CodePoint} (hline : IsLine start) (hne : start ≠ [])
    (cs : List CodePoint) : ∃ more rest, lines (start ++ cs) = (start ++ more) :: rest := by
  have hrev : start.reverse ++ [] ≠ [] := by simpa using hne
  obtain ⟨more, rest, heq⟩ := exists_linesFrom_eq_cons hrev cs
  refine ⟨more, rest, ?_⟩
  rw [lines, linesFrom_append hline, heq]
  simp

/-- Lines with a line feed after each are those with line feeds between them, and one more at the end. -/
theorem unlines_eq_joinWith_append (h : ls ≠ []) : unlines ls = joinWith [.char '\n'] ls ++ [.char '\n'] := by
  induction ls with
  | nil => exact absurd rfl h
  | cons l ls ih =>
    cases ls with
    | nil => simp [unlines, joinWith]
    | cons l' ls =>
      have := ih (List.cons_ne_nil l' ls)
      rw [unlines, List.flatMap_cons, ← unlines, this, joinWith]
      simp

/-- What is taken off the end of a text, as long as it is one character, is this character some number of times. -/
theorem exists_replicate_of_dropWhile (c : CodePoint) (cs : List CodePoint) :
    ∃ n, cs = (cs.reverse.dropWhile fun d => d == c).reverse ++ List.replicate n c := by
  have hrun : cs.reverse.takeWhile (fun d => d == c) =
      List.replicate (cs.reverse.takeWhile fun d => d == c).length c := by
    rw [List.eq_replicate_iff]
    refine ⟨rfl, fun d hd => ?_⟩
    have := List.mem_takeWhile_imp hd
    exact beq_iff_eq.mp this
  refine ⟨(cs.reverse.takeWhile fun d => d == c).length, ?_⟩
  calc cs = cs.reverse.reverse := (List.reverse_reverse cs).symm
    _ = (cs.reverse.takeWhile (fun d => d == c) ++ cs.reverse.dropWhile fun d => d == c).reverse := by
      rw [List.takeWhile_append_dropWhile]
    _ = _ := by rw [List.reverse_append, hrun, List.reverse_replicate, List.length_replicate]

/-- The last one of lines with line feeds between them stands behind the others with a line feed after each. -/
theorem joinWith_append_singleton (ls : List (List CodePoint)) (l : List CodePoint) :
    joinWith [.char '\n'] (ls ++ [l]) = unlines ls ++ l := by
  have hjoin := unlines_eq_joinWith_append (List.append_ne_nil_of_right_ne_nil ls (List.cons_ne_nil l []))
  have hlast : unlines (ls ++ [l]) = (unlines ls ++ l) ++ [.char '\n'] := by simp [unlines]
  exact List.append_cancel_right (hjoin.symm.trans hlast)

theorem head?_joinWith {first : List CodePoint} (h : first ≠ []) (sep : List CodePoint) (rest : List (List CodePoint)) :
    (joinWith sep (first :: rest)).head? = first.head? := by
  obtain ⟨c, cs, rfl⟩ := List.exists_cons_of_ne_nil h
  cases rest <;> rfl

/-- The last character of lines that are put together is the last one of a line. -/
theorem exists_mem_getLast?_of_joinWith {sep : List CodePoint} (hls : ∀ l ∈ ls, l ≠ []) {c : CodePoint}
    (hc : c ∈ (joinWith sep ls).getLast?) : ∃ l ∈ ls, c ∈ l.getLast? := by
  induction ls with
  | nil => cases hc
  | cons l ls ih =>
    cases ls with
    | nil => exact ⟨l, List.mem_cons_self, hc⟩
    | cons l' ls =>
      have hne : joinWith sep (l' :: ls) ≠ [] := by
        intro hnil
        have hhead := head?_joinWith (hls l' (by simp)) sep ls
        rw [hnil] at hhead
        exact hls l' (by simp) (List.head?_eq_none_iff.mp hhead.symm)
      rw [joinWith, List.getLast?_append, List.getLast?_eq_some_getLast hne, Option.some_or,
        ← List.getLast?_eq_some_getLast hne] at hc
      obtain ⟨m, hm, hlast⟩ := ih (fun m hm => hls m (List.mem_cons_of_mem l hm)) hc
      exact ⟨m, List.mem_cons_of_mem l hm, hlast⟩

/-! ### Margins -/

theorem commonStart_append (cs ds : List CodePoint) : commonStart cs (cs ++ ds) = cs := by
  induction cs with
  | nil => cases ds <;> rfl
  | cons c cs ih => rw [List.cons_append, commonStart, if_pos rfl, ih]

theorem foldl_commonStart (cs : List CodePoint) (dss : List (List CodePoint)) :
    (dss.map (cs ++ ·)).foldl commonStart cs = cs := by
  induction dss with
  | nil => rfl
  | cons ds dss ih => rw [List.map_cons, List.foldl_cons, commonStart_append, ih]

/-- Lines lose a margin that is put before each of them, if the first one has no margin of its own. -/
theorem dedent_indented {indent first : List CodePoint} (hindent : isMarginOnly indent = true)
    (hfilled : ∀ l ∈ first :: ls, isMarginOnly l = false) (hfirst : margin first = []) :
    dedent ((first :: ls).map (indent ++ ·)) = first :: ls := by
  have hmargin : ∀ l, margin (indent ++ l) = indent ++ margin l := by
    intro l
    exact List.takeWhile_append_of_pos (List.all_eq_true.mp hindent)
  have hne : ∀ l ∈ first :: ls, (indent ++ l).isEmpty = false := by
    intro l hl
    rw [List.isEmpty_eq_false_iff]
    intro hnil
    have := hfilled l hl
    rw [(List.append_eq_nil_iff.mp hnil).2] at this
    cases this
  have hkept : ((first :: ls).map (indent ++ ·)).map (fun l => if isMarginOnly l then [] else l) =
      (first :: ls).map (indent ++ ·) := by
    rw [List.map_map]
    refine List.map_congr_left fun l hl => ?_
    have hl' : isMarginOnly (indent ++ l) = false := by
      rw [isMarginOnly, List.all_append, ← isMarginOnly, ← isMarginOnly, hindent, hfilled l hl]
      rfl
    rw [Function.comp_apply, hl', if_neg Bool.false_ne_true]
  have hall : ((first :: ls).map (indent ++ ·)).filter (fun l => !l.isEmpty) = (first :: ls).map (indent ++ ·) := by
    rw [List.filter_eq_self]
    intro indented hmem
    obtain ⟨l, hl, rfl⟩ := List.mem_map.mp hmem
    rw [hne l hl]
    rfl
  have hmargins : ((first :: ls).map (indent ++ ·)).map margin = indent :: (ls.map margin).map (indent ++ ·) := by
    simp [hmargin, hfirst]
  have hdrop : ∀ l ∈ first :: ls,
      ((fun l => if l.isEmpty then l else l.drop indent.length) ∘ (indent ++ ·)) l = id l := by
    intro l hl
    rw [Function.comp_apply, hne l hl, if_neg Bool.false_ne_true, List.drop_left]
    rfl
  unfold dedent
  simp only [hkept, hall, hmargins, foldl_commonStart]
  rw [List.map_map, List.map_congr_left hdrop, List.map_id]

/-! ### Trimmed forms -/

/-- What a trimmed form starts with stands behind the first blanks of the text. -/
theorem prefix_trimChars_iff (hneedle : IsTrimmed needle) : needle <+: trimChars cs ↔ needle <+: trimLeftChars cs := by
  constructor
  · intro h
    exact h.trans (trimRightChars_isPrefix _)
  · rintro ⟨after, hafter⟩
    have hlast := hneedle.last
    obtain ⟨init, c, rfl⟩ := (List.eq_nil_or_concat needle).resolve_left hneedle.ne_nil
    rw [List.concat_eq_append] at hafter hlast ⊢
    rw [List.getLast?_concat] at hlast
    rw [trimChars, ← hafter, List.append_assoc, List.singleton_append, trimRightChars_append_cons (hlast c rfl)]
    exact ⟨trimRightChars after, by simp⟩

/-- Characters taken out of a text leave in place what its trimmed form starts with, if none of them is there. -/
theorem prefix_trimChars_filter {keeps : CodePoint → Bool} (hneedle : IsTrimmed needle)
    (hkeeps : ∀ c ∈ needle, keeps c = true) (h : needle <+: trimChars cs) : needle <+: trimChars (cs.filter keeps) := by
  rw [prefix_trimChars_iff hneedle] at h ⊢
  obtain ⟨after, hafter⟩ := h
  have hcs : cs = cs.takeWhile isBlank ++ (needle ++ after) := by
    rw [hafter, trimLeftChars, List.takeWhile_append_dropWhile]
  have hblank : ∀ c ∈ (cs.takeWhile isBlank).filter keeps, isBlank c = true := by
    intro c hc
    exact List.mem_takeWhile_imp (List.mem_filter.mp hc).1
  have hhead : ∀ c ∈ (needle ++ after.filter keeps).head?, isBlank c = false := by
    obtain ⟨c, rest, rfl⟩ := List.exists_cons_of_ne_nil hneedle.ne_nil
    exact hneedle.head
  rw [hcs, List.filter_append, List.filter_append, List.filter_eq_self.mpr hkeeps, trimLeftChars_append hblank,
    trimLeftChars_of_head hhead]
  exact List.prefix_append _ _

/-- Characters taken out of a text leave in place what stands in it, if none of them is there. -/
theorem infix_filter {keeps : CodePoint → Bool} (hkeeps : ∀ c ∈ needle, keeps c = true) (h : needle <:+: cs) :
    needle <:+: cs.filter keeps := by
  have := h.filter keeps
  rwa [List.filter_eq_self.mpr hkeeps] at this

/-- What starts with no blank does not reach into the blanks before a text. -/
theorem infix_of_infix_append {blanks : List CodePoint} (hblanks : ∀ c ∈ blanks, isBlank c = true)
    (hneedle : IsTrimmed needle) (h : needle <:+: blanks ++ cs) : needle <:+: cs := by
  induction blanks with
  | nil => exact h
  | cons b blanks ih =>
    obtain ⟨hb, hblanks⟩ := List.forall_mem_cons.mp hblanks
    rcases List.infix_cons_iff.mp h with hprefix | hin
    · obtain ⟨c, rest, rfl⟩ := List.exists_cons_of_ne_nil hneedle.ne_nil
      rw [← (List.cons_prefix_cons.mp hprefix).1, hneedle.head c rfl] at hb
      cases hb
    · exact ih hblanks hin

end LintPreview.Text
