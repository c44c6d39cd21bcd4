import LintPreview.Proofs.Text.Blocks
import LintPreview.Rule.Details

/-!
# Sections of examples

* `Details.append`: details with examples put at the end of a section.
* `DetailReader.foldl_separators`, `DetailReader.foldl_contents`: what the lines between examples do, and those of one.
* `DetailReader.Adds`: what has been read adds examples to a section, the last of which may still be open.
* `DetailReader.foldl_outside`: outside the sections nothing counts but a heading.
* `readDetails_eq`: the details of a listing, line by line to its very end.
-/

namespace LintPreview

/-! ### Details -/

/-- Details with examples put at the end of a section. -/
def Details.append (d : Details) : DetailSection → List Text → Details
  | .outside, _ => d
  | .triggering, examples => { d with triggeringExamples := d.triggeringExamples ++ examples }
  | .nonTriggering, examples => { d with nonTriggeringExamples := d.nonTriggeringExamples ++ examples }

@[simp] theorem Details.append_nil (d : Details) (place : DetailSection) : d.append place [] = d := by
  cases place <;> simp [append]

theorem Details.append_append (d : Details) (place : DetailSection) (examples more : List Text) :
    (d.append place examples).append place more = d.append place (examples ++ more) := by
  cases place <;> simp [append]

namespace DetailReader

variable {r : DetailReader} {line : List CodePoint} {ls : List (List CodePoint)}

/-! ### Single lines -/

@[simp] theorem place_close (r : DetailReader) : r.close.place = r.place := rfl

@[simp] theorem openExample_close (r : DetailReader) : r.close.openExample = [] := rfl

theorem details_close (r : DetailReader) : r.close.details =
    if (exampleText r.openExample.reverse).isEmpty then r.details
    else r.details.append r.place [exampleText r.openExample.reverse] := by
  unfold close
  dsimp only
  split
  · rfl
  · cases r.place <;> rfl

/-- Closing does nothing if no example is open. -/
theorem close_of_nil (h : r.openExample = []) : r.close = r := by
  have hempty : (exampleText ([] : List (List CodePoint)).reverse).isEmpty = true := rfl
  obtain ⟨d, place, openExample⟩ := r
  cases h
  unfold close
  dsimp only
  rw [if_pos hempty]

@[simp] theorem close_close (r : DetailReader) : r.close.close = r.close := close_of_nil rfl

theorem step_heading {opens : DetailSection} (h : detailLine (Text.trimChars line) = .heading opens) :
    r.step line = { r.close with place := opens } := by
  rw [step, h]

theorem step_separator (h : detailLine (Text.trimChars line) = .separator) (hplace : r.place ≠ .outside) :
    r.step line = r.close := by
  rw [step, h]
  exact if_neg hplace

theorem step_content (h : detailLine (Text.trimChars line) = .content) (hplace : r.place ≠ .outside) :
    r.step line = { r with openExample := exampleLine line :: r.openExample } := by
  rw [step, h]
  exact if_neg hplace

/-- Whatever section is open, a line between examples adds nothing. -/
theorem close_step_separator (h : detailLine (Text.trimChars line) = .separator) : (r.step line).close = r.close := by
  by_cases hplace : r.place = .outside
  · rw [step, h]
    simp [hplace]
  · rw [step_separator h hplace, close_close]

/-! ### Several lines -/

theorem foldl_separators_closed (hls : ∀ l ∈ ls, detailLine (Text.trimChars l) = .separator)
    (hplace : r.place ≠ .outside) (hopen : r.openExample = []) : ls.foldl step r = r := by
  induction ls with
  | nil => rfl
  | cons l ls ih =>
    rw [List.foldl_cons, step_separator (hls l List.mem_cons_self) hplace, close_of_nil hopen]
    exact ih fun m hm => hls m (List.mem_cons_of_mem l hm)

/-- Lines between examples close the open one. -/
theorem foldl_separators (hls : ∀ l ∈ ls, detailLine (Text.trimChars l) = .separator) (hne : ls ≠ [])
    (hplace : r.place ≠ .outside) : ls.foldl step r = r.close := by
  obtain ⟨l, ls, rfl⟩ := List.exists_cons_of_ne_nil hne
  rw [List.foldl_cons, step_separator (hls l List.mem_cons_self) hplace]
  exact foldl_separators_closed (fun m hm => hls m (List.mem_cons_of_mem l hm)) hplace rfl

/-- The lines of an example are kept, the last one in front. -/
theorem foldl_contents (hls : ∀ l ∈ ls, detailLine (Text.trimChars l) = .content) (hplace : r.place ≠ .outside) :
    ls.foldl step r = { r with openExample := (ls.map exampleLine).reverse ++ r.openExample } := by
  induction ls generalizing r with
  | nil => rfl
  | cons l ls ih =>
    rw [List.foldl_cons, step_content (hls l List.mem_cons_self) hplace]
    refine (ih (fun m hm => hls m (List.mem_cons_of_mem l hm)) ?_).trans ?_
    · exact hplace
    · simp

/-- Outside the sections nothing counts but a heading of examples. -/
theorem foldl_outside (hls : ∀ l ∈ ls, ∀ opens, detailLine (Text.trimChars l) = .heading opens → opens = .outside)
    (hplace : r.place = .outside) (hopen : r.openExample = []) : ls.foldl step r = r := by
  have hstep : ∀ l ∈ ls, r.step l = r := by
    intro l hl
    cases hline : detailLine (Text.trimChars l) with
    | heading opens =>
      rw [step_heading hline, hls l hl opens hline, close_of_nil hopen, ← hplace]
    | separator => rw [step, hline, if_pos hplace]
    | content =>
      rw [step, hline]
      exact if_pos hplace
  clear hls
  induction ls with
  | nil => rfl
  | cons l ls ih =>
    rw [List.foldl_cons, hstep l List.mem_cons_self]
    exact ih fun m hm => hstep m (List.mem_cons_of_mem l hm)

/-! ### Sections -/

/-- What has been read since `r` adds examples to its section, the last of which may still be open. -/
structure Adds (r r' : DetailReader) (examples : List Text) : Prop where
  place : r'.place = r.place
  details : r'.close.details = r.close.details.append r.place examples

theorem Adds.refl (r : DetailReader) : r.Adds r [] where
  place := rfl
  details := by rw [Details.append_nil]

theorem Adds.trans {r' r'' : DetailReader} {examples more : List Text} (h : r.Adds r' examples)
    (h' : r'.Adds r'' more) : r.Adds r'' (examples ++ more) where
  place := h'.place.trans h.place
  details := by rw [h'.details, h.details, h.place, Details.append_append]

/-- Lines between examples add nothing. -/
theorem adds_separators (hls : ∀ l ∈ ls, detailLine (Text.trimChars l) = .separator) (hplace : r.place ≠ .outside) :
    r.Adds (ls.foldl step r) [] := by
  cases ls with
  | nil => exact .refl r
  | cons l ls =>
    rw [foldl_separators hls (List.cons_ne_nil l ls) hplace]
    exact ⟨rfl, by rw [close_close, Details.append_nil]⟩

/-- The lines of an example add it, whatever is open before. -/
theorem adds_example {contents : List (List CodePoint)} (hls : ∀ l ∈ ls, detailLine (Text.trimChars l) = .separator)
    (hne : ls ≠ []) (hcontents : ∀ l ∈ contents, detailLine (Text.trimChars l) = .content)
    (hfilled : (exampleText (contents.map exampleLine)).isEmpty = false) (hplace : r.place ≠ .outside) :
    r.Adds ((ls ++ contents).foldl step r) [exampleText (contents.map exampleLine)] := by
  have hread : (ls ++ contents).foldl step r = { r.close with openExample := (contents.map exampleLine).reverse } := by
    rw [List.foldl_append, foldl_separators hls hne hplace]
    have hclose : r.close.place ≠ .outside := hplace
    rw [foldl_contents hcontents hclose, openExample_close, List.append_nil]
  rw [hread]
  refine ⟨rfl, ?_⟩
  rw [details_close]
  simp only [List.reverse_reverse, hfilled, Bool.false_eq_true, if_false]
  rfl

end DetailReader

/-! ### Listings -/

/-- The details of a listing with these lines. -/
def detailsOfLines : List (List CodePoint) → Details
  | [] => {}
  | header :: body => (body.foldl DetailReader.step { details := headerDetails header }).close.details

/-- An empty line at the end adds nothing. -/
theorem detailsOfLines_append_nil (ls : List (List CodePoint)) : detailsOfLines (ls ++ [[]]) = detailsOfLines ls := by
  cases ls with
  | nil => rfl
  | cons header body =>
    have hempty : detailLine (Text.trimChars []) = .separator := by decide
    rw [List.cons_append, detailsOfLines, List.foldl_append, List.foldl_cons, List.foldl_nil,
      DetailReader.close_step_separator hempty, detailsOfLines]

theorem detailsOfLines_feeds (cs : List CodePoint) (n : ℕ) :
    detailsOfLines (Text.lines (cs ++ List.replicate n (.char '\n'))) = detailsOfLines (Text.lines cs) := by
  induction n with
  | zero => rw [List.replicate_zero, List.append_nil]
  | succ n ih =>
    rw [List.replicate_succ', ← List.append_assoc]
    rcases Text.lines_append_feed (cs ++ List.replicate n (.char '\n')) with h | h
    · rw [h, ih]
    · rw [h, detailsOfLines_append_nil, ih]

/-- The details of a listing without line feeds in front, line by line to its very end. -/
theorem readDetails_eq {output : Text} (h : ∀ c ∈ output.toList.head?, c ≠ .char '\n') :
    readDetails output = detailsOfLines (Text.lines output.toList) := by
  have hfront : output.toList.dropWhile (fun c : CodePoint => c == .char '\n') = output.toList := by
    cases hcs : output.toList with
    | nil => rfl
    | cons c rest =>
      have hc : c ≠ .char '\n' := h c (by rw [hcs]; rfl)
      exact List.dropWhile_cons_of_neg (by rwa [beq_iff_eq])
  obtain ⟨n, hend⟩ := Text.exists_replicate_of_dropWhile (.char '\n') output.toList
  calc readDetails output
      = detailsOfLines (Text.lines ((output.toList.dropWhile fun c : CodePoint => c == .char '\n').reverse.dropWhile
          fun c : CodePoint => c == .char '\n').reverse) := rfl
    _ = detailsOfLines (Text.lines output.toList) := by rw [hfront, ← detailsOfLines_feeds _ n, ← hend]

end LintPreview
