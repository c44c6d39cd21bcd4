import LintPreview.Text.Case
import LintPreview.Text.Lines

/-!
# Texts within texts

* `containsText_iff`: `containsText` finds contiguous parts.
* `infix_append_cons_iff`: a text that avoids a character does not reach across it.
* `occurrences`: at how many places a text stands in another. Where texts are put together with a gap that it avoids,
  they are counted one by one (`occurrences_intercalate_cons`).
* `infix_lowerChars_append_cons_iff`: the same for the lower form of a text. The form of a capital sigma depends on what
  stands around it, so the lower form is compared through `lowerFlat`, which makes no difference between the two sigmas.
-/

namespace LintPreview.Text

/-! ### Contiguous parts -/

theorem startsWith_iff {needle cs : List CodePoint} : startsWith needle cs = true ↔ needle <+: cs :=
  List.isPrefixOf_iff_prefix

theorem containsText_iff {needle cs : List CodePoint} : containsText needle cs = true ↔ needle <:+: cs := by
  induction cs with
  | nil => simp [containsText]
  | cons c rest ih => rw [containsText, Bool.or_eq_true, startsWith_iff, ih, List.infix_cons_iff]

theorem prefix_append_cons_iff {needle : List CodePoint} {sep : CodePoint} (h : sep ∉ needle)
    (before after : List CodePoint) : needle <+: before ++ sep :: after ↔ needle <+: before := by
  induction needle generalizing before with
  | nil => simp
  | cons n ns ih =>
    have hn : n ≠ sep := fun e => h (e ▸ List.mem_cons_self)
    have hns : sep ∉ ns := fun m => h (List.mem_cons_of_mem n m)
    cases before with
    | nil => simp [hn]
    | cons b bs => simp [ih hns]

/-- What is found in a text stands on one side of a character that it avoids. -/
theorem infix_append_cons_iff {needle : List CodePoint} {sep : CodePoint} (hne : needle ≠ []) (h : sep ∉ needle)
    (before after : List CodePoint) : needle <:+: before ++ sep :: after ↔ needle <:+: before ∨ needle <:+: after := by
  induction before with
  | nil =>
    have hp : ¬ needle <+: sep :: after := by
      intro hp
      exact hne (List.prefix_nil.mp ((prefix_append_cons_iff h [] after).mp hp))
    simp [List.infix_cons_iff, hp, hne]
  | cons b bs ih =>
    have hp := prefix_append_cons_iff h (b :: bs) after
    rw [List.cons_append] at hp ⊢
    rw [List.infix_cons_iff, hp, ih, List.infix_cons_iff, or_assoc]

/-! ### Counting -/

/-- At how many places of a text `needle` stands. -/
def occurrences (needle : List CodePoint) : List CodePoint → Nat
  | [] => if needle.isEmpty then 1 else 0
  | c :: rest => occurrences needle rest + if startsWith needle (c :: rest) then 1 else 0

theorem occurrences_nil {needle : List CodePoint} (hne : needle ≠ []) : occurrences needle [] = 0 := by
  simp [occurrences, hne]

/-- Places on the two sides of a character that is not looked for are counted apart. -/
theorem occurrences_append_cons {needle : List CodePoint} {sep : CodePoint} (hne : needle ≠ []) (h : sep ∉ needle)
    (before after : List CodePoint) :
    occurrences needle (before ++ sep :: after) = occurrences needle before + occurrences needle after := by
  induction before with
  | nil =>
    have hstart : ¬ startsWith needle (sep :: after) = true := by
      rw [startsWith_iff]
      intro hp
      exact hne (List.prefix_nil.mp ((prefix_append_cons_iff h [] after).mp hp))
    rw [List.nil_append, occurrences_nil hne, occurrences, if_neg hstart, Nat.add_zero, Nat.zero_add]
  | cons b bs ih =>
    have hstart : startsWith needle (b :: (bs ++ sep :: after)) = startsWith needle (b :: bs) := by
      rw [Bool.eq_iff_iff, startsWith_iff, startsWith_iff]
      exact prefix_append_cons_iff h (b :: bs) after
    rw [List.cons_append, occurrences, occurrences, hstart, ih]
    omega

/-- The same for a gap of such characters. -/
theorem occurrences_append_gap {needle gap : List CodePoint} (hne : needle ≠ []) (hgap : gap ≠ [])
    (h : ∀ c ∈ gap, c ∉ needle) (before after : List CodePoint) :
    occurrences needle (before ++ gap ++ after) = occurrences needle before + occurrences needle after := by
  induction gap generalizing before with
  | nil => exact absurd rfl hgap
  | cons g gap ih =>
    have hg : g ∉ needle := h g List.mem_cons_self
    rw [List.append_assoc, List.cons_append, occurrences_append_cons hne hg]
    cases gap with
    | nil => rfl
    | cons g' gap =>
      have hrest := ih (List.cons_ne_nil g' gap) (fun c hc => h c (List.mem_cons_of_mem g hc)) []
      rw [List.nil_append, occurrences_nil hne, Nat.zero_add] at hrest
      rw [hrest]

/-- Texts with a gap between them are counted one by one. -/
theorem occurrences_intercalate_cons {needle : List CodePoint} {sep : Text} (hne : needle ≠ [])
    (hsep : sep.toList ≠ []) (h : ∀ c ∈ sep.toList, c ∉ needle) (t : Text) (ts : List Text) :
    occurrences needle (intercalate sep (t :: ts)).toList =
      occurrences needle t.toList + occurrences needle (intercalate sep ts).toList := by
  cases ts with
  | nil =>
    have hnone : occurrences needle empty.toList = 0 := occurrences_nil hne
    rw [intercalate, intercalate, hnone, Nat.add_zero]
  | cons u ts => rw [intercalate, toList_append, toList_append, occurrences_append_gap hne hsep h]

/-! ### Lower forms -/

/-- Both small sigmas in one form. -/
def oneSigma (c : CodePoint) : CodePoint := if c = 'ς' then 'σ' else c

/-- The lower form of a character, wherever it stands, with one form of the small sigma. -/
def lowerFlat (c : CodePoint) : List CodePoint := if c = 'Σ' then ['σ'] else (lowerChar c).map oneSigma

theorem map_oneSigma_lowerAt (before after : List CodePoint) (c : CodePoint) :
    (lowerAt before c after).map oneSigma = lowerFlat c := by
  unfold lowerAt lowerFlat
  by_cases hc : c = 'Σ'
  · have hs : oneSigma 'ς' = 'σ' ∧ oneSigma 'σ' = 'σ' := by decide
    cases hw : atWordEnd before after <;> simp [hc, hs]
  · simp [hc]

/-- Up to the form of the small sigmas, every character is lowered by itself. -/
theorem map_oneSigma_lowerFrom (before cs : List CodePoint) :
    (lowerFrom before cs).map oneSigma = cs.flatMap lowerFlat := by
  induction cs generalizing before with
  | nil => rfl
  | cons c rest ih => rw [lowerFrom, List.map_append, map_oneSigma_lowerAt, ih, List.flatMap_cons]

theorem prefix_map_oneSigma_iff {needle : List CodePoint} (h : ∀ c ∈ needle, c ≠ 'σ' ∧ c ≠ 'ς')
    (cs : List CodePoint) : needle <+: cs.map oneSigma ↔ needle <+: cs := by
  induction needle generalizing cs with
  | nil => simp
  | cons n ns ih =>
    cases cs with
    | nil => simp
    | cons c rest =>
      have hn : n = oneSigma c ↔ n = c := by
        obtain ⟨h1, h2⟩ := h n List.mem_cons_self
        unfold oneSigma
        split
        · rename_i hc
          rw [hc]
          exact ⟨fun e => absurd e h1, fun e => absurd e h2⟩
        · rfl
      rw [List.map_cons, List.cons_prefix_cons, List.cons_prefix_cons, hn,
        ih fun d hd => h d (List.mem_cons_of_mem n hd)]

theorem infix_map_oneSigma_iff {needle : List CodePoint} (h : ∀ c ∈ needle, c ≠ 'σ' ∧ c ≠ 'ς')
    (cs : List CodePoint) : needle <:+: cs.map oneSigma ↔ needle <:+: cs := by
  induction cs with
  | nil => rfl
  | cons c rest ih =>
    have hp := prefix_map_oneSigma_iff h (c :: rest)
    rw [List.map_cons] at hp ⊢
    rw [List.infix_cons_iff, hp, ih, List.infix_cons_iff]

theorem infix_lowerChars_iff {needle : List CodePoint} (h : ∀ c ∈ needle, c ≠ 'σ' ∧ c ≠ 'ς') (cs : List CodePoint) :
    needle <:+: lowerChars cs ↔ needle <:+: cs.flatMap lowerFlat := by
  rw [← map_oneSigma_lowerFrom [] cs]
  exact (infix_map_oneSigma_iff h _).symm

/-- A character that is its own lower form separates the lower forms of what stands before and after it. -/
theorem infix_lowerChars_append_cons_iff {needle : List CodePoint} {sep : CodePoint} (hne : needle ≠ [])
    (h : ∀ c ∈ needle, c ≠ 'σ' ∧ c ≠ 'ς') (hsep : lowerFlat sep = [sep]) (hmem : sep ∉ needle)
    (before after : List CodePoint) : needle <:+: lowerChars (before ++ sep :: after) ↔
      needle <:+: lowerChars before ∨ needle <:+: lowerChars after := by
  rw [infix_lowerChars_iff h, infix_lowerChars_iff h, infix_lowerChars_iff h, List.flatMap_append, List.flatMap_cons,
    hsep, List.singleton_append, infix_append_cons_iff hne hmem]

end LintPreview.Text
