import LintPreview.Proofs.Yaml.Merging
import LintPreview.Proofs.Yaml.Refused
import LintPreview.Yaml.Load
import Mathlib.Data.Finset.Card
import Mathlib.Data.Nat.SuccPred
import Mathlib.Logic.Function.Iterate
import Mathlib.Order.SuccPred.Relation

/-!
# Texts that have no meaning

* `Graph.Meaningless`: a node stands for no value. Its scalar does not go with its tag, or looking for its default value
  leads in a circle.
* `Meaningless`: a text can be YAML by its rules and yet hold no document; the ways in which that comes about.
* `meaningless_of_ofYaml`: there are no others.
-/

namespace LintPreview.Yaml

open Loading

variable {g g₀ g' : Graph} {place p q : ℕ} {fault : Fault}

namespace Graph

/-! ### Default values -/

/-- A mapping that stands for a scalar stands for the value of one of its default keys. -/
def Defaults (g : Graph) (p q : ℕ) : Prop := ∃ e ∈ g.entriesAt p, g.tagAt e.1 = .default ∧ e.2 = q

/-- The value of the first default key of a mapping. -/
def defaultOf (g : Graph) (p : ℕ) : ℕ := ((g.entriesAt p).find? fun e => g.tagAt e.1 = .default).elim p Prod.snd

theorem Defaults.isMapping (h : g.Defaults p q) : g.isMapping p = true := by
  obtain ⟨e, he, -⟩ := h
  exact isMapping_of_entriesAt_ne_nil (List.ne_nil_of_mem he)

theorem MergedFrom.defaults (h : MergedFrom g₀ g) (hpq : g.Defaults p q) : g₀.Defaults p q := by
  obtain ⟨e, he, hdefault, hq⟩ := hpq
  exact ⟨e, h.default p e he hdefault, h.tagAt_eq_default hdefault, hq⟩

/-- Default values that go on and on come back to where they have been. -/
theorem exists_circle {f : ℕ → ℕ} (h : ∀ i < g.size + 1, g.Defaults (f i) (f (i + 1))) :
    ∃ p, Relation.TransGen g.Defaults p p := by
  have hplaces : Set.MapsTo f (Finset.range (g.size + 1)) (Finset.range g.size) := by
    intro i hi
    have hi : i < g.size + 1 := Finset.mem_range.mp hi
    exact Finset.mem_coe.mpr (Finset.mem_range.mpr (lt_size_of_isMapping (h i hi).isMapping))
  -- There are more steps than places, so two of them start at the same place.
  obtain ⟨i, hi, j, hj, hne, heq⟩ := Finset.exists_ne_map_eq_of_card_lt_of_maps_to (by simp) hplaces
  have hpath : ∀ i j, i < j → j < g.size + 1 → Relation.TransGen g.Defaults (f i) (f j) := by
    intro i j hij hj
    have hsteps := transGen_of_succ_of_lt (fun i j => g.Defaults (f i) (f j))
      (fun k hk => h k (lt_trans (Set.mem_Ico.mp hk).2 hj)) hij
    exact hsteps.lift f fun _ _ => id
  rcases Nat.lt_or_gt_of_ne hne with hlt | hlt
  · exact ⟨f i, heq ▸ hpath i j hlt (Finset.mem_range.mp hj)⟩
  · exact ⟨f j, heq ▸ hpath j i hlt (Finset.mem_range.mp hi)⟩

end Graph

/-! ### Scalars -/

/-- A node stands for its own text, for its default value, or for no text. -/
theorem scalarText_succ_cases (fuel : ℕ) (g : Graph) (place : ℕ) :
    (∃ s, g[place]?.map Node.content = some (.scalar s) ∧ scalarText (fuel + 1) g place = .ok s) ∨
    (g.Defaults place (g.defaultOf place) ∧
      scalarText (fuel + 1) g place = scalarText fuel g (g.defaultOf place)) ∨
    scalarText (fuel + 1) g place = .error .malformed := by
  rw [scalarText]
  split
  · rename_i s hs
    exact .inl ⟨s, hs, rfl⟩
  · rename_i entries hentries
    have hat : g.entriesAt place = entries := by
      unfold Graph.entriesAt
      rw [hentries]
    split
    · rename_i e he
      have hdefault : g.defaultOf place = e.2 := by
        unfold Graph.defaultOf
        rw [hat, he]
        rfl
      rw [hdefault]
      have htag := List.find?_some he
      exact .inr (.inl ⟨⟨e, hat ▸ List.mem_of_find?_eq_some he, of_decide_eq_true htag, rfl⟩, rfl⟩)
    · exact .inr (.inr rfl)
  · exact .inr (.inr rfl)

theorem defaults_of_scalarText {fuel : ℕ} (h : scalarText fuel g place = .error .tooDeep) :
    ∀ i < fuel, g.Defaults (g.defaultOf^[i] place) (g.defaultOf^[i + 1] place) := by
  induction fuel generalizing place with
  | zero => nofun
  | succ fuel ih =>
    rcases scalarText_succ_cases fuel g place with ⟨s, -, hs⟩ | ⟨hdefault, hs⟩ | hs
    · rw [hs] at h
      cases h
    · rw [hs] at h
      intro i hi
      cases i with
      | zero => exact hdefault
      | succ i => exact ih h i (Nat.lt_of_succ_lt_succ hi)
    · rw [hs] at h
      cases h

theorem ends_scalarText (fuel : ℕ) (g : Graph) (place : ℕ) :
    Ends (fun fault => fault = .malformed ∨ fault = .tooDeep)
      (fun s => ∃ q, Relation.ReflTransGen g.Defaults place q ∧ g[q]?.map Node.content = some (.scalar s))
      (scalarText fuel g place) := by
  induction fuel generalizing place with
  | zero => exact .error (.inr rfl)
  | succ fuel ih =>
    rcases scalarText_succ_cases fuel g place with ⟨s, hs, htext⟩ | ⟨hdefault, htext⟩ | htext
    · rw [htext]
      exact .ok ⟨place, .refl, hs⟩
    · rw [htext]
      refine (ih (g.defaultOf place)).imp (fun _ => id) ?_
      rintro s ⟨q, hq, hs⟩
      exact ⟨q, .head hdefault hq, hs⟩
    · rw [htext]
      exact .error (.inl rfl)

/-- Why a node of a graph stands for no value. -/
inductive Graph.Meaningless (g : Graph) : Fault → Prop where
  | scalar {place q : ℕ} {s : Text} {fault : Fault} (path : Relation.ReflTransGen g.Defaults place q)
      (content : g[q]?.map Node.content = some (.scalar s))
      (value : scalarValue place (g.tagAt place) s = .error fault) : Meaningless g fault
  | timestampOfMapping {place : ℕ} (tag : g.tagAt place = .timestamp) (mapping : g.isMapping place = true) :
    Meaningless g .timestampOfMapping
  | circle {place : ℕ} (path : Relation.TransGen g.Defaults place place) : Meaningless g .tooDeep

/-! ### Loading -/

/-- Loading fails because the text is malformed, or because a node of its graph stands for no value. -/
abbrev Graph.Fails (g : Graph) (fault : Fault) : Prop := fault = .malformed ∨ g.Meaningless fault

theorem ends_scalarText_size (g : Graph) (place : ℕ) :
    Ends (fun fault => fault = .malformed ∨ fault = .tooDeep ∧ ∃ p, Relation.TransGen g.Defaults p p)
      (fun s => ∃ q, Relation.ReflTransGen g.Defaults place q ∧ g[q]?.map Node.content = some (.scalar s))
      (scalarText (g.size + 1) g place) where
  gives := (ends_scalarText (g.size + 1) g place).gives
  fails fault h := by
    refine ((ends_scalarText (g.size + 1) g place).fails fault h).imp_right ?_
    rintro rfl
    exact ⟨rfl, Graph.exists_circle (defaults_of_scalarText h)⟩

/-- What merging has made a text stands for that text. -/
theorem scalarValue_of_mergedFrom (h : g₀.MergedFrom g) {s : Text}
    (hvalue : scalarValue place (g.tagAt place) s = .error fault) :
    scalarValue place (g₀.tagAt place) s = .error fault := by
  rcases h.tag place with htag | ⟨-, htag⟩
  · rw [← htag]
    exact hvalue
  · rw [htag] at hvalue
    cases hvalue

theorem ends_shapeOf (h : g₀.MergedFrom g) (place : ℕ) : Ends g₀.Fails (fun _ => True) (shapeOf g place) := by
  unfold shapeOf
  split
  · exact .ok trivial
  · exact .ok trivial
  · exact .ok trivial
  · exact .ok trivial
  · exact .ok trivial
  · dsimp only
    split
    · exact .error (.inl rfl)
    · refine ((ends_scalarText_size g place).imp ?_ fun _ => id).bind ?_
      · rintro fault (hfault | ⟨rfl, p, hp⟩)
        · exact .inl hfault
        · exact .inr (.circle (Relation.TransGen.mono (fun _ _ => h.defaults) _ _ hp))
      · rintro s ⟨q, hq, hs⟩
        split
        · rename_i hmoment
          rw [Bool.and_eq_true, decide_eq_true_eq, h.isMapping_eq] at hmoment
          refine .error (.inr (.timestampOfMapping ?_ hmoment.2))
          rcases h.tag place with htag | ⟨-, htag⟩
          · rw [← htag]
            exact hmoment.1
          · rw [htag] at hmoment
            cases hmoment.1
        · cases hvalue : scalarValue place (g.tagAt place) s with
          | ok d => exact .ok trivial
          | error fault =>
            have hpath := Relation.ReflTransGen.mono (fun _ _ => h.defaults) _ _ hq
            have hmapping : g.isMapping q = false := by
              unfold Graph.isMapping
              rw [hs]
            exact .error (.inr (.scalar hpath (h.content_eq hs hmapping) (scalarValue_of_mergedFrom h hvalue)))

namespace Loading

variable {s : Loading}

theorem ends_touch (h : g₀.MergedFrom s.graph) (place : ℕ) :
    Ends g₀.Fails (fun s' => g₀.MergedFrom s'.graph) (s.touch place) := by
  unfold touch
  split
  · exact .ok h
  · refine (ends_shapeOf h place).bind fun shape _ => ?_
    dsimp only
    refine .ok ?_
    split
    · exact h
    · exact h

theorem ends_touchEntry (h : g₀.MergedFrom s.graph) (e : ℕ × ℕ) :
    Ends g₀.Fails (fun s' => g₀.MergedFrom s'.graph) (s.touchEntry e) := by
  refine (ends_touch h e.1).bind fun s₁ h₁ => ?_
  dsimp only
  split
  · exact .error (.inl rfl)
  · exact ends_touch h₁ e.2

theorem ends_fillEntries (h : g₀.MergedFrom s.graph) (place : ℕ) :
    Ends g₀.Fails (fun filled => g₀.MergedFrom filled.2.graph) (s.fillEntries place) := by
  unfold fillEntries
  dsimp only
  split
  · exact .error (.inl rfl)
  · rename_i hmapping
    have hmapping : s.graph.isMapping place = true := by simpa using hmapping
    refine ((Graph.ends_flatten hmapping).imp (fun _ => .inl) fun _ => id).bind fun graph hgraph => ?_
    have hstep : ∀ (s : Loading) (e : ℕ × ℕ), g₀.MergedFrom s.graph →
        Ends g₀.Fails (fun s' => g₀.MergedFrom s'.graph) (s.touchEntry e) := fun s e h => ends_touchEntry h e
    exact (Ends.foldlM hstep (h.trans hgraph.1) (graph.entriesAt place)).bind fun s₁ h₁ => .ok h₁

theorem ends_pairAt (g : Graph) (place : ℕ) : Ends g₀.Fails (fun _ => True) (pairAt g place) := by
  unfold pairAt
  split
  · exact .ok trivial
  · exact .error (.inl rfl)

theorem ends_itemsAt (g : Graph) (place : ℕ) : Ends g₀.Fails (fun _ => True) (itemsAt g place) := by
  unfold itemsAt
  split
  · exact .ok trivial
  · exact .error (.inl rfl)

theorem ends_fillPairs (h : g₀.MergedFrom s.graph) (items : List ℕ) :
    Ends g₀.Fails (fun filled => g₀.MergedFrom filled.2.graph) (s.fillPairs items) := by
  induction items generalizing s with
  | nil => exact .ok h
  | cons item items ih =>
    refine (ends_pairAt s.graph item).bind fun e _ => ?_
    refine (ends_touch h e.1).bind fun s₁ h₁ => ?_
    refine (ends_touch h₁ e.2).bind fun s₂ h₂ => ?_
    exact (ih h₂).bind fun filled h₃ => .ok h₃

/-- Filling a collection keeps the graph as merging leaves it. -/
theorem ends_fill (h : g₀.MergedFrom s.graph) (place : ℕ) :
    Ends g₀.Fails (fun s' => g₀.MergedFrom s'.graph) (s.fill place) := by
  unfold fill
  split
  · refine (ends_itemsAt s.graph place).bind fun items _ => ?_
    exact (Ends.foldlM (fun s p h => ends_touch h p) h items).bind fun s₁ h₁ => .ok h₁
  · exact (ends_fillEntries h place).bind fun filled h₁ => .ok h₁
  · exact (ends_fillEntries h place).bind fun filled h₁ => .ok h₁
  · refine (ends_itemsAt s.graph place).bind fun items _ => ?_
    exact (ends_fillPairs h items).bind fun filled h₁ => .ok h₁
  · exact .ok h

theorem ends_fillAll (h : g₀.MergedFrom s.graph) (fuel : ℕ) :
    Ends g₀.Fails (fun s' => g₀.MergedFrom s'.graph) (s.fillAll fuel) := by
  induction fuel generalizing s with
  | zero => exact .ok h
  | succ fuel ih =>
    unfold fillAll
    split
    · exact .ok h
    · rename_i place rest _
      have hrest : g₀.MergedFrom { s with opened := rest : Loading }.graph := h
      exact (ends_fill hrest place).bind fun s₁ h₁ => ih h₁

/-- Where a graph has no values, the text is malformed or one of its nodes has no meaning. -/
theorem ends_ofGraph (g : Graph) (root : ℕ) :
    Ends g.Fails (fun s => g.MergedFrom s.graph) (ofGraph g root) :=
  (ends_touch (.refl g) root).bind fun _ h => ends_fillAll h _

end Loading

/-! ### Texts -/

/-- Why a text that may well be YAML holds no document. -/
inductive Meaningless (cs : List CodePoint) : Fault → Prop where
  | token {fault : Fault} (token : Unreadable cs fault) : Meaningless cs fault
  | nesting (graph : Graph.ofTokens (Token.ofText cs) = .error .tooDeep) : Meaningless cs .tooDeep
  | value {g : Graph} {root : ℕ} {fault : Fault} (graph : Graph.ofTokens (Token.ofText cs) = .ok (some (g, root)))
      (node : g.Meaningless fault) : Meaningless cs fault

/-- A text that holds no document is malformed or has no meaning. -/
theorem meaningless_of_ofYaml {cs : List CodePoint} (h : Document.ofYaml cs = .error fault) :
    fault = .malformed ∨ Meaningless cs fault := by
  unfold Document.ofYaml loadedText at h
  cases hgraph : Graph.ofTokens (Token.ofText cs) with
  | error fault' =>
    rw [hgraph] at h
    cases h
    rcases Graph.isRefusal_of_ofTokens hgraph with _ | _ | htoken
    · exact .inl rfl
    · exact .inr (.nesting hgraph)
    · exact (Token.unreadable_of_broken_mem htoken).imp_right .token
  | ok composed =>
    rw [hgraph] at h
    cases composed with
    | none => cases h
    | some composed =>
      obtain ⟨g, root⟩ := composed
      cases hload : Loading.ofGraph g root with
      | error fault' =>
        dsimp only [bind, Except.bind] at h
        rw [hload] at h
        cases h
        exact ((Loading.ends_ofGraph g root).fails fault hload).imp_right (.value hgraph)
      | ok s =>
        dsimp only [bind, Except.bind] at h
        rw [hload] at h
        cases h

end LintPreview.Yaml
