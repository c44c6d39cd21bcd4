import LintPreview.Proofs.Outcome
import LintPreview.Yaml.Load

/-!
# The values of a YAML text

* `Loading.HoldsScalars`: what stands for a scalar is no mapping. It holds of everything that is loaded
  (`Loading.holdsScalars_ofGraph`), because each step of the loading keeps it.
* `Loading.HoldsScalars.mapLabel?_tree_ne`: below a collection no mapping has the label of that collection; for the value
  of a text this is `Document.mapLabel?_ne_of_ofYaml`.
-/

namespace LintPreview

/-- The label of a mapping. -/
def Document.mapLabel? : Document → Option Nat
  | .map l _ => some l
  | _ => none

namespace Yaml

/-! ### Scalars -/

theorem mapLabel?_intValue {s : Text} {d : Document} (h : intValue s = .ok d) : d.mapLabel? = none := by
  unfold intValue at h
  split at h
  · cases h
  all_goals
    obtain ⟨n, -, rfl⟩ := exists_of_map_ok h
    rfl

theorem mapLabel?_floatValue {s : Text} {d : Document} (h : floatValue s = .ok d) : d.mapLabel? = none := by
  unfold floatValue at h
  split at h
  · cases h
  all_goals
    obtain ⟨x, -, rfl⟩ := exists_of_map_ok h
    rfl

theorem mapLabel?_boolValue {s : Text} {d : Document} (h : boolValue s = .ok d) : d.mapLabel? = none := by
  unfold boolValue at h
  dsimp only at h
  split at h
  · cases h
    rfl
  · cases h

theorem mapLabel?_binaryValue {s : Text} {d : Document} (h : binaryValue s = .ok d) : d.mapLabel? = none := by
  unfold binaryValue at h
  split at h
  · split at h
    · cases h
      rfl
    · cases h
  · cases h

theorem mapLabel?_momentValue {label : Nat} {s : Text} {d : Document} (h : momentValue label s = .ok d) :
    d.mapLabel? = none := by
  unfold momentValue at h
  split at h
  · cases h
  · obtain ⟨_, -, rfl⟩ := exists_of_map_ok h
    rfl

/-- The value of a scalar is no mapping. -/
theorem mapLabel?_scalarValue {label : Nat} {tag : Tag} {s : Text} {d : Document}
    (h : scalarValue label tag s = .ok d) : d.mapLabel? = none := by
  cases tag with
  | null => cases h; rfl
  | text => cases h; rfl
  | bool => exact mapLabel?_boolValue h
  | int => exact mapLabel?_intValue h
  | float => exact mapLabel?_floatValue h
  | binary => exact mapLabel?_binaryValue h
  | timestamp => exact mapLabel?_momentValue h
  | _ => cases h

namespace Loading

variable {s s' : Loading}

/-! ### Loading -/

/-- What stands for a scalar is no mapping. -/
def HoldsScalars (s : Loading) : Prop :=
  ∀ place d single, s.shapeAt place = some (.leaf d single) → d.mapLabel? = none

theorem HoldsScalars.setShape (h : s.HoldsScalars) (place : Nat) {shape : Shape}
    (hshape : ∀ d single, shape = .leaf d single → d.mapLabel? = none) : (s.setShape place shape).HoldsScalars := by
  intro p d single hp
  unfold Loading.setShape shapeAt at hp
  rw [Array.getElem?_modify] at hp
  split at hp
  · cases hs : s.shapes[p]? with
    | none =>
      rw [hs] at hp
      cases hp
    | some old =>
      rw [hs] at hp
      exact hshape d single (Option.some.inj hp)
  · exact h p d single hp

theorem mapLabel?_of_shapeOf {g : Graph} {place : Nat} {shape : Shape} (h : shapeOf g place = .ok shape)
    (d : Document) (single : Bool) (heq : shape = .leaf d single) : d.mapLabel? = none := by
  subst heq
  unfold shapeOf at h
  split at h
  · cases h
  · cases h
  · cases h
  · cases h
  · cases h
  · dsimp only at h
    split at h
    · cases h
    · obtain ⟨text, -, h⟩ := exists_of_bind_ok h
      split at h
      · cases h
      · obtain ⟨d', hd, h⟩ := exists_of_bind_ok h
        cases h
        exact mapLabel?_scalarValue hd

theorem HoldsScalars.touch (h : s.HoldsScalars) {place : Nat} (htouch : s.touch place = .ok s') : s'.HoldsScalars := by
  unfold Loading.touch at htouch
  split at htouch
  · cases htouch
    exact h
  · obtain ⟨shape, hshape, htouch⟩ := exists_of_bind_ok htouch
    have hs := h.setShape place (mapLabel?_of_shapeOf hshape)
    dsimp only at htouch
    cases htouch
    split
    · exact hs
    · exact hs

/-- A step that keeps a property keeps it along a list. -/
theorem holds_of_foldlM {α : Type} {step : Loading → α → Except Fault Loading} {P : Loading → Prop}
    (hstep : ∀ s a s', P s → step s a = .ok s' → P s') {as : List α} (h : P s) (hfold : as.foldlM step s = .ok s') :
    P s' := by
  induction as generalizing s with
  | nil =>
    cases hfold
    exact h
  | cons a as ih =>
    rw [List.foldlM_cons] at hfold
    obtain ⟨s₁, h₁, hfold⟩ := exists_of_bind_ok hfold
    exact ih (hstep s a s₁ h h₁) hfold

theorem HoldsScalars.touchEntry (h : s.HoldsScalars) {e : Nat × Nat} (htouch : s.touchEntry e = .ok s') :
    s'.HoldsScalars := by
  obtain ⟨s₁, h₁, htouch⟩ := exists_of_bind_ok htouch
  dsimp only at htouch
  split at htouch
  · cases htouch
  · exact (h.touch h₁).touch htouch

theorem HoldsScalars.fillEntries (h : s.HoldsScalars) {place : Nat} {entries : List (Nat × Nat)}
    (hfill : s.fillEntries place = .ok (entries, s')) : s'.HoldsScalars := by
  unfold Loading.fillEntries at hfill
  dsimp only at hfill
  split at hfill
  · cases hfill
  · obtain ⟨graph, -, hfill⟩ := exists_of_bind_ok hfill
    obtain ⟨s₁, h₁, hfill⟩ := exists_of_bind_ok hfill
    cases hfill
    have hgraph : HoldsScalars { s with graph := graph } := h
    exact holds_of_foldlM (fun _ _ _ h htouch => HoldsScalars.touchEntry h htouch) hgraph h₁

theorem HoldsScalars.fillPairs (h : s.HoldsScalars) {items : List Nat} {pairs : List (Nat × Nat)}
    (hfill : s.fillPairs items = .ok (pairs, s')) : s'.HoldsScalars := by
  induction items generalizing s pairs with
  | nil =>
    cases hfill
    exact h
  | cons item items ih =>
    obtain ⟨e, -, hfill⟩ := exists_of_bind_ok hfill
    obtain ⟨s₁, h₁, hfill⟩ := exists_of_bind_ok hfill
    obtain ⟨s₂, h₂, hfill⟩ := exists_of_bind_ok hfill
    obtain ⟨⟨more, s₃⟩, h₃, hfill⟩ := exists_of_bind_ok hfill
    cases hfill
    exact ih ((h.touch h₁).touch h₂) h₃

/-- Filling a collection keeps what stands for scalars. -/
theorem HoldsScalars.fill (h : s.HoldsScalars) {place : Nat} (hfill : s.fill place = .ok s') : s'.HoldsScalars := by
  unfold Loading.fill at hfill
  split at hfill
  · obtain ⟨items, -, hfill⟩ := exists_of_bind_ok hfill
    obtain ⟨s₁, h₁, hfill⟩ := exists_of_bind_ok hfill
    cases hfill
    exact (holds_of_foldlM (fun _ _ _ h htouch => HoldsScalars.touch h htouch) h h₁).setShape place nofun
  · obtain ⟨⟨entries, s₁⟩, h₁, hfill⟩ := exists_of_bind_ok hfill
    cases hfill
    exact (h.fillEntries h₁).setShape place nofun
  · obtain ⟨⟨entries, s₁⟩, h₁, hfill⟩ := exists_of_bind_ok hfill
    cases hfill
    exact (h.fillEntries h₁).setShape place nofun
  · obtain ⟨items, -, hfill⟩ := exists_of_bind_ok hfill
    obtain ⟨⟨pairs, s₁⟩, h₁, hfill⟩ := exists_of_bind_ok hfill
    cases hfill
    exact (h.fillPairs h₁).setShape place nofun
  · cases hfill
    exact h

theorem HoldsScalars.fillAll (h : s.HoldsScalars) {fuel : Nat} (hfill : s.fillAll fuel = .ok s') :
    s'.HoldsScalars := by
  induction fuel generalizing s with
  | zero =>
    cases hfill
    exact h
  | succ fuel ih =>
    unfold Loading.fillAll at hfill
    split at hfill
    · cases hfill
      exact h
    · rename_i place rest _
      obtain ⟨s₁, h₁, hfill⟩ := exists_of_bind_ok hfill
      have hrest : HoldsScalars { s with opened := rest } := h
      exact ih (hrest.fill h₁) hfill

/-- In everything that is loaded, what stands for a scalar is no mapping. -/
theorem holdsScalars_ofGraph {g : Graph} {root : Nat} (h : ofGraph g root = .ok s) : s.HoldsScalars := by
  obtain ⟨s₁, h₁, h⟩ := exists_of_bind_ok h
  refine HoldsScalars.fillAll (HoldsScalars.touch ?_ h₁) h
  intro place d single hplace
  unfold shapeAt at hplace
  rw [Array.getElem?_replicate] at hplace
  split at hplace
  · cases hplace
  · cases hplace

/-! ### Trees -/

theorem exists_of_mem_counting {α β : Type} {step : Nat → α → β × Nat} {next : Nat} {as : List α} {b : β}
    (h : b ∈ (counting step next as).1) : ∃ n a, b = (step n a).1 := by
  induction as generalizing next with
  | nil => cases h
  | cons a as ih =>
    rcases List.mem_cons.mp h with rfl | h
    · exact ⟨next, a, rfl⟩
    · exact ih h

/-- Below a collection no mapping has the label of that collection. -/
theorem HoldsScalars.mapLabel?_tree_ne (h : s.HoldsScalars) (fuel : Nat) {above : List Nat} (next : Nat)
    {place l : Nat} (hl : l ∈ above) : (s.tree fuel above next place).1.mapLabel? ≠ some l := by
  cases fuel with
  | zero => nofun
  | succ fuel =>
    unfold Loading.tree
    dsimp only
    split
    · nofun
    · rename_i hplace
      have hne : place ≠ l := by
        rintro rfl
        exact hplace (List.contains_iff_mem.mpr hl)
      split
      · rename_i hleaf
        rw [h place _ _ hleaf]
        nofun
      · nofun
      · nofun
      · intro heq
        cases heq
        exact hne rfl
      · nofun
      · nofun

/-- No entry of a mapping is the mapping itself. -/
theorem HoldsScalars.mapLabel?_ne_of_mem_toDocument (h : s.HoldsScalars) {place l : Nat}
    {es : List (Document × Document)} (hmap : s.toDocument place = .map l es) {k v : Document} (hv : (k, v) ∈ es) :
    v.mapLabel? ≠ some l := by
  unfold toDocument Loading.tree at hmap
  dsimp only at hmap
  split at hmap
  · cases hmap
  · split at hmap
    · rename_i hleaf
      have hscalar := h place _ _ hleaf
      dsimp only at hmap
      rw [hmap] at hscalar
      cases hscalar
    · cases hmap
    · cases hmap
    · cases hmap
      obtain ⟨n, e, he⟩ := exists_of_mem_counting hv
      have hval : v = (s.tree s.graph.size [place] (s.tree s.graph.size [place] n e.1).2 e.2).1 :=
        congrArg Prod.snd he
      rw [hval]
      exact h.mapLabel?_tree_ne _ _ (List.mem_singleton_self place)
    · cases hmap
    · cases hmap

end Loading

end Yaml

/-- No entry of the mapping that a text holds is the mapping itself. -/
theorem Document.mapLabel?_ne_of_ofYaml {cs : List CodePoint} {l : Nat} {es : List (Document × Document)}
    (h : Document.ofYaml cs = .ok (.map l es)) {k v : Document} (hv : (k, v) ∈ es) : v.mapLabel? ≠ some l := by
  obtain ⟨loaded, hloaded, h⟩ := exists_of_bind_ok h
  cases loaded with
  | none => cases h
  | some loaded =>
    obtain ⟨s, root⟩ := loaded
    obtain ⟨composed, -, hloaded⟩ := exists_of_bind_ok hloaded
    cases composed with
    | none => cases hloaded
    | some composed =>
      obtain ⟨s', hs, hloaded⟩ := exists_of_bind_ok hloaded
      cases hloaded
      exact (Yaml.Loading.holdsScalars_ofGraph hs).mapLabel?_ne_of_mem_toDocument (Except.ok.inj h) hv

end LintPreview
