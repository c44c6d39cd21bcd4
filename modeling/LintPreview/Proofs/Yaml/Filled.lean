import LintPreview.Proofs.Outcome
import LintPreview.Proofs.Yaml.Simple
import LintPreview.Yaml.Load
import Mathlib.Data.List.Induction
import Mathlib.Data.List.TakeDrop
import Mathlib.Data.List.TakeWhile

/-!
# The value of a graph

* `Graph.Holds`: a graph holds a document at a place, every node of a collection behind the collection itself.
* `Loading.Sound`: every node that has a value has the right one, or is still to be filled. Each step of the loading
  keeps this and succeeds (`Loading.Sound.exists_touch`, `Loading.Sound.exists_fill`).
* `Loading.exists_ofGraph`: the value of the root is the document that the graph holds there.
-/

namespace LintPreview.Yaml

/-- A scalar with this tag and text stands for the document. -/
structure StandsFor (tag : Tag) (text : Text) (d : Document) : Prop where
  isLeaf : tag = .null ∨ tag = .bool ∨ tag = .int ∨ tag = .text
  value : ∀ place, scalarValue place tag text = .ok d
  single : Loading.isSingleNan d text = false

namespace Graph

mutual

/-- The graph holds a document at a place. The nodes inside a collection have greater places than the collection. -/
def Holds (g : Graph) (place : ℕ) : Document → Prop
  | .list _ items => ∃ places, g[place]? = some ⟨.sequence, .sequence places⟩ ∧ g.HoldsItems place items places
  | .map _ entries => ∃ places, g[place]? = some ⟨.mapping, .mapping places⟩ ∧ g.HoldsEntries place entries places
  | d => ∃ tag text, g[place]? = some ⟨tag, .scalar text⟩ ∧ StandsFor tag text d

/-- The graph holds items at places behind a place. -/
def HoldsItems (g : Graph) (place : ℕ) : List Document → List ℕ → Prop
  | [], [] => True
  | d :: ds, p :: ps => place < p ∧ g.Holds p d ∧ g.HoldsItems place ds ps
  | _, _ => False

/-- The graph holds entries at places behind a place. -/
def HoldsEntries (g : Graph) (place : ℕ) : List (Document × Document) → List (ℕ × ℕ) → Prop
  | [], [] => True
  | (k, v) :: es, (p, q) :: ps => (place < p ∧ g.Holds p k) ∧ (place < q ∧ g.Holds q v) ∧ g.HoldsEntries place es ps
  | _, _ => False

end

/-- A place where the graph holds some simple document. -/
def Known (g : Graph) (place : ℕ) : Prop := ∃ d : Document, d.IsSimple ∧ g.Holds place d

variable {g : Graph} {place : ℕ}

theorem Holds.lt_size {d : Document} (h : g.Holds place d) : place < g.size := by
  have hsome : ∀ n, g[place]? = some n → place < g.size := fun n hn => (Array.getElem?_eq_some_iff.mp hn).1
  cases d with
  | list l items => exact hsome _ h.choose_spec.1
  | map l entries => exact hsome _ h.choose_spec.1
  | _ =>
    obtain ⟨tag, text, hnode, -⟩ := h
    exact hsome _ hnode

theorem Known.lt_size (h : g.Known place) : place < g.size := h.choose_spec.2.lt_size

theorem HoldsItems.known : ∀ {items : List Document} {places : List ℕ}, Document.AreSimple items →
    g.HoldsItems place items places → ∀ p ∈ places, g.Known p
  | [], [], _, _ => nofun
  | d :: ds, p :: ps, hs, h => by
    intro q hq
    rcases List.mem_cons.mp hq with rfl | hq
    · exact ⟨d, hs.1, h.2.1⟩
    · exact HoldsItems.known hs.2 h.2.2 q hq

/-- An entry whose key is a text and whose value is known. -/
def KnownEntry (g : Graph) (e : ℕ × ℕ) : Prop := (∃ s : Text, s.IsPrintable ∧ g.Holds e.1 (.text s)) ∧ g.Known e.2

/-- Two entries with different texts as keys. -/
def DifferentKeys (g : Graph) (e e' : ℕ × ℕ) : Prop :=
  ∃ s s' : Text, g.Holds e.1 (.text s) ∧ g.Holds e'.1 (.text s') ∧ s ≠ s'

theorem HoldsEntries.exists_key : ∀ {entries : List (Document × Document)} {places : List (ℕ × ℕ)},
    Document.AreSimpleEntries entries → g.HoldsEntries place entries places →
      ∀ e ∈ places, ∃ s : Text, .text s ∈ entries.map Prod.fst ∧ g.Holds e.1 (.text s)
  | [], [], _, _ => nofun
  | (k, v) :: es, (p, q) :: ps, hs, h => by
    intro e he
    rcases List.mem_cons.mp he with rfl | he
    · obtain ⟨⟨s, rfl, -⟩, -⟩ := hs
      exact ⟨s, List.mem_cons_self, h.1.2⟩
    · obtain ⟨s, hmem, hkey⟩ := HoldsEntries.exists_key hs.2.2.2 h.2.2 e he
      exact ⟨s, List.mem_cons_of_mem _ hmem, hkey⟩

theorem HoldsEntries.known : ∀ {entries : List (Document × Document)} {places : List (ℕ × ℕ)},
    Document.AreSimpleEntries entries → g.HoldsEntries place entries places →
      (∀ e ∈ places, g.KnownEntry e) ∧ places.Pairwise g.DifferentKeys
  | [], [], _, _ => ⟨nofun, .nil⟩
  | (k, v) :: es, (p, q) :: ps, hs, h => by
    obtain ⟨hall, hdifferent⟩ := HoldsEntries.known hs.2.2.2 h.2.2
    obtain ⟨⟨s, rfl, hprintable⟩, hnew, hv, hes⟩ := hs
    refine ⟨?_, hdifferent.cons fun e he => ?_⟩
    · intro e he
      rcases List.mem_cons.mp he with rfl | he
      · exact ⟨⟨s, hprintable, h.1.2⟩, v, hv, h.2.1.2⟩
      · exact hall e he
    · obtain ⟨s', hmem, hkey⟩ := HoldsEntries.exists_key hes h.2.2 e he
      refine ⟨s, s', h.1.2, hkey, ?_⟩
      rintro rfl
      exact hnew hmem

/-- The items of a known sequence are known. -/
theorem Known.items (h : g.Known place) {places : List ℕ} (hnode : g[place]? = some ⟨.sequence, .sequence places⟩) :
    ∀ p ∈ places, g.Known p := by
  obtain ⟨d, hsimple, hholds⟩ := h
  cases d with
  | list l ds =>
    obtain ⟨places', hnode', hitems⟩ := hholds
    cases hnode.symm.trans hnode'
    exact hitems.known hsimple
  | map l es =>
    obtain ⟨places', hnode', -⟩ := hholds
    cases hnode.symm.trans hnode'
  | _ =>
    obtain ⟨tag, text, hnode', -⟩ := hholds
    cases hnode.symm.trans hnode'

/-- The entries of a known mapping are known, and their keys differ. -/
theorem Known.entries (h : g.Known place) {places : List (ℕ × ℕ)}
    (hnode : g[place]? = some ⟨.mapping, .mapping places⟩) :
    (∀ e ∈ places, g.KnownEntry e) ∧ places.Pairwise g.DifferentKeys := by
  obtain ⟨d, hsimple, hholds⟩ := h
  cases d with
  | map l es =>
    obtain ⟨places', hnode', hentries⟩ := hholds
    cases hnode.symm.trans hnode'
    exact hentries.known hsimple
  | list l ds =>
    obtain ⟨places', hnode', -⟩ := hholds
    cases hnode.symm.trans hnode'
  | _ =>
    obtain ⟨tag, text, hnode', -⟩ := hholds
    cases hnode.symm.trans hnode'

/-! ### Merge keys -/

theorem modify_eq_self {n : Node} {f : Node → Node} (h : g[place]? = some n) (hf : f n = n) : g.modify place f = g := by
  refine Array.ext_getElem? fun i => ?_
  rw [Array.getElem?_modify]
  split
  · rename_i heq
    subst heq
    rw [h, Option.map_some, hf]
  · rfl

theorem tagAt_of_holds {s : Text} (h : g.Holds place (.text s)) : g.tagAt place ≠ .merge ∧ g.tagAt place ≠ .default := by
  obtain ⟨tag, text, hnode, hstands⟩ := h
  have htag : g.tagAt place = tag := by rw [tagAt, hnode]; rfl
  rw [htag]
  rcases hstands.isLeaf with rfl | rfl | rfl | rfl <;> exact ⟨nofun, nofun⟩

/-- A mapping whose keys are texts has nothing merged into it. -/
theorem flatten_eq {entries : List (ℕ × ℕ)} (hnode : g[place]? = some ⟨.mapping, .mapping entries⟩)
    (hkeys : ∀ e ∈ entries, g.KnownEntry e) : g.flatten place = .ok g := by
  have hentries : g.entriesAt place = entries := by rw [entriesAt, hnode]; rfl
  have hmerged : ∀ fuel, g.takeMerged (fuel + 1) place = .ok ([], g) := by
    intro fuel
    have hspan : (g.entriesAt place).span (fun e => g.tagAt e.1 ≠ .merge) = (entries, []) := by
      rw [hentries, List.span_eq_takeWhile_dropWhile, List.takeWhile_eq_self_iff.mpr, List.dropWhile_eq_nil_iff.mpr]
      all_goals
        intro e he
        obtain ⟨⟨s, -, hkey⟩, -⟩ := hkeys e he
        exact decide_eq_true (tagAt_of_holds hkey).1
    rw [takeMerged, hspan]
  have hnames : ∀ es : List (ℕ × ℕ), (∀ e ∈ es, g.KnownEntry e) → es.foldl (fun g e => g.nameDefault e.1) g = g := by
    intro es hes
    induction es with
    | nil => rfl
    | cons e es ih =>
      obtain ⟨he, hes⟩ := List.forall_mem_cons.mp hes
      obtain ⟨⟨s, -, hkey⟩, -⟩ := he
      have hdefault := (tagAt_of_holds hkey).2
      obtain ⟨tag, text, hkeyNode, -⟩ := hkey
      have htag : g.tagAt e.1 = tag := by rw [tagAt, hkeyNode]; rfl
      have hname : g.nameDefault e.1 = g := modify_eq_self hkeyNode (if_neg (htag ▸ hdefault))
      rw [List.foldl_cons, hname, ih hes]
  have hset : g.setEntries place ([] ++ entries) = g := modify_eq_self hnode rfl
  obtain ⟨fuel, hfuel⟩ : ∃ fuel, (g.entryCount + 1) * (g.longestSequence + 3) = fuel + 2 :=
    Nat.exists_eq_add_of_le' (Nat.mul_le_mul (Nat.le_add_left 1 _) (Nat.le_add_left 2 _))
  rw [flatten, hfuel, flattenFrom, hmerged]
  show Except.ok _ = _
  rw [hentries, hnames entries hkeys, hset]

end Graph

namespace Loading

variable {g : Graph} {s s' : Loading} {place p : ℕ} {shape : Shape} {extra : List ℕ}

/-! ### Values so far -/

/-- The node at a place has a value. -/
def Touched (s : Loading) (place : ℕ) : Prop := (s.shapeAt place).isSome = true

/-- The value is right for the node at a place: that of a scalar, that of a collection whose nodes have values, or an
open one for a collection that is still to be filled. -/
inductive Fits (g : Graph) (s : Loading) (waiting : List ℕ) (place : ℕ) : Shape → Prop where
  | leaf {tag : Tag} {text : Text} {d : Document} (node : g[place]? = some ⟨tag, .scalar text⟩)
      (stands : StandsFor tag text d) : Fits g s waiting place (.leaf d false)
  | list {items : List ℕ} (node : g[place]? = some ⟨.sequence, .sequence items⟩)
      (inside : ∀ i ∈ items, s.Touched i) : Fits g s waiting place (.list items)
  | map {entries : List (ℕ × ℕ)} (node : g[place]? = some ⟨.mapping, .mapping entries⟩)
      (inside : ∀ e ∈ entries, s.Touched e.1 ∧ s.Touched e.2) : Fits g s waiting place (.map entries)
  | openList {items : List ℕ} (node : g[place]? = some ⟨.sequence, .sequence items⟩) (waits : place ∈ waiting) :
      Fits g s waiting place (.list [])
  | openMap {entries : List (ℕ × ℕ)} (node : g[place]? = some ⟨.mapping, .mapping entries⟩) (waits : place ∈ waiting) :
      Fits g s waiting place (.map [])

/-- Every node that has a value is known and has the right one. Those in `extra` may be open besides those that are
noted to be open. -/
structure Sound (g : Graph) (extra : List ℕ) (s : Loading) : Prop where
  graph : s.graph = g
  size : s.shapes.size = g.size
  known : ∀ place, s.Touched place → g.Known place
  fits : ∀ place shape, s.shapeAt place = some shape → Fits g s (extra ++ s.opened) place shape
  waiting : ∀ place ∈ extra ++ s.opened, s.Touched place

/-- How many steps of filling are left at most: one for each node without a value, and one for each open one. -/
def budget (s : Loading) : ℕ := s.shapes.countP Option.isNone + s.opened.length

/-- What has a value keeps one, and no more steps are left than before. -/
structure Grows (s s' : Loading) : Prop where
  touched : ∀ q, s.Touched q → s'.Touched q
  budget : s'.budget ≤ s.budget

theorem Grows.refl (s : Loading) : Grows s s := ⟨fun _ h => h, le_rfl⟩

theorem Grows.trans {s₁ s₂ s₃ : Loading} (h : Grows s₁ s₂) (h' : Grows s₂ s₃) : Grows s₁ s₃ :=
  ⟨fun q hq => h'.touched q (h.touched q hq), h'.budget.trans h.budget⟩

/-! ### Giving values -/

theorem shapeAt_setShape (h : place < s.shapes.size) (shape : Shape) (q : ℕ) :
    (s.setShape place shape).shapeAt q = if place = q then some shape else s.shapeAt q := by
  rw [shapeAt, setShape, Array.getElem?_modify]
  split
  · rename_i heq
    subst heq
    rw [Array.getElem?_eq_getElem h]
    rfl
  · rfl

@[simp] theorem opened_setShape (shape : Shape) : (s.setShape place shape).opened = s.opened := rfl

theorem touched_setShape (h : place < s.shapes.size) (shape : Shape) {q : ℕ} :
    (s.setShape place shape).Touched q ↔ q = place ∨ s.Touched q := by
  rw [Touched, shapeAt_setShape h]
  split
  · rename_i heq
    simp [heq]
  · rename_i hne
    simp [Ne.symm hne, Touched]

theorem Touched.lt_size (h : s.Touched place) : place < s.shapes.size := by
  by_contra hlt
  rw [Touched, shapeAt, Array.getElem?_eq_none (Nat.le_of_not_lt hlt)] at h
  cases h

theorem countP_setShape (h : place < s.shapes.size) (shape : Shape) :
    (s.setShape place shape).shapes.countP Option.isNone =
      s.shapes.countP Option.isNone - if s.shapeAt place = none then 1 else 0 := by
  have hshape : s.shapeAt place = s.shapes[place] := by
    rw [shapeAt, Array.getElem?_eq_getElem h]
    rfl
  rw [setShape, ← Array.countP_toList, Array.toList_modify, List.modify_eq_set, List.countP_set (by simpa using h), hshape]
  simp

/-- A node that has no value gets one. -/
theorem budget_setShape (h : place < s.shapes.size) (hnone : s.shapeAt place = none) (shape : Shape) :
    (s.setShape place shape).budget + 1 = s.budget := by
  have hpos : 0 < s.shapes.countP Option.isNone := by
    rw [← Array.countP_toList, List.countP_pos_iff]
    refine ⟨s.shapes[place], by simp, ?_⟩
    rw [shapeAt, Array.getElem?_eq_getElem h] at hnone
    exact Option.isNone_iff_eq_none.mpr hnone
  rw [budget, countP_setShape h, if_pos hnone, opened_setShape, budget]
  omega

/-- A node that has a value gets another one. -/
theorem grows_setShape (h : s.Touched place) (shape : Shape) : Grows s (s.setShape place shape) := by
  refine ⟨fun q hq => (touched_setShape h.lt_size shape).mpr (.inr hq), ?_⟩
  have hsome : s.shapeAt place ≠ none := Option.isSome_iff_ne_none.mp h
  rw [budget, countP_setShape h.lt_size, if_neg hsome]
  exact le_rfl

theorem Fits.mono {waiting waiting' : List ℕ} (h : Fits g s waiting place shape) (hwaiting : place ∈ waiting → place ∈ waiting')
    (htouched : ∀ q, s.Touched q → s'.Touched q) : Fits g s' waiting' place shape := by
  cases h with
  | leaf node stands => exact .leaf node stands
  | list node inside => exact .list node fun i hi => htouched i (inside i hi)
  | map node inside => exact .map node fun e he => ⟨htouched _ (inside e he).1, htouched _ (inside e he).2⟩
  | openList node waits => exact .openList node (hwaiting waits)
  | openMap node waits => exact .openMap node (hwaiting waits)

/-- The node of a scalar has the value that the scalar stands for. -/
theorem Fits.eq_leaf {waiting : List ℕ} (h : Fits g s waiting place shape) {d : Document}
    (hholds : ∃ tag text, g[place]? = some ⟨tag, .scalar text⟩ ∧ StandsFor tag text d) : shape = .leaf d false := by
  obtain ⟨tag, text, hnode, hstands⟩ := hholds
  cases h with
  | leaf node stands =>
    cases hnode.symm.trans node
    cases (stands.value place).symm.trans (hstands.value place)
    rfl
  | list node => cases hnode.symm.trans node
  | map node => cases hnode.symm.trans node
  | openList node => cases hnode.symm.trans node
  | openMap node => cases hnode.symm.trans node

/-- The value that a known node has at once. -/
theorem shapeOf_eq (h : g.Known place) :
    (∃ tag text d, g[place]? = some ⟨tag, .scalar text⟩ ∧ StandsFor tag text d ∧ shapeOf g place = .ok (.leaf d false)) ∨
    (∃ items, g[place]? = some ⟨.sequence, .sequence items⟩ ∧ shapeOf g place = .ok (.list [])) ∨
    (∃ entries, g[place]? = some ⟨.mapping, .mapping entries⟩ ∧ shapeOf g place = .ok (.map [])) := by
  have htag : ∀ n, g[place]? = some n → g.tagAt place = n.tag := by
    intro n hn
    rw [Graph.tagAt, hn]
    rfl
  have hleaf : ∀ d, (∃ tag text, g[place]? = some ⟨tag, .scalar text⟩ ∧ StandsFor tag text d) →
      ∃ tag text d, g[place]? = some ⟨tag, .scalar text⟩ ∧ StandsFor tag text d ∧ shapeOf g place = .ok (.leaf d false) := by
    rintro d ⟨tag, text, hnode, hstands⟩
    refine ⟨tag, text, d, hnode, hstands, ?_⟩
    have htext : scalarText (g.size + 1) g place = .ok text := by rw [scalarText, hnode]; rfl
    have hvalue := hstands.value place
    have hsingle := hstands.single
    rcases hstands.isLeaf with rfl | rfl | rfl | rfl <;>
      simp [shapeOf, htag _ hnode, htext, hvalue, hsingle, bind, Except.bind, pure, Except.pure]
  obtain ⟨d, -, hd⟩ := h
  cases d with
  | list l items =>
    obtain ⟨places, hnode, -⟩ := hd
    exact .inr (.inl ⟨places, hnode, by rw [shapeOf, htag _ hnode]; rfl⟩)
  | map l entries =>
    obtain ⟨places, hnode, -⟩ := hd
    exact .inr (.inr ⟨places, hnode, by rw [shapeOf, htag _ hnode]; rfl⟩)
  | _ => exact .inl (hleaf _ hd)

/-- The state in which a node without a value gets its first one. -/
theorem Sound.setShape (h : Sound g extra s) (hknown : g.Known place) (hnone : s.shapeAt place = none)
    {opened : List ℕ} (hopened : s.opened ⊆ opened) (hnew : ∀ q ∈ opened, q ∈ s.opened ∨ q = place) (hshape : Fits g s (extra ++ opened) place shape) :
    Sound g extra { s.setShape place shape with opened := opened } := by
  have hlt : place < s.shapes.size := h.size ▸ hknown.lt_size
  have htouched : ∀ q, s.Touched q → Touched { s.setShape place shape with opened := opened } q :=
    fun q hq => (touched_setShape hlt shape).mpr (.inr hq)
  refine ⟨h.graph, ?_, ?_, ?_, ?_⟩
  · show (s.shapes.modify place _).size = g.size
    rw [Array.size_modify, h.size]
  · intro q hq
    rcases (touched_setShape hlt shape).mp hq with rfl | hq
    · exact hknown
    · exact h.known q hq
  · intro q shape' hq
    have hq' : (s.setShape place shape).shapeAt q = some shape' := hq
    rw [shapeAt_setShape hlt] at hq'
    split at hq'
    · rename_i heq
      subst heq
      cases hq'
      exact hshape.mono id htouched
    · exact (h.fits q shape' hq').mono (fun hmem => List.mem_append.mpr ((List.mem_append.mp hmem).imp_right (@hopened q))) htouched
  · intro q hq
    rcases List.mem_append.mp hq with hq | hq
    · exact htouched q (h.waiting q (List.mem_append_left _ hq))
    · rcases hnew q hq with hq | rfl
      · exact htouched q (h.waiting q (List.mem_append_right _ hq))
      · exact (touched_setShape hlt shape).mpr (.inl rfl)

/-- All values but leaves are open to begin with. -/
theorem isOpenAt_setShape (hlt : place < s.shapes.size) (shape : Shape) :
    (s.setShape place shape).isOpenAt place = match shape with
      | .leaf .. => false
      | _ => true := by
  have hat : (s.setShape place shape).shapeAt place = some shape := by rw [shapeAt_setShape hlt, if_pos rfl]
  cases shape <;> simp only [isOpenAt, hat]

/-- A known node gets its value, if it has none. -/
theorem Sound.exists_touch (h : Sound g extra s) (hknown : g.Known place) :
    ∃ s', s.touch place = .ok s' ∧ Sound g extra s' ∧ Grows s s' ∧ s'.Touched place := by
  unfold touch
  cases hshape : s.shapeAt place with
  | some shape =>
    refine ⟨s, rfl, h, .refl s, ?_⟩
    rw [Touched, hshape]
    rfl
  | none =>
    have hlt : place < s.shapes.size := h.size ▸ hknown.lt_size
    have htouched : ∀ shape, (s.setShape place shape).Touched place :=
      fun shape => (touched_setShape hlt shape).mpr (.inl rfl)
    have hgrows : ∀ shape, Grows s (s.setShape place shape) := fun shape =>
      ⟨fun q hq => (touched_setShape hlt shape).mpr (.inr hq), by have := budget_setShape hlt hshape shape; omega⟩
    have hopen := isOpenAt_setShape hlt
    -- An open value is noted, so the budget stays the same.
    have hopened : ∀ shape, Grows s { s.setShape place shape with opened := s.opened ++ [place] } := by
      intro shape
      refine ⟨(hgrows shape).touched, ?_⟩
      have hbudget := budget_setShape hlt hshape shape
      rw [budget] at hbudget ⊢
      simp only [List.length_append, List.length_singleton]
      exact Nat.le_of_eq hbudget
    have hmem : ∀ q ∈ s.opened ++ [place], q ∈ s.opened ∨ q = place :=
      fun q hq => (List.mem_append.mp hq).imp_right List.mem_singleton.mp
    rcases shapeOf_eq hknown with ⟨tag, text, d, hnode, hstands, hof⟩ | ⟨items, hnode, hof⟩ | ⟨entries, hnode, hof⟩
    · refine ⟨s.setShape place (.leaf d false), ?_, h.setShape hknown hshape (List.Subset.refl _) (fun _ => .inl) (.leaf hnode hstands),
        hgrows _, htouched _⟩
      simp [h.graph, hof, hopen, bind, Except.bind, pure, Except.pure]
    · refine ⟨_, ?_, h.setShape hknown hshape (List.subset_append_left s.opened [place]) hmem
        (.openList hnode ?_), hopened _, htouched _⟩
      · simp [h.graph, hof, hopen, bind, Except.bind, pure, Except.pure]
      · simp
    · refine ⟨_, ?_, h.setShape hknown hshape (List.subset_append_left s.opened [place]) hmem
        (.openMap hnode ?_), hopened _, htouched _⟩
      · simp [h.graph, hof, hopen, bind, Except.bind, pure, Except.pure]
      · simp

theorem Sound.exists_touchAll {places : List ℕ} (h : Sound g extra s) (hknown : ∀ p ∈ places, g.Known p) :
    ∃ s', places.foldlM touch s = .ok s' ∧ Sound g extra s' ∧ Grows s s' ∧ ∀ p ∈ places, s'.Touched p := by
  induction places generalizing s with
  | nil => exact ⟨s, rfl, h, .refl s, nofun⟩
  | cons p places ih =>
    obtain ⟨hp, hplaces⟩ := List.forall_mem_cons.mp hknown
    obtain ⟨s₁, htouch, h₁, hgrows₁, htouched₁⟩ := h.exists_touch hp
    obtain ⟨s₂, hall, h₂, hgrows₂, htouched₂⟩ := ih h₁ hplaces
    refine ⟨s₂, ?_, h₂, hgrows₁.trans hgrows₂, List.forall_mem_cons.mpr ⟨hgrows₂.touched p htouched₁, htouched₂⟩⟩
    rw [List.foldlM_cons, htouch]
    exact hall

/-! ### Entries -/

/-- The value of a key. -/
theorem Sound.shapeAt_key (h : Sound g extra s) {text : Text} (hkey : g.Holds place (.text text)) (htouched : s.Touched place) :
    s.shapeAt place = some (.leaf (.text text) false) := by
  obtain ⟨shape, hshape⟩ := Option.isSome_iff_exists.mp htouched
  rw [hshape, (h.fits place shape hshape).eq_leaf hkey]

theorem Sound.exists_touchEntries {entries : List (ℕ × ℕ)} (h : Sound g extra s) (hknown : ∀ e ∈ entries, g.KnownEntry e) :
    ∃ s', entries.foldlM touchEntry s = .ok s' ∧ Sound g extra s' ∧ Grows s s' ∧
      ∀ e ∈ entries, s'.Touched e.1 ∧ s'.Touched e.2 := by
  induction entries generalizing s with
  | nil => exact ⟨s, rfl, h, .refl s, nofun⟩
  | cons e entries ih =>
    obtain ⟨⟨⟨text, hprintable, hkey⟩, hvalue⟩, hentries⟩ := List.forall_mem_cons.mp hknown
    obtain ⟨s₁, htouch₁, h₁, hgrows₁, htouched₁⟩ := h.exists_touch ⟨.text text, hprintable, hkey⟩
    obtain ⟨s₂, htouch₂, h₂, hgrows₂, htouched₂⟩ := h₁.exists_touch hvalue
    obtain ⟨s₃, hall, h₃, hgrows₃, htouched₃⟩ := ih h₂ hentries
    have hclosed : s₁.isOpenAt e.1 = false := by rw [isOpenAt, h₁.shapeAt_key hkey htouched₁]
    have hentry : s.touchEntry e = .ok s₂ := by
      rw [touchEntry, htouch₁]
      simp [hclosed, htouch₂, bind, Except.bind]
    refine ⟨s₃, ?_, h₃, hgrows₁.trans (hgrows₂.trans hgrows₃), List.forall_mem_cons.mpr ⟨?_, htouched₃⟩⟩
    · rw [List.foldlM_cons, hentry]
      exact hall
    · exact ⟨hgrows₃.touched _ (hgrows₂.touched _ htouched₁), hgrows₃.touched _ htouched₂⟩

theorem Sound.sameKey_eq_false (h : Sound g extra s) {e e' : ℕ × ℕ} (hkeys : g.DifferentKeys e e') (he : s.Touched e.1)
    (he' : s.Touched e'.1) : s.sameKey e.1 e'.1 = false := by
  obtain ⟨text, text', hkey, hkey', hne⟩ := hkeys
  have hshape := h.shapeAt_key hkey he
  have hshape' := h.shapeAt_key hkey' he'
  have hplaces : e.1 ≠ e'.1 := by
    intro heq
    rw [← heq, hshape] at hshape'
    cases hshape'
    exact hne rfl
  rw [Loading.sameKey, hshape, hshape']
  simp [hplaces, Document.sameKey, Document.keyNumber?, hne]

/-- Entries with different keys stay as they are. -/
theorem foldl_putEntry {entries : List (ℕ × ℕ)} (h : entries.Pairwise fun e e' => s.sameKey e.1 e'.1 = false) :
    entries.foldl (fun acc e => s.putEntry e acc) [] = entries := by
  have hput : ∀ (e : ℕ × ℕ) (acc : List (ℕ × ℕ)), (∀ a ∈ acc, s.sameKey a.1 e.1 = false) → s.putEntry e acc = acc ++ [e] := by
    intro e acc hacc
    induction acc with
    | nil => rfl
    | cons a acc ih =>
      obtain ⟨ha, hacc⟩ := List.forall_mem_cons.mp hacc
      rw [putEntry, if_neg (by rw [ha]; exact Bool.false_ne_true), ih hacc, List.cons_append]
  induction entries using List.reverseRecOn with
  | nil => rfl
  | append_singleton entries e ih =>
    rw [List.pairwise_append] at h
    rw [List.foldl_append, ih h.1]
    exact hput e entries fun a ha => h.2.2 a ha e (List.mem_singleton_self e)

/-! ### Filling -/

/-- The last value of an open node. -/
theorem Sound.setShape_of_touched (h : Sound g [place] s) (htouched : s.Touched place)
    (hshape : Fits g s s.opened place shape) : Sound g [] (s.setShape place shape) := by
  have hlt := htouched.lt_size
  have hgrows := grows_setShape htouched shape
  refine ⟨h.graph, ?_, ?_, ?_, fun q hq => hgrows.touched q (h.waiting q (List.mem_append_right _ hq))⟩
  · show (s.shapes.modify place _).size = g.size
    rw [Array.size_modify, h.size]
  · intro q hq
    rcases (touched_setShape hlt shape).mp hq with rfl | hq
    · exact h.known _ htouched
    · exact h.known q hq
  · intro q shape' hq
    rw [shapeAt_setShape hlt] at hq
    split at hq
    · rename_i heq
      subst heq
      cases hq
      exact hshape.mono id hgrows.touched
    · rename_i hne
      exact (h.fits q shape' hq).mono (fun hmem => (List.mem_cons.mp hmem).resolve_left (Ne.symm hne)) hgrows.touched

/-- A list is filled. What it holds by now does not matter: the node says what it becomes. -/
theorem Sound.exists_fill_list (h : Sound g [place] s) {items old : List ℕ}
    (hnode : g[place]? = some ⟨.sequence, .sequence items⟩) (hshape : s.shapeAt place = some (.list old)) :
    ∃ s', s.fill place = .ok s' ∧ Sound g [] s' ∧ Grows s s' := by
  have htouched := h.waiting place List.mem_cons_self
  obtain ⟨s₁, hall, h₁, hgrows₁, htouched₁⟩ := h.exists_touchAll ((h.known place htouched).items hnode)
  have hplace := hgrows₁.touched place htouched
  refine ⟨s₁.setShape place (.list items), ?_, h₁.setShape_of_touched hplace (.list hnode htouched₁),
    hgrows₁.trans (grows_setShape hplace _)⟩
  have hitems : itemsAt s.graph place = .ok items := by rw [itemsAt, h.graph, hnode]; rfl
  rw [fill, hshape]
  simp [hitems, hall, bind, Except.bind, pure, Except.pure]

/-- The entries of a mapping with different texts as keys are taken as they are. -/
theorem Sound.exists_fillEntries (h : Sound g extra s) {entries : List (ℕ × ℕ)}
    (hnode : g[place]? = some ⟨.mapping, .mapping entries⟩) (hknown : ∀ e ∈ entries, g.KnownEntry e)
    (hkeys : entries.Pairwise g.DifferentKeys) :
    ∃ s', s.fillEntries place = .ok (entries, s') ∧ Sound g extra s' ∧ Grows s s' ∧
      ∀ e ∈ entries, s'.Touched e.1 ∧ s'.Touched e.2 := by
  obtain ⟨s₁, hall, h₁, hgrows₁, htouched₁⟩ := h.exists_touchEntries hknown
  refine ⟨s₁, ?_, h₁, hgrows₁, htouched₁⟩
  have hisMapping : s.graph.isMapping place = true := by rw [Graph.isMapping, h.graph, hnode]; rfl
  have hentries : g.entriesAt place = entries := by rw [Graph.entriesAt, hnode]; rfl
  have hflat : s.graph.flatten place = .ok s.graph := by rw [h.graph, Graph.flatten_eq hnode hknown]
  have hput : entries.foldl (fun acc e => s₁.putEntry e acc) [] = entries := by
    refine foldl_putEntry (hkeys.imp_of_mem fun he he' hkeys => ?_)
    exact h₁.sameKey_eq_false hkeys (htouched₁ _ he).1 (htouched₁ _ he').1
  have hself : ({ graph := g, shapes := s.shapes, opened := s.opened } : Loading) = s := by rw [← h.graph]
  rw [fillEntries, hisMapping, hflat]
  simp [h.graph, hself, hentries, hall, hput, bind, Except.bind, pure, Except.pure]

/-- A mapping is filled, whatever it holds by now. -/
theorem Sound.exists_fill_map (h : Sound g [place] s) {entries old : List (ℕ × ℕ)}
    (hnode : g[place]? = some ⟨.mapping, .mapping entries⟩) (hshape : s.shapeAt place = some (.map old)) :
    ∃ s', s.fill place = .ok s' ∧ Sound g [] s' ∧ Grows s s' := by
  have htouched := h.waiting place List.mem_cons_self
  obtain ⟨hknown, hkeys⟩ := (h.known place htouched).entries hnode
  obtain ⟨s₁, hfilled, h₁, hgrows₁, htouched₁⟩ := h.exists_fillEntries hnode hknown hkeys
  have hplace := hgrows₁.touched place htouched
  refine ⟨s₁.setShape place (.map entries), ?_, h₁.setShape_of_touched hplace (.map hnode htouched₁),
    hgrows₁.trans (grows_setShape hplace _)⟩
  rw [fill, hshape]
  simp [hfilled, bind, Except.bind, pure, Except.pure]

/-- An open node is filled. -/
theorem Sound.exists_fill (h : Sound g [place] s) : ∃ s', s.fill place = .ok s' ∧ Sound g [] s' ∧ Grows s s' := by
  obtain ⟨shape, hshape⟩ := Option.isSome_iff_exists.mp (h.waiting place List.mem_cons_self)
  cases h.fits place shape hshape with
  | leaf node stands =>
    refine ⟨s, by rw [fill, hshape]; rfl, ⟨h.graph, h.size, h.known, fun q shape' hq => ?_, fun q hq => ?_⟩, .refl s⟩
    · by_cases hplace : q = place
      · subst hplace
        rw [hshape] at hq
        cases hq
        exact .leaf node stands
      · exact (h.fits q shape' hq).mono (fun hmem => (List.mem_cons.mp hmem).resolve_left hplace) fun _ h => h
    · exact h.waiting q (List.mem_append_right _ hq)
  | list node => exact h.exists_fill_list node hshape
  | map node => exact h.exists_fill_map node hshape
  | openList node => exact h.exists_fill_list node hshape
  | openMap node => exact h.exists_fill_map node hshape

/-- All open nodes are filled. -/
theorem Sound.exists_fillAll {fuel : ℕ} (h : Sound g [] s) (hfuel : s.budget ≤ fuel) :
    ∃ s', s.fillAll fuel = .ok s' ∧ Sound g [] s' ∧ s'.opened = [] ∧ ∀ q, s.Touched q → s'.Touched q := by
  induction fuel generalizing s with
  | zero =>
    have hopened : s.opened.length = 0 := by
      rw [budget] at hfuel
      omega
    exact ⟨s, rfl, h, List.eq_nil_of_length_eq_zero hopened, fun _ hq => hq⟩
  | succ fuel ih =>
    cases hopened : s.opened with
    | nil => exact ⟨s, by rw [fillAll, hopened], h, hopened, fun _ hq => hq⟩
    | cons place rest =>
      have hrest : Sound g [place] { s with opened := rest } := by
        refine ⟨h.graph, h.size, h.known, fun q shape hq => (h.fits q shape hq).mono (fun hmem => ?_) fun _ h => h, ?_⟩
        · rwa [hopened] at hmem
        · intro q hq
          refine h.waiting q ?_
          rwa [hopened]
      obtain ⟨s₁, hfill, h₁, hgrows₁⟩ := hrest.exists_fill
      have hbudget : s₁.budget ≤ fuel := by
        have hstep : budget { s with opened := rest } + 1 = s.budget := by
          rw [budget, budget, hopened, List.length_cons, Nat.add_assoc]
        have := hgrows₁.budget
        omega
      obtain ⟨s₂, hall, h₂, hopened₂, htouched₂⟩ := ih h₁ hbudget
      refine ⟨s₂, ?_, h₂, hopened₂, fun q hq => htouched₂ q (hgrows₁.touched q hq)⟩
      rw [fillAll, hopened]
      show ({ s with opened := rest }.fill place).bind (fillAll fuel) = _
      rw [hfill]
      exact hall

/-! ### Trees -/

/-- Every value is the last one of its node. -/
def IsFinal (g : Graph) (s : Loading) : Prop := ∀ place shape, s.shapeAt place = some shape → Fits g s [] place shape

theorem Sound.isFinal (h : Sound g [] s) (hopened : s.opened = []) : IsFinal g s := by
  intro place shape hshape
  have hfits := h.fits place shape hshape
  rwa [hopened] at hfits

theorem IsFinal.shapeAt_leaf (h : IsFinal g s) (htouched : s.Touched place) {d : Document}
    (hholds : ∃ tag text, g[place]? = some ⟨tag, .scalar text⟩ ∧ StandsFor tag text d) :
    s.shapeAt place = some (.leaf d false) := by
  obtain ⟨shape, hshape⟩ := Option.isSome_iff_exists.mp htouched
  rw [hshape, (h place shape hshape).eq_leaf hholds]

theorem IsFinal.shapeAt_list (h : IsFinal g s) (htouched : s.Touched place) {items : List ℕ}
    (hnode : g[place]? = some ⟨.sequence, .sequence items⟩) :
    s.shapeAt place = some (.list items) ∧ ∀ i ∈ items, s.Touched i := by
  obtain ⟨shape, hshape⟩ := Option.isSome_iff_exists.mp htouched
  rw [hshape]
  cases h place shape hshape with
  | list node inside =>
    rw [hnode] at node
    cases node
    exact ⟨rfl, inside⟩
  | leaf node => rw [hnode] at node; cases node
  | map node => rw [hnode] at node; cases node
  | openList _ waits => cases waits
  | openMap _ waits => cases waits

theorem IsFinal.shapeAt_map (h : IsFinal g s) (htouched : s.Touched place) {entries : List (ℕ × ℕ)}
    (hnode : g[place]? = some ⟨.mapping, .mapping entries⟩) :
    s.shapeAt place = some (.map entries) ∧ ∀ e ∈ entries, s.Touched e.1 ∧ s.Touched e.2 := by
  obtain ⟨shape, hshape⟩ := Option.isSome_iff_exists.mp htouched
  rw [hshape]
  cases h place shape hshape with
  | map node inside =>
    rw [hnode] at node
    cases node
    exact ⟨rfl, inside⟩
  | leaf node => rw [hnode] at node; cases node
  | list node => rw [hnode] at node; cases node
  | openList _ waits => cases waits
  | openMap _ waits => cases waits

section Trees

variable {fuel next : ℕ} {above : List ℕ} (habove : ∀ a ∈ above, a < place)

include habove

theorem not_contains_above : above.contains place = false := by
  rw [Bool.eq_false_iff]
  intro hmem
  exact absurd (habove place (List.contains_iff_mem.mp hmem)) (Nat.lt_irrefl place)

theorem tree_leaf {d : Document} {single : Bool} (hshape : s.shapeAt place = some (.leaf d single)) :
    (s.tree (fuel + 1) above next place).1 = d := by
  rw [tree, not_contains_above habove, hshape]
  rfl

theorem tree_list {items : List ℕ} (hshape : s.shapeAt place = some (.list items)) :
    (s.tree (fuel + 1) above next place).1 = .list place (counting (s.tree fuel (place :: above)) next items).1 := by
  rw [tree, not_contains_above habove, hshape]
  rfl

theorem tree_map {entries : List (ℕ × ℕ)} (hshape : s.shapeAt place = some (.map entries)) :
    (s.tree (fuel + 1) above next place).1 =
      .map place (counting (onEntry (s.tree fuel (place :: above))) next entries).1 := by
  rw [tree, not_contains_above habove, hshape]
  rfl

end Trees

theorem IsFinal.tree_scalar (h : IsFinal g s) {d : Document} {fuel next : ℕ} {above : List ℕ}
    (hholds : ∃ tag text, g[place]? = some ⟨tag, .scalar text⟩ ∧ StandsFor tag text d) (htouched : s.Touched place)
    (habove : ∀ a ∈ above, a < place) : (s.tree (fuel + 1) above next place).1.unlabelled = d.unlabelled := by
  rw [tree_leaf habove (h.shapeAt_leaf htouched hholds)]

mutual

/-- The value at a place as a tree is the document that the graph holds there. -/
theorem IsFinal.unlabelled_tree (h : IsFinal g s) : ∀ (d : Document) (place : ℕ), g.Holds place d → s.Touched place →
    ∀ (fuel : ℕ) (above : List ℕ) (next : ℕ), g.size - place < fuel → (∀ a ∈ above, a < place) →
      (s.tree fuel above next place).1.unlabelled = d.unlabelled
  | _, _, _, _, 0, _, _, hfuel, _ => absurd hfuel (Nat.not_lt_zero _)
  | .list _ ds, place, hholds, htouched, fuel + 1, above, next, hfuel, habove => by
    obtain ⟨places, hnode, hitems⟩ := hholds
    obtain ⟨hshape, hinside⟩ := h.shapeAt_list htouched hnode
    rw [tree_list habove hshape]
    simp only [Document.unlabelled, h.unlabelled_items ds places hitems hinside fuel above next hfuel habove]
  | .map _ es, place, hholds, htouched, fuel + 1, above, next, hfuel, habove => by
    obtain ⟨places, hnode, hentries⟩ := hholds
    obtain ⟨hshape, hinside⟩ := h.shapeAt_map htouched hnode
    rw [tree_map habove hshape]
    simp only [Document.unlabelled, h.unlabelled_entries es places hentries hinside fuel above next hfuel habove]
  | .null, _, hholds, htouched, _ + 1, _, _, _, habove => h.tree_scalar hholds htouched habove
  | .bool _, _, hholds, htouched, _ + 1, _, _, _, habove => h.tree_scalar hholds htouched habove
  | .int _, _, hholds, htouched, _ + 1, _, _, _, habove => h.tree_scalar hholds htouched habove
  | .float _, _, hholds, htouched, _ + 1, _, _, _, habove => h.tree_scalar hholds htouched habove
  | .text _, _, hholds, htouched, _ + 1, _, _, _, habove => h.tree_scalar hholds htouched habove
  | .bytes _, _, hholds, htouched, _ + 1, _, _, _, habove => h.tree_scalar hholds htouched habove
  | .moment _ _, _, hholds, htouched, _ + 1, _, _, _, habove => h.tree_scalar hholds htouched habove
  | .set _ _, _, hholds, htouched, _ + 1, _, _, _, habove => h.tree_scalar hholds htouched habove
  | .enclosing _, _, hholds, htouched, _ + 1, _, _, _, habove => h.tree_scalar hholds htouched habove

theorem IsFinal.unlabelled_items (h : IsFinal g s) {place : ℕ} : ∀ (ds : List Document) (places : List ℕ),
    g.HoldsItems place ds places → (∀ i ∈ places, s.Touched i) → ∀ (fuel : ℕ) (above : List ℕ) (next : ℕ),
      g.size - place < fuel + 1 → (∀ a ∈ above, a < place) →
      Document.unlabelledItems (counting (s.tree fuel (place :: above)) next places).1 = Document.unlabelledItems ds
  | [], [], _, _, _, _, _, _, _ => rfl
  | d :: ds, p :: ps, hholds, htouched, fuel, above, next, hfuel, habove => by
    obtain ⟨hlt, hd, hds⟩ := hholds
    obtain ⟨hp, hps⟩ := List.forall_mem_cons.mp htouched
    have hsize := hd.lt_size
    have hinside : ∀ a ∈ place :: above, a < p :=
      List.forall_mem_cons.mpr ⟨hlt, fun a ha => (habove a ha).trans hlt⟩
    have hfirst := h.unlabelled_tree d p hd hp fuel (place :: above) next (by omega) hinside
    have hrest := h.unlabelled_items ds ps hds hps fuel above (s.tree fuel (place :: above) next p).2 hfuel habove
    simp only [counting, Document.unlabelledItems, hfirst, hrest]

theorem IsFinal.unlabelled_entries (h : IsFinal g s) {place : ℕ} : ∀ (es : List (Document × Document))
    (places : List (ℕ × ℕ)), g.HoldsEntries place es places → (∀ e ∈ places, s.Touched e.1 ∧ s.Touched e.2) →
      ∀ (fuel : ℕ) (above : List ℕ) (next : ℕ), g.size - place < fuel + 1 → (∀ a ∈ above, a < place) →
      Document.unlabelledEntries (counting (onEntry (s.tree fuel (place :: above))) next places).1 =
        Document.unlabelledEntries es
  | [], [], _, _, _, _, _, _, _ => rfl
  | (k, v) :: es, (p, q) :: ps, hholds, htouched, fuel, above, next, hfuel, habove => by
    obtain ⟨⟨hltp, hk⟩, ⟨hltq, hv⟩, hes⟩ := hholds
    obtain ⟨⟨hp, hq⟩, hps⟩ := List.forall_mem_cons.mp htouched
    have hsizep := hk.lt_size
    have hsizeq := hv.lt_size
    have hinside : ∀ b, place < b → ∀ a ∈ place :: above, a < b := fun b hb =>
      List.forall_mem_cons.mpr ⟨hb, fun a ha => (habove a ha).trans hb⟩
    have hkey := h.unlabelled_tree k p hk hp fuel (place :: above) next (by omega) (hinside p hltp)
    have hvalue := h.unlabelled_tree v q hv hq fuel (place :: above) (s.tree fuel (place :: above) next p).2 (by omega)
      (hinside q hltq)
    have hrest := h.unlabelled_entries es ps hes hps fuel above
      (s.tree fuel (place :: above) (s.tree fuel (place :: above) next p).2 q).2 hfuel habove
    simp only [counting, onEntry, Document.unlabelledEntries, hkey, hvalue, hrest]

end

/-- The value of the root of a graph is the document that the graph holds there. -/
theorem exists_ofGraph {d : Document} (hd : d.IsSimple) (hholds : g.Holds place d) :
    ∃ s, ofGraph g place = .ok s ∧ (s.toDocument place).unlabelled = d.unlabelled := by
  have hshapeless : ∀ q, shapeAt { graph := g, shapes := Array.replicate g.size none } q = none := by
    intro q
    rw [shapeAt, Array.getElem?_replicate]
    split <;> rfl
  have hstart : Sound g [] { graph := g, shapes := Array.replicate g.size none } := by
    refine ⟨rfl, Array.size_replicate, fun q hq => ?_, fun q shape hq => ?_, nofun⟩
    · rw [Touched, hshapeless] at hq
      cases hq
    · rw [hshapeless] at hq
      cases hq
  obtain ⟨s₁, htouch, h₁, hgrows₁, htouched₁⟩ := hstart.exists_touch ⟨d, hd, hholds⟩
  have hbudget : s₁.budget ≤ g.size + 1 := by
    have hle := hgrows₁.budget
    have hsize : budget { graph := g, shapes := Array.replicate g.size none } = g.size := by
      simp [budget, Array.countP_replicate]
    omega
  obtain ⟨s₂, hfill, h₂, hopened₂, htouched₂⟩ := h₁.exists_fillAll hbudget
  refine ⟨s₂, ?_, ?_⟩
  · rw [ofGraph]
    show (touch _ place).bind (fillAll (g.size + 1)) = _
    rw [htouch]
    exact hfill
  · rw [toDocument, h₂.graph]
    exact (h₂.isFinal hopened₂).unlabelled_tree d place hholds (htouched₂ place htouched₁) _ [] _ (by omega) nofun

end Loading

end LintPreview.Yaml
