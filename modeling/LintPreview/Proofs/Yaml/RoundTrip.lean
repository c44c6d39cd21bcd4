import LintPreview.Proofs.Yaml.Filled
import LintPreview.Proofs.Yaml.Tokens
import LintPreview.Simulation.Simulate

/-!
# Configurations that are written and loaded

* `Document.depth`, `Document.ints`: how deep the collections of a document are nested, and its whole numbers.
* `Document.faultWithin_eq_none_iff`: a document can be written unless it is nested too deep or holds a number that is too
  long.
* `Document.isLoadedBack_iff`: a simple configuration is loaded back as it was exactly if it can be written.
-/

namespace LintPreview

open Yaml

namespace Document

mutual

/-- How deep collections are nested. -/
def depth : Document → ℕ
  | .list _ items => depthOfItems items + 1
  | .map _ entries => depthOfEntries entries + 1
  | .set _ items => depthOfItems items + 1
  | _ => 0

/-- How deep they are nested in items. -/
def depthOfItems : List Document → ℕ
  | [] => 0
  | d :: rest => max d.depth (depthOfItems rest)

/-- How deep they are nested in keys and values. -/
def depthOfEntries : List (Document × Document) → ℕ
  | [] => 0
  | (k, v) :: rest => max k.depth (max v.depth (depthOfEntries rest))

end

mutual

/-- The whole numbers in a document. -/
def ints : Document → List ℤ
  | .int i => [i]
  | .list _ items => intsOfItems items
  | .map _ entries => intsOfEntries entries
  | .set _ items => intsOfItems items
  | _ => []

/-- Those in items. -/
def intsOfItems : List Document → List ℤ
  | [] => []
  | d :: rest => d.ints ++ intsOfItems rest

/-- Those in keys and values. -/
def intsOfEntries : List (Document × Document) → List ℤ
  | [] => []
  | (k, v) :: rest => k.ints ++ (v.ints ++ intsOfEntries rest)

end

/-! ### Documents that can be written -/

/-- No whole number is too long to be written. -/
def AreShort (is : List ℤ) : Prop := ∀ i ∈ is, isTooLongToWrite i = false

theorem areShort_append {is js : List ℤ} : AreShort (is ++ js) ↔ AreShort is ∧ AreShort js := List.forall_mem_append

/-- Collections need room for one more level. -/
theorem collection_eq_none_iff {room n : ℕ} {is : List ℤ} {inside : ℕ → Option DumpFault}
    (h : ∀ room, inside room = none ↔ n ≤ room ∧ AreShort is) :
    (if room = 0 then some DumpFault.tooDeep else inside (room - 1)) = none ↔ n + 1 ≤ room ∧ AreShort is := by
  cases room with
  | zero => simp
  | succ room =>
    rw [if_neg (Nat.succ_ne_zero room), Nat.add_sub_cancel, h, Nat.add_le_add_iff_right]

theorem eq_none_iff_of_leaf {room : ℕ} : (none : Option DumpFault) = none ↔ 0 ≤ room ∧ AreShort [] :=
  ⟨fun _ => ⟨Nat.zero_le room, nofun⟩, fun _ => rfl⟩

mutual

/-- A document can be written unless it is nested too deep or holds a number that is too long. -/
theorem faultWithin_eq_none_iff : ∀ (d : Document) {room : ℕ}, d.faultWithin room = none ↔ d.depth ≤ room ∧ AreShort d.ints
  | .int i, room => by
    have hshort : AreShort [i] ↔ isTooLongToWrite i = false := List.forall_mem_singleton
    show (if isTooLongToWrite i then some DumpFault.numberTooLong else none) = none ↔ 0 ≤ room ∧ AreShort [i]
    rw [hshort]
    cases isTooLongToWrite i <;> simp
  | .list _ ds, room => collection_eq_none_iff fun _ => faultInItems_eq_none_iff ds
  | .map _ es, room => collection_eq_none_iff fun _ => faultInEntries_eq_none_iff es
  | .set _ ds, room => collection_eq_none_iff fun _ => faultInItems_eq_none_iff ds
  | .null, _ => eq_none_iff_of_leaf
  | .bool _, _ => eq_none_iff_of_leaf
  | .float _, _ => eq_none_iff_of_leaf
  | .text _, _ => eq_none_iff_of_leaf
  | .bytes _, _ => eq_none_iff_of_leaf
  | .moment _ _, _ => eq_none_iff_of_leaf
  | .enclosing _, _ => eq_none_iff_of_leaf

theorem faultInItems_eq_none_iff : ∀ (ds : List Document) {room : ℕ},
    faultInItems room ds = none ↔ depthOfItems ds ≤ room ∧ AreShort (intsOfItems ds)
  | [], _ => eq_none_iff_of_leaf
  | d :: ds, room => by
    rw [faultInItems, Option.orElse_eq_none, faultWithin_eq_none_iff d, faultInItems_eq_none_iff ds, depthOfItems, intsOfItems, max_le_iff,
      areShort_append, and_and_and_comm]

theorem faultInEntries_eq_none_iff : ∀ (es : List (Document × Document)) {room : ℕ},
    faultInEntries room es = none ↔ depthOfEntries es ≤ room ∧ AreShort (intsOfEntries es)
  | [], _ => eq_none_iff_of_leaf
  | (k, v) :: es, room => by
    rw [faultInEntries, Option.orElse_eq_none, Option.orElse_eq_none, faultWithin_eq_none_iff k, faultWithin_eq_none_iff v,
      faultInEntries_eq_none_iff es, depthOfEntries, intsOfEntries, max_le_iff, max_le_iff, areShort_append, areShort_append,
      @and_and_and_comm (v.depth ≤ room), and_and_and_comm]

end

/-! ### Documents that are loaded back -/

/-- The document is written as a text, and that text is loaded as the same document, with all keys in their order. -/
def IsLoadedBack (d : Document) : Prop :=
  ∃ text d', Simulator.textOf d = .ok text ∧ ofYaml text.toList = .ok d' ∧ d'.unlabelled = d.unlabelled

theorem IsLoadedBack.dumpFault?_eq_none {d : Document} (h : d.IsLoadedBack) : d.dumpFault? = none := by
  obtain ⟨text, -, htext, -⟩ := h
  unfold Simulator.textOf at htext
  cases hfault : d.dumpFault? with
  | none => rfl
  | some fault =>
    rw [hfault] at htext
    cases htext

/-- What can be written is loaded back. -/
theorem isLoadedBack_of_dumpFault? {l : ℕ} {es : List (Document × Document)} (hd : (map l es).IsSimple)
    (hlabels : (map l es).labels.Nodup) (hroom : (map l es).dumpFault? = none) : (map l es).IsLoadedBack := by
  obtain ⟨g, place, hgraph, hholds⟩ := Graph.exists_ofTokens hd hroom
  obtain ⟨s, hs, hsame⟩ := Loading.exists_ofGraph hd hholds
  have hloaded : loadedText (map l es).toYamlChars = .ok (some (s, place)) := by
    rw [loadedText, ofText_toYamlChars hd hroom hlabels, hgraph]
    show (Loading.ofGraph g place >>= fun s => _) = _
    rw [hs]
    rfl
  refine ⟨(map l es).toYaml, s.toDocument place, ?_, ?_, hsame⟩
  · unfold Simulator.textOf
    rw [hroom]
  · rw [toYaml, Text.toList_ofList, ofYaml, hloaded]
    rfl

/-- A simple configuration is loaded back as it was exactly if its collections are nested at most `maxDumpDepth` deep and none of
its whole numbers has more than `maxDecimalDigits` digits. -/
theorem isLoadedBack_iff {l : ℕ} {es : List (Document × Document)} (hd : (map l es).IsSimple) (hlabels : (map l es).labels.Nodup) :
    (map l es).IsLoadedBack ↔ (map l es).depth ≤ maxDumpDepth ∧ AreShort (map l es).ints := by
  rw [← faultWithin_eq_none_iff]
  exact ⟨fun h => h.dumpFault?_eq_none, isLoadedBack_of_dumpFault? hd hlabels⟩

/-- Texts that look like other values, as keys and in a list, with numbers and empty collections. -/
def lookalikes : Document :=
  .map 0 [(.text "yes", .text "~"), (.text "", .text "1.0"), (.text "a: b", .list 1 [.text "2001-01-01", .text "- a", .text "x #y"]),
    (.text "z", .map 2 [(.text "null", .null), (.text "on", .bool true), (.text "-", .int (-17)), (.text "'", .list 3 [])])]

theorem isSimple_lookalikes : lookalikes.IsSimple := by
  have htext : ∀ s : Text, s.IsPrintable → (text s).IsSimple := fun s hs => hs
  have hkey : ∀ s : Text, s.IsPrintable → ∃ s' : Text, text s = .text s' ∧ s'.IsPrintable := fun s hs => ⟨s, rfl, hs⟩
  have hlist : (list 1 [.text "2001-01-01", .text "- a", .text "x #y"]).IsSimple :=
    ⟨htext _ (by decide), htext _ (by decide), htext _ (by decide), trivial⟩
  have hmap : (map 2 [(.text "null", .null), (.text "on", .bool true), (.text "-", .int (-17)), (.text "'", .list 3 [])]).IsSimple :=
    ⟨hkey _ (by decide), by decide, trivial, hkey _ (by decide), by decide, trivial, hkey _ (by decide), by decide, trivial,
      hkey _ (by decide), by decide, trivial, trivial⟩
  exact ⟨hkey _ (by decide), by decide, htext _ (by decide), hkey _ (by decide), by decide, htext _ (by decide),
    hkey _ (by decide), by decide, hlist, hkey _ (by decide), by decide, hmap, trivial⟩

theorem isLoadedBack_lookalikes : lookalikes.IsLoadedBack := by
  refine (isLoadedBack_iff isSimple_lookalikes (by decide)).mpr ⟨by decide, ?_⟩
  intro i hi
  obtain rfl : i = -17 := List.mem_singleton.mp hi
  have hlong : ¬ 10 ^ maxDecimalDigits ≤ 17 := Nat.not_le.mpr (lt_of_lt_of_le (by decide) (Nat.pow_le_pow_right (n := 10) (by decide)
    (show 2 ≤ maxDecimalDigits by decide)))
  exact decide_eq_false hlong

/-- Lists inside each other. -/
def nestedLists : ℕ → Document
  | 0 => .list 1 []
  | n + 1 => .list (n + 2) [nestedLists n]

theorem isSimple_nestedLists (n : ℕ) : (nestedLists n).IsSimple := by
  induction n with
  | zero => trivial
  | succ n ih => exact ⟨ih, trivial⟩

theorem depth_nestedLists (n : ℕ) : (nestedLists n).depth = n + 1 := by
  induction n with
  | zero => rfl
  | succ n ih => rw [nestedLists, depth, depthOfItems, depthOfItems, ih, Nat.max_zero]

theorem labels_nestedLists (n : ℕ) : (nestedLists n).labels = (List.range' 1 (n + 1)).reverse := by
  induction n with
  | zero => rfl
  | succ n ih =>
    have hlast : List.range' 1 (n + 1 + 1) = List.range' 1 (n + 1) ++ [n + 2] := by
      rw [List.range'_concat, Nat.one_mul, Nat.add_comm 1]
    rw [nestedLists, labels, labelsOfItems, labelsOfItems, ih, List.append_nil, hlast, List.reverse_append]
    rfl

/-- A configuration of four hundred lists inside each other cannot be written. -/
theorem not_isLoadedBack_nestedLists : (map 0 [(.text "a", nestedLists 399)]).IsSimple ∧
    (map 0 [(.text "a", nestedLists 399)]).labels.Nodup ∧ ¬ (map 0 [(.text "a", nestedLists 399)]).IsLoadedBack := by
  refine ⟨⟨⟨_, rfl, by decide⟩, List.not_mem_nil, isSimple_nestedLists 399, trivial⟩, ?_, fun h => ?_⟩
  · have hinside : (nestedLists 399).labels.Nodup ∧ 0 ∉ (nestedLists 399).labels := by
      rw [labels_nestedLists, List.nodup_reverse, List.mem_reverse, List.mem_range'_1]
      exact ⟨List.nodup_range', by omega⟩
    show (0 :: ((text "a").labels ++ ((nestedLists 399).labels ++ []))).Nodup
    rw [List.append_nil]
    exact List.nodup_cons.mpr ⟨hinside.2, hinside.1⟩
  · have hdepth := ((faultWithin_eq_none_iff _).mp h.dumpFault?_eq_none).1
    rw [depth, depthOfEntries, depthOfEntries, depth_nestedLists] at hdepth
    revert hdepth
    decide

end Document

end LintPreview
