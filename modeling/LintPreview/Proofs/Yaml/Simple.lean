import LintPreview.Yaml.Dump
import Mathlib.Data.Nat.Notation

/-!
# Simple documents

The values that a configuration is built from, as a lint tool understands it.

* `Yaml.IsPrintable`: characters that stand for themselves in YAML; `IsPrintable.isSpecial` and its neighbours say what
  they are not.
* `Document.IsSimple`: nulls, booleans, whole numbers, printable texts, lists, and mappings with texts as keys.
* `Document.labels`, `Document.unlabelled`: the places in a document, and the document without them.
* `Document.isShort`: keys that are written on one line.
-/

namespace LintPreview

namespace Yaml

/-- A character that stands for itself in a YAML text: no control character, no line break, no byte order mark and no
half of a surrogate pair. -/
def IsPrintable (c : CodePoint) : Prop :=
  ((0x20 ≤ c.toNat ∧ c.toNat ≤ 0x7E) ∨ (0xA0 ≤ c.toNat ∧ c.toNat ≤ 0xD7FF) ∨
    (0xE000 ≤ c.toNat ∧ c.toNat ≤ 0xFFFD) ∨ (0x10000 ≤ c.toNat ∧ c.toNat < 0x10FFFF)) ∧
  c.toNat ≠ 0x2028 ∧ c.toNat ≠ 0x2029 ∧ c.toNat ≠ 0xFEFF

instance (c : CodePoint) : Decidable (IsPrintable c) := by unfold IsPrintable; infer_instance

/-- Printable characters only. -/
def ArePrintable (cs : List CodePoint) : Prop := ∀ c ∈ cs, IsPrintable c

instance (cs : List CodePoint) : Decidable (ArePrintable cs) := inferInstanceAs (Decidable (∀ c ∈ cs, IsPrintable c))

variable {c : CodePoint} {cs ds : List CodePoint}

theorem beq_char (c : CodePoint) (x : Char) : (c == CodePoint.char x) = decide (c.toNat = x.toNat) := by
  rw [Bool.eq_iff_iff, beq_iff_eq, decide_eq_true_eq]
  constructor
  · rintro rfl
    rfl
  · intro h
    rw [← CodePoint.ofNat_toNat c, h, ← CodePoint.ofNat_toNat (.char x)]
    rfl

theorem isAnyOf_eq (marks : List Char) (c : CodePoint) : c.isAnyOf marks = marks.any fun x => c == CodePoint.char x := by
  cases c with
  | char c =>
    rw [CodePoint.isAnyOf, List.contains_eq_any_beq]
    congr 1
    funext x
    rw [Bool.eq_iff_iff, beq_iff_eq, beq_iff_eq, CodePoint.char.injEq]
  | half h =>
    rw [CodePoint.isAnyOf, Eq.comm, List.any_eq_false]
    exact fun x _ => by simp

namespace IsPrintable

variable (h : IsPrintable c)

include h

theorem isKeptBreak : isKeptBreak c = false := by
  have := h
  simp only [IsPrintable] at this
  simp only [Yaml.isKeptBreak, beq_char, Char.reduceToNat, Bool.or_eq_false_iff, decide_eq_false_iff_not]
  omega

theorem isSpecial : isSpecial c = false := by
  have := h
  simp only [IsPrintable] at this
  simp only [Yaml.isSpecial, beq_char, Char.reduceToNat, Bool.not_eq_false', Bool.or_eq_true, Bool.and_eq_true,
    decide_eq_true_eq, beq_iff_eq, bne_iff_ne]
  omega

theorem isAllowed : isAllowed c = true := by
  have := h
  simp only [IsPrintable] at this
  simp only [Yaml.isAllowed, Bool.or_eq_true, Bool.and_eq_true, decide_eq_true_eq, beq_iff_eq]
  omega

theorem isBreakOrEnd : isBreakOrEnd c = false := by
  have := h
  simp only [IsPrintable] at this
  simp only [Yaml.isBreakOrEnd, isBreak, beq_char, Char.reduceToNat, Bool.or_eq_false_iff, decide_eq_false_iff_not]
  omega

/-- A printable character that is no space is no blank. -/
theorem isBlankOrEnd (hspace : c ≠ ' ') : isBlankOrEnd c = false := by
  have := h
  simp only [IsPrintable] at this
  have hne : (c == CodePoint.char ' ') = false := beq_eq_false_iff_ne.mpr hspace
  simp only [beq_char, Char.reduceToNat, decide_eq_false_iff_not] at hne
  simp only [Yaml.isBlankOrEnd, isSpaceOrEnd, h.isBreakOrEnd, beq_char, Char.reduceToNat, Bool.or_eq_false_iff,
    decide_eq_false_iff_not, and_true]
  omega

theorem ne_mark : (c == CodePoint.char '\uFEFF') = false := by
  simp only [beq_char, Char.reduceToNat, decide_eq_false_iff_not]
  exact h.2.2.2

end IsPrintable

end Yaml

/-- A text of printable characters. -/
def Text.IsPrintable (s : Text) : Prop := Yaml.ArePrintable s.toList

instance (s : Text) : Decidable s.IsPrintable := inferInstanceAs (Decidable (Yaml.ArePrintable s.toList))

namespace Document

mutual

/-- A value built from nulls, booleans, whole numbers, printable texts, lists, and mappings whose keys are different
printable texts. -/
def IsSimple : Document → Prop
  | .null => True
  | .bool _ => True
  | .int _ => True
  | .text s => s.IsPrintable
  | .list _ items => AreSimple items
  | .map _ entries => AreSimpleEntries entries
  | _ => False

/-- Such items. -/
def AreSimple : List Document → Prop
  | [] => True
  | d :: rest => d.IsSimple ∧ AreSimple rest

/-- Such entries. -/
def AreSimpleEntries : List (Document × Document) → Prop
  | [] => True
  | (k, v) :: rest =>
    (∃ s : Text, k = .text s ∧ s.IsPrintable) ∧ k ∉ rest.map Prod.fst ∧ v.IsSimple ∧ AreSimpleEntries rest

end

mutual

/-- The places that defined the collections in a document. -/
def labels : Document → List ℕ
  | .moment l _ => [l]
  | .list l items => l :: labelsOfItems items
  | .map l entries => l :: labelsOfEntries entries
  | .set l items => l :: labelsOfItems items
  | .enclosing l => [l]
  | _ => []

/-- Those in items. -/
def labelsOfItems : List Document → List ℕ
  | [] => []
  | d :: rest => d.labels ++ labelsOfItems rest

/-- Those in entries. -/
def labelsOfEntries : List (Document × Document) → List ℕ
  | [] => []
  | (k, v) :: rest => k.labels ++ (v.labels ++ labelsOfEntries rest)

end

mutual

/-- A document without the places that defined its collections. -/
def unlabelled : Document → Document
  | .moment _ m => .moment 0 m
  | .list _ items => .list 0 (unlabelledItems items)
  | .map _ entries => .map 0 (unlabelledEntries entries)
  | .set _ items => .set 0 (unlabelledItems items)
  | .enclosing _ => .enclosing 0
  | d => d

/-- Items without them. -/
def unlabelledItems : List Document → List Document
  | [] => []
  | d :: rest => d.unlabelled :: unlabelledItems rest

/-- Entries without them. -/
def unlabelledEntries : List (Document × Document) → List (Document × Document)
  | [] => []
  | (k, v) :: rest => (k.unlabelled, v.unlabelled) :: unlabelledEntries rest

end

/-- Whether a key is written in front of its colon on one line. -/
def isShort (d : Document) : Bool := ({ shared := [] } : Yaml.Writer).isShortKey d

/-! ### Documents that can be written -/

variable {d : Document}

theorem faultInItems_cons {room : ℕ} {ds : List Document} (h : faultInItems room (d :: ds) = none) :
    d.faultWithin room = none ∧ faultInItems room ds = none := by
  rw [faultInItems] at h
  cases hd : d.faultWithin room with
  | none =>
    rw [hd] at h
    exact ⟨rfl, h⟩
  | some fault =>
    rw [hd] at h
    cases h

theorem faultInEntries_cons {room : ℕ} {k v : Document} {es : List (Document × Document)}
    (h : faultInEntries room ((k, v) :: es) = none) :
    k.faultWithin room = none ∧ v.faultWithin room = none ∧ faultInEntries room es = none := by
  rw [faultInEntries] at h
  cases hk : k.faultWithin room with
  | some fault =>
    rw [hk] at h
    cases h
  | none =>
    rw [hk] at h
    cases hv : v.faultWithin room with
    | some fault =>
      rw [hv] at h
      cases h
    | none =>
      rw [hv] at h
      exact ⟨rfl, rfl, h⟩

theorem faultInItems_of_list {room l : ℕ} {ds : List Document} (h : (list l ds).faultWithin room = none) :
    ∃ room', room = room' + 1 ∧ faultInItems room' ds = none := by
  cases room with
  | zero => cases h
  | succ room => exact ⟨room, rfl, h⟩

theorem faultInEntries_of_map {room l : ℕ} {es : List (Document × Document)} (h : (map l es).faultWithin room = none) :
    ∃ room', room = room' + 1 ∧ faultInEntries room' es = none := by
  cases room with
  | zero => cases h
  | succ room => exact ⟨room, rfl, h⟩

end Document

end LintPreview
