import LintPreview.Path
import LintPreview.Proofs.Text.Pieces

/-!
# Paths and their texts

* `Path.IsRegular`: no part of a path is empty, a single dot, or holds a slash. What is read from a text is regular
  (`Path.isRegular_ofString`), and joining keeps it so.
* `Path.ofString_toString`: a regular path is read back from its text.
* `Path.isAbsolute_join`: a joined path is absolute if one of its two sides is.
-/

namespace LintPreview

namespace Text

variable {sep : CodePoint}

/-- No piece holds the separator. -/
theorem not_mem_of_mem_splitOnChar {cs piece : List CodePoint} (h : piece ∈ splitOnChar sep cs) : sep ∉ piece := by
  induction cs generalizing piece with
  | nil =>
    rw [splitOnChar, List.mem_singleton] at h
    rw [h]
    exact List.not_mem_nil
  | cons c cs ih =>
    rw [splitOnChar] at h
    split at h
    · rcases List.mem_cons.mp h with rfl | h
      · exact List.not_mem_nil
      · exact ih h
    · rename_i hc
      split at h
      · rw [List.mem_singleton] at h
        rw [h, List.mem_singleton]
        exact fun heq => hc heq.symm
      · rename_i first pieces heq
        rcases List.mem_cons.mp h with rfl | h
        · rw [List.mem_cons, not_or]
          exact ⟨fun heq => hc heq.symm, ih (heq ▸ List.mem_cons_self)⟩
        · exact ih (heq ▸ List.mem_cons_of_mem first h)

/-- Texts with a separator between them are read back. -/
theorem splitOnChar_intercalate {parts : List Text} (h : ∀ p ∈ parts, sep ∉ p.toList) (hne : parts ≠ []) :
    splitOnChar sep (intercalate (ofList [sep]) parts).toList = parts.map toList := by
  induction parts with
  | nil => exact absurd rfl hne
  | cons part parts ih =>
    have hpart : sep ∉ part.toList := h part List.mem_cons_self
    cases parts with
    | nil => exact splitOnChar_of_not_mem hpart
    | cons next parts =>
      have hrest := ih (fun p hp => h p (List.mem_cons_of_mem part hp)) (List.cons_ne_nil next parts)
      have htext : (intercalate (ofList [sep]) (part :: next :: parts)).toList =
          part.toList ++ sep :: (intercalate (ofList [sep]) (next :: parts)).toList := by
        rw [intercalate, toList_append, toList_append, toList_ofList, List.append_assoc, List.singleton_append]
      rw [htext, splitOnChar_append_cons hpart, hrest]
      rfl

end Text

namespace Path

/-- A text can be a part of a path. -/
structure IsPart (part : Text) : Prop where
  notEmpty : part.toList ≠ []
  notDot : part ≠ "."
  noSlash : .char '/' ∉ part.toList

/-- Every part of the path can be one. -/
def IsRegular (p : Path) : Prop := ∀ part ∈ p.parts, IsPart part

/-- The parts that are kept when a path is read. -/
theorem kept_iff {part : Text} : (!part.isEmpty && part != ".") = true ↔ part.toList ≠ [] ∧ part ≠ "." := by
  rw [Bool.and_eq_true, Bool.not_eq_true', bne_iff_ne, Text.isEmpty, List.isEmpty_eq_false_iff]
  exact Iff.rfl

theorem isRegular_ofString (s : Text) : (ofString s).IsRegular := by
  intro part hpart
  obtain ⟨hmem, hkept⟩ := List.mem_filter.mp hpart
  obtain ⟨piece, hpiece, rfl⟩ := List.mem_map.mp hmem
  obtain ⟨hne, hdot⟩ := kept_iff.mp hkept
  exact ⟨hne, hdot, Text.not_mem_of_mem_splitOnChar hpiece⟩

theorem IsRegular.join {p q : Path} (hp : p.IsRegular) (hq : q.IsRegular) : (p.join q).IsRegular := by
  unfold Path.join
  split
  · exact hq
  · intro part hpart
    rcases List.mem_append.mp hpart with hpart | hpart
    · exact hp part hpart
    · exact hq part hpart

theorem isAbsolute_join (p q : Path) : (p.join q).isAbsolute = (q.isAbsolute || p.isAbsolute) := by
  unfold join
  cases hq : q.isAbsolute with
  | true => simp [hq]
  | false => simp [isAbsolute]

/-! ### Reading a text back -/

/-- A slash in front opens no part. -/
theorem partsOf_cons_slash (cs : List CodePoint) : partsOf (.char '/' :: cs) = partsOf cs := by
  rw [partsOf, Text.splitOnChar, if_pos rfl, List.map_cons, List.filter_cons_of_neg]
  · rfl
  · decide

theorem partsOf_intercalate {parts : List Text} (h : ∀ part ∈ parts, IsPart part) :
    partsOf (Text.intercalate "/" parts).toList = parts := by
  cases parts with
  | nil => rfl
  | cons part parts =>
    have hsplit := Text.splitOnChar_intercalate (fun p hp => (h p hp).noSlash) (List.cons_ne_nil part parts)
    have hback : ((part :: parts).map Text.toList).map Text.ofList = part :: parts := by
      rw [List.map_map]
      exact List.map_id _
    rw [partsOf, show (Text.ofString "/") = Text.ofList [.char '/'] from rfl, hsplit, hback, List.filter_eq_self]
    exact fun p hp => kept_iff.mpr ⟨(h p hp).notEmpty, (h p hp).notDot⟩

/-- The text of parts starts with no slash. -/
theorem takeWhile_slash_intercalate {parts : List Text} (h : ∀ part ∈ parts, IsPart part) :
    (Text.intercalate "/" parts).toList.takeWhile (fun c : CodePoint => c == '/') = [] := by
  cases parts with
  | nil => rfl
  | cons part parts =>
    obtain ⟨hne, -, hslash⟩ := h part List.mem_cons_self
    obtain ⟨c, cs, hcs⟩ := List.exists_cons_of_ne_nil hne
    obtain ⟨rest, hrest⟩ : ∃ rest, (Text.intercalate "/" (part :: parts)).toList = c :: rest := by
      cases parts with
      | nil => exact ⟨cs, hcs⟩
      | cons next parts =>
        refine ⟨cs ++ (Text.toList "/" ++ (Text.intercalate "/" (next :: parts)).toList), ?_⟩
        rw [Text.intercalate, Text.toList_append, Text.toList_append, hcs, List.append_assoc, List.cons_append]
    rw [hrest, List.takeWhile_cons_of_neg]
    rw [beq_iff_eq]
    rintro rfl
    exact hslash (hcs ▸ List.mem_cons_self)

/-- The text of a root and parts is read back. -/
theorem ofString_root_parts (root : PathRoot) {parts : List Text} (h : ∀ part ∈ parts, IsPart part) :
    ofString (rootText root ++ Text.intercalate "/" parts) = ⟨root, parts⟩ := by
  have hstart := takeWhile_slash_intercalate h
  have hparts := partsOf_intercalate h
  generalize Text.intercalate "/" parts = inner at hstart hparts
  cases root with
  | relative =>
    have htext : (rootText .relative ++ inner).toList = inner.toList := rfl
    rw [ofString, htext, hparts, rootOf, hstart]
    rfl
  | slash =>
    have htext : (rootText .slash ++ inner).toList = .char '/' :: inner.toList := rfl
    rw [ofString, htext, partsOf_cons_slash, hparts, rootOf, List.takeWhile_cons_of_pos (by decide), hstart]
    rfl
  | twoSlashes =>
    have htext : (rootText .twoSlashes ++ inner).toList = .char '/' :: .char '/' :: inner.toList := rfl
    rw [ofString, htext, partsOf_cons_slash, partsOf_cons_slash, hparts, rootOf,
      List.takeWhile_cons_of_pos (by decide), List.takeWhile_cons_of_pos (by decide), hstart]
    rfl

/-- A regular path is read back from its text. -/
theorem ofString_toString {p : Path} (h : p.IsRegular) : ofString p.toString = p := by
  have hread := ofString_root_parts p.root h
  unfold toString
  dsimp only
  split
  · rename_i hempty
    rw [hempty] at hread
    exact hread
  · exact hread

end Path

end LintPreview
