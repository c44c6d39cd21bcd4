import LintPreview.Proofs.Rule.Descriptor
import LintPreview.Proofs.Rule.Skipping

/-!
# First occurrences

* `firstOccurrences`: rules without those whose id has occurred before; `dropRepeatedIds` computes them.
* `Rule.IsLabelled`: a rule has an id without blanks around it, and a name.
* `ListsRules`: what a listing lists, element by element or row by row.
* `readRuleList_rules`: the rules of a listing are the first occurrences of what it lists, and all of them are labelled.
-/

namespace LintPreview

/-! ### Ids that occur again -/

/-- The rules in front of which no other has the same id, in order. -/
def firstOccurrences (all : List Rule) : List Rule :=
  (all.zipIdx.filter fun x => (all.take x.2).all fun r => r.id ≠ x.1.id).map Prod.fst

theorem firstOccurrences_cons (r : Rule) (rest : List Rule) :
    firstOccurrences (r :: rest) = r :: (firstOccurrences rest).filter fun s => s.id ≠ r.id := by
  have hshift : rest.zipIdx 1 = rest.zipIdx.map fun x => (x.1, x.2 + 1) := by
    rw [List.zipIdx_succ]
  have hlater : ∀ x : Rule × ℕ, ((r :: rest).take (x.2 + 1)).all (fun s => decide (s.id ≠ x.1.id)) =
      (decide (x.1.id ≠ r.id) && (rest.take x.2).all fun s => decide (s.id ≠ x.1.id)) := by
    intro x
    rw [List.take_succ_cons, List.all_cons]
    congr 1
    exact decide_eq_decide.mpr ⟨Ne.symm, Ne.symm⟩
  unfold firstOccurrences
  rw [List.zipIdx_cons, List.filter_cons_of_pos (by rfl), List.map_cons, zero_add, hshift, List.filter_map,
    List.map_map, List.filter_map, List.filter_filter]
  exact congrArg (fun found => r :: found.map Prod.fst) (List.filter_congr fun x _ => hlater x)

theorem dropRepeatedIds_eq_firstOccurrences (all : List Rule) : dropRepeatedIds all = firstOccurrences all := by
  induction all with
  | nil => rfl
  | cons r rest ih => rw [dropRepeatedIds, firstOccurrences_cons, ih]

/-- Under every id, the first rule that has it stays the first. -/
theorem find?_dropRepeatedIds (id : Text) (all : List Rule) :
    (dropRepeatedIds all).find? (fun r => r.id = id) = all.find? fun r => r.id = id := by
  induction all with
  | nil => rfl
  | cons r rest ih =>
    rw [dropRepeatedIds]
    by_cases hid : r.id = id
    · rw [List.find?_cons_of_pos (by simpa using hid), List.find?_cons_of_pos (by simpa using hid)]
    · rw [List.find?_cons_of_neg (by simpa using hid), List.find?_cons_of_neg (by simpa using hid), ← ih,
        List.find?_filter]
      refine congrArg (fun p => (dropRepeatedIds rest).find? p) (funext fun s => ?_)
      rw [Bool.eq_iff_iff]
      simp only [decide_eq_true_eq]
      exact ⟨And.right, fun h => ⟨fun he => hid (he.symm.trans h), h⟩⟩

/-! ### Ids and names -/

/-- A rule that can be told from others: its id is no blank and has none around it, and it has a name. -/
structure Rule.IsLabelled (r : Rule) : Prop where
  id_ne_empty : r.id ≠ Text.empty
  trim_id : Text.trim r.id = r.id
  name_ne_empty : r.name ≠ Text.empty

/-- What is left without the blanks around it has none around it. -/
theorem Text.trim_trim (s : Text) : trim (trim s) = trim s := by
  by_cases hnil : trimChars s.toList = []
  · rw [trim, trim_toList, hnil]
    exact (ext_toList hnil).symm
  · exact ext_toList (isTrimmed_trimChars hnil).trimChars_eq

theorem Text.ne_empty_of_isEmpty {s : Text} (h : ¬ s.isEmpty = true) : s ≠ empty := by
  rintro rfl
  exact h rfl

theorem displayName_ne_empty {identifier : Text} (h : identifier ≠ Text.empty) :
    displayName identifier ≠ Text.empty := by
  refine Text.toTitle_ne_empty fun hempty => h (Text.ext_toList ?_)
  exact List.map_eq_nil_iff.mp (congrArg Text.toList hempty)

theorem descriptorId?_eq_some {item : Json} {id : Text} (h : descriptorId? item = some id) :
    id ≠ Text.empty ∧ Text.trim id = id := by
  unfold descriptorId? at h
  split at h
  · split at h
    · cases h
    · rename_i s _ hne
      cases h
      exact ⟨Text.ne_empty_of_isEmpty hne, Text.trim_trim s⟩
  · cases h

theorem descriptorName?_ne_empty {item : Json} {id name : Text} (hid : id ≠ Text.empty)
    (h : descriptorName? item id = some name) : name ≠ Text.empty := by
  unfold descriptorName? at h
  dsimp only at h
  split at h
  · rename_i hgiven
    cases hname : item.field "name" with
    | text s =>
      rw [hname] at h hgiven
      cases h
      refine Text.ne_empty_of_isEmpty fun hempty => ?_
      simp [Json.isTruthy, hempty] at hgiven
    | _ =>
      rw [hname] at h
      cases h
  · cases h
    exact displayName_ne_empty hid

theorem Rule.isLabelled_of_ofDescriptor (item : Json) : (Rule.ofDescriptor item).Gives Rule.IsLabelled := by
  intro r h
  have hread := Rule.isReadOff_of_ofDescriptor item r h
  have hid := descriptorId?_eq_some hread.id
  exact ⟨hid.1, hid.2, descriptorName?_ne_empty hid.1 hread.name⟩

theorem Rule.isLabelled_of_ofElement? {item : Json} {r : Rule} (h : Rule.ofElement? item = .ok (some r)) :
    r.IsLabelled := by
  cases item with
  | object entries => exact Rule.isLabelled_of_ofDescriptor _ r h
  | _ => cases h

theorem isTrimmed_of_mem_tableCells {line cell : List CodePoint} (h : cell ∈ tableCells line) :
    Text.IsTrimmed cell := by
  obtain ⟨hcell, hne⟩ := List.mem_filter.mp h
  obtain ⟨piece, -, rfl⟩ := List.mem_map.mp hcell
  refine Text.isTrimmed_trimChars fun hnil => ?_
  rw [hnil] at hne
  cases hne

theorem Rule.isLabelled_of_ofTableRow? {cells : List (List CodePoint)} {r : Rule}
    (hcells : ∀ cell ∈ cells, Text.IsTrimmed cell) (h : Rule.ofTableRow? cells = some r) : r.IsLabelled := by
  unfold Rule.ofTableRow? at h
  split at h
  · split at h
    · cases h
    · rename_i id _ _ _ _ _ _
      cases h
      have hid := hcells id List.mem_cons_self
      have hne : Text.ofList id ≠ Text.empty := fun he => hid.ne_nil (congrArg Text.toList he)
      exact ⟨hne, Text.ext_toList hid.trimChars_eq, displayName_ne_empty hne⟩
  · cases h

theorem isLabelled_of_mem_rulesOfTable {text : List CodePoint} {r : Rule} (h : r ∈ rulesOfTable text) :
    r.IsLabelled := by
  obtain ⟨line, -, h⟩ := List.mem_filterMap.mp h
  obtain ⟨cells, hcells, h⟩ := Option.bind_eq_some_iff.mp h
  refine Rule.isLabelled_of_ofTableRow? (fun cell hcell => ?_) h
  unfold tableRow? at hcells
  split at hcells
  · dsimp only at hcells
    split at hcells
    · cases hcells
    · cases hcells
      exact isTrimmed_of_mem_tableCells hcell
  · cases hcells

/-! ### What a listing lists -/

/-- What a trimmed listing lists: the rules that the elements of an array describe, or those of the rows of a table. -/
inductive ListsRules (text : List CodePoint) : List Rule → Prop where
  | array {items : List Json} {found : List (Option Rule)} (read : Json.readChars text = .ok (.list items))
      (described : List.Forall₂ (fun item r? => Rule.ofElement? item = .ok r?) items found) :
      ListsRules text found.reduceOption
  | table (noArray : text.head? ≠ some '[') : ListsRules text (rulesOfTable text)

theorem lists_of_rulesOfListing {text : List CodePoint} {all : List Rule} (h : rulesOfListing text = .ok all) :
    ListsRules text all := by
  rcases read_or_eq_of_rulesOfListing h with ⟨items, hread, hrules⟩ | ⟨hbracket, rfl⟩
  · rw [rulesOfDescriptors_eq] at hrules
    obtain ⟨found, hfound, rfl⟩ := exists_of_map_ok hrules
    exact .array hread (forall₂_of_mapM_eq_ok hfound)
  · exact .table hbracket

theorem isLabelled_of_described {items : List Json} {found : List (Option Rule)}
    (described : List.Forall₂ (fun item r? => Rule.ofElement? item = .ok r?) items found) (r : Rule)
    (hr : some r ∈ found) : r.IsLabelled := by
  induction described with
  | nil => cases hr
  | cons hitem _ ih =>
    rcases List.mem_cons.mp hr with rfl | hr
    · exact Rule.isLabelled_of_ofElement? hitem
    · exact ih hr

/-- Every rule that is listed is labelled. -/
theorem ListsRules.isLabelled {text : List CodePoint} {all : List Rule} (h : ListsRules text all) :
    ∀ r ∈ all, r.IsLabelled := by
  intro r hr
  cases h with
  | array read described =>
    exact isLabelled_of_described described r (List.reduceOption_mem_iff.mp hr)
  | table noArray => exact isLabelled_of_mem_rulesOfTable hr

/-- A listing that can be read gives what it lists, without the rules whose id has occurred before: no id stands twice,
under every id stands the first rule that has it, and all ids and names are as they are to be. -/
theorem readRuleList_rules {output : Text} {rules : List Rule} (h : readRuleList output = .ok rules) :
    (rules.map Rule.id).Nodup ∧ (∀ r ∈ rules, r.IsLabelled) ∧
    ∃ all, ListsRules output.trimmed all ∧ rules = firstOccurrences all ∧
      ∀ id, rules.find? (fun r => r.id = id) = all.find? fun r => r.id = id := by
  obtain ⟨all, hall, -, hrules⟩ := readRuleList_eq_ok_iff.mp h
  have hlists := lists_of_rulesOfListing hall
  refine ⟨ids_nodup_of_readRuleList h, fun r hr => ?_, all, hlists, ?_, fun id => ?_⟩
  · rw [hrules] at hr
    exact hlists.isLabelled r (mem_of_mem_dropRepeatedIds hr)
  · rw [hrules, dropRepeatedIds_eq_firstOccurrences]
  · rw [hrules, find?_dropRepeatedIds]

/-- An element with the id of an earlier one changes nothing, also if the id is written differently. -/
theorem readRuleList_rules_repeated :
    let output : Text :=
      "[\x7b\"identifier\":\" a \"\x7d,\x7b\"identifier\":\"a\",\"name\":\"B\"\x7d,\x7b\"id\":\"c\"\x7d]"
    let rules : List Rule := [{ id := "a", name := "A" }, { id := "c", name := "C" }]
    readRuleList output = .ok rules ∧ (rules.map Rule.id).Nodup ∧ (∀ r ∈ rules, r.IsLabelled) ∧
      ∃ all, ListsRules output.trimmed all ∧ rules = firstOccurrences all ∧
        ∀ id, rules.find? (fun r => r.id = id) = all.find? fun r => r.id = id := by
  intro output rules
  have h : readRuleList output = .ok rules := by decide +kernel
  exact ⟨h, readRuleList_rules h⟩

end LintPreview
