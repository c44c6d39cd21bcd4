import LintPreview.Proofs.Catalog.Load

/-!
# What readers see of a catalog

* `Catalog.get?_catalogOf`: the rule with an id is the one among the rules that has it.
* `Catalog.Groups`: groups that divide rules by category, in their order.
* `Catalog.groups_byCategory`: a catalog gives such groups.
-/

namespace LintPreview

namespace Catalog

/-! ### Ids -/

theorem valueUnder?_map_id (rules : List Rule) (id : Text) :
    valueUnder? id (rules.map fun r => (r.id, r)) = rules.find? fun r => r.id = id := by
  induction rules with
  | nil => rfl
  | cons r rules ih =>
    rw [List.map_cons, valueUnder?, List.find?_cons]
    by_cases hr : r.id = id
    · simp [hr]
    · simp [hr, ih]

/-- The rule with an id is the one among the rules that has it. -/
theorem get?_catalogOf (rules : List Rule) (isLoading : Bool) (id : Text) :
    ({ Loader.catalogOf rules with isLoading } : Catalog).get? id = rules.find? fun r => r.id = id :=
  valueUnder?_map_id rules id

/-! ### Categories -/

/-- Groups that divide rules by category: no category comes twice, each group has the rules of its category in their
order, there is no empty one, and every rule is in one. -/
structure Groups (rules : List Rule) (groups : List (Category × List Rule)) : Prop where
  categories : (groups.map (·.1)).Nodup
  members : ∀ g ∈ groups, g.2 = rules.filter fun r => r.category = g.1
  nonempty : ∀ g ∈ groups, g.2 ≠ []
  all : ∀ r ∈ rules, r.category ∈ groups.map (·.1)

theorem map_fst_addToGroup (r : Rule) (groups : List (Category × List Rule)) :
    (addToGroup r groups).map (·.1) =
      if r.category ∈ groups.map (·.1) then groups.map (·.1) else groups.map (·.1) ++ [r.category] := by
  induction groups with
  | nil => simp [addToGroup]
  | cons g groups ih =>
    obtain ⟨c, rs⟩ := g
    rw [addToGroup]
    by_cases hc : c = r.category
    · simp [hc]
    · simp only [if_neg hc, List.map_cons, ih, List.mem_cons, Ne.symm hc, false_or]
      split <;> rfl

/-- A group after one more rule has been put into its group. -/
theorem mem_addToGroup {r : Rule} {groups : List (Category × List Rule)} (h : (groups.map (·.1)).Nodup)
    {g : Category × List Rule} (hg : g ∈ addToGroup r groups) :
    (g ∈ groups ∧ g.1 ≠ r.category) ∨ (g = (r.category, [r]) ∧ r.category ∉ groups.map (·.1)) ∨
      ∃ rs, (r.category, rs) ∈ groups ∧ g = (r.category, rs ++ [r]) := by
  induction groups with
  | nil => exact .inr (.inl ⟨List.mem_singleton.mp hg, List.not_mem_nil⟩)
  | cons first groups ih =>
    obtain ⟨c, rs⟩ := first
    rw [List.map_cons, List.nodup_cons] at h
    rw [addToGroup] at hg
    by_cases hc : c = r.category
    · rw [if_pos hc] at hg
      rcases List.mem_cons.mp hg with rfl | hg
      · exact .inr (.inr ⟨rs, by rw [← hc]; exact List.mem_cons_self, by rw [hc]⟩)
      · refine .inl ⟨List.mem_cons_of_mem _ hg, ?_⟩
        intro hcategory
        have hmem : g.1 ∈ groups.map (·.1) := List.mem_map_of_mem hg
        rw [hcategory, ← hc] at hmem
        exact h.1 hmem
    · rw [if_neg hc] at hg
      rcases List.mem_cons.mp hg with rfl | hg
      · exact .inl ⟨List.mem_cons_self, hc⟩
      · rcases ih h.2 hg with ⟨hmem, hne⟩ | ⟨heq, hnew⟩ | ⟨rs', hmem, heq⟩
        · exact .inl ⟨List.mem_cons_of_mem _ hmem, hne⟩
        · refine .inr (.inl ⟨heq, ?_⟩)
          rw [List.map_cons, List.mem_cons, not_or]
          exact ⟨Ne.symm hc, hnew⟩
        · exact .inr (.inr ⟨rs', List.mem_cons_of_mem _ hmem, heq⟩)

/-- One more rule goes to the end of its group, or makes a new one. -/
theorem Groups.addToGroup {rules : List Rule} {groups : List (Category × List Rule)} (h : Groups rules groups) (r : Rule) :
    Groups (rules ++ [r]) (addToGroup r groups) where
  categories := by
    rw [map_fst_addToGroup]
    split
    · exact h.categories
    · rename_i hnew
      refine List.nodup_append.mpr ⟨h.categories, List.nodup_singleton _, ?_⟩
      rintro c hc _ hr rfl
      exact hnew (List.mem_singleton.mp hr ▸ hc)
  members := by
    intro g hg
    rw [List.filter_append]
    rcases mem_addToGroup h.categories hg with ⟨hmem, hne⟩ | ⟨rfl, hnew⟩ | ⟨rs, hmem, rfl⟩
    · rw [h.members g hmem, List.filter_singleton]
      simp [Ne.symm hne]
    · have hnone : (rules.filter fun s => s.category = r.category) = [] := by
        rw [List.filter_eq_nil_iff]
        intro s hs hcategory
        exact hnew (of_decide_eq_true hcategory ▸ h.all s hs)
      rw [hnone, List.filter_singleton]
      simp
    · rw [← h.members (r.category, rs) hmem, List.filter_singleton]
      simp
  nonempty := by
    intro g hg
    rcases mem_addToGroup h.categories hg with ⟨hmem, -⟩ | ⟨rfl, -⟩ | ⟨rs, -, rfl⟩
    · exact h.nonempty g hmem
    · exact List.cons_ne_nil _ _
    · exact List.append_ne_nil_of_right_ne_nil _ (List.cons_ne_nil _ _)
  all := by
    intro s hs
    rw [map_fst_addToGroup]
    rcases List.mem_append.mp hs with hs | hs
    · have hmem := h.all s hs
      split
      · exact hmem
      · exact List.mem_append_left _ hmem
    · rw [List.mem_singleton.mp hs]
      split
      · assumption
      · exact List.mem_append_right _ (List.mem_singleton_self _)

/-- A catalog divides its rules by category. -/
theorem groups_byCategory (c : Catalog) : Groups c.rules c.byCategory := by
  unfold byCategory
  generalize c.rules = rules
  induction rules using List.reverseRecOn with
  | nil => exact ⟨List.nodup_nil, nofun, nofun, nofun⟩
  | append_singleton rules r ih =>
    rw [List.foldl_append]
    exact ih.addToGroup r

end Catalog

end LintPreview
