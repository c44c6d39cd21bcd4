import LintPreview.Json.Writer
import LintPreview.Proofs.Text.Utf8

/-!
# Values as their texts read

* `Json.writtenItems_eq_map`: lists read item by item.
* `Json.IsPartwise`: a property that a collection has if its parts have it, such as being nested less deep.
* `Json.nesting`: how many lists and objects are open at once in the text of a value, where empty ones count too.
* `Json.filledDepth_asWritten`, `Json.isWhole_asWritten`, `Json.allInts_asWritten`: writing a value changes neither its
  nesting nor its texts and whole numbers.
* `Json.asWritten_of_isFinite`: a value without NaN and infinities is written as it is.
* `Json.spec_of_unwritable?`: what may be written holds no lone half and is not nested too deep.
-/

namespace LintPreview.Json

theorem writtenItems_eq_map (items : List Json) : asWritten.writtenItems items = items.map asWritten := by
  induction items with
  | nil => rfl
  | cons v items ih => rw [asWritten.writtenItems, ih, List.map_cons]

/-! ### Part by part -/

/-- A property of values by levels that holds for a collection if it holds for its parts one level below. -/
structure IsPartwise (holds : Nat → Json → Prop) : Prop where
  null (n : Nat) : holds n .null
  bool (n : Nat) (b : Bool) : holds n (.bool b)
  text (n : Nat) (s : Text) : holds n (.text s)
  list (n : Nat) (items : List Json) : holds (n + 1) (.list items) ↔ ∀ v ∈ items, holds n v
  object (n : Nat) (entries : List (Text × Json)) (keys : (entries.map (·.1)).Nodup) :
    holds (n + 1) (.object entries) ↔ ∀ e ∈ entries, holds n e.2

theorem isPartwise_filledDepth : IsPartwise fun n v => v.filledDepth ≤ n where
  null n := Nat.zero_le n
  bool n _ := Nat.zero_le n
  text n _ := Nat.zero_le n
  list n items := by
    have hdepth : filledDepth.listDepth items ≤ n ↔ ∀ v ∈ items, v.filledDepth ≤ n := by
      induction items with
      | nil => simp [filledDepth.listDepth]
      | cons v items ih => rw [filledDepth.listDepth, Nat.max_le, ih, List.forall_mem_cons]
    cases items with
    | nil => simp [filledDepth]
    | cons v items =>
      rw [← hdepth, filledDepth]
      omega
  object n entries keys := by
    clear keys
    have hdepth : filledDepth.entriesDepth entries ≤ n ↔ ∀ e ∈ entries, e.2.filledDepth ≤ n := by
      induction entries with
      | nil => simp [filledDepth.entriesDepth]
      | cons e entries ih => rw [filledDepth.entriesDepth, Nat.max_le, ih, List.forall_mem_cons]
    cases entries with
    | nil => simp [filledDepth]
    | cons e entries =>
      rw [← hdepth, filledDepth]
      omega

theorem isPartwise_allInts (fits : Int → Bool) : IsPartwise fun _ v => v.allInts fits = true where
  null _ := rfl
  bool _ _ := rfl
  text _ _ := rfl
  list _ items := by
    rw [allInts]
    induction items with
    | nil => simp [allInts.allItems]
    | cons v items ih => rw [allInts.allItems, Bool.and_eq_true, ih, List.forall_mem_cons]
  object _ entries keys := by
    clear keys
    rw [allInts]
    induction entries with
    | nil => simp [allInts.allEntries]
    | cons e entries ih => rw [allInts.allEntries, Bool.and_eq_true, ih, List.forall_mem_cons]

theorem isPartwise_isFinite : IsPartwise fun _ v => v.isFinite = true where
  null _ := rfl
  bool _ _ := rfl
  text _ _ := rfl
  list _ items := by
    rw [isFinite]
    induction items with
    | nil => simp [isFinite.allItems]
    | cons v items ih => rw [isFinite.allItems, Bool.and_eq_true, ih, List.forall_mem_cons]
  object _ entries keys := by
    clear keys
    rw [isFinite]
    induction entries with
    | nil => simp [isFinite.allEntries]
    | cons e entries ih => rw [isFinite.allEntries, Bool.and_eq_true, ih, List.forall_mem_cons]

/-- Two partwise properties at once. -/
theorem IsPartwise.and {p q : Nat → Json → Prop} (hp : IsPartwise p) (hq : IsPartwise q) :
    IsPartwise fun n v => p n v ∧ q n v where
  null n := ⟨hp.null n, hq.null n⟩
  bool n b := ⟨hp.bool n b, hq.bool n b⟩
  text n s := ⟨hp.text n s, hq.text n s⟩
  list n items := by rw [hp.list, hq.list, ← forall₂_and]
  object n entries keys := by rw [hp.object n entries keys, hq.object n entries keys, ← forall₂_and]

/-! ### Nesting -/

/-- How many lists and objects are open at once in the text of a value. -/
def nesting : Json → Nat
  | .list items => 1 + listNesting items
  | .object entries => 1 + entriesNesting entries
  | _ => 0
where
  /-- The greatest nesting in a list. -/
  listNesting : List Json → Nat
    | [] => 0
    | v :: rest => max v.nesting (listNesting rest)
  /-- The greatest nesting in the entries of an object. -/
  entriesNesting : List (Text × Json) → Nat
    | [] => 0
    | (_, v) :: rest => max v.nesting (entriesNesting rest)

theorem listNesting_le_iff {items : List Json} {n : Nat} :
    nesting.listNesting items ≤ n ↔ ∀ v ∈ items, v.nesting ≤ n := by
  induction items with
  | nil => simp [nesting.listNesting]
  | cons v items ih => rw [nesting.listNesting, Nat.max_le, ih, List.forall_mem_cons]

theorem entriesNesting_le_iff {entries : List (Text × Json)} {n : Nat} :
    nesting.entriesNesting entries ≤ n ↔ ∀ e ∈ entries, e.2.nesting ≤ n := by
  induction entries with
  | nil => simp [nesting.entriesNesting]
  | cons e entries ih => rw [nesting.entriesNesting, Nat.max_le, ih, List.forall_mem_cons]

theorem isPartwise_nesting : IsPartwise fun n v => v.nesting ≤ n where
  null n := Nat.zero_le n
  bool n _ := Nat.zero_le n
  text n _ := Nat.zero_le n
  list n items := by
    rw [← listNesting_le_iff, nesting]
    omega
  object n entries keys := by
    rw [← entriesNesting_le_iff, nesting]
    omega

mutual

/-- Empty lists and objects add one level at most. -/
theorem nesting_le_filledDepth : ∀ v : Json, v.nesting ≤ v.filledDepth + 1
  | .list [] => Nat.le_refl 1
  | .object [] => Nat.le_refl 1
  | .list (v :: vs) => by
    have h := listNesting_le_listDepth (v :: vs)
    rw [nesting, filledDepth]
    omega
  | .object (e :: es) => by
    have h := entriesNesting_le_entriesDepth (e :: es)
    rw [nesting, filledDepth]
    omega
  | .null => Nat.zero_le 1
  | .bool _ => Nat.zero_le 1
  | .int _ => Nat.zero_le 1
  | .float _ => Nat.zero_le 1
  | .text _ => Nat.zero_le 1

theorem listNesting_le_listDepth : ∀ items : List Json, nesting.listNesting items ≤ filledDepth.listDepth items + 1
  | [] => Nat.zero_le 1
  | v :: vs => by
    have hv := nesting_le_filledDepth v
    have hvs := listNesting_le_listDepth vs
    rw [nesting.listNesting, filledDepth.listDepth]
    omega

theorem entriesNesting_le_entriesDepth : ∀ entries : List (Text × Json),
    nesting.entriesNesting entries ≤ filledDepth.entriesDepth entries + 1
  | [] => Nat.zero_le 1
  | (_, v) :: es => by
    have hv := nesting_le_filledDepth v
    have hes := entriesNesting_le_entriesDepth es
    rw [nesting.entriesNesting, filledDepth.entriesDepth]
    omega

end

/-! ### What writing keeps -/

mutual

theorem asWritten_of_isFinite : ∀ v : Json, v.isFinite = true → v.asWritten = v
  | .list items, h => congrArg Json.list (writtenItems_of_isFinite items h)
  | .object entries, h => congrArg Json.object (writtenEntries_of_isFinite entries h)
  | .float _, h => if_pos h
  | .null, _ => rfl
  | .bool _, _ => rfl
  | .int _, _ => rfl
  | .text _, _ => rfl

theorem writtenItems_of_isFinite : ∀ items : List Json, isFinite.allItems items = true →
    asWritten.writtenItems items = items
  | [], _ => rfl
  | v :: items, h => by
    obtain ⟨hv, hitems⟩ := Bool.and_eq_true_iff.mp h
    rw [asWritten.writtenItems, asWritten_of_isFinite v hv, writtenItems_of_isFinite items hitems]

theorem writtenEntries_of_isFinite : ∀ entries : List (Text × Json), isFinite.allEntries entries = true →
    asWritten.writtenEntries entries = entries
  | [], _ => rfl
  | (k, v) :: entries, h => by
    obtain ⟨hv, hentries⟩ := Bool.and_eq_true_iff.mp h
    rw [asWritten.writtenEntries, asWritten_of_isFinite v hv, writtenEntries_of_isFinite entries hentries]

end

mutual

theorem filledDepth_asWritten : ∀ v : Json, v.asWritten.filledDepth = v.filledDepth
  | .list [] => rfl
  | .object [] => rfl
  | .list (v :: vs) => by
    have h := listDepth_writtenItems (v :: vs)
    rw [asWritten, asWritten.writtenItems, filledDepth, filledDepth, ← h, asWritten.writtenItems]
  | .object ((k, v) :: es) => by
    have h := entriesDepth_writtenEntries ((k, v) :: es)
    rw [asWritten, asWritten.writtenEntries, filledDepth, filledDepth, ← h, asWritten.writtenEntries]
  | .float x => by
    unfold asWritten
    split <;> rfl
  | .null => rfl
  | .bool _ => rfl
  | .int _ => rfl
  | .text _ => rfl

theorem listDepth_writtenItems : ∀ items : List Json,
    filledDepth.listDepth (asWritten.writtenItems items) = filledDepth.listDepth items
  | [] => rfl
  | v :: items => by
    rw [asWritten.writtenItems, filledDepth.listDepth, filledDepth.listDepth, filledDepth_asWritten v,
      listDepth_writtenItems items]

theorem entriesDepth_writtenEntries : ∀ entries : List (Text × Json),
    filledDepth.entriesDepth (asWritten.writtenEntries entries) = filledDepth.entriesDepth entries
  | [] => rfl
  | (k, v) :: entries => by
    rw [asWritten.writtenEntries, filledDepth.entriesDepth, filledDepth.entriesDepth, filledDepth_asWritten v,
      entriesDepth_writtenEntries entries]

end

mutual

theorem isWhole_asWritten : ∀ v : Json, v.asWritten.isWhole = v.isWhole
  | .list items => allItems_isWhole_writtenItems items
  | .object entries => allEntries_isWhole_writtenEntries entries
  | .float x => by
    unfold asWritten
    split <;> rfl
  | .null => rfl
  | .bool _ => rfl
  | .int _ => rfl
  | .text _ => rfl

theorem allItems_isWhole_writtenItems : ∀ items : List Json,
    isWhole.allItems (asWritten.writtenItems items) = isWhole.allItems items
  | [] => rfl
  | v :: items => by
    rw [asWritten.writtenItems, isWhole.allItems, isWhole.allItems, isWhole_asWritten v,
      allItems_isWhole_writtenItems items]

theorem allEntries_isWhole_writtenEntries : ∀ entries : List (Text × Json),
    isWhole.allEntries (asWritten.writtenEntries entries) = isWhole.allEntries entries
  | [] => rfl
  | (k, v) :: entries => by
    rw [asWritten.writtenEntries, isWhole.allEntries, isWhole.allEntries, isWhole_asWritten v,
      allEntries_isWhole_writtenEntries entries]

end

mutual

theorem allInts_asWritten (fits : Int → Bool) : ∀ v : Json, v.asWritten.allInts fits = v.allInts fits
  | .list items => allItems_allInts_writtenItems fits items
  | .object entries => allEntries_allInts_writtenEntries fits entries
  | .float x => by
    unfold asWritten
    split <;> rfl
  | .null => rfl
  | .bool _ => rfl
  | .int _ => rfl
  | .text _ => rfl

theorem allItems_allInts_writtenItems (fits : Int → Bool) : ∀ items : List Json,
    allInts.allItems fits (asWritten.writtenItems items) = allInts.allItems fits items
  | [] => rfl
  | v :: items => by
    rw [asWritten.writtenItems, allInts.allItems, allInts.allItems, allInts_asWritten fits v,
      allItems_allInts_writtenItems fits items]

theorem allEntries_allInts_writtenEntries (fits : Int → Bool) : ∀ entries : List (Text × Json),
    allInts.allEntries fits (asWritten.writtenEntries entries) = allInts.allEntries fits entries
  | [] => rfl
  | (k, v) :: entries => by
    rw [asWritten.writtenEntries, allInts.allEntries, allInts.allEntries, allInts_asWritten fits v,
      allEntries_allInts_writtenEntries fits entries]

end

/-! ### What may be written -/

theorem isWhole_of_unwritableText? {s : Text} (h : unwritableText? s = none) : s.isWhole = true := by
  unfold unwritableText? at h
  split at h
  · rename_i bytes hbytes
    exact Text.isWhole_iff_encode.mpr ⟨bytes, hbytes⟩
  · cases h

theorem orElse_eq_none {x y : Option UnwritableJson} (h : (x <|> y) = none) : x = none ∧ y = none := by
  cases x with
  | none => exact ⟨rfl, h⟩
  | some fault => cases h

theorem levels_ne_zero_of_unwritable? {v : Json} {levels : Nat} (h : v.unwritable? levels = none) : levels ≠ 0 := by
  unfold unwritable? at h
  split at h
  · cases h
  · assumption

mutual

/-- What may be written holds no lone half, and is nested less deep than there are levels. -/
theorem spec_of_unwritable? : ∀ (v : Json) {levels : Nat}, v.unwritable? levels = none →
    v.isWhole = true ∧ v.filledDepth < levels
  | .list items, levels, h => by
    have hlevels := levels_ne_zero_of_unwritable? h
    rw [unwritable?, if_neg hlevels] at h
    obtain ⟨hwhole, hdepth⟩ := spec_of_unwritableItem? items h
    refine ⟨hwhole, ?_⟩
    cases items with
    | nil => exact Nat.pos_of_ne_zero hlevels
    | cons v vs =>
      have := hdepth nofun
      rw [filledDepth]
      omega
  | .object entries, levels, h => by
    have hlevels := levels_ne_zero_of_unwritable? h
    rw [unwritable?, if_neg hlevels] at h
    obtain ⟨hwhole, hdepth⟩ := spec_of_unwritableMember? entries h
    refine ⟨hwhole, ?_⟩
    cases entries with
    | nil => exact Nat.pos_of_ne_zero hlevels
    | cons e es =>
      have := hdepth nofun
      rw [filledDepth]
      omega
  | .text s, levels, h => by
    have hlevels := levels_ne_zero_of_unwritable? h
    rw [unwritable?, if_neg hlevels] at h
    exact ⟨isWhole_of_unwritableText? h, Nat.pos_of_ne_zero hlevels⟩
  | .null, _, h => ⟨rfl, Nat.pos_of_ne_zero (levels_ne_zero_of_unwritable? h)⟩
  | .bool _, _, h => ⟨rfl, Nat.pos_of_ne_zero (levels_ne_zero_of_unwritable? h)⟩
  | .int _, _, h => ⟨rfl, Nat.pos_of_ne_zero (levels_ne_zero_of_unwritable? h)⟩
  | .float _, _, h => ⟨rfl, Nat.pos_of_ne_zero (levels_ne_zero_of_unwritable? h)⟩

theorem spec_of_unwritableItem? : ∀ (items : List Json) {levels : Nat}, unwritableItem? levels items = none →
    isWhole.allItems items = true ∧ (items ≠ [] → filledDepth.listDepth items < levels)
  | [], _, _ => ⟨rfl, fun h => absurd rfl h⟩
  | v :: items, levels, h => by
    obtain ⟨hv, hitems⟩ := orElse_eq_none h
    obtain ⟨hwhole, hdepth⟩ := spec_of_unwritable? v hv
    obtain ⟨hwholes, hdepths⟩ := spec_of_unwritableItem? items hitems
    rw [isWhole.allItems, hwhole, hwholes, filledDepth.listDepth]
    refine ⟨rfl, fun _ => ?_⟩
    cases items with
    | nil => simpa [filledDepth.listDepth] using hdepth
    | cons w items =>
      have := hdepths nofun
      omega

theorem spec_of_unwritableMember? : ∀ (entries : List (Text × Json)) {levels : Nat},
    unwritableMember? levels entries = none →
    isWhole.allEntries entries = true ∧ (entries ≠ [] → filledDepth.entriesDepth entries < levels)
  | [], _, _ => ⟨rfl, fun h => absurd rfl h⟩
  | (k, v) :: entries, levels, h => by
    obtain ⟨hk, h⟩ := orElse_eq_none h
    obtain ⟨hv, hentries⟩ := orElse_eq_none h
    obtain ⟨hwhole, hdepth⟩ := spec_of_unwritable? v hv
    obtain ⟨hwholes, hdepths⟩ := spec_of_unwritableMember? entries hentries
    rw [isWhole.allEntries, isWhole_of_unwritableText? hk, hwhole, hwholes, filledDepth.entriesDepth]
    refine ⟨rfl, fun _ => ?_⟩
    cases entries with
    | nil => simpa [filledDepth.entriesDepth] using hdepth
    | cons e entries =>
      have := hdepths nofun
      omega

end

end LintPreview.Json
