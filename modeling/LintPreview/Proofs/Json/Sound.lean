import LintPreview.Json.Reader
import LintPreview.Proofs.Json.Pretty
import LintPreview.Proofs.Outcome
import LintPreview.Proofs.Text.Pieces
import Mathlib.Data.List.TakeWhile

/-!
# What is read from JSON text

* `Json.ReadsSound`, `Json.readsSound`: every value that is read with some fuel is sound.
* `Json.isSound_of_read`: the same for whole texts.
* `Json.exists_readValue_of_readChars`: the value of a text stands behind its first blanks, with only blanks after it.
* `Json.head?_of_readValue_list`: only a bracket opens a list.
* `Json.trimChars_ne_nil_of_read`: a text that is an array is not blank.
-/

namespace LintPreview

theorem map_fst_putEntry {α : Type} (key : Text) (v : α) (es : List (Text × α)) :
    (putEntry key v es).map (·.1) = if key ∈ es.map (·.1) then es.map (·.1) else es.map (·.1) ++ [key] := by
  induction es with
  | nil => rfl
  | cons e es ih =>
    by_cases h : e.1 = key
    · simp [putEntry, h]
    · have h' : ¬ key = e.1 := fun hk => h hk.symm
      simp only [putEntry, if_neg h, List.map_cons, ih, List.mem_cons, h', false_or]
      split <;> rfl

theorem mem_putEntry {α : Type} {key : Text} {v : α} {es : List (Text × α)} {e : Text × α}
    (h : e ∈ putEntry key v es) : e ∈ es ∨ e.2 = v := by
  induction es with
  | nil =>
    obtain rfl := List.mem_singleton.mp h
    exact .inr rfl
  | cons f es ih =>
    unfold putEntry at h
    split at h
    · rcases List.mem_cons.mp h with rfl | h
      · exact .inr rfl
      · exact .inl (List.mem_cons_of_mem f h)
    · rcases List.mem_cons.mp h with rfl | h
      · exact .inl List.mem_cons_self
      · exact (ih h).imp_left (List.mem_cons_of_mem f)

/-- Collected entries have different keys, and their values stand among the entries. -/
theorem collectEntries_spec {α : Type} (entries : List (Text × α)) : ((collectEntries entries).map (·.1)).Nodup ∧
    ∀ e ∈ collectEntries entries, ∃ f ∈ entries, f.2 = e.2 := by
  have hfold : ∀ es acc : List (Text × α), (acc.map (·.1)).Nodup →
      ((es.foldl (fun acc e => putEntry e.1 e.2 acc) acc).map (·.1)).Nodup ∧
        ∀ e ∈ es.foldl (fun acc e => putEntry e.1 e.2 acc) acc, e ∈ acc ∨ ∃ f ∈ es, f.2 = e.2 := by
    intro es
    induction es with
    | nil => exact fun acc h => ⟨h, fun e he => .inl he⟩
    | cons f es ih =>
      intro acc h
      have hput : ((putEntry f.1 f.2 acc).map (·.1)).Nodup := by
        rw [map_fst_putEntry]
        split
        · exact h
        · rename_i hf
          exact List.nodup_append.mpr ⟨h, List.nodup_singleton f.1, fun k hk k' hk' => by
            rw [List.mem_singleton.mp hk']
            rintro rfl
            exact hf hk⟩
      obtain ⟨hkeys, hvalues⟩ := ih _ hput
      refine ⟨hkeys, fun e he => ?_⟩
      rcases hvalues e he with hmem | ⟨g, hg, hge⟩
      · rcases mem_putEntry hmem with hmem | hvalue
        · exact .inl hmem
        · exact .inr ⟨f, List.mem_cons_self, hvalue.symm⟩
      · exact .inr ⟨g, List.mem_cons_of_mem f hg, hge⟩
  obtain ⟨hkeys, hvalues⟩ := hfold entries [] List.nodup_nil
  refine ⟨hkeys, fun e he => ?_⟩
  rcases hvalues e he with hmem | h
  · cases hmem
  · exact h

namespace Json

/-! ### Single values -/

theorem isSound_ofDecimal (negative : Bool) (digits : ℕ) (power : ℤ) :
    IsSound (.float (Binary64.ofDecimal negative digits power)) :=
  .float fun _ _ _ h => Binary64.isUsual_of_ofDecimal h

theorem areDigits_wholePart? {cs ws rest : List CodePoint} (h : wholePart? cs = some (ws, rest)) : AreDigits ws := by
  unfold wholePart? at h
  split at h
  · cases h
    rintro c (_ | ⟨_, ⟨⟩⟩)
    rfl
  · split at h
    · cases h
      exact fun c hc => List.mem_takeWhile_imp hc
    · cases h
  · cases h

/-- A number without its sign is sound. -/
theorem isSound_of_readMagnitude? {negative : Bool} {cs rest : List CodePoint} {v : Json}
    (h : readMagnitude? negative cs = some (.ok (v, rest))) : v.IsSound := by
  unfold readMagnitude? at h
  cases hwhole : wholePart? cs with
  | none =>
    rw [hwhole] at h
    cases h
  | some x =>
    obtain ⟨ws, rest₁⟩ := x
    rw [hwhole] at h
    dsimp only at h
    split at h
    · cases h
      exact isSound_ofDecimal _ _ _
    · by_cases hf : (fractionPart rest₁).1.isEmpty = true
      · rw [if_pos hf] at h
        by_cases hlong : maxDecimalDigits < ws.length
        · rw [if_pos hlong] at h
          cases h
        · rw [if_neg hlong] at h
          have hlt := digitsValue_lt (areDigits_wholePart? hwhole)
          have hle : 10 ^ ws.length ≤ 10 ^ maxDecimalDigits := Nat.pow_le_pow_right (by norm_num) (not_lt.mp hlong)
          cases h
          constructor
          split <;> omega
      · rw [if_neg hf] at h
        cases h
        exact isSound_ofDecimal _ _ _

theorem isSound_of_readNumber {cs rest : List CodePoint} {v : Json} (h : readNumber cs = .ok (v, rest)) : v.IsSound := by
  unfold readNumber at h
  dsimp only at h
  split at h
  · rename_i r hr
    rw [h] at hr
    split at hr
    · exact isSound_of_readMagnitude? hr
    · exact isSound_of_readMagnitude? hr
  · cases h

theorem isSound_of_readName? {cs rest : List CodePoint} {v : Json} (h : readName? cs = some (v, rest)) : v.IsSound := by
  obtain ⟨n, hn, hv⟩ := Option.map_eq_some_iff.mp h
  cases hv
  have hmem := List.mem_of_find?_eq_some hn
  have hnames : ∀ n ∈ names, n.2.IsSound := by
    rintro n hn
    simp only [names, List.map_cons, List.map_nil, List.mem_cons, List.not_mem_nil, or_false] at hn
    rcases hn with rfl | rfl | rfl | rfl | rfl | rfl
    · exact .null
    · exact .bool true
    · exact .bool false
    all_goals exact .float (by simp)
  exact hnames n hmem

/-! ### Values -/

/-- What is read with a given fuel is sound. -/
structure ReadsSound (fuel : ℕ) : Prop where
  value : ∀ depth cs v rest, readValue fuel depth cs = .ok (v, rest) → v.IsSound
  items : ∀ depth cs vs rest, readItems fuel depth cs = .ok (vs, rest) → ∀ v ∈ vs, v.IsSound
  entries : ∀ depth cs es rest, readEntries fuel depth cs = .ok (es, rest) → ∀ e ∈ es, e.2.IsSound

namespace ReadsSound

variable {fuel depth : ℕ} {cs rest : List CodePoint}

theorem readValue_succ (h : ReadsSound fuel) {v : Json} (hread : readValue (fuel + 1) depth cs = .ok (v, rest)) :
    v.IsSound := by
  unfold readValue at hread
  split at hread
  · obtain ⟨x, -, hend⟩ := exists_of_bind_ok hread
    cases hend
    exact .text _
  · split at hread
    · cases hread
    · split at hread
      · cases hread
        exact .list (by simp)
      · obtain ⟨x, hx, hend⟩ := exists_of_bind_ok hread
        cases hend
        exact .list (h.items _ _ _ _ hx)
  · split at hread
    · cases hread
    · split at hread
      · cases hread
        exact .object List.nodup_nil (by simp)
      · obtain ⟨x, hx, hend⟩ := exists_of_bind_ok hread
        cases hend
        obtain ⟨hkeys, hvalues⟩ := collectEntries_spec x.1
        refine .object hkeys fun e he => ?_
        obtain ⟨f, hf, hfe⟩ := hvalues e he
        rw [← hfe]
        exact h.entries _ _ _ _ hx f hf
  · split at hread
    · rename_i found hfound
      cases hread
      exact isSound_of_readName? hfound
    · exact isSound_of_readNumber hread

theorem readItems_succ (h : ReadsSound fuel) {vs : List Json} (hread : readItems (fuel + 1) depth cs = .ok (vs, rest)) :
    ∀ v ∈ vs, v.IsSound := by
  unfold readItems at hread
  obtain ⟨x, hx, hrest⟩ := exists_of_bind_ok hread
  dsimp only at hrest
  split at hrest
  · cases hrest
    rintro v (_ | ⟨_, ⟨⟩⟩)
    exact h.value _ _ _ _ hx
  · obtain ⟨y, hy, hend⟩ := exists_of_bind_ok hrest
    cases hend
    rintro v (_ | ⟨_, hv⟩)
    · exact h.value _ _ _ _ hx
    · exact h.items _ _ _ _ hy v hv
  · cases hrest

theorem readEntries_succ (h : ReadsSound fuel) {es : List (Text × Json)}
    (hread : readEntries (fuel + 1) depth cs = .ok (es, rest)) : ∀ e ∈ es, e.2.IsSound := by
  unfold readEntries at hread
  split at hread
  · obtain ⟨k, -, hcolon⟩ := exists_of_bind_ok hread
    dsimp only at hcolon
    split at hcolon
    · obtain ⟨x, hx, hrest⟩ := exists_of_bind_ok hcolon
      split at hrest
      · cases hrest
        rintro e (_ | ⟨_, ⟨⟩⟩)
        exact h.value _ _ _ _ hx
      · obtain ⟨y, hy, hend⟩ := exists_of_bind_ok hrest
        cases hend
        rintro e (_ | ⟨_, he⟩)
        · exact h.value _ _ _ _ hx
        · exact h.entries _ _ _ _ hy e he
      · cases hrest
    · cases hcolon
  · cases hread

end ReadsSound

theorem readsSound (fuel : ℕ) : ReadsSound fuel := by
  induction fuel with
  | zero => exact ⟨by simp [readValue], by simp [readItems], by simp [readEntries]⟩
  | succ fuel ih =>
    exact ⟨fun _ _ _ _ => ih.readValue_succ, fun _ _ _ _ => ih.readItems_succ, fun _ _ _ _ => ih.readEntries_succ⟩

/-- Every value of a text is sound. -/
theorem isSound_of_read {s : Text} {v : Json} (h : read s = .ok v) : v.IsSound := by
  unfold read readChars at h
  split at h
  · rename_i w hw
    cases h
    unfold readAll at hw
    split at hw
    · cases hw
    · obtain ⟨x, hx, h⟩ := exists_of_bind_ok hw
      dsimp only at h
      split at h
      · cases h
        exact (readsSound _).value _ _ _ _ hx
      · cases h
  all_goals cases h

end Json

/-! ### Arrays -/

theorem isBlank_of_isSpace {c : CodePoint} (h : Json.isSpace c = true) : Text.isBlank c = true := by
  simp only [Json.isSpace, Bool.or_eq_true, beq_iff_eq] at h
  obtain ((rfl | rfl) | rfl) | rfl := h <;> decide

namespace Json

theorem readName?_ne_list (cs rest : List CodePoint) (items : List Json) : readName? cs ≠ some (.list items, rest) := by
  intro h
  obtain ⟨n, hn, hv⟩ := Option.map_eq_some_iff.mp h
  have hleaves : ∀ n ∈ names, n.2.isCollection = false := by decide
  have := hleaves n (List.mem_of_find?_eq_some hn)
  rw [(Prod.mk.inj hv).1] at this
  cases this

theorem readMagnitude?_ne_list (negative : Bool) (cs rest : List CodePoint) (items : List Json) :
    readMagnitude? negative cs ≠ some (.ok (.list items, rest)) := by
  intro h
  unfold readMagnitude? at h
  split at h
  · cases h
  · dsimp only at h
    split at h
    · cases h
    · split at h
      · split at h <;> cases h
      · cases h

theorem readNumber_ne_list (cs rest : List CodePoint) (items : List Json) :
    readNumber cs ≠ .ok (.list items, rest) := by
  intro h
  unfold readNumber at h
  dsimp only at h
  split at h
  · rename_i result hresult
    rw [h] at hresult
    split at hresult <;> exact readMagnitude?_ne_list _ _ _ _ hresult
  · cases h

/-- Only a bracket opens a list. -/
theorem head?_of_readValue_list {fuel depth : ℕ} {cs rest : List CodePoint} {items : List Json}
    (h : readValue fuel depth cs = .ok (.list items, rest)) : cs.head? = some (.char '[') := by
  cases fuel with
  | zero => cases h
  | succ fuel =>
    unfold readValue at h
    split at h
    · obtain ⟨_, -, h⟩ := exists_of_bind_ok h
      cases h
    · rfl
    · split at h
      · cases h
      · split at h
        · cases h
        · obtain ⟨_, -, h⟩ := exists_of_bind_ok h
          cases h
    · split at h
      · rename_i found hfound
        cases h
        exact absurd hfound (readName?_ne_list _ _ _)
      · exact absurd h (readNumber_ne_list _ _ _)

/-- The value of a text stands behind its first blanks, with only blanks after it. -/
theorem exists_readValue_of_readChars {cs : List CodePoint} {v : Json} (h : readChars cs = .ok v) :
    ∃ fuel rest, readValue fuel maxDepth (skipSpace cs) = .ok (v, rest) ∧ skipSpace rest = [] := by
  unfold readChars at h
  split at h
  · rename_i w hread
    cases h
    unfold readAll at hread
    split at hread
    · cases hread
    · obtain ⟨⟨v, rest⟩, hvalue, hread⟩ := exists_of_bind_ok hread
      dsimp only at hread
      split at hread
      · rename_i hend
        cases hread
        exact ⟨_, rest, hvalue, hend⟩
      · cases hread
  all_goals cases h

/-- A text without blanks in front that is an array starts with a bracket. -/
theorem head?_of_readChars_list {cs : List CodePoint} {items : List Json} (hcs : ∀ c ∈ cs.head?, Text.isBlank c = false)
    (h : readChars cs = .ok (.list items)) : cs.head? = some (.char '[') := by
  have hspace : skipSpace cs = cs := by
    cases cs with
    | nil => rfl
    | cons c rest =>
      have hc : isSpace c = false := by
        rw [Bool.eq_false_iff]
        intro hspace
        have := hcs c rfl
        rw [isBlank_of_isSpace hspace] at this
        cases this
      exact List.dropWhile_cons_of_neg (by rw [hc]; exact Bool.false_ne_true)
  obtain ⟨fuel, rest, hvalue, -⟩ := exists_readValue_of_readChars h
  rw [hspace] at hvalue
  exact head?_of_readValue_list hvalue

/-- A text that is an array is not blank: there is a bracket in it. -/
theorem trimChars_ne_nil_of_read {s : Text} {items : List Json} (h : read s = .ok (.list items)) :
    Text.trimChars s.toList ≠ [] := by
  obtain ⟨fuel, rest, hvalue, -⟩ := exists_readValue_of_readChars h
  have hbracket : CodePoint.char '[' ∈ s.toList := by
    apply (List.dropWhile_suffix isSpace).subset
    exact List.mem_of_mem_head? (head?_of_readValue_list hvalue)
  intro hblank
  have : Text.isBlank (.char '[') = true := Text.trimChars_eq_nil_iff.mp hblank _ hbracket
  cases this

end Json

end LintPreview
