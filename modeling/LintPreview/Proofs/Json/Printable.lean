import LintPreview.Proofs.Json.Pretty
import LintPreview.Text.Lines

/-!
# The characters of JSON text

* `Json.IsPrintable`: no control character occurs.
* `Json.isLined_prettyChars`: in a value whose parts stand on lines of their own no control character occurs but line feeds.
* `Text.unifyNewlines_pretty`: so its line ends are those of a text file.
-/

namespace LintPreview

namespace Json

/-- A text without control characters. -/
def IsPrintable (cs : List CodePoint) : Prop := ∀ c ∈ cs, 0x20 ≤ c.toNat

/-- A text without control characters but line feeds. -/
def IsLined (cs : List CodePoint) : Prop := ∀ c ∈ cs, c = .char '\n' ∨ 0x20 ≤ c.toNat

theorem IsPrintable.isLined {cs : List CodePoint} (h : IsPrintable cs) : IsLined cs := fun c hc => .inr (h c hc)

theorem isPrintable_append_iff {cs ds : List CodePoint} : IsPrintable (cs ++ ds) ↔ IsPrintable cs ∧ IsPrintable ds :=
  List.forall_mem_append

theorem isLined_append_iff {cs ds : List CodePoint} : IsLined (cs ++ ds) ↔ IsLined cs ∧ IsLined ds :=
  List.forall_mem_append

theorem isLined_cons_iff {c : CodePoint} {cs : List CodePoint} :
    IsLined (c :: cs) ↔ (c = .char '\n' ∨ 0x20 ≤ c.toNat) ∧ IsLined cs :=
  List.forall_mem_cons

theorem isLined_nil : IsLined [] := List.forall_mem_nil _

/-! ### Numbers -/

open Binary64 (positional scientific renderUnsigned snapshotStyle)

theorem AreDigits.isPrintable {ds : List CodePoint} (h : AreDigits ds) : IsPrintable ds := by
  intro c hc
  cases c with
  | half h' => cases h _ hc
  | char c =>
    obtain ⟨hlow, -⟩ := Char.isDigit_iff_toNat.mp (h _ hc)
    have h0 : '0'.toNat = 48 := rfl
    show 0x20 ≤ c.toNat
    omega

theorem isPrintable_signOf (i : ℤ) : IsPrintable (signOf i) := by
  unfold signOf
  split <;> · rintro c (_ | ⟨_, ⟨⟩⟩)
              decide

theorem isPrintable_positional {ds : List CodePoint} (hd : AreDigits ds) (point : ℤ) :
    IsPrintable (positional ds point) := by
  unfold positional
  split
  · have hzeros := ((areDigits_replicate_zero (-point).toNat).append hd).isPrintable
    rintro c (_ | ⟨_, _ | ⟨_, hc⟩⟩)
    · decide
    · decide
    · exact hzeros c hc
  · split
    · refine isPrintable_append_iff.mpr ⟨(hd.append (areDigits_replicate_zero _)).isPrintable, ?_⟩
      rintro c (_ | ⟨_, _ | ⟨_, ⟨⟩⟩⟩) <;> decide
    · refine isPrintable_append_iff.mpr ⟨(hd.take _).isPrintable, ?_⟩
      rintro c (_ | ⟨_, hc⟩)
      · decide
      · exact (hd.drop _).isPrintable c hc

theorem isPrintable_scientific {ds : List CodePoint} (hd : AreDigits ds) (hne : ds ≠ []) (i : ℤ) :
    IsPrintable (scientific snapshotStyle ds i) := by
  obtain ⟨d, fs, rfl⟩ := List.exists_cons_of_ne_nil hne
  have hprint := hd.isPrintable
  rw [scientific_cons]
  refine isPrintable_append_iff.mpr ⟨isPrintable_append_iff.mpr ⟨?_, ?_⟩, ?_⟩
  · rintro c (_ | ⟨_, ⟨⟩⟩)
    exact hprint d List.mem_cons_self
  · split
    · rintro c ⟨⟩
    · rintro c (_ | ⟨_, hc⟩)
      · decide
      · exact hprint c (List.mem_cons_of_mem d hc)
  · rintro c (_ | ⟨_, hc⟩)
    · decide
    · rcases List.mem_append.mp hc with hc | hc
      · exact isPrintable_signOf i c hc
      · exact (areDigits_decimalDigits _).isPrintable c hc

theorem isPrintable_floatChars (x : Binary64) : IsPrintable (floatChars x) := by
  have hnull : IsPrintable (Text.toList "null") := by
    unfold IsPrintable
    decide
  cases x with
  | infinite negative => exact hnull
  | undefined => exact hnull
  | finite negative m e =>
    have hchars : floatChars (.finite negative m e) =
        (if negative then [.char '-'] else []) ++ renderUnsigned snapshotStyle (.finite negative m e) := by
      cases negative <;> rfl
    rw [hchars]
    refine isPrintable_append_iff.mpr ⟨?_, ?_⟩
    · split
      · rintro c (_ | ⟨_, ⟨⟩⟩)
        decide
      · rintro c ⟨⟩
    · rcases Nat.eq_zero_or_pos m with rfl | hm
      · have hzero : renderUnsigned snapshotStyle (.finite negative 0 e) = [.char '0', .char '.', .char '0'] := rfl
        rw [hzero]
        unfold IsPrintable
        decide
      · rw [renderUnsigned_of_pos negative hm]
        split
        · exact isPrintable_positional (areDigits_decimalDigits _) _
        · exact isPrintable_scientific (areDigits_decimalDigits _) (decimalDigits_ne_nil _) _

theorem isPrintable_ofInt (i : ℤ) : IsPrintable (Text.ofInt i).toList := by
  rw [toList_ofInt]
  refine isPrintable_append_iff.mpr ⟨?_, (areDigits_decimalDigits _).isPrintable⟩
  split
  · rintro c (_ | ⟨_, ⟨⟩⟩)
    decide
  · rintro c ⟨⟩

/-! ### Texts -/

theorem isPrintable_unitEscape (c : CodePoint) : IsPrintable (unitEscape c) := by
  have hdigit : ∀ d < 16, 0x20 ≤ (Text.hexDigit d).toNat := by decide
  have hhex : ∀ width n, IsPrintable (Text.toHex width n) := by
    intro width
    induction width with
    | zero =>
      rintro n c ⟨⟩
    | succ width ih =>
      intro n
      refine isPrintable_append_iff.mpr ⟨ih _, ?_⟩
      rintro c (_ | ⟨_, ⟨⟩⟩)
      exact hdigit _ (Nat.mod_lt _ (by omega))
  rintro d (_ | ⟨_, _ | ⟨_, hd⟩⟩)
  · decide
  · decide
  · exact hhex 4 c.toNat d hd

theorem isPrintable_escapeChar (c : CodePoint) : IsPrintable (escapeChar c) := by
  unfold escapeChar
  split_ifs with h₁ h₂ h₃ h₄ h₅ h₆ h₇ h₈
  rotate_right 2
  · exact isPrintable_unitEscape c
  · rintro d (_ | ⟨_, ⟨⟩⟩)
    omega
  all_goals
    unfold IsPrintable
    decide

theorem isPrintable_quoteChars (cs : List CodePoint) : IsPrintable (quoteChars cs) := by
  rintro c (_ | ⟨_, hc⟩)
  · decide
  · rcases List.mem_append.mp hc with hc | hc
    · obtain ⟨d, -, hd⟩ := List.mem_flatMap.mp hc
      exact isPrintable_escapeChar d c hd
    · obtain rfl := List.mem_singleton.mp hc
      decide

/-! ### Values -/

theorem isPrintable_leafChars (v : Json) : IsPrintable (leafChars v) := by
  cases v with
  | null =>
    unfold IsPrintable
    decide
  | bool b =>
    unfold IsPrintable
    revert b
    decide
  | int i => exact isPrintable_ofInt i
  | float x => exact isPrintable_floatChars x
  | text s => exact isPrintable_quoteChars s.toList
  | list _ =>
    show IsPrintable [.char '[', .char ']']
    unfold IsPrintable
    decide
  | object _ =>
    show IsPrintable [.char '\x7b', .char '\x7d']
    unfold IsPrintable
    decide

theorem isLined_singleton {c : Char} (hc : 0x20 ≤ c.toNat) : IsLined [.char c] := by
  rintro d (_ | ⟨_, ⟨⟩⟩)
  exact .inr hc

theorem isLined_newLine (level : ℕ) : IsLined (newLine level) := by
  rintro c (_ | ⟨_, hc⟩)
  · exact .inl rfl
  · rw [List.eq_of_mem_replicate hc]
    decide

mutual

theorem isLined_prettyChars (level : ℕ) : ∀ v : Json, IsLined (prettyChars level v)
  | .list (v :: vs) => by
    rw [prettyChars, isLined_cons_iff, isLined_append_iff, isLined_append_iff]
    exact ⟨by decide, ⟨isLined_prettyItems (level + 1) (v :: vs), isLined_newLine level⟩, isLined_singleton (by decide)⟩
  | .object (e :: es) => by
    rw [prettyChars, isLined_cons_iff, isLined_append_iff, isLined_append_iff]
    exact ⟨by decide, ⟨isLined_prettyEntries (level + 1) (e :: es), isLined_newLine level⟩,
      isLined_singleton (by decide)⟩
  | .list [] => (isPrintable_leafChars (.list [])).isLined
  | .object [] => (isPrintable_leafChars (.object [])).isLined
  | .null => (isPrintable_leafChars .null).isLined
  | .bool b => (isPrintable_leafChars (.bool b)).isLined
  | .int i => (isPrintable_leafChars (.int i)).isLined
  | .float x => (isPrintable_leafChars (.float x)).isLined
  | .text s => (isPrintable_leafChars (.text s)).isLined

theorem isLined_prettyItems (level : ℕ) : ∀ items : List Json, IsLined (prettyItems level items)
  | [] => isLined_nil
  | [v] => by
    rw [prettyItems, isLined_append_iff]
    exact ⟨isLined_newLine level, isLined_prettyChars level v⟩
  | v :: w :: vs => by
    rw [prettyItems, isLined_append_iff, isLined_append_iff, isLined_cons_iff]
    exact ⟨⟨isLined_newLine level, isLined_prettyChars level v⟩, by decide, isLined_prettyItems level (w :: vs)⟩

theorem isLined_prettyEntries (level : ℕ) : ∀ entries : List (Text × Json), IsLined (prettyEntries level entries)
  | [] => isLined_nil
  | [(k, v)] => by
    rw [prettyEntries, isLined_append_iff, isLined_append_iff, isLined_cons_iff, isLined_cons_iff]
    exact ⟨⟨isLined_newLine level, (isPrintable_quoteChars k.toList).isLined⟩, by decide, by decide,
      isLined_prettyChars level v⟩
  | (k, v) :: e :: es => by
    rw [prettyEntries, isLined_append_iff, isLined_append_iff, isLined_cons_iff, isLined_cons_iff, isLined_append_iff,
      isLined_cons_iff]
    exact ⟨⟨isLined_newLine level, (isPrintable_quoteChars k.toList).isLined⟩, by decide, by decide,
      isLined_prettyChars level v, by decide, isLined_prettyEntries level (e :: es)⟩

end

end Json

namespace Text

theorem unifyNewlines_of_not_mem {cs : List CodePoint} (h : .char '\r' ∉ cs) : unifyNewlines cs = cs := by
  induction cs with
  | nil => rfl
  | cons c cs ih =>
    rw [List.mem_cons, not_or] at h
    have hc : c ≠ .char '\r' := Ne.symm h.1
    rw [unifyNewlines, ih h.2]
    · rintro rest rfl
      exact fun _ => hc rfl
    · exact hc

/-- The lines of a written value end as those of a text file do. -/
theorem unifyNewlines_pretty (v : Json) : unifyNewlines v.pretty.toList = v.pretty.toList := by
  apply unifyNewlines_of_not_mem
  intro h
  rcases Json.isLined_prettyChars 0 v _ h with h | h
  · revert h
    decide
  · revert h
    decide

end Text

end LintPreview
