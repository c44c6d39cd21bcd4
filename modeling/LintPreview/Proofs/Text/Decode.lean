import LintPreview.Proofs.Text.Utf8

/-!
# Bytes and their text

* `Text.utf8Bytes_of_utf8Step`: the character that bytes open has these bytes.
* `Text.encode_of_decode`: so bytes that are read as a text are the bytes of this text, and of no other one.
-/

namespace LintPreview.Text

variable {b x y z : UInt8} {rest : List UInt8} {c : Char} {more : ℕ}

/-! ### Numbers as bytes -/

theorem toUInt8_eq {n : ℕ} (h : n = b.toNat) : n.toUInt8 = b := by
  subst h
  exact UInt8.ofNat_toNat

theorem toNat_ofNat {n : ℕ} (h : n < 0xD800 ∨ 0xDFFF < n ∧ n < 0x110000) : (Char.ofNat n).toNat = n := by
  have hvalid : n.isValidChar := h
  rw [Char.ofNat, dif_pos hvalid]
  rfl

theorem isWithin_of_isContinuation (h : isContinuation x = true) : IsWithin 0x80 0xBF x := by
  rw [isContinuation, Bool.and_eq_true, decide_eq_true_eq, decide_eq_true_eq, UInt8.le_iff_toNat_le,
    UInt8.le_iff_toNat_le] at h
  exact ⟨h.1, h.2⟩

/-- What the second byte is behind a first byte. -/
theorem Follows.bounds (h : Follows b x) : IsWithin 0x80 0xBF x ∧ (b.toNat = 0xE0 → 0xA0 ≤ x.toNat) ∧
    (b.toNat = 0xED → x.toNat ≤ 0x9F) ∧ (b.toNat = 0xF0 → 0x90 ≤ x.toNat) ∧ (b.toNat = 0xF4 → x.toNat ≤ 0x8F) := by
  unfold Follows secondByteRange at h
  simp only [beq_iff_eq, ← UInt8.toNat_inj, UInt8.reduceToNat] at h
  split_ifs at h with h₁ h₂ h₃ h₄
  all_goals
    obtain ⟨hlow, hhigh⟩ := h
    rw [UInt8.le_iff_toNat_le] at hlow hhigh
    simp only [UInt8.reduceToNat] at hlow hhigh
    exact ⟨⟨by omega, by omega⟩, by omega, by omega, by omega, by omega⟩

/-! ### Single characters -/

/-- The four ways in which bytes open a character. -/
theorem utf8Step_eq_char (h : utf8Step b rest = .char c more) :
    (b.toNat < 0x80 ∧ c = Char.ofNat b.toNat ∧ more = 0) ∨
    (∃ x tail, rest = x :: tail ∧ IsWithin 0xC2 0xDF b ∧ Follows b x ∧
      c = Char.ofNat ((b.toNat - 0xC0) * 64 + (x.toNat - 0x80)) ∧ more = 1) ∨
    (∃ x y tail, rest = x :: y :: tail ∧ IsWithin 0xE0 0xEF b ∧ Follows b x ∧ IsWithin 0x80 0xBF y ∧
      c = Char.ofNat (((b.toNat - 0xE0) * 64 + (x.toNat - 0x80)) * 64 + (y.toNat - 0x80)) ∧ more = 2) ∨
    (∃ x y z tail, rest = x :: y :: z :: tail ∧ IsWithin 0xF0 0xF4 b ∧ Follows b x ∧ IsWithin 0x80 0xBF y ∧
      IsWithin 0x80 0xBF z ∧
      c = Char.ofNat ((((b.toNat - 0xF0) * 64 + (x.toNat - 0x80)) * 64 + (y.toNat - 0x80)) * 64 + (z.toNat - 0x80)) ∧
      more = 3) := by
  unfold utf8Step at h
  dsimp only at h
  by_cases h80 : b < 0x80
  · rw [if_pos h80] at h
    cases h
    exact .inl ⟨UInt8.lt_iff_toNat_lt.mp h80, rfl, rfl⟩
  rw [if_neg h80] at h
  by_cases hfirst : (decide (b < 0xC2) || decide (0xF4 < b)) = true
  · rw [if_pos hfirst] at h
    cases h
  rw [if_neg hfirst] at h
  have hb : IsWithin 0xC2 0xF4 b := by
    simp only [Bool.or_eq_true, decide_eq_true_eq, not_or, UInt8.lt_iff_toNat_lt, UInt8.reduceToNat] at hfirst
    exact ⟨by omega, by omega⟩
  rcases rest with - | ⟨x, rest⟩
  · cases h
  by_cases hx : Follows b x
  case neg =>
    have hfits : (decide ((secondByteRange b).1 ≤ x) && decide (x ≤ (secondByteRange b).2)) = false := by
      simpa [Follows] using hx
    simp only [hfits, Bool.not_false, if_true, reduceCtorEq] at h
  simp only [hx.1, hx.2, decide_true, Bool.and_self, Bool.not_true, Bool.false_eq_true, if_false,
    UInt8.lt_iff_toNat_lt (b := 0xE0), UInt8.lt_iff_toNat_lt (b := 0xF0), UInt8.reduceToNat] at h
  by_cases hE0 : b.toNat < 0xE0
  · rw [if_pos hE0] at h
    obtain ⟨hc, hmore⟩ := Utf8Step.char.inj h
    exact .inr (.inl ⟨x, rest, rfl, ⟨hb.low, by omega⟩, hx, hc.symm, hmore.symm⟩)
  rw [if_neg hE0] at h
  rcases rest with - | ⟨y, rest⟩
  · cases h
  by_cases hy : isContinuation y = true
  case neg => simp [hy] at h
  simp only [hy, Bool.not_true, Bool.false_eq_true, if_false] at h
  have hy := isWithin_of_isContinuation hy
  by_cases hF0 : b.toNat < 0xF0
  · rw [if_pos hF0] at h
    obtain ⟨hc, hmore⟩ := Utf8Step.char.inj h
    exact .inr (.inr (.inl ⟨x, y, rest, rfl, ⟨by omega, by omega⟩, hx, hy, hc.symm, hmore.symm⟩))
  rw [if_neg hF0] at h
  rcases rest with - | ⟨z, rest⟩
  · cases h
  by_cases hz : isContinuation z = true
  case neg => simp [hz] at h
  simp only [hz, Bool.not_true, Bool.false_eq_true, if_false] at h
  obtain ⟨hc, hmore⟩ := Utf8Step.char.inj h
  have hz := isWithin_of_isContinuation hz
  exact .inr (.inr (.inr ⟨x, y, z, rest, rfl, ⟨by omega, hb.high⟩, hx, hy, hz, hc.symm, hmore.symm⟩))

/-- The character that bytes open has these bytes. -/
theorem utf8Bytes_of_utf8Step (h : utf8Step b rest = .char c more) :
    more ≤ rest.length ∧ utf8Bytes c = b :: rest.take more := by
  rcases utf8Step_eq_char h with ⟨hb, hc, rfl⟩ | ⟨x, tail, rfl, ⟨hlow, hhigh⟩, hx, hc, rfl⟩ |
    ⟨x, y, tail, rfl, ⟨hlow, hhigh⟩, hx, ⟨hylow, hyhigh⟩, hc, rfl⟩ |
    ⟨x, y, z, tail, rfl, ⟨hlow, hhigh⟩, hx, ⟨hylow, hyhigh⟩, ⟨hzlow, hzhigh⟩, hc, rfl⟩
  · refine ⟨Nat.zero_le _, ?_⟩
    unfold utf8Bytes
    rw [hc, toNat_ofNat (.inl (by omega))]
    simp only [hb, if_true]
    rw [toUInt8_eq rfl]
    rfl
  · obtain ⟨⟨hxlow, hxhigh⟩, -⟩ := hx.bounds
    refine ⟨by simp, ?_⟩
    unfold utf8Bytes
    rw [hc, toNat_ofNat (.inl (by omega))]
    generalize hn : (b.toNat - 0xC0) * 64 + (x.toNat - 0x80) = n
    dsimp only
    rw [if_neg (by omega), if_pos (by omega), toUInt8_eq (b := b) (by omega), toUInt8_eq (b := x) (by omega)]
    rfl
  · obtain ⟨⟨hxlow, hxhigh⟩, hE0, hED, -⟩ := hx.bounds
    refine ⟨by simp, ?_⟩
    unfold utf8Bytes
    rw [hc, toNat_ofNat (by omega)]
    generalize hn : ((b.toNat - 0xE0) * 64 + (x.toNat - 0x80)) * 64 + (y.toNat - 0x80) = n
    dsimp only
    rw [if_neg (by omega), if_neg (by omega), if_pos (by omega), toUInt8_eq (b := b) (by omega),
      toUInt8_eq (b := x) (by omega), toUInt8_eq (b := y) (by omega)]
    rfl
  · obtain ⟨⟨hxlow, hxhigh⟩, -, -, hF0, hF4⟩ := hx.bounds
    refine ⟨by simp, ?_⟩
    unfold utf8Bytes
    rw [hc, toNat_ofNat (by omega)]
    generalize hn : (((b.toNat - 0xF0) * 64 + (x.toNat - 0x80)) * 64 + (y.toNat - 0x80)) * 64 + (z.toNat - 0x80) = n
    dsimp only
    rw [if_neg (by omega), if_neg (by omega), if_neg (by omega), toUInt8_eq (b := b) (by omega),
      toUInt8_eq (b := x) (by omega), toUInt8_eq (b := y) (by omega), toUInt8_eq (b := z) (by omega)]
    rfl

/-! ### Texts -/

theorem decodeFrom_eq_drop (start more : ℕ) (rest : List UInt8) :
    decodeFrom start more rest = decodeFrom start 0 (rest.drop more) := by
  induction more generalizing rest with
  | zero => rfl
  | succ more ih =>
    cases rest with
    | nil => rfl
    | cons b rest => exact ih rest

theorem encodeFrom_of_decodeFrom {bytes : List UInt8} {start : ℕ} {cs : List CodePoint} (place : ℕ)
    (h : decodeFrom start 0 bytes = .ok cs) : encodeFrom place cs = .ok bytes := by
  induction hlength : bytes.length using Nat.strongRecOn generalizing bytes start place cs with
  | _ n ih =>
    cases bytes with
    | nil =>
      cases h
      rfl
    | cons b rest =>
      rw [decodeFrom] at h
      cases hstep : utf8Step b rest with
      | broken more fault =>
        rw [hstep] at h
        cases h
      | char c more =>
        rw [hstep] at h
        obtain ⟨hmore, hbytes⟩ := utf8Bytes_of_utf8Step hstep
        obtain ⟨tail, htail, rfl⟩ := exists_of_map_ok h
        rw [decodeFrom_eq_drop] at htail
        have hrest := ih (rest.drop more).length (by simp at hlength ⊢; omega) (place + 1) htail rfl
        rw [encodeFrom, hrest, hbytes]
        show Except.ok (b :: (rest.take more ++ rest.drop more)) = _
        rw [List.take_append_drop]

/-- Bytes that are read as a text are the bytes of this text. -/
theorem encode_of_decode {bytes : List UInt8} {cs : List CodePoint} (h : decode bytes = .ok cs) :
    encode (ofList cs) = .ok bytes :=
  encodeFrom_of_decodeFrom 0 h

end LintPreview.Text
