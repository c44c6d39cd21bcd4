import LintPreview.Proofs.Outcome
import LintPreview.Text.Utf8
import Mathlib.Data.Nat.Notation
import Mathlib.Tactic.SplitIfs

/-!
# Texts and their bytes

* `Text.utf8Step_utf8Bytes`: the bytes of a character open this character.
* `Text.decode_of_encode`: the bytes of a text encode this text; `Text.decodeLossy_of_encode` says so of reading with
  replacements.
* `Text.isWhole_iff_encode`: a text has bytes if and only if it holds no lone half.
* `Text.nameBytes?`: the bytes of a code point in the name of a file. Those of a name are the bytes of its code points
  one after the other (`Text.encodeNameFrom_cons_eq_ok_iff`, `Text.encodeNameFrom_append_eq_ok_iff`).
-/

namespace LintPreview.Text

/-! ### Bytes as numbers -/

/-- A byte between two others, as numbers. -/
structure IsWithin (low high : ℕ) (b : UInt8) : Prop where
  low : low ≤ b.toNat
  high : b.toNat ≤ high

theorem isWithin_toUInt8 (low high n : ℕ) (hlow : low ≤ n) (hhigh : n ≤ high) (hbyte : high < 256) :
    IsWithin low high n.toUInt8 ∧ n.toUInt8.toNat = n := by
  have h : n.toUInt8.toNat = n := by
    rw [Nat.toUInt8_eq, UInt8.toNat_ofNat']
    omega
  exact ⟨⟨by omega, by omega⟩, h⟩

variable {b x y z : UInt8}

theorem IsWithin.isContinuation (h : IsWithin 0x80 0xBF b) : isContinuation b = true := by
  have h₁ : 0x80 ≤ b := UInt8.le_iff_toNat_le.mpr h.low
  have h₂ : b ≤ 0xBF := UInt8.le_iff_toNat_le.mpr h.high
  simp [Text.isContinuation, h₁, h₂]

/-- What may be the second byte behind a first byte. -/
def Follows (b x : UInt8) : Prop := (secondByteRange b).1 ≤ x ∧ x ≤ (secondByteRange b).2

theorem follows_of_isWithin (hx : IsWithin 0x80 0xBF x) (hE0 : b.toNat = 0xE0 → 0xA0 ≤ x.toNat)
    (hED : b.toNat = 0xED → x.toNat ≤ 0x9F) (hF0 : b.toNat = 0xF0 → 0x90 ≤ x.toNat)
    (hF4 : b.toNat = 0xF4 → x.toNat ≤ 0x8F) : Follows b x := by
  have h₁ := hx.low
  have h₂ := hx.high
  unfold Follows secondByteRange
  simp only [beq_iff_eq, UInt8.le_iff_toNat_le, ← UInt8.toNat_inj]
  split_ifs with h h h h
  · exact ⟨hE0 h, h₂⟩
  · exact ⟨h₁, hED h⟩
  · exact ⟨hF0 h, h₂⟩
  · exact ⟨h₁, hF4 h⟩
  · exact ⟨h₁, h₂⟩

/-! ### Single characters -/

theorem utf8Step_one (hb : b.toNat < 0x80) (rest : List UInt8) : utf8Step b rest = .char (Char.ofNat b.toNat) 0 := by
  have h : b < 0x80 := UInt8.lt_iff_toNat_lt.mpr hb
  simp [utf8Step, h]

theorem not_lt_of_isWithin {low high : ℕ} {c : UInt8} (hb : IsWithin low high b) (h : c.toNat ≤ low) : ¬ b < c := by
  have := hb.low
  rw [UInt8.lt_iff_toNat_lt]
  omega

theorem lt_of_isWithin {low high : ℕ} {c : UInt8} (hb : IsWithin low high b) (h : high < c.toNat) : b < c := by
  have := hb.high
  rw [UInt8.lt_iff_toNat_lt]
  omega

theorem not_gt_of_isWithin {low high : ℕ} {c : UInt8} (hb : IsWithin low high b) (h : high ≤ c.toNat) : ¬ c < b := by
  have := hb.high
  rw [UInt8.lt_iff_toNat_lt]
  omega

theorem utf8Step_two (hb : IsWithin 0xC2 0xDF b) (hx : Follows b x) (rest : List UInt8) :
    utf8Step b (x :: rest) = .char (Char.ofNat ((b.toNat - 0xC0) * 64 + (x.toNat - 0x80))) 1 := by
  have h₁ : ¬ b < 0x80 := not_lt_of_isWithin hb (by decide)
  have h₂ : ¬ b < 0xC2 := not_lt_of_isWithin hb (by decide)
  have h₃ : ¬ 0xF4 < b := not_gt_of_isWithin hb (by decide)
  have h₄ : b < 0xE0 := lt_of_isWithin hb (by decide)
  simp [utf8Step, h₁, h₂, h₃, h₄, hx.1, hx.2, charOfParts]

theorem utf8Step_three (hb : IsWithin 0xE0 0xEF b) (hx : Follows b x) (hy : IsWithin 0x80 0xBF y) (rest : List UInt8) :
    utf8Step b (x :: y :: rest) =
      .char (Char.ofNat (((b.toNat - 0xE0) * 64 + (x.toNat - 0x80)) * 64 + (y.toNat - 0x80))) 2 := by
  have h₁ : ¬ b < 0x80 := not_lt_of_isWithin hb (by decide)
  have h₂ : ¬ b < 0xC2 := not_lt_of_isWithin hb (by decide)
  have h₃ : ¬ 0xF4 < b := not_gt_of_isWithin hb (by decide)
  have h₄ : ¬ b < 0xE0 := not_lt_of_isWithin hb (by decide)
  have h₅ : b < 0xF0 := lt_of_isWithin hb (by decide)
  simp [utf8Step, h₁, h₂, h₃, h₄, h₅, hx.1, hx.2, hy.isContinuation, charOfParts]

theorem utf8Step_four (hb : IsWithin 0xF0 0xF4 b) (hx : Follows b x) (hy : IsWithin 0x80 0xBF y)
    (hz : IsWithin 0x80 0xBF z) (rest : List UInt8) :
    utf8Step b (x :: y :: z :: rest) =
      .char (Char.ofNat ((((b.toNat - 0xF0) * 64 + (x.toNat - 0x80)) * 64 + (y.toNat - 0x80)) * 64 +
        (z.toNat - 0x80))) 3 := by
  have h₁ : ¬ b < 0x80 := not_lt_of_isWithin hb (by decide)
  have h₂ : ¬ b < 0xC2 := not_lt_of_isWithin hb (by decide)
  have h₃ : ¬ 0xF4 < b := not_gt_of_isWithin hb (by decide)
  have h₄ : ¬ b < 0xE0 := not_lt_of_isWithin hb (by decide)
  have h₅ : ¬ b < 0xF0 := not_lt_of_isWithin hb (by decide)
  simp [utf8Step, h₁, h₂, h₃, h₄, h₅, hx.1, hx.2, hy.isContinuation, hz.isContinuation, charOfParts]

/-- The bytes of a character open this character, whatever follows them. -/
theorem utf8Step_utf8Bytes (c : Char) : ∃ b more, utf8Bytes c = b :: more ∧
    ∀ rest, utf8Step b (more ++ rest) = .char c more.length := by
  have hvalid : c.toNat < 0xD800 ∨ 0xDFFF < c.toNat ∧ c.toNat < 0x110000 := c.valid
  have hchar : Char.ofNat c.toNat = c := Char.ofNat_toNat c
  unfold utf8Bytes
  generalize hn : c.toNat = n at hvalid hchar ⊢
  dsimp only
  split_ifs with h₁ h₂ h₃
  · obtain ⟨hb, hbn⟩ := isWithin_toUInt8 0 _ n (Nat.zero_le n) (Nat.le_of_lt_succ h₁) (by omega)
    refine ⟨_, _, rfl, fun rest => ?_⟩
    rw [utf8Step_one (by omega), hbn, hchar]
    rfl
  · obtain ⟨hb, hbn⟩ := isWithin_toUInt8 0xC2 0xDF (0xC0 + n / 64) (by omega) (by omega) (by omega)
    obtain ⟨hx, hxn⟩ := isWithin_toUInt8 0x80 0xBF (0x80 + n % 64) (by omega) (by omega) (by omega)
    refine ⟨_, _, rfl, fun rest => ?_⟩
    have hfollows := follows_of_isWithin (b := (0xC0 + n / 64).toUInt8) hx (by omega) (by omega) (by omega) (by omega)
    rw [List.singleton_append, utf8Step_two hb hfollows, hbn, hxn]
    rw [show (0xC0 + n / 64 - 0xC0) * 64 + (0x80 + n % 64 - 0x80) = n by omega, hchar]
    rfl
  · obtain ⟨hb, hbn⟩ := isWithin_toUInt8 0xE0 0xEF (0xE0 + n / 4096) (by omega) (by omega) (by omega)
    obtain ⟨hx, hxn⟩ := isWithin_toUInt8 0x80 0xBF (0x80 + n / 64 % 64) (by omega) (by omega) (by omega)
    obtain ⟨hy, hyn⟩ := isWithin_toUInt8 0x80 0xBF (0x80 + n % 64) (by omega) (by omega) (by omega)
    refine ⟨_, _, rfl, fun rest => ?_⟩
    have hfollows := follows_of_isWithin (b := (0xE0 + n / 4096).toUInt8) hx (by omega) (by omega) (by omega) (by omega)
    rw [List.cons_append, List.singleton_append, utf8Step_three hb hfollows hy, hbn, hxn, hyn]
    rw [show ((0xE0 + n / 4096 - 0xE0) * 64 + (0x80 + n / 64 % 64 - 0x80)) * 64 + (0x80 + n % 64 - 0x80) = n by omega,
      hchar]
    rfl
  · obtain ⟨hb, hbn⟩ := isWithin_toUInt8 0xF0 0xF4 (0xF0 + n / 262144) (by omega) (by omega) (by omega)
    obtain ⟨hx, hxn⟩ := isWithin_toUInt8 0x80 0xBF (0x80 + n / 4096 % 64) (by omega) (by omega) (by omega)
    obtain ⟨hy, hyn⟩ := isWithin_toUInt8 0x80 0xBF (0x80 + n / 64 % 64) (by omega) (by omega) (by omega)
    obtain ⟨hz, hzn⟩ := isWithin_toUInt8 0x80 0xBF (0x80 + n % 64) (by omega) (by omega) (by omega)
    refine ⟨_, _, rfl, fun rest => ?_⟩
    have hfollows := follows_of_isWithin (b := (0xF0 + n / 262144).toUInt8) hx (by omega) (by omega) (by omega) (by omega)
    rw [List.cons_append, List.cons_append, List.singleton_append, utf8Step_four hb hfollows hy hz, hbn, hxn, hyn, hzn]
    rw [show (((0xF0 + n / 262144 - 0xF0) * 64 + (0x80 + n / 4096 % 64 - 0x80)) * 64 + (0x80 + n / 64 % 64 - 0x80)) * 64 +
      (0x80 + n % 64 - 0x80) = n by omega, hchar]
    rfl

/-! ### Texts -/

theorem decodeFrom_passed (start : ℕ) (more rest : List UInt8) :
    decodeFrom start more.length (more ++ rest) = decodeFrom start 0 rest := by
  induction more with
  | nil => rfl
  | cons b more ih => exact ih

theorem decodeFrom_utf8Bytes (start : ℕ) (c : Char) (rest : List UInt8) : ∃ start',
    decodeFrom start 0 (utf8Bytes c ++ rest) = (decodeFrom start' 0 rest).map (.char c :: ·) := by
  obtain ⟨b, more, hbytes, hstep⟩ := utf8Step_utf8Bytes c
  refine ⟨start + more.length + 1, ?_⟩
  rw [hbytes, List.cons_append, decodeFrom, hstep]
  show (decodeFrom (start + more.length + 1) more.length (more ++ rest)).map (.char c :: ·) = _
  rw [decodeFrom_passed]

theorem decodeFrom_of_encodeFrom {cs : List CodePoint} {place start : ℕ} {bytes : List UInt8}
    (h : encodeFrom place cs = .ok bytes) : decodeFrom start 0 bytes = .ok cs := by
  induction cs generalizing place start bytes with
  | nil =>
    cases h
    rfl
  | cons c cs ih =>
    cases c with
    | half h' => cases h
    | char c =>
      obtain ⟨more, hrest, rfl⟩ := exists_of_map_ok h
      obtain ⟨start', hstart⟩ := decodeFrom_utf8Bytes start c more
      rw [hstart, ih hrest]
      rfl

/-- The bytes of a text encode this text. -/
theorem decode_of_encode {s : Text} {bytes : List UInt8} (h : encode s = .ok bytes) : decode bytes = .ok s.toList :=
  decodeFrom_of_encodeFrom h

theorem decodeLossyFrom_passed (more rest : List UInt8) :
    decodeLossyFrom more.length (more ++ rest) = decodeLossyFrom 0 rest := by
  induction more with
  | nil => rfl
  | cons b more ih => exact ih

theorem decodeLossyFrom_of_encodeFrom {cs : List CodePoint} {place : ℕ} {bytes : List UInt8}
    (h : encodeFrom place cs = .ok bytes) : decodeLossyFrom 0 bytes = cs := by
  induction cs generalizing place bytes with
  | nil =>
    cases h
    rfl
  | cons c cs ih =>
    cases c with
    | half h' => cases h
    | char c =>
      obtain ⟨rest, hrest, rfl⟩ := exists_of_map_ok h
      obtain ⟨b, more, hbytes, hstep⟩ := utf8Step_utf8Bytes c
      rw [hbytes, List.cons_append, decodeLossyFrom, hstep]
      dsimp only
      rw [decodeLossyFrom_passed, ih hrest]

/-- Nothing is lost of a text whose bytes encode it. -/
theorem decodeLossy_of_encode {s : Text} {bytes : List UInt8} (h : encode s = .ok bytes) :
    decodeLossy bytes = s.toList :=
  decodeLossyFrom_of_encodeFrom h

/-- A text has bytes if and only if it holds no lone half. -/
theorem isWhole_iff_encode {s : Text} : s.isWhole = true ↔ ∃ bytes, encode s = .ok bytes := by
  have h : ∀ (cs : List CodePoint) (place : ℕ),
      (cs.all fun c => !c.isHalf) = true ↔ ∃ bytes, encodeFrom place cs = .ok bytes := by
    intro cs
    induction cs with
    | nil =>
      intro place
      simp [encodeFrom]
    | cons c cs ih =>
      intro place
      cases c with
      | half h' => simp [encodeFrom, CodePoint.isHalf]
      | char c =>
        rw [List.all_cons, encodeFrom, show (!(CodePoint.char c).isHalf) = true from rfl, Bool.true_and, ih (place + 1)]
        cases encodeFrom (place + 1) cs <;> simp [Except.map]
  exact h s.toList 0

/-! ### Names of files -/

/-- The bytes of a code point in the name of a file. -/
def nameBytes? : CodePoint → Option (List UInt8)
  | .char c => some (utf8Bytes c)
  | .half h => (byteOfHalf? h).map fun b => [b]

section Names

variable {start : ℕ} {c : CodePoint} {cs rest : List CodePoint} {bytes : List UInt8}

theorem ne_nil_of_nameBytes? (h : nameBytes? c = some bytes) : bytes ≠ [] := by
  cases c with
  | char c =>
    cases h
    obtain ⟨b, more, hbytes, -⟩ := utf8Step_utf8Bytes c
    rw [hbytes]
    exact List.cons_ne_nil b more
  | half half =>
    obtain ⟨b, -, rfl⟩ := Option.map_eq_some_iff.mp h
    exact List.cons_ne_nil b []

/-- The bytes of a name are those of its first code point, and those of the rest. -/
theorem encodeNameFrom_cons_eq_ok_iff : encodeNameFrom start (c :: cs) = .ok bytes ↔
    ∃ first behind, nameBytes? c = some first ∧ encodeNameFrom (start + 1) cs = .ok behind ∧ bytes = first ++ behind := by
  have hmap : ∀ first, (encodeNameFrom (start + 1) cs).map (first ++ ·) = .ok bytes ↔
      ∃ behind, encodeNameFrom (start + 1) cs = .ok behind ∧ bytes = first ++ behind := by
    intro first
    constructor
    · intro h
      obtain ⟨behind, hbehind, rfl⟩ := exists_of_map_ok h
      exact ⟨behind, hbehind, rfl⟩
    · rintro ⟨behind, hbehind, rfl⟩
      rw [hbehind]
      rfl
  cases c with
  | char c =>
    rw [encodeNameFrom, hmap]
    simp [nameBytes?]
  | half h =>
    rw [encodeNameFrom, nameBytes?]
    cases byteOfHalf? h with
    | none => simp
    | some b =>
      have hbyte := hmap [b]
      simpa using hbyte

/-- Where a name starts matters for its faults only. -/
theorem encodeNameFrom_of_start (h : encodeNameFrom start cs = .ok bytes) (start' : ℕ) :
    encodeNameFrom start' cs = .ok bytes := by
  induction cs generalizing start start' bytes with
  | nil => exact h
  | cons c cs ih =>
    obtain ⟨first, behind, hfirst, hbehind, rfl⟩ := encodeNameFrom_cons_eq_ok_iff.mp h
    exact encodeNameFrom_cons_eq_ok_iff.mpr ⟨first, behind, hfirst, ih hbehind _, rfl⟩

/-- The bytes of two names in a row stand in a row. -/
theorem encodeNameFrom_append_eq_ok_iff (start' : ℕ) : encodeNameFrom start (cs ++ rest) = .ok bytes ↔
    ∃ first behind, encodeNameFrom start cs = .ok first ∧ encodeNameFrom start' rest = .ok behind ∧
      bytes = first ++ behind := by
  induction cs generalizing start bytes with
  | nil =>
    constructor
    · exact fun h => ⟨[], bytes, rfl, encodeNameFrom_of_start h start', rfl⟩
    · rintro ⟨first, behind, ⟨⟩, hbehind, rfl⟩
      exact encodeNameFrom_of_start hbehind start
  | cons c cs ih =>
    rw [List.cons_append, encodeNameFrom_cons_eq_ok_iff]
    constructor
    · rintro ⟨one, more, hone, hmore, rfl⟩
      obtain ⟨first, behind, hfirst, hbehind, rfl⟩ := ih.mp hmore
      exact ⟨one ++ first, behind, encodeNameFrom_cons_eq_ok_iff.mpr ⟨one, first, hone, hfirst, rfl⟩, hbehind,
        (List.append_assoc _ _ _).symm⟩
    · rintro ⟨_, behind, hcons, hbehind, rfl⟩
      obtain ⟨one, first, hone, hfirst, rfl⟩ := encodeNameFrom_cons_eq_ok_iff.mp hcons
      exact ⟨one, first ++ behind, hone, ih.mpr ⟨first, behind, hfirst, hbehind, rfl⟩, List.append_assoc _ _ _⟩

end Names

end LintPreview.Text
