import LintPreview.Json.Reader
import LintPreview.Json.Writer
import LintPreview.Proofs.Number.Shortest

/-!
# Numbers in JSON text

* `Json.decimalDigits`: the digits of a number; `digitsValue_decimalDigits` reads them back.
* `Json.EndsNumber`: what may follow a number without being read as a part of it.
* `Json.readNumber_ofInt`, `Json.readNumber_floatChars`: a whole number and a finite double-precision number are read
  as they were written.
-/

namespace LintPreview.Json

/-! ### Digits -/

/-- The decimal digits of a number. -/
def decimalDigits (n : ℕ) : List CodePoint := (Nat.toDigits 10 n).map .char

/-- A list of digits. -/
def AreDigits (ds : List CodePoint) : Prop := ∀ c ∈ ds, c.isDigit = true

theorem areDigits_decimalDigits (n : ℕ) : AreDigits (decimalDigits n) := by
  intro c hc
  obtain ⟨d, hd, rfl⟩ := List.mem_map.mp hc
  exact Nat.isDigit_of_mem_toDigits (by norm_num) (by norm_num) hd

theorem areDigits_replicate_zero (n : ℕ) : AreDigits (List.replicate n (.char '0')) := by
  intro c hc
  rw [List.eq_of_mem_replicate hc]
  rfl

theorem AreDigits.append {ds es : List CodePoint} (hd : AreDigits ds) (he : AreDigits es) : AreDigits (ds ++ es) := by
  intro c hc
  rcases List.mem_append.mp hc with hc | hc
  · exact hd c hc
  · exact he c hc

theorem AreDigits.take {ds : List CodePoint} (hd : AreDigits ds) (n : ℕ) : AreDigits (ds.take n) :=
  fun c hc => hd c (List.mem_of_mem_take hc)

theorem AreDigits.drop {ds : List CodePoint} (hd : AreDigits ds) (n : ℕ) : AreDigits (ds.drop n) :=
  fun c hc => hd c (List.mem_of_mem_drop hc)

theorem decimalDigits_ne_nil (n : ℕ) : decimalDigits n ≠ [] := by
  simp [decimalDigits, Nat.toDigits_ne_nil]

theorem length_decimalDigits (n : ℕ) : (decimalDigits n).length = Binary64.digitCount n := by
  simp [decimalDigits, Binary64.digitCount]

theorem digitsValue_append (ds es : List CodePoint) :
    digitsValue (ds ++ es) = digitsValue ds * 10 ^ es.length + digitsValue es := by
  induction es using List.reverseRecOn with
  | nil => simp [digitsValue]
  | append_singleton es c ih =>
    have h : ∀ xs : List CodePoint, digitsValue (xs ++ [c]) = digitsValue xs * 10 + (c.toNat - 48) := by
      intro xs
      simp [digitsValue]
    rw [← List.append_assoc, h, h, ih, List.length_append, List.length_singleton, pow_succ]
    ring

theorem digitsValue_map_char (cs : List Char) : digitsValue (cs.map .char) = Nat.ofDigitChars 10 cs 0 := by
  rw [Nat.ofDigitChars_eq_foldl, digitsValue, List.foldl_map]
  congr
  funext n c
  show n * 10 + (c.toNat - 48) = 10 * n + (c.toNat - '0'.toNat)
  rw [mul_comm]
  rfl

@[simp] theorem digitsValue_decimalDigits (n : ℕ) : digitsValue (decimalDigits n) = n := by
  rw [decimalDigits, digitsValue_map_char, Nat.ofDigitChars_ten_toDigits]

@[simp] theorem digitsValue_replicate_zero (n : ℕ) : digitsValue (List.replicate n (.char '0')) = 0 := by
  have : List.replicate n (CodePoint.char '0') = (List.replicate n '0').map .char := by simp
  rw [this, digitsValue_map_char, Nat.ofDigitChars_replicate_zero, mul_zero]

theorem toNat_of_isDigit {c : CodePoint} (hc : c.isDigit = true) : 48 ≤ c.toNat ∧ c.toNat ≤ 57 := by
  cases c with
  | half h => cases hc
  | char c => exact Char.isDigit_iff_toNat.mp hc

theorem digit_value_lt {c : CodePoint} (hc : c.isDigit = true) : c.toNat - 48 < 10 := by
  have := toNat_of_isDigit hc
  omega

theorem digitsValue_lt {ds : List CodePoint} (hd : AreDigits ds) : digitsValue ds < 10 ^ ds.length := by
  induction ds using List.reverseRecOn with
  | nil => simp [digitsValue]
  | append_singleton ds c ih =>
    have hprefix : digitsValue ds < 10 ^ ds.length := ih fun x hx => hd x (List.mem_append_left _ hx)
    have hlast : digitsValue [c] < 10 := by
      have := digit_value_lt (hd c (by simp))
      simpa [digitsValue] using this
    have hpow : 10 ^ (ds ++ [c]).length = 10 ^ ds.length * 10 := by simp [pow_succ]
    rw [digitsValue_append, hpow, List.length_singleton, pow_one]
    omega

/-- The digits of a positive number do not start with a zero. -/
theorem head?_decimalDigits_ne_zero {n : ℕ} (hn : 0 < n) : (decimalDigits n).head? ≠ some (.char '0') := by
  intro h
  obtain ⟨d, rest, hd⟩ := List.exists_cons_of_ne_nil (decimalDigits_ne_nil n)
  have hd0 : d = .char '0' := by
    rw [hd] at h
    exact Option.some.inj h
  have hvalue : n = digitsValue rest := by
    have h1 := digitsValue_append [d] rest
    rw [List.singleton_append, ← hd, digitsValue_decimalDigits, hd0] at h1
    rw [h1, show digitsValue [CodePoint.char '0'] = 0 from rfl]
    simp
  have hlt : n < 10 ^ rest.length := by
    have hrest : AreDigits rest := fun c hc => areDigits_decimalDigits n c (by rw [hd]; exact List.mem_cons_of_mem d hc)
    have := digitsValue_lt hrest
    omega
  have hlength : rest.length = Binary64.digitCount n - 1 := by
    rw [← length_decimalDigits, hd, List.length_cons, Nat.add_sub_cancel]
  have hle := Binary64.ten_pow_le_of_digitCount hn
  rw [hlength] at hlt
  omega

/-! ### The parts of a number -/

/-- What may follow the digits of a number. -/
def EndsDigits (rest : List CodePoint) : Prop := ∀ c ∈ rest.head?, c.isDigit = false

/-- What may follow a number. -/
def EndsNumber (rest : List CodePoint) : Prop :=
  ∀ c ∈ rest.head?, c.isDigit = false ∧ c ≠ .char '.' ∧ c ≠ .char 'e' ∧ c ≠ .char 'E'

theorem EndsNumber.endsDigits {rest : List CodePoint} (h : EndsNumber rest) : EndsDigits rest :=
  fun c hc => (h c hc).1

theorem endsDigits_cons {c : CodePoint} (rest : List CodePoint) (h : c.isDigit = false) : EndsDigits (c :: rest) := by
  intro x hx
  cases hx
  exact h

theorem endsDigits_point (rest : List CodePoint) : EndsDigits (.char '.' :: rest) := endsDigits_cons rest rfl

theorem endsDigits_exponent (rest : List CodePoint) : EndsDigits (.char 'e' :: rest) := endsDigits_cons rest rfl

theorem digits_append {ds rest : List CodePoint} (hd : AreDigits ds) (hr : EndsDigits rest) :
    digits (ds ++ rest) = ds ∧ afterDigits (ds ++ rest) = rest := by
  unfold digits afterDigits
  rw [List.takeWhile_append_of_pos hd, List.dropWhile_append_of_pos hd]
  cases rest with
  | nil => simp
  | cons c rest =>
    have hc : c.isDigit = false := hr c rfl
    simp [hc]

theorem wholePart?_append {ds rest : List CodePoint} (hd : AreDigits ds) (hne : ds ≠ [])
    (h0 : ds.head? = some (.char '0') → ds = [.char '0']) (hr : EndsDigits rest) :
    wholePart? (ds ++ rest) = some (ds, rest) := by
  obtain ⟨d, ds, rfl⟩ := List.exists_cons_of_ne_nil hne
  by_cases hzero : d = .char '0'
  · subst hzero
    rw [h0 rfl]
    rfl
  · have hdigit : d.isDigit = true := hd d List.mem_cons_self
    obtain ⟨h1, h2⟩ := digits_append hd hr
    rw [List.cons_append] at h1 h2 ⊢
    rw [wholePart?]
    · rw [if_pos hdigit, h1, h2]
    · exact hzero

theorem fractionPart_append {ds rest : List CodePoint} (hd : AreDigits ds) (hne : ds ≠ []) (hr : EndsDigits rest) :
    fractionPart (.char '.' :: (ds ++ rest)) = (ds, rest) := by
  obtain ⟨d, ds, rfl⟩ := List.exists_cons_of_ne_nil hne
  have hdigit : d.isDigit = true := hd d List.mem_cons_self
  obtain ⟨h1, h2⟩ := digits_append hd hr
  rw [List.cons_append] at h1 h2 ⊢
  rw [fractionPart, if_pos hdigit, h1, h2]

theorem fractionPart_of_ne {rest : List CodePoint} (h : ∀ c ∈ rest.head?, c ≠ .char '.') :
    fractionPart rest = ([], rest) := by
  cases rest with
  | nil => rfl
  | cons c rest =>
    have hc : c ≠ .char '.' := h c rfl
    rw [fractionPart]
    rintro c' rest' ⟨⟩
    exact absurd rfl hc

theorem exponentPart?_of_ne {rest : List CodePoint} (h : ∀ c ∈ rest.head?, c ≠ .char 'e' ∧ c ≠ .char 'E') :
    exponentPart? rest = none := by
  cases rest with
  | nil => rfl
  | cons c rest =>
    obtain ⟨he, hE⟩ := h c rfl
    rw [exponentPart?, if_neg]
    rintro (h | h)
    · exact he h
    · exact hE h

/-- The sign of an exponent. -/
def signOf (i : ℤ) : List CodePoint := if i < 0 then [.char '-'] else [.char '+']

theorem splitSign_append {ds : List CodePoint} (i : ℤ) : Literal.splitSign (signOf i ++ ds) = (decide (i < 0), ds) := by
  unfold signOf
  by_cases hneg : i < 0
  · rw [if_pos hneg, decide_eq_true hneg]
    rfl
  · rw [if_neg hneg, decide_eq_false hneg]
    rfl

theorem exponentPart?_append {rest : List CodePoint} (i : ℤ) (hr : EndsDigits rest) :
    exponentPart? (.char 'e' :: (signOf i ++ (decimalDigits i.natAbs ++ rest))) = some (i, rest) := by
  obtain ⟨h1, h2⟩ := digits_append (areDigits_decimalDigits i.natAbs) hr
  obtain ⟨d, ds, hds⟩ := List.exists_cons_of_ne_nil (decimalDigits_ne_nil i.natAbs)
  have hvalue : (digitsValue (d :: ds) : ℤ) = i.natAbs := by rw [← hds, digitsValue_decimalDigits]
  rw [hds] at h1 h2
  rw [exponentPart?, if_pos (.inl rfl), hds]
  simp only [splitSign_append, h1, h2, decide_eq_true_eq, hvalue]
  congr 2
  split <;> omega

/-! ### Numbers without a sign -/

variable {ws fs rest : List CodePoint}

/-- The digits in front of a point: a zero alone or digits that start with no zero. -/
structure IsWhole (ws : List CodePoint) : Prop where
  digits : AreDigits ws
  ne_nil : ws ≠ []
  zero : ws.head? = some (.char '0') → ws = [.char '0']

theorem isWhole_decimalDigits (n : ℕ) : IsWhole (decimalDigits n) := by
  refine ⟨areDigits_decimalDigits n, decimalDigits_ne_nil n, ?_⟩
  intro h
  rcases Nat.eq_zero_or_pos n with rfl | hn
  · rfl
  · exact absurd h (head?_decimalDigits_ne_zero hn)

/-- More digits behind digits that start with no zero. -/
theorem isWhole_append {n : ℕ} (hn : 0 < n) {zs : List CodePoint} (hz : AreDigits zs) :
    IsWhole (decimalDigits n ++ zs) := by
  refine ⟨(areDigits_decimalDigits n).append hz, by simp [decimalDigits_ne_nil], ?_⟩
  intro h
  rw [List.head?_append_of_ne_nil _ (decimalDigits_ne_nil n)] at h
  exact absurd h (head?_decimalDigits_ne_zero hn)

theorem isWhole_take {n k : ℕ} (hn : 0 < n) (hk : 0 < k) : IsWhole ((decimalDigits n).take k) := by
  refine ⟨(areDigits_decimalDigits n).take k, ?_, ?_⟩
  · simp [decimalDigits_ne_nil]
    omega
  · intro h
    rw [List.head?_take, if_neg (by omega)] at h
    exact absurd h (head?_decimalDigits_ne_zero hn)

/-- A whole number. -/
theorem readMagnitude?_whole (negative : Bool) {n : ℕ} (hn : n < 10 ^ maxDecimalDigits) (hr : EndsNumber rest) :
    readMagnitude? negative (decimalDigits n ++ rest) =
      some (.ok (.int (if negative then -(n : ℤ) else n), rest)) := by
  obtain ⟨hd, hne, h0⟩ := isWhole_decimalDigits n
  have hwhole := wholePart?_append hd hne h0 hr.endsDigits
  have hfraction := fractionPart_of_ne fun c hc => (hr c hc).2.1
  have hexponent := exponentPart?_of_ne fun c hc => (hr c hc).2.2
  have hlength : ¬ maxDecimalDigits < (decimalDigits n).length := by
    rw [length_decimalDigits, not_lt]
    rcases Nat.eq_zero_or_pos n with rfl | hpos
    · decide
    · have hle := Binary64.ten_pow_le_of_digitCount hpos
      have : Binary64.digitCount n - 1 < maxDecimalDigits :=
        (Nat.pow_lt_pow_iff_right (by norm_num)).mp (hle.trans_lt hn)
      omega
  simp only [readMagnitude?, hwhole, hfraction, hexponent, List.isEmpty_nil, if_true, if_neg hlength,
    digitsValue_decimalDigits]

/-- Digits with a point. -/
theorem readMagnitude?_point (negative : Bool) (hw : IsWhole ws) (hf : AreDigits fs) (hne : fs ≠ [])
    (hr : EndsNumber rest) : readMagnitude? negative (ws ++ .char '.' :: (fs ++ rest)) =
      some (.ok (.float (Binary64.ofDecimal negative (digitsValue (ws ++ fs)) (-(fs.length : ℤ))), rest)) := by
  have hwhole := wholePart?_append hw.digits hw.ne_nil hw.zero (endsDigits_point (fs ++ rest))
  have hfraction := fractionPart_append hf hne hr.endsDigits
  have hexponent := exponentPart?_of_ne fun c hc => (hr c hc).2.2
  have hempty : ¬ fs.isEmpty = true := by simpa using hne
  simp only [readMagnitude?, hwhole, hfraction, hexponent, if_neg hempty]

/-- Digits with an exponent, and perhaps with a point. -/
theorem readMagnitude?_exponent (negative : Bool) (hw : IsWhole ws) (hf : AreDigits fs) (i : ℤ) (hr : EndsNumber rest) :
    readMagnitude? negative
        (ws ++ (if fs = [] then [] else .char '.' :: fs) ++
          .char 'e' :: (signOf i ++ (decimalDigits i.natAbs ++ rest))) =
      some (.ok (.float (Binary64.ofDecimal negative (digitsValue (ws ++ fs)) (i - fs.length)), rest)) := by
  have hexponent := exponentPart?_append i hr.endsDigits
  generalize signOf i ++ (decimalDigits i.natAbs ++ rest) = exponent at hexponent ⊢
  by_cases hne : fs = []
  · subst hne
    have hwhole := wholePart?_append hw.digits hw.ne_nil hw.zero (endsDigits_exponent exponent)
    have hfraction : fractionPart (.char 'e' :: exponent) = ([], .char 'e' :: exponent) :=
      fractionPart_of_ne fun c hc => by
        cases hc
        decide
    rw [if_pos rfl]
    simp only [readMagnitude?, List.append_nil, hwhole, hfraction, hexponent]
  · have hwhole := wholePart?_append hw.digits hw.ne_nil hw.zero
      (endsDigits_point (fs ++ .char 'e' :: exponent))
    have hfraction := fractionPart_append hf hne (endsDigits_exponent exponent)
    rw [if_neg hne, List.append_assoc, List.cons_append]
    simp only [readMagnitude?, hwhole, hfraction, hexponent]

/-! ### Numbers as they are written -/

open Binary64 (decimal positional scientific padded renderUnsigned snapshotStyle shortest IsUsual)

theorem padded_eq (width n : ℕ) :
    padded width n = List.replicate (width - (decimalDigits n).length) (.char '0') ++ decimalDigits n := rfl

theorem padded_one (n : ℕ) : padded 1 n = decimalDigits n := by
  have hpos : 1 - (decimalDigits n).length = 0 := by
    have := List.length_pos_of_ne_nil (decimalDigits_ne_nil n)
    omega
  rw [padded_eq, hpos]
  rfl

/-- Digits with a point are read with the value that they have. -/
theorem readMagnitude?_positional (negative : Bool) {n : ℕ} (hn : 0 < n) (p : ℤ) (hr : EndsNumber rest) :
    ∃ digits power, 0 < digits ∧ decimal digits power = decimal n p ∧
      readMagnitude? negative (positional (decimalDigits n) (p + (decimalDigits n).length) ++ rest) =
        some (.ok (.float (Binary64.ofDecimal negative digits power), rest)) := by
  set ds := decimalDigits n with hds
  have hdigits : AreDigits ds := areDigits_decimalDigits n
  have hpos : 0 < ds.length := List.length_pos_of_ne_nil (decimalDigits_ne_nil n)
  unfold positional
  split
  · -- The point stands in front of all digits.
    rename_i hpoint
    set zs := List.replicate (-(p + ds.length)).toNat (CodePoint.char '0') with hzs
    refine ⟨n, p, hn, rfl, ?_⟩
    have hfs : zs ++ ds ≠ [] := by simp [hds, decimalDigits_ne_nil]
    have hread :=
      readMagnitude?_point negative (isWhole_decimalDigits 0) ((areDigits_replicate_zero _).append hdigits) hfs hr
    have hvalue : digitsValue (decimalDigits 0 ++ (zs ++ ds)) = n := by
      rw [digitsValue_append, digitsValue_append, hzs, digitsValue_replicate_zero, hds]
      simp
    have hpower : -((zs ++ ds).length : ℤ) = p := by
      rw [List.length_append, hzs, List.length_replicate]
      omega
    rw [hvalue, hpower] at hread
    exact hread
  · split
    · -- The point stands behind all digits.
      rename_i hpoint hall
      set k := (p + ds.length).toNat - ds.length with hk
      refine ⟨n * 10 ^ k * 10, -1, by positivity, ?_, ?_⟩
      · have hp : p = k := by omega
        rw [decimal, decimal, hp]
        push_cast
        rw [zpow_neg_one, zpow_natCast]
        ring
      · have hread := readMagnitude?_point negative (isWhole_append hn (areDigits_replicate_zero k))
          (areDigits_replicate_zero 1) (by simp) hr
        have hvalue : digitsValue (ds ++ List.replicate k (.char '0') ++ List.replicate 1 (.char '0')) =
            n * 10 ^ k * 10 := by
          rw [digitsValue_append, digitsValue_append, digitsValue_replicate_zero, digitsValue_replicate_zero, hds]
          simp
        rw [← hds, hvalue] at hread
        rw [List.append_assoc]
        exact hread
    · -- The point stands between two digits.
      rename_i hpoint hall
      set k := (p + ds.length).toNat with hk
      refine ⟨n, p, hn, rfl, ?_⟩
      have hread := readMagnitude?_point negative (isWhole_take hn (k := k) (by omega)) (hdigits.drop k)
        (by simp; omega) hr
      have hpower : -((ds.drop k).length : ℤ) = p := by
        rw [List.length_drop]
        omega
      rw [List.take_append_drop, digitsValue_decimalDigits, hpower] at hread
      rw [List.append_assoc]
      exact hread

theorem scientific_cons (d : CodePoint) (fs : List CodePoint) (i : ℤ) :
    scientific snapshotStyle (d :: fs) i =
      [d] ++ (if fs = [] then [] else .char '.' :: fs) ++ .char 'e' :: (signOf i ++ decimalDigits i.natAbs) := by
  rw [← padded_one]
  cases fs <;> rfl

/-- Digits with an exponent are read with the value that they have. -/
theorem readMagnitude?_scientific (negative : Bool) {n : ℕ} (hn : 0 < n) (p : ℤ) (hr : EndsNumber rest) :
    readMagnitude? negative
        (scientific snapshotStyle (decimalDigits n) (p + (decimalDigits n).length - 1) ++ rest) =
      some (.ok (.float (Binary64.ofDecimal negative n p), rest)) := by
  set i := p + (decimalDigits n).length - 1 with hi
  obtain ⟨d, fs, hds⟩ := List.exists_cons_of_ne_nil (decimalDigits_ne_nil n)
  have hfs : AreDigits fs := fun c hc => areDigits_decimalDigits n c (by rw [hds]; exact List.mem_cons_of_mem d hc)
  have hw : IsWhole [d] := by
    have := isWhole_take hn (k := 1) (by norm_num)
    rwa [hds] at this
  have hread := readMagnitude?_exponent negative hw hfs i hr
  have hvalue : digitsValue ([d] ++ fs) = n := by
    rw [List.singleton_append, ← hds, digitsValue_decimalDigits]
  have hpower : i - fs.length = p := by
    rw [hi, hds, List.length_cons]
    push_cast
    ring
  rw [hvalue, hpower] at hread
  rw [← hread, hds, scientific_cons]
  simp only [List.append_assoc, List.cons_append]

theorem renderUnsigned_of_pos (negative : Bool) {m : ℕ} (hm : 0 < m) (e : ℤ) :
    renderUnsigned snapshotStyle (.finite negative m e) =
      if snapshotStyle.positionalFrom ≤ (shortest m e).2 + (decimalDigits (shortest m e).1).length ∧
          (shortest m e).2 + (decimalDigits (shortest m e).1).length ≤ snapshotStyle.positionalTo then
        positional (decimalDigits (shortest m e).1) ((shortest m e).2 + (decimalDigits (shortest m e).1).length)
      else scientific snapshotStyle (decimalDigits (shortest m e).1)
        ((shortest m e).2 + (decimalDigits (shortest m e).1).length - 1) := by
  unfold renderUnsigned decimalDigits
  dsimp only
  split
  · rename_i h
    cases h
  · rename_i h
    cases h
  · rename_i h
    injection h
    omega
  · rename_i h
    injection h with _ h₁ h₂
    rw [← h₁, ← h₂]

/-- A number without its sign is read as it was written. -/
theorem readMagnitude?_renderUnsigned (negative : Bool) {m : ℕ} {e : ℤ} (hu : IsUsual m e) (hr : EndsNumber rest) :
    readMagnitude? negative (renderUnsigned snapshotStyle (.finite negative m e) ++ rest) =
      some (.ok (.float (.finite negative m e), rest)) := by
  rcases Nat.eq_zero_or_pos m with rfl | hm
  · have he : e = Binary64.leastExponent := by
      rcases hu.full with h | h
      · norm_num at h
      · exact h
    have hzero : Binary64.ofDecimal negative (digitsValue (decimalDigits 0 ++ decimalDigits 0)) (-1) =
        .finite negative 0 e := by
      rw [he]
      rfl
    rw [← hzero]
    exact readMagnitude?_point negative (isWhole_decimalDigits 0) (areDigits_decimalDigits 0) (decimalDigits_ne_nil 0) hr
  · obtain ⟨hn, -⟩ := Binary64.shortest_inReach hm hu
    rw [renderUnsigned_of_pos negative hm]
    split
    · obtain ⟨digits, power, hpos, hvalue, hread⟩ := readMagnitude?_positional negative hn (shortest m e).2 hr
      rw [hread, Binary64.ofDecimal_of_eq_shortest hm hu hpos hvalue]
    · rw [readMagnitude?_scientific negative hn _ hr, Binary64.ofDecimal_of_eq_shortest hm hu hn rfl]

/-! ### Numbers -/

/-- A sign in front of a number that has been read. -/
theorem readNumber_of_magnitude {negative : Bool} {cs : List CodePoint}
    {result : Except JsonStop (Json × List CodePoint)}
    (h : readMagnitude? negative cs = some result) :
    readNumber ((if negative then [.char '-'] else []) ++ cs) = result := by
  cases negative with
  | true => simp only [readNumber, if_true, List.singleton_append, h]
  | false =>
    have hsign : ∀ rest, cs ≠ .char '-' :: rest := by
      rintro rest rfl
      cases h
    rw [if_neg (by simp), List.nil_append]
    unfold readNumber
    split
    · rename_i rest
      exact absurd rfl (hsign rest)
    · simp only [h]

/-- A finite number is read as it was written. -/
theorem readNumber_floatChars (negative : Bool) {m : ℕ} {e : ℤ} (hu : IsUsual m e) (hr : EndsNumber rest) :
    readNumber (floatChars (.finite negative m e) ++ rest) = .ok (.float (.finite negative m e), rest) := by
  have hchars : floatChars (.finite negative m e) =
      (if negative then [.char '-'] else []) ++ renderUnsigned snapshotStyle (.finite negative m e) := by
    cases negative <;> rfl
  rw [hchars, List.append_assoc, readNumber_of_magnitude (readMagnitude?_renderUnsigned negative hu hr)]

theorem toList_ofInt (i : ℤ) :
    (Text.ofInt i).toList = (if decide (i < 0) then [.char '-'] else []) ++ decimalDigits i.natAbs := by
  have hnat (n : ℕ) : (toString n).toList = Nat.toDigits 10 n := String.toList_ofList
  cases i with
  | ofNat n =>
    have hrepr : toString (Int.ofNat n) = toString n := rfl
    rw [Text.ofInt, hrepr]
    simp [Text.ofString, Text.ofChars, Text.toList, decimalDigits]
  | negSucc n =>
    have hrepr : toString (Int.negSucc n) = "-" ++ toString (n + 1) := rfl
    rw [Text.ofInt, hrepr]
    simp [Text.ofString, Text.ofChars, Text.toList, decimalDigits]

/-- A whole number that is not too long is read as it was written. -/
theorem readNumber_ofInt {i : ℤ} (hi : i.natAbs < 10 ^ maxDecimalDigits) (hr : EndsNumber rest) :
    readNumber ((Text.ofInt i).toList ++ rest) = .ok (.int i, rest) := by
  rw [toList_ofInt, List.append_assoc, readNumber_of_magnitude (readMagnitude?_whole (decide (i < 0)) hi hr)]
  congr 3
  simp only [decide_eq_true_eq]
  split <;> omega

end LintPreview.Json
