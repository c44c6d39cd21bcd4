import LintPreview.Proofs.Json.Number
import LintPreview.Proofs.Yaml.Filled

/-!
# Scalars as they are written

* `Scalar.isPlain`: whether a scalar is written without quotes; `Scalar.IsTame.chooseStyle_eq`: else it is written in
  single quotes.
* `Yaml.IsNumeral`: the texts of whole numbers; `Yaml.intValue_ofInt`: such a number is read as it was written.
* `Scalar.isTame_and_standsFor`: a scalar of a simple document is tame, and its token stands for the value that was
  written.
-/

namespace LintPreview.Yaml

open Json (decimalDigits AreDigits digitsValue toNat_of_isDigit)

/-! ### Styles -/

namespace Scalar

/-- Whether the scalar is written without quotes. -/
def isPlain (s : Scalar) : Bool := s.formed && (Traits.ofChars s.codes).allowPlain

/-- A scalar of printable characters that needs neither a block nor a tag. -/
structure IsTame (s : Scalar) : Prop where
  printable : ArePrintable s.codes
  asBlock : s.asBlock = false
  nonempty : s.formed = true → s.codes ≠ []
  tagless : s.isPlain = false → s.isText = true

end Scalar

variable {cs : List CodePoint}

theorem ArePrintable.any_isKeptBreak (h : ArePrintable cs) : cs.any isKeptBreak = false :=
  List.any_eq_false.mpr fun c hc => by rw [(h c hc).isKeptBreak]; exact Bool.false_ne_true

theorem ArePrintable.any_isSpecial (h : ArePrintable cs) : cs.any isSpecial = false :=
  List.any_eq_false.mpr fun c hc => by rw [(h c hc).isSpecial]; exact Bool.false_ne_true

theorem ArePrintable.hasPair_left (h : ArePrintable cs) (q : CodePoint → Bool) : hasPair isKeptBreak q cs = false := by
  fun_induction hasPair isKeptBreak q cs with
  | case1 a b rest ih =>
    obtain ⟨ha, hrest⟩ := List.forall_mem_cons.mp h
    rw [ih hrest, ha.isKeptBreak]
    rfl
  | case2 => rfl

theorem ArePrintable.hasPair_right (h : ArePrintable cs) (p : CodePoint → Bool) : hasPair p isKeptBreak cs = false := by
  fun_induction hasPair p isKeptBreak cs with
  | case1 a b rest ih =>
    obtain ⟨ha, hrest⟩ := List.forall_mem_cons.mp h
    rw [ih hrest, (hrest b List.mem_cons_self).isKeptBreak, Bool.and_false]
    rfl
  | case2 => rfl

/-- Printable characters can be written without quotes unless there are spaces at their ends or marks among them. -/
theorem ArePrintable.allowPlain_iff (h : ArePrintable cs) (hne : cs ≠ []) :
    (Traits.ofChars cs).allowPlain = true ↔
      cs.head? ≠ some (.char ' ') ∧ cs.getLast? ≠ some (.char ' ') ∧ hasIndicator cs = false := by
  have hedge : ∀ o : Option CodePoint, (∀ c ∈ o, c ∈ cs) →
      ((o.any fun c => c == .char ' ' || isKeptBreak c) = false ↔ o ≠ some (.char ' ')) := by
    intro o ho
    cases o with
    | none => simp
    | some c => simp [(h c (ho c rfl)).isKeptBreak]
  have hhead := hedge cs.head? fun c hc => List.mem_of_mem_head? hc
  have hlast := hedge cs.getLast? fun c hc => List.mem_of_getLast? hc
  rw [← hhead, ← hlast]
  simp [Traits.ofChars, h.hasPair_left, h.hasPair_right, h.any_isSpecial, h.any_isKeptBreak, hne, and_assoc]

theorem ArePrintable.allowSingle (h : ArePrintable cs) : (Traits.ofChars cs).allowSingle = true := by
  simp [Traits.ofChars, h.hasPair_left, h.hasPair_right, h.any_isSpecial]

theorem ArePrintable.multiline (h : ArePrintable cs) : (Traits.ofChars cs).multiline = false := h.any_isKeptBreak

/-- A tame scalar is written without quotes or in single quotes, be it a key or not. -/
theorem Scalar.IsTame.chooseStyle_eq {s : Scalar} (h : s.IsTame) (asKey : Bool) :
    chooseStyle (Traits.ofChars s.codes) s.formed s.asBlock asKey = if s.isPlain then .plain else .single := by
  have hempty : s.formed = true → (Traits.ofChars s.codes).empty = false := by
    intro hformed
    simp [Traits.ofChars, h.nonempty hformed]
  unfold chooseStyle Scalar.isPlain
  rw [h.asBlock, h.printable.multiline, h.printable.allowSingle]
  cases hformed : s.formed with
  | false => simp
  | true => simp [hempty hformed]

/-! ### Whole numbers -/

/-- A digit is printable and no mark. -/
theorem isPrintable_of_isDigit {c : CodePoint} (h : c.isDigit = true) : IsPrintable c := by
  have := toNat_of_isDigit h
  unfold IsPrintable
  omega

/-- The digits of a number: the first one is no zero, unless it is the only one. -/
theorem decimalDigits_cases (n : ℕ) : decimalDigits n = ['0'] ∨
    ∃ c ds, decimalDigits n = c :: ds ∧ 49 ≤ c.toNat ∧ c.toNat ≤ 57 ∧ AreDigits ds := by
  rcases Nat.eq_zero_or_pos n with rfl | hpos
  · exact .inl rfl
  · obtain ⟨c, ds, hcons⟩ := List.exists_cons_of_ne_nil (Json.decimalDigits_ne_nil n)
    have hdigits := Json.areDigits_decimalDigits n
    have hzero := Json.head?_decimalDigits_ne_zero hpos
    rw [hcons] at hdigits hzero
    obtain ⟨hc, hds⟩ := List.forall_mem_cons.mp hdigits
    have hrange := toNat_of_isDigit hc
    have hne : c.toNat ≠ 48 := by
      intro heq
      refine hzero ?_
      rw [List.head?_cons, ← CodePoint.ofNat_toNat c, heq]
      rfl
    exact .inr ⟨c, ds, hcons, by omega, hrange.2, hds⟩

/-- A whole number in decimal digits, perhaps with a sign. -/
structure IsNumeral (cs ds : List CodePoint) : Prop where
  sign : cs = ds ∨ cs = .char '-' :: ds
  digits : AreDigits ds
  shape : ds = ['0'] ∨ ∃ c rest, ds = c :: rest ∧ 49 ≤ c.toNat ∧ c.toNat ≤ 57 ∧ AreDigits rest

theorem isNumeral_ofInt (i : ℤ) : IsNumeral (Text.ofInt i).toList (decimalDigits i.natAbs) := by
  refine ⟨?_, Json.areDigits_decimalDigits _, decimalDigits_cases _⟩
  rw [Json.toList_ofInt]
  by_cases h : i < 0
  · exact .inr (by simp [h])
  · exact .inl (by simp [h])

namespace IsNumeral

variable {cs ds : List CodePoint} (h : IsNumeral cs ds)

include h

theorem exists_cons : ∃ c rest, ds = c :: rest ∧ c.isDigit = true ∧ AreDigits rest := by
  rcases h.shape with rfl | ⟨c, rest, rfl, -⟩
  · exact ⟨'0', [], rfl, rfl, nofun⟩
  · obtain ⟨hc, hrest⟩ := List.forall_mem_cons.mp h.digits
    exact ⟨c, rest, rfl, hc, hrest⟩

theorem dropSign_eq : Plain.dropSign cs = ds := by
  rcases h.sign with rfl | rfl
  · obtain ⟨c, rest, rfl, hc, -⟩ := h.exists_cons
    have hrange := toNat_of_isDigit hc
    unfold Plain.dropSign
    split
    · rename_i heq
      cases heq
      exact absurd hrange (by decide)
    · rename_i heq
      cases heq
      exact absurd hrange (by decide)
    · rfl
  · rfl

theorem head_lt : ∀ c ∈ cs.head?, c.toNat < 65 := by
  intro c hc
  rcases h.sign with rfl | rfl
  · obtain ⟨d, rest, rfl, hd, -⟩ := h.exists_cons
    cases hc
    have := toNat_of_isDigit hd
    omega
  · cases hc
    decide

theorem isBool_eq : Plain.isBool cs = false := by
  have hwords : ∀ w ∈ Plain.booleanWords, ∀ word ∈ [w.1.toList, Plain.capitalized w.1.toList, w.1.toList.map CodePoint.toUpper],
      ∃ c ∈ word.head?, 65 ≤ c.toNat := by decide
  rw [Bool.eq_false_iff]
  intro hbool
  obtain ⟨w, hw, hspelling⟩ := List.any_eq_true.mp hbool
  have hmem : cs ∈ [w.1.toList, Plain.capitalized w.1.toList, w.1.toList.map CodePoint.toUpper] := by
    simpa [Plain.isSpelling, or_assoc] using hspelling
  obtain ⟨c, hc, hle⟩ := hwords w hw cs hmem
  exact absurd (h.head_lt c hc) (Nat.not_lt.mpr hle)

theorem isFloat_eq : Plain.isFloat cs = false := by
  obtain ⟨c, rest, hds, hc, hrest⟩ := h.exists_cons
  have hrange := toNat_of_isDigit hc
  have hdrop : rest.dropWhile Plain.isDigitOrJoint = [] :=
    List.dropWhile_eq_nil_iff.mpr fun d hd => by rw [Plain.isDigitOrJoint, hrest d hd]; rfl
  have hbody := h.dropSign_eq
  rw [hds] at hbody
  unfold Plain.isFloat
  dsimp only
  rw [hbody]
  split
  · rename_i heq
    cases heq
    exact absurd hrange (by decide)
  · rename_i heq
    cases heq
    rw [if_pos hc, hdrop]
    simp [Plain.isBaseSixtyFraction, hdrop, Plain.isDigitOrJoint, hc]
  · rfl

theorem isInt_eq : Plain.isInt cs = true := by
  have hbody := h.dropSign_eq
  unfold Plain.isInt
  rw [hbody]
  rcases h.shape with hds | ⟨c, rest, hds, hlow, hhigh, hrest⟩
  · rw [hds]
    rfl
  · have hzero : c ≠ '0' := by
      rintro rfl
      exact absurd hlow (by decide)
    have hall : rest.all Plain.isDigitOrJoint = true :=
      List.all_eq_true.mpr fun d hd => by rw [Plain.isDigitOrJoint, hrest d hd]; rfl
    have hrange : (decide (CodePoint.char '1' ≤ c) && decide (c ≤ CodePoint.char '9')) = true := by
      rw [Bool.and_eq_true, decide_eq_true_eq, decide_eq_true_eq]
      exact ⟨hlow, hhigh⟩
    rw [hds]
    split
    · rename_i heq; cases heq; exact absurd rfl hzero
    · rename_i heq; cases heq; exact absurd rfl hzero
    · rename_i heq; cases heq; exact absurd rfl hzero
    · rename_i heq; cases heq; exact absurd rfl hzero
    · rename_i heq
      cases heq
      rw [hrange, hall]
      rfl
    · rename_i heq; cases heq

/-- The form of a whole number says that it is one. -/
theorem ofForm_eq : Tag.ofForm cs = .int := by
  rw [Tag.ofForm, h.isBool_eq, h.isFloat_eq, h.isInt_eq]
  rfl

theorem not_mem {x : Char} (hx : x.toNat < 48 ∨ 57 < x.toNat) : CodePoint.char x ∉ ds := by
  intro hmem
  have hrange := toNat_of_isDigit (h.digits _ hmem)
  have hnat : (CodePoint.char x).toNat = x.toNat := rfl
  omega

end IsNumeral

/-- Digits are read one by one. -/
theorem digitsFrom_digits {ds : List CodePoint} (h : AreDigits ds) (afterDigit : Bool) (hne : ds ≠ [] ∨ afterDigit = true) :
    Literal.digitsFrom 10 afterDigit ds = some (ds.map fun c => c.toNat - 48, []) := by
  induction ds generalizing afterDigit with
  | nil =>
    rcases hne with hne | rfl
    · exact absurd rfl hne
    · rfl
  | cons c ds ih =>
    obtain ⟨hc, hds⟩ := List.forall_mem_cons.mp h
    have hrange := toNat_of_isDigit hc
    have hvalue : (Literal.digitValue? c).filter (· < 10) = some (c.toNat - 48) := by
      have hlt : c.toNat - 48 < 10 := by omega
      simp [Literal.digitValue?, Text.decimalValue?, hc, Option.filter, hlt]
    have hjoint : c ≠ '_' := by
      rintro rfl
      exact absurd hrange (by decide)
    rw [Literal.digitsFrom]
    · rw [hvalue]
      simp [ih hds true (.inr rfl)]
    · exact hjoint

theorem isPadding_of_isDigit {c : CodePoint} (h : c.isDigit = true) : Literal.isPadding c = false := by
  have hrange := toNat_of_isDigit h
  have hle : (decide (c ≤ CodePoint.char '\r')) = false := by
    rw [decide_eq_false_iff_not]
    intro hle
    have : c.toNat ≤ 13 := hle
    omega
  have h7F : ¬ 0x7F < c.toNat := by omega
  simp only [Literal.isPadding, beq_char, Char.reduceToNat, hle, Bool.and_false, h7F, decide_false, Bool.false_and,
    Bool.or_false, decide_eq_false_iff_not]
  omega

theorem strip_digits {ds : List CodePoint} (h : AreDigits ds) : Literal.strip ds = ds := by
  have hdrop : ∀ es : List CodePoint, AreDigits es → es.dropWhile Literal.isPadding = es := by
    intro es hes
    cases es with
    | nil => rfl
    | cons e es => rw [List.dropWhile_cons, isPadding_of_isDigit (hes e List.mem_cons_self)]; rfl
  rw [Literal.strip, hdrop ds h, hdrop ds.reverse fun c hc => h c (List.mem_reverse.mp hc), List.reverse_reverse]

theorem valueOf_digits (ds : List CodePoint) : Literal.valueOf 10 (ds.map fun c => c.toNat - 48) = digitsValue ds := by
  rw [Literal.valueOf, List.foldl_map]
  rfl

/-- Digits are read as a whole number, unless there are too many. -/
theorem readInt_digits_eq {ds : List CodePoint} (h : AreDigits ds) (hne : ds ≠ []) :
    Literal.readInt 10 (Text.ofList ds) =
      if maxDecimalDigits < ds.length then .error (.tooLong ds.length) else .ok (digitsValue ds) := by
  have hsign : Literal.splitSign ds = (false, ds) := by
    unfold Literal.splitSign
    split
    · exact absurd (h (.char '-') List.mem_cons_self) (by decide)
    · exact absurd (h (.char '+') List.mem_cons_self) (by decide)
    · rfl
  have hbase : Literal.dropBaseMark 10 ds = ds := rfl
  rw [Literal.readInt, Text.toList_ofList, strip_digits h, hsign]
  dsimp only
  rw [hbase, digitsFrom_digits h false (.inl hne)]
  simp only [List.length_map, List.isEmpty_nil, if_true, Bool.false_eq_true, if_false, true_and]
  rw [valueOf_digits]

/-- Digits that are not too many are read as a whole number. -/
theorem readInt_digits {ds : List CodePoint} (h : AreDigits ds) (hne : ds ≠ []) (hlength : ds.length ≤ maxDecimalDigits) :
    Literal.readInt 10 (Text.ofList ds) = .ok (digitsValue ds) := by
  rw [readInt_digits_eq h hne, if_neg (by omega)]

theorem dropJoints_digits {ds : List CodePoint} (h : AreDigits ds) : ds.filter (fun c : CodePoint => c != '_') = ds := by
  refine List.filter_eq_self.mpr fun c hc => ?_
  rw [bne_iff_ne]
  rintro rfl
  exact absurd (h _ hc) (by decide)

namespace IsNumeral

variable {cs ds : List CodePoint} (h : IsNumeral cs ds)

include h

theorem magnitude_eq (hlength : ds.length ≤ maxDecimalDigits) : magnitude ds = .ok (digitsValue ds) := by
  have hne : ds ≠ [] := by
    obtain ⟨c, rest, rfl, -⟩ := h.exists_cons
    exact List.cons_ne_nil c rest
  have hread := readInt_digits h.digits hne hlength
  rcases h.shape with rfl | ⟨c, rest, rfl, hlow, hhigh, -⟩
  · rfl
  · have hzero : c ≠ '0' := by
      rintro rfl
      exact absurd hlow (by decide)
    have hcolon : (c :: rest).contains (.char ':') = false := by
      rw [Bool.eq_false_iff, ne_eq, List.contains_iff_mem]
      exact h.not_mem (by decide)
    unfold magnitude
    dsimp only
    split
    · rename_i heq; cases heq
    · rename_i heq; cases heq; exact absurd rfl hzero
    · rename_i heq; cases heq; exact absurd rfl hzero
    · rename_i heq; cases heq; exact absurd rfl hzero
    · rename_i heq; cases heq; exact absurd rfl hzero
    · rw [hcolon, hread]
      rfl

end IsNumeral

/-- A whole number is read as it was written, unless it has too many digits. -/
theorem intValue_ofInt {i : ℤ} (h : isTooLongToWrite i = false) : intValue (Text.ofInt i) = .ok (.int i) := by
  have hnumeral := isNumeral_ofInt i
  have hlength : (decimalDigits i.natAbs).length ≤ maxDecimalDigits := by
    rw [isTooLongToWrite, decide_eq_false_iff_not, Nat.not_le] at h
    rw [Json.length_decimalDigits]
    exact (Nat.length_toDigits_le_iff (by norm_num) (by decide)).mpr h
  have hmagnitude := hnumeral.magnitude_eq hlength
  rw [Json.digitsValue_decimalDigits] at hmagnitude
  have hjoints := dropJoints_digits hnumeral.digits
  have hchars := Json.toList_ofInt i
  obtain ⟨c, rest, hcons, hc, -⟩ := hnumeral.exists_cons
  unfold intValue
  rw [dropJoints, hchars, List.filter_append, hjoints]
  by_cases hsign : i < 0
  · rw [decide_eq_true hsign, if_pos rfl]
    show (magnitude (decimalDigits i.natAbs)).map _ = _
    rw [hmagnitude]
    show Except.ok (Document.int (-(i.natAbs : ℤ))) = _
    rw [show -(i.natAbs : ℤ) = i by omega]
  · rw [decide_eq_false hsign, if_neg Bool.false_ne_true, List.filter_nil, List.nil_append]
    rw [show (i.natAbs : ℤ) = i by omega] at hmagnitude
    split
    · rename_i heq
      exact absurd heq (Json.decimalDigits_ne_nil _)
    · rename_i heq
      rw [hcons, List.cons.injEq] at heq
      exact absurd (heq.1 ▸ hc) (by decide)
    · rename_i heq
      rw [hcons, List.cons.injEq] at heq
      exact absurd (heq.1 ▸ hc) (by decide)
    · rw [hmagnitude]
      rfl

/-! ### Scalars of simple documents -/

theorem blankNext_digits {ds : List CodePoint} (h : AreDigits ds) (hne : ds ≠ []) : blankNext ds = false := by
  obtain ⟨c, rest, rfl⟩ := List.exists_cons_of_ne_nil hne
  have hc := h c List.mem_cons_self
  refine (isPrintable_of_isDigit hc).isBlankOrEnd ?_
  rintro rfl
  cases hc

theorem innerIndicator_digits {ds : List CodePoint} (h : AreDigits ds) (previous : CodePoint) :
    innerIndicator previous ds = false := by
  induction ds generalizing previous with
  | nil => rfl
  | cons c ds ih =>
    obtain ⟨hc, hds⟩ := List.forall_mem_cons.mp h
    have hrange := toNat_of_isDigit hc
    have hcolon : (c == CodePoint.char ':') = false := by
      simp only [beq_char, Char.reduceToNat, decide_eq_false_iff_not]
      omega
    have hsign : (c == CodePoint.char '#') = false := by
      simp only [beq_char, Char.reduceToNat, decide_eq_false_iff_not]
      omega
    rw [innerIndicator, ih hds, hcolon, hsign]
    rfl

/-- A text that does not read as a mark between documents at its start. -/
theorem startsLikeSeparator_eq_false_iff {cs : List CodePoint} : startsLikeSeparator cs = false ↔
    ¬ [CodePoint.char '-', .char '-', .char '-'] <+: cs ∧ ¬ [CodePoint.char '.', .char '.', .char '.'] <+: cs := by
  have hmarks : startsLikeSeparator cs =
      (Text.startsWith (Text.toList "---") cs || (Text.startsWith (Text.toList "...") cs || false)) := rfl
  have hdash : Text.toList "---" = [CodePoint.char '-', .char '-', .char '-'] := rfl
  have hdot : Text.toList "..." = [CodePoint.char '.', .char '.', .char '.'] := rfl
  rw [hmarks, hdash, hdot, Bool.or_false, Bool.or_eq_false_iff, Text.startsWith, Text.startsWith, Bool.eq_false_iff,
    Bool.eq_false_iff, ne_eq, ne_eq, List.isPrefixOf_iff_prefix, List.isPrefixOf_iff_prefix]

theorem firstIsIndicator_of_isDigit {c : CodePoint} (h : c.isDigit = true) (rest : List CodePoint) :
    firstIsIndicator c rest = false := by
  have hrange := toNat_of_isDigit h
  simp only [firstIsIndicator, isAnyOf_eq, List.any_cons, List.any_nil, beq_char, Char.reduceToNat, Bool.or_eq_false_iff,
    Bool.and_eq_false_iff, decide_eq_false_iff_not, and_true]
  omega

namespace IsNumeral

variable {cs ds : List CodePoint} (h : IsNumeral cs ds)

include h

theorem ne_nil : cs ≠ [] := by
  obtain ⟨c, rest, rfl, -⟩ := h.exists_cons
  rcases h.sign with rfl | rfl <;> exact List.cons_ne_nil _ _

theorem printable : ArePrintable cs := by
  have hds : ArePrintable ds := fun c hc => isPrintable_of_isDigit (h.digits c hc)
  rcases h.sign with rfl | rfl
  · exact hds
  · exact List.forall_mem_cons.mpr ⟨by decide, hds⟩

theorem hasIndicator_eq : hasIndicator cs = false := by
  obtain ⟨c, rest, rfl, hc, hrest⟩ := h.exists_cons
  have hdash : c ≠ '-' := by
    rintro rfl
    cases hc
  have hdot : c ≠ '.' := by
    rintro rfl
    cases hc
  have hseparator : startsLikeSeparator cs = false := by
    rw [startsLikeSeparator_eq_false_iff]
    rcases h.sign with rfl | rfl <;> simp [List.cons_prefix_cons, Ne.symm hdash, Ne.symm hdot]
  rcases h.sign with rfl | rfl
  · rw [hasIndicator, hseparator, firstIsIndicator_of_isDigit hc, innerIndicator_digits hrest]
    rfl
  · have hfirst : firstIsIndicator (.char '-') (c :: rest) = false := by
      rw [firstIsIndicator, blankNext_digits h.digits (List.cons_ne_nil c rest)]
      rfl
    rw [hasIndicator, hseparator, hfirst, innerIndicator_digits h.digits]
    rfl

theorem allowPlain_eq : (Traits.ofChars cs).allowPlain = true := by
  obtain ⟨c, rest, rfl, hc, hrest⟩ := h.exists_cons
  have hspace : ∀ d ∈ c :: rest, d ≠ ' ' := by
    rintro d hd rfl
    exact absurd (h.digits _ hd) (by decide)
  have hlast : ∀ d ∈ cs, d ≠ ' ' := by
    rcases h.sign with rfl | rfl
    · exact hspace
    · exact List.forall_mem_cons.mpr ⟨by decide, hspace⟩
  refine (h.printable.allowPlain_iff h.ne_nil).mpr ⟨?_, ?_, h.hasIndicator_eq⟩
  · exact fun heq => hlast _ (List.mem_of_mem_head? heq) rfl
  · exact fun heq => hlast _ (List.mem_of_getLast? heq) rfl

end IsNumeral

namespace Scalar

/-- The token that a scalar is read as. -/
def token (s : Scalar) : Token := .scalar (Text.ofList s.codes) s.isPlain

/-- A scalar of a simple document is tame, and stands for what was written. -/
theorem isTame_and_standsFor {d : Document} {s : Scalar} {room : ℕ} (hs : ofDocument? d = some s) (hd : d.IsSimple)
    (hroom : d.faultWithin room = none) :
    s.IsTame ∧ StandsFor (NodeBuilder.scalarTag none s.isPlain (Text.ofList s.codes)) (Text.ofList s.codes) d := by
  cases d with
  | null =>
    cases hs
    exact ⟨⟨by decide, rfl, fun _ => by decide, fun h => absurd h (by decide)⟩, .inl (by decide), fun _ => rfl, rfl⟩
  | bool b =>
    cases hs
    cases b
    all_goals
      refine ⟨⟨by decide, rfl, fun _ => by decide, fun h => absurd h (by decide)⟩, .inr (.inl (by decide)), ?_, rfl⟩
      exact fun place => by rfl
  | int i =>
    cases hs
    have hnumeral := isNumeral_ofInt i
    have hplain : (ofForm "!!int" (Text.ofInt i)).isPlain = true := hnumeral.allowPlain_eq
    have hlong : isTooLongToWrite i = false := by
      rw [Document.faultWithin] at hroom
      exact Bool.eq_false_iff.mpr fun hlong => by rw [if_pos hlong] at hroom; cases hroom
    refine ⟨⟨hnumeral.printable, rfl, fun _ => hnumeral.ne_nil, fun h => absurd h (by rw [hplain]; decide)⟩, ?_⟩
    have htag : NodeBuilder.scalarTag none true (Text.ofInt i) = .int := by
      have hfinal : (Text.ofInt i).toList.getLast? ≠ some (.char '\n') := fun h =>
        absurd (hnumeral.printable _ (List.mem_of_getLast? h)) (by decide)
      show Tag.ofForm (dropFinalBreak _) = _
      rw [dropFinalBreak, if_neg (by simp [hfinal]), hnumeral.ofForm_eq]
    rw [hplain]
    show StandsFor (NodeBuilder.scalarTag none true (Text.ofInt i)) (Text.ofInt i) _
    rw [htag]
    exact ⟨.inr (.inr (.inl rfl)), fun place => intValue_ofInt hlong, rfl⟩
  | text t =>
    cases hs
    have hformed : (ofText t).formed = true → t.toList ≠ [] := by
      intro hformed hnil
      have htext : t = Text.empty := Text.ext_toList hnil
      rw [htext] at hformed
      exact absurd hformed (by decide)
    refine ⟨⟨hd, rfl, hformed, fun _ => rfl⟩, ?_⟩
    have htag : NodeBuilder.scalarTag none (ofText t).isPlain t = .text := by
      cases hplain : (ofText t).isPlain with
      | false => rfl
      | true => exact eq_of_beq (Bool.and_eq_true_iff.mp hplain).1
    show StandsFor (NodeBuilder.scalarTag none (ofText t).isPlain t) t _
    rw [htag]
    exact ⟨.inr (.inr (.inr rfl)), fun place => rfl, rfl⟩
  | list l items => cases hs
  | map l entries => cases hs
  | _ => cases hd

end Scalar

end LintPreview.Yaml
