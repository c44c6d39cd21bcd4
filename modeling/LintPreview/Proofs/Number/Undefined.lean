import LintPreview.Number.Literal
import LintPreview.Proofs.Number.Rounding
import Mathlib.Data.List.TakeWhile

/-!
# Numbers above zero, and the one that is none

* `Binary64.IsAboveZero`: finite numbers with a value above zero, and one of the infinities. What is not at most zero is
  above zero or undefined (`Binary64.isAtMostZero_iff`).
* `Literal.SpellsUndefined`: the texts that spell the undefined number.
* `Literal.readFloat_eq_undefined_iff`: these are the texts that are read as it; no decimal is rounded to it.
-/

namespace LintPreview

namespace Binary64

/-- Greater than zero: a finite number by its value, an infinity by its sign; the undefined number is not. -/
def IsAboveZero : Binary64 → Prop
  | .finite negative m e => 0 < (if negative then -(m : ℚ) else m) * 2 ^ e
  | .infinite negative => negative = false
  | .undefined => False

theorem isPositive_iff (x : Binary64) : x.isPositive = true ↔ x.IsAboveZero := by
  cases x with
  | finite negative m e =>
    rw [isPositive, IsAboveZero, mul_pos_iff_of_pos_right (two_zpow_pos e)]
    cases negative with
    | true => simp
    | false => simp
  | infinite negative => simp [isPositive, IsAboveZero]
  | undefined => simp [isPositive, IsAboveZero]

instance : DecidablePred IsAboveZero := fun x => decidable_of_iff _ (isPositive_iff x)

/-- Every number but the undefined one is at most zero or above it. -/
theorem isAtMostZero_iff (x : Binary64) : x.isAtMostZero = true ↔ ¬ x.IsAboveZero ∧ x ≠ .undefined := by
  rw [← isPositive_iff]
  cases x with
  | undefined => simp [isAtMostZero]
  | finite negative m e =>
    show (!isPositive _) = true ↔ _
    simp
  | infinite negative =>
    show (!isPositive _) = true ↔ _
    simp

theorem ofRatio_ne_undefined (negative : Bool) (num den : ℕ) : ofRatio negative num den ≠ .undefined := by
  unfold ofRatio
  dsimp only
  split_ifs <;> nofun

/-- No decimal is undefined. -/
theorem ofDecimal_ne_undefined (negative : Bool) (digits : ℕ) (power : ℤ) :
    ofDecimal negative digits power ≠ .undefined := by
  unfold ofDecimal
  dsimp only
  split_ifs
  · nofun
  · nofun
  · nofun
  · exact ofRatio_ne_undefined _ _ _
  · exact ofRatio_ne_undefined _ _ _

end Binary64

namespace Literal

/-! ### Padding -/

/-- A padding character is no capital. -/
theorem toLower_of_isPadding {c : CodePoint} (h : isPadding c = true) : c.toLower = c := by
  cases c with
  | half h => rfl
  | char c =>
    have hcapital : ¬ (c.val ≥ 'A'.val ∧ c.val ≤ 'Z'.val) := by
      rintro ⟨hlow, hhigh⟩
      have hlow : 65 ≤ c.toNat := UInt32.le_iff_toNat_le.mp hlow
      have hhigh : c.toNat ≤ 90 := UInt32.le_iff_toNat_le.mp hhigh
      simp only [isPadding, Bool.or_eq_true, Bool.and_eq_true, beq_iff_eq, decide_eq_true_eq] at h
      rcases h with (hspace | ⟨-, hline⟩) | ⟨hbeyond, -⟩
      · cases hspace
        exact absurd hlow (by decide)
      · have hline : c.toNat ≤ 13 := hline
        omega
      · have hbeyond : 0x7F < c.toNat := hbeyond
        omega
    have hlower : c.toLower = c := dif_neg hcapital
    exact congrArg CodePoint.char hlower

/-- What is no padding in its lower form is none. -/
theorem isPadding_of_toLower {c d : CodePoint} (h : c.toLower = d) (hd : isPadding d = false) :
    isPadding c = false := by
  cases hc : isPadding c with
  | false => rfl
  | true =>
    rw [toLower_of_isPadding hc] at h
    rw [← hd, ← h, hc]

/-- A text is its inside between padding. -/
theorem exists_padding (cs : List CodePoint) : ∃ before after, cs = before ++ strip cs ++ after ∧
    (∀ c ∈ before, isPadding c = true) ∧ ∀ c ∈ after, isPadding c = true := by
  refine ⟨cs.takeWhile isPadding, ((cs.dropWhile isPadding).reverse.takeWhile isPadding).reverse, ?_,
    fun c hc => List.mem_takeWhile_imp hc, fun c hc => List.mem_takeWhile_imp (List.mem_reverse.mp hc)⟩
  rw [strip, List.append_assoc, ← List.reverse_append, List.takeWhile_append_dropWhile, List.reverse_reverse,
    List.takeWhile_append_dropWhile]

/-- What starts and ends with no padding is left when padding around it is stripped. -/
theorem strip_pad {before cs after : List CodePoint} (hbefore : ∀ c ∈ before, isPadding c = true)
    (hafter : ∀ c ∈ after, isPadding c = true) (hhead : ∃ c rest, cs = c :: rest ∧ isPadding c = false)
    (hlast : ∃ init c, cs = init ++ [c] ∧ isPadding c = false) : strip (before ++ cs ++ after) = cs := by
  have hleft : (cs ++ after).dropWhile isPadding = cs ++ after := by
    obtain ⟨c, rest, rfl, hc⟩ := hhead
    rw [List.cons_append, List.dropWhile_cons_of_neg (Bool.eq_false_iff.mp hc)]
  have hright : cs.reverse.dropWhile isPadding = cs.reverse := by
    obtain ⟨init, c, rfl, hc⟩ := hlast
    rw [List.reverse_append, List.reverse_singleton, List.singleton_append,
      List.dropWhile_cons_of_neg (Bool.eq_false_iff.mp hc)]
  have hafter' : ∀ c ∈ after.reverse, isPadding c = true := fun c hc => hafter c (List.mem_reverse.mp hc)
  rw [strip, List.append_assoc, List.dropWhile_append_of_pos hbefore, hleft, List.reverse_append,
    List.dropWhile_append_of_pos hafter', hright, List.reverse_reverse]

/-! ### The undefined number -/

/-- A text spells the undefined number: `nan` in either case, with or without a sign, between padding. -/
def SpellsUndefined (t : Text) : Prop :=
  ∃ before sign name after : List CodePoint, t.toList = before ++ (sign ++ name) ++ after ∧
    (∀ c ∈ before ++ after, isPadding c = true) ∧ (sign = [] ∨ sign = ['+'] ∨ sign = ['-']) ∧
    name.map CodePoint.toLower = (['n', 'a', 'n'] : List CodePoint)

/-- Digits are read as a rounded decimal. -/
theorem readUnsigned_ne_undefined (negative : Bool) (cs : List CodePoint) :
    readUnsigned negative cs ≠ some .undefined := by
  have hdecimal (digits : ℕ) (power : ℤ) : some (Binary64.ofDecimal negative digits power) ≠ some .undefined :=
    fun h => Binary64.ofDecimal_ne_undefined negative digits power (Option.some_inj.mp h)
  unfold readUnsigned
  dsimp only
  split
  all_goals
    split
    · nofun
    · split
      · exact hdecimal _ _
      · nofun

theorem readName?_eq_undefined_iff (negative : Bool) (name : Text) :
    readName? negative name = some .undefined ↔ name = "nan" := by
  unfold readName?
  split_ifs with hinfinite hname
  · refine iff_of_false nofun ?_
    rcases hinfinite with rfl | rfl <;> decide
  · exact iff_of_true rfl hname
  · exact iff_of_false nofun hname

/-- The undefined number is read from its name, which may have a sign. -/
theorem readFloat_eq_undefined_iff_name {t : Text} : readFloat t = .ok .undefined ↔
    (splitSign (strip t.toList)).2.map CodePoint.toLower = (['n', 'a', 'n'] : List CodePoint) := by
  have hname := readName?_eq_undefined_iff (splitSign (strip t.toList)).1
    (Text.ofList ((splitSign (strip t.toList)).2.map CodePoint.toLower))
  have htext : Text.ofList ((splitSign (strip t.toList)).2.map CodePoint.toLower) = "nan" ↔
      (splitSign (strip t.toList)).2.map CodePoint.toLower = (['n', 'a', 'n'] : List CodePoint) :=
    ⟨fun h => congrArg Text.toList h, fun h => Text.ext_toList h⟩
  rw [← htext, ← hname]
  unfold readFloat
  dsimp only
  split
  · rename_i x hx
    rw [hx, Except.ok.injEq, Option.some_inj]
  · rename_i hnone
    rw [hnone]
    refine iff_of_false ?_ nofun
    split
    · rename_i x hx
      intro h
      cases h
      exact readUnsigned_ne_undefined _ _ hx
    · nofun

/-- A sign and what follows it. -/
theorem exists_splitSign (cs : List CodePoint) :
    ∃ sign : List CodePoint, (sign = [] ∨ sign = ['+'] ∨ sign = ['-']) ∧ cs = sign ++ (splitSign cs).2 := by
  unfold splitSign
  split
  · exact ⟨['-'], .inr (.inr rfl), rfl⟩
  · exact ⟨['+'], .inr (.inl rfl), rfl⟩
  · exact ⟨[], .inl rfl, rfl⟩

theorem splitSign_append {sign name : List CodePoint} (hsign : sign = [] ∨ sign = ['+'] ∨ sign = ['-'])
    (hname : name.map CodePoint.toLower = (['n', 'a', 'n'] : List CodePoint)) :
    (splitSign (sign ++ name)).2 = name := by
  rcases hsign with rfl | rfl | rfl
  · rw [List.nil_append]
    unfold splitSign
    split
    · cases hname
    · cases hname
    · rfl
  · rfl
  · rfl

/-- The texts that are read as the undefined number are those that spell it. -/
theorem readFloat_eq_undefined_iff {t : Text} : readFloat t = .ok .undefined ↔ SpellsUndefined t := by
  rw [readFloat_eq_undefined_iff_name]
  constructor
  · intro hname
    obtain ⟨before, after, ht, hbefore, hafter⟩ := exists_padding t.toList
    obtain ⟨sign, hsign, hstrip⟩ := exists_splitSign (strip t.toList)
    exact ⟨before, sign, (splitSign (strip t.toList)).2, after, hstrip ▸ ht,
      List.forall_mem_append.mpr ⟨hbefore, hafter⟩, hsign, hname⟩
  · rintro ⟨before, sign, name, after, ht, hpadding, hsign, hname⟩
    obtain ⟨hbefore, hafter⟩ := List.forall_mem_append.mp hpadding
    have hstrip : strip t.toList = sign ++ name := by
      obtain ⟨x, _, rfl, hx, hrest⟩ := List.map_eq_cons_iff.mp hname
      obtain ⟨y, _, rfl, -, hrest⟩ := List.map_eq_cons_iff.mp hrest
      obtain ⟨z, _, rfl, hz, hrest⟩ := List.map_eq_cons_iff.mp hrest
      obtain rfl := List.map_eq_nil_iff.mp hrest
      rw [ht]
      refine strip_pad hbefore hafter ?_ ⟨sign ++ [x, y], z, by simp, isPadding_of_toLower hz (by decide)⟩
      rcases hsign with rfl | rfl | rfl
      · exact ⟨x, [y, z], rfl, isPadding_of_toLower hx (by decide)⟩
      · exact ⟨'+', [x, y, z], rfl, by decide⟩
      · exact ⟨'-', [x, y, z], rfl, by decide⟩
    rw [hstrip, splitSign_append hsign hname, hname]

end Literal

end LintPreview
