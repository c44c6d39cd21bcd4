import LintPreview.Proofs.Json.Number
import LintPreview.Proofs.Run.Surroundings
import LintPreview.Schema.Time

/-!
# Moments in snapshots

* `Moment.takeNumber?_padded`: a number with zeros in front is read from as many digits as it is written with.
* `Moment.ofText_snapshotText`: the text of a universal time is read as this time.
-/

namespace LintPreview.Moment

open Binary64 (padded)
open Json (AreDigits areDigits_decimalDigits areDigits_replicate_zero decimalDigits digitsValue padded_eq)

/-! ### Numbers of a fixed width -/

theorem areDigits_padded (width n : ℕ) : AreDigits (padded width n) := by
  rw [padded_eq]
  exact (areDigits_replicate_zero _).append (areDigits_decimalDigits n)

theorem not_mem_pad {c : CodePoint} (h : c.isDigit = false) (width n : ℕ) : c ∉ (pad width n).toList := by
  intro hc
  rw [pad, Text.toList_ofList] at hc
  rw [areDigits_padded width n c hc] at h
  cases h

theorem digitsValue_padded (width n : ℕ) : digitsValue (padded width n) = n := by
  rw [padded_eq, Json.digitsValue_append, Json.digitsValue_replicate_zero, Json.digitsValue_decimalDigits, zero_mul,
    zero_add]

theorem length_padded {width n : ℕ} (hwidth : 0 < width) (hn : n < 10 ^ width) : (padded width n).length = width := by
  have hle : (decimalDigits n).length ≤ width := by
    rw [Json.length_decimalDigits]
    exact (Nat.length_toDigits_le_iff (by norm_num) hwidth).mpr hn
  rw [padded_eq, List.length_append, List.length_replicate]
  omega

theorem takeNumber?_append {ds : List CodePoint} (hd : AreDigits ds) (sofar : ℕ) (rest : List CodePoint) :
    takeNumber? ds.length sofar (ds ++ rest) = some (sofar * 10 ^ ds.length + digitsValue ds, rest) := by
  induction ds generalizing sofar with
  | nil => simp [takeNumber?, digitsValue]
  | cons c ds ih =>
    have hc : c.isDigit = true := hd c List.mem_cons_self
    have hvalue := Json.digitsValue_append [c] ds
    rw [List.length_cons, List.cons_append, takeNumber?, if_pos hc, ih fun x hx => hd x (List.mem_cons_of_mem c hx)]
    rw [← List.singleton_append, hvalue, show digitsValue [c] = c.toNat - 48 by simp [digitsValue]]
    congr 2
    rw [pow_succ]
    ring

/-- A number with zeros in front is read from as many digits as it is written with. -/
theorem takeNumber?_padded (width n : ℕ) (hwidth : 0 < width) (hn : n < 10 ^ width) (rest : List CodePoint) :
    takeNumber? width 0 (padded width n ++ rest) = some (n, rest) := by
  have h := takeNumber?_append (areDigits_padded width n) 0 rest
  rw [length_padded hwidth hn, digitsValue_padded, zero_mul, zero_add] at h
  exact h

/-! ### Days and times -/

theorem takeDay?_dayText {d : Day} (year : d.year ≤ 9999) (month : 1 ≤ d.month ∧ d.month ≤ 12)
    (day : 1 ≤ d.day ∧ d.day ≤ Day.monthLength d.year d.month) (rest : List CodePoint) :
    takeDay? ((dayText d).toList ++ rest) = some (d, rest) := by
  have hlength : Day.monthLength d.year d.month ≤ 31 := by
    unfold Day.monthLength
    split_ifs <;> omega
  have h₁ := takeNumber?_padded 4 d.year (by omega) (by omega)
    (.char '-' :: (padded 2 d.month ++ .char '-' :: (padded 2 d.day ++ rest)))
  have h₂ := takeNumber?_padded 2 d.month (by omega) (by omega)
    (.char '-' :: (padded 2 d.day ++ rest))
  have h₃ := takeNumber?_padded 2 d.day (by omega) (by omega) rest
  have htext : (dayText d).toList ++ rest =
      padded 4 d.year ++ .char '-' :: (padded 2 d.month ++ .char '-' :: (padded 2 d.day ++ rest)) := by
    have hmark : Text.toList "-" = [.char '-'] := rfl
    simp only [dayText, pad, Text.toList_append, Text.toList_ofList, hmark, List.append_assoc, List.cons_append,
      List.nil_append]
  have hvalid : ¬ (d.month = 0 ∨ 12 < d.month ∨ d.day = 0 ∨ Day.monthLength d.year d.month < d.day) := by omega
  rw [htext]
  simp only [takeDay?, h₁, h₂, h₃, takeMark?, Option.bind_eq_bind, Option.bind_some, if_true, if_neg hvalid]

theorem microOfDigits_of_length {ds : List CodePoint} (h : ds.length = 6) : microOfDigits ds = digitsValue ds := by
  obtain ⟨a, ds, rfl⟩ := List.exists_cons_of_length_eq_add_one h
  obtain ⟨b, ds, rfl⟩ := List.exists_cons_of_length_eq_add_one (Nat.succ.inj h)
  obtain ⟨c, ds, rfl⟩ := List.exists_cons_of_length_eq_add_one (Nat.succ.inj (Nat.succ.inj h))
  simp only [List.length_cons] at h
  obtain ⟨d, e, f, rfl⟩ := List.length_eq_three.mp (Nat.succ.inj (Nat.succ.inj (Nat.succ.inj h)))
  rfl

theorem takeFraction?_padded {micro : ℕ} (h : micro < 1000000) {rest : List CodePoint} (hr : Json.EndsDigits rest) :
    takeFraction? (.char '.' :: (padded 6 micro ++ rest)) = some (micro, rest) := by
  have hlength : (padded 6 micro).length = 6 := length_padded (by omega) (by omega)
  obtain ⟨htake, hdrop⟩ := Json.digits_append (areDigits_padded 6 micro) hr
  have hempty : ¬ (padded 6 micro).isEmpty = true := by
    rw [List.isEmpty_iff_length_eq_zero]
    omega
  unfold Json.digits at htake
  unfold Json.afterDigits at hdrop
  rw [takeFraction?, if_pos (.inl rfl)]
  simp only [htake, hdrop, if_neg hempty, microOfDigits_of_length hlength, digitsValue_padded]

theorem takeClock?_clockText {c : Clock} (hour : c.hour < 24) (minute : c.minute < 60) (second : c.second < 60)
    (micro : c.micro < 1000000) {rest : List CodePoint} (hr : Json.EndsDigits rest)
    (hfraction : takeFraction? rest = some (0, rest)) :
    takeClock? ((clockText c).toList ++ rest) = some (c, rest) := by
  have hmark : Text.toList ":" = [.char ':'] := rfl
  have htext : ∃ tail, (clockText c).toList ++ rest =
      padded 2 c.hour ++ .char ':' :: (padded 2 c.minute ++ .char ':' :: (padded 2 c.second ++ tail)) ∧
      takeFraction? tail = some (c.micro, rest) := by
    by_cases h0 : c.micro = 0
    · refine ⟨rest, ?_, by rw [hfraction, h0]⟩
      have hempty : Text.empty.toList = [] := rfl
      simp only [clockText, if_pos h0, pad, Text.toList_append, Text.toList_ofList, hmark, hempty, List.append_assoc,
        List.cons_append, List.nil_append]
    · refine ⟨.char '.' :: (padded 6 c.micro ++ rest), ?_, takeFraction?_padded micro hr⟩
      have hpoint : Text.toList "." = [.char '.'] := rfl
      simp only [clockText, if_neg h0, pad, Text.toList_append, Text.toList_ofList, hmark, hpoint, List.append_assoc,
        List.cons_append, List.nil_append]
  obtain ⟨tail, htext, htail⟩ := htext
  have h₁ := takeNumber?_padded 2 c.hour (by omega) (by omega)
    (.char ':' :: (padded 2 c.minute ++ .char ':' :: (padded 2 c.second ++ tail)))
  have h₂ := takeNumber?_padded 2 c.minute (by omega) (by omega)
    (.char ':' :: (padded 2 c.second ++ tail))
  have h₃ := takeNumber?_padded 2 c.second (by omega) (by omega) tail
  have hvalid : ¬ (23 < c.hour ∨ 59 < c.minute) := by omega
  have hvalid' : ¬ 59 < c.second := by omega
  rw [htext]
  simp only [takeClock?, h₁, h₂, h₃, htail, takeMark?, Option.bind_eq_bind, Option.bind_some, if_true, if_neg hvalid,
    if_neg hvalid']

/-! ### Moments -/

/-- The text of a universal time is read as this time. -/
theorem ofText_snapshotText {m : Moment} (h : m.IsUniversal) : ofText m.snapshotText = .ok m := by
  obtain @⟨d, c, year, month, day, hour, minute, second, micro⟩ := h
  have hZ : Json.EndsDigits [.char 'Z'] := Json.endsDigits_cons _ rfl
  have hday := takeDay?_dayText year.2 month day (.char 'T' :: ((clockText c).toList ++ [.char 'Z']))
  have hclock := takeClock?_clockText hour minute second micro hZ rfl
  have htext : (snapshotText (.time d c (some 0))).toList =
      (dayText d).toList ++ .char 'T' :: ((clockText c).toList ++ [.char 'Z']) := by
    have hT : Text.toList "T" = [.char 'T'] := rfl
    have hZ : Text.toList "Z" = [.char 'Z'] := rfl
    simp only [snapshotText, Text.toList_append, hT, hZ, List.append_assoc, List.cons_append, List.nil_append]
  have hread : ofDayText? (snapshotText (.time d c (some 0))).toList = some (.time d c (some 0)) := by
    rw [htext]
    simp only [ofDayText?, hday, Option.bind_eq_bind, Option.bind_some]
    rw [if_pos (by decide), hclock]
    rfl
  have hyear : d.year ≠ 0 := by omega
  rw [ofText, hread]
  simp only [inCalendar, if_neg hyear]

theorem isWhole_append (s t : Text) : (s ++ t).isWhole = (s.isWhole && t.isWhole) := List.all_append

theorem isWhole_pad (width n : ℕ) : (pad width n).isWhole = true := by
  rw [Text.isWhole, List.all_eq_true]
  intro c hc
  have hdigit := areDigits_padded width n c hc
  cases c with
  | char c => rfl
  | half h => cases hdigit

theorem isWhole_snapshotText {m : Moment} (h : m.IsUniversal) : m.snapshotText.isWhole = true := by
  obtain @⟨d, c, -⟩ := h
  have hmarks : ∀ s ∈ (["-", ":", "T", "Z", "."] : List Text), s.isWhole = true := by decide
  have hfraction : (if c.micro = 0 then Text.empty else "." ++ pad 6 c.micro).isWhole = true := by
    split
    · rfl
    · rw [isWhole_append, hmarks "." (by decide), isWhole_pad]
      rfl
  simp only [snapshotText, dayText, clockText, isWhole_append, isWhole_pad, hfraction, hmarks "-" (by decide),
    hmarks ":" (by decide), hmarks "T" (by decide), hmarks "Z" (by decide), Bool.and_self]

end LintPreview.Moment
