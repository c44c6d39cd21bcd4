import LintPreview.Proofs.Json.Pretty
import LintPreview.Proofs.Json.Written

/-!
# JSON text that is written but cannot be read

* `Json.IsRegular`: a value with numbers in the usual form and no key twice. Its whole numbers may have any length.
* `Json.isSound_iff`: it is as it is read from a text if they are not too long.
* `Json.IsReadable`: a value as it is read from a text, nested no deeper than allowed.
* `Json.readValue_prettyChars_of_unreadable`: reading any other value stops.
* `Json.read_pretty_of_unreadable`: the same for whole texts.
-/

namespace LintPreview.Json

/-- A value with numbers in the usual form, and without a key that occurs twice. -/
inductive IsRegular : Json → Prop where
  | null : IsRegular .null
  | bool (b : Bool) : IsRegular (.bool b)
  | int (i : ℤ) : IsRegular (.int i)
  | float {x : Binary64} (usual : ∀ negative m e, x = .finite negative m e → Binary64.IsUsual m e) : IsRegular (.float x)
  | text (s : Text) : IsRegular (.text s)
  | list {items : List Json} (regular : ∀ v ∈ items, IsRegular v) : IsRegular (.list items)
  | object {entries : List (Text × Json)} (keys : (entries.map (·.1)).Nodup) (regular : ∀ e ∈ entries, IsRegular e.2) :
      IsRegular (.object entries)

/-- Whether a whole number has few enough digits to be read. -/
def isShort (i : ℤ) : Bool := i.natAbs < 10 ^ maxDecimalDigits

theorem isShort_iff {i : ℤ} : isShort i = true ↔ i.natAbs < 10 ^ maxDecimalDigits := by
  rw [isShort, decide_eq_true_iff]

theorem isPartwise_isRegular : IsPartwise fun _ v => v.IsRegular where
  null _ := .null
  bool _ b := .bool b
  text _ s := .text s
  list _ _ := ⟨fun h => by cases h; assumption, .list⟩
  object _ _ keys := ⟨fun h => by cases h; assumption, .object keys⟩

/-- A regular value is as it is read from a text if its whole numbers are not too long. -/
theorem isSound_iff {v : Json} : v.IsSound ↔ v.IsRegular ∧ v.allInts isShort = true := by
  have hints := isPartwise_allInts isShort
  constructor
  · intro h
    induction h with
    | null => exact ⟨.null, rfl⟩
    | bool b => exact ⟨.bool b, rfl⟩
    | int short =>
      refine ⟨.int _, ?_⟩
      rw [allInts]
      exact isShort_iff.mpr short
    | float usual => exact ⟨.float usual, rfl⟩
    | text s => exact ⟨.text s, rfl⟩
    | list _ ih => exact ⟨.list fun v hv => (ih v hv).1, (hints.list 0 _).mpr fun v hv => (ih v hv).2⟩
    | object keys _ ih =>
      exact ⟨.object keys fun e he => (ih e he).1, (hints.object 0 _ keys).mpr fun e he => (ih e he).2⟩
  · rintro ⟨h, hshort⟩
    induction h with
    | null => exact .null
    | bool b => exact .bool b
    | int i =>
      rw [allInts] at hshort
      exact .int (isShort_iff.mp hshort)
    | float usual => exact .float usual
    | text s => exact .text s
    | list _ ih => exact .list fun v hv => ih v hv ((hints.list 0 _).mp hshort v hv)
    | object keys _ ih => exact .object keys fun e he => ih e he ((hints.object 0 _ keys).mp hshort e he)

/-- A value as it is read from a text, nested `depth` times at most. -/
def IsReadable (depth : ℕ) (v : Json) : Prop := v.IsSound ∧ v.nesting ≤ depth

theorem isPartwise_isReadable : IsPartwise IsReadable := isPartwise_isSound.and isPartwise_nesting

/-! ### Whole numbers that are too long -/

theorem readMagnitude?_long (negative : Bool) {n : ℕ} {rest : List CodePoint} (hn : 10 ^ maxDecimalDigits ≤ n)
    (hr : EndsNumber rest) :
    ∃ digits, readMagnitude? negative (decimalDigits n ++ rest) = some (.error (.numberTooLong digits)) := by
  obtain ⟨hd, hne, h0⟩ := isWhole_decimalDigits n
  have hwhole := wholePart?_append hd hne h0 hr.endsDigits
  have hfraction := fractionPart_of_ne fun c hc => (hr c hc).2.1
  have hexponent := exponentPart?_of_ne fun c hc => (hr c hc).2.2
  have hlength : maxDecimalDigits < (decimalDigits n).length := by
    have hpos : 0 < n := (Nat.pow_pos (by decide)).trans_le hn
    have hlt := hn.trans_lt (Binary64.lt_ten_pow_digitCount n)
    rw [length_decimalDigits]
    exact (Nat.pow_lt_pow_iff_right (by norm_num)).mp hlt
  refine ⟨(decimalDigits n).length, ?_⟩
  simp only [readMagnitude?, hwhole, hfraction, hexponent, List.isEmpty_nil, if_true, if_pos hlength]

theorem readNumber_long {i : ℤ} {rest : List CodePoint} (hi : isShort i = false) (hr : EndsNumber rest) :
    ∃ digits, readNumber ((Text.ofInt i).toList ++ rest) = .error (.numberTooLong digits) := by
  have hn : 10 ^ maxDecimalDigits ≤ i.natAbs := by
    rw [← not_lt, ← isShort_iff, hi]
    nofun
  obtain ⟨digits, hread⟩ := readMagnitude?_long (decide (i < 0)) hn hr
  refine ⟨digits, ?_⟩
  rw [toList_ofInt, List.append_assoc, readNumber_of_magnitude hread]

theorem startsNumber_ofInt (i : ℤ) (rest : List CodePoint) : StartsNumber ((Text.ofInt i).toList ++ rest) := by
  have hdigits := areDigits_decimalDigits i.natAbs
  rw [toList_ofInt]
  cases hd : decimalDigits i.natAbs with
  | nil => exact absurd hd (decimalDigits_ne_nil _)
  | cons c cs =>
    rw [hd] at hdigits
    refine ⟨c, cs ++ rest, hdigits c List.mem_cons_self, ?_⟩
    split
    · exact .inr (by simp)
    · exact .inl (by simp)

/-! ### Values -/

/-- Reading stops without a value. -/
def Stops {α : Type} (read : Except JsonStop α) : Prop := ∃ stop, read = .error stop

theorem stops_bind {α β : Type} {x : Except JsonStop α} (hx : Stops x) (f : α → Except JsonStop β) :
    Stops (x >>= f) := by
  obtain ⟨stop, rfl⟩ := hx
  exact ⟨stop, rfl⟩

/-- The items of a list that cannot be read. -/
theorem readItems_head {fuel depth : ℕ} {cs : List CodePoint} (h : Stops (readValue fuel depth cs)) :
    Stops (readItems (fuel + 1) depth cs) := by
  rw [readItems]
  exact stops_bind h _

theorem readItems_tail {fuel depth : ℕ} {cs more : List CodePoint} {v : Json}
    (hv : readValue fuel depth cs = .ok (v, .char ',' :: more))
    (h : Stops (readItems fuel depth (skipSpace more))) : Stops (readItems (fuel + 1) depth cs) := by
  have hcomma : skipSpace (.char ',' :: more) = .char ',' :: more := rfl
  obtain ⟨stop, h⟩ := h
  refine ⟨stop, ?_⟩
  simp only [readItems, hv, bind, Except.bind, hcomma, h]

theorem readEntries_head {fuel depth : ℕ} {cs : List CodePoint} {k : Text} (hstart : skipSpace cs = cs)
    (h : Stops (readValue fuel depth cs)) :
    Stops (readEntries (fuel + 1) depth (quoteChars k.toList ++ .char ':' :: .char ' ' :: cs)) := by
  have hcolon : skipSpace (.char ':' :: .char ' ' :: cs) = .char ':' :: .char ' ' :: cs := rfl
  have hspace : skipSpace (.char ' ' :: cs) = cs := hstart
  obtain ⟨stop, h⟩ := h
  refine ⟨stop, ?_⟩
  rw [quoteChars_append]
  simp only [readEntries, readCodes_quoteChars, bind, Except.bind, hcolon, hspace, h]

theorem readEntries_tail {fuel depth : ℕ} {cs more : List CodePoint} {k : Text} {v : Json}
    (hstart : skipSpace cs = cs) (hv : readValue fuel depth cs = .ok (v, .char ',' :: more))
    (h : Stops (readEntries fuel depth (skipSpace more))) :
    Stops (readEntries (fuel + 1) depth (quoteChars k.toList ++ .char ':' :: .char ' ' :: cs)) := by
  have hcolon : skipSpace (.char ':' :: .char ' ' :: cs) = .char ':' :: .char ' ' :: cs := rfl
  have hspace : skipSpace (.char ' ' :: cs) = cs := hstart
  have hcomma : skipSpace (.char ',' :: more) = .char ',' :: more := rfl
  obtain ⟨stop, h⟩ := h
  refine ⟨stop, ?_⟩
  rw [quoteChars_append]
  simp only [readEntries, readCodes_quoteChars, bind, Except.bind, hcolon, hspace, hv, hcomma, h]

theorem readValue_list_stops {fuel depth : ℕ} {cs : List CodePoint} (hstart : StartsValue (skipSpace cs))
    (h : Stops (readItems fuel depth (skipSpace cs))) :
    Stops (readValue (fuel + 1) (depth + 1) (.char '[' :: cs)) := by
  rw [readValue_bracket hstart]
  exact stops_bind h _

theorem readValue_object_stops {fuel depth : ℕ} {cs : List CodePoint} (hstart : StartsValue (skipSpace cs))
    (h : Stops (readEntries fuel depth (skipSpace cs))) :
    Stops (readValue (fuel + 1) (depth + 1) (.char '\x7b' :: cs)) := by
  rw [readValue_brace hstart]
  exact stops_bind h _

/-- A whole number that is too long stops the reading. -/
theorem readValue_ofInt_stops {i : ℤ} {fuel depth : ℕ} {rest : List CodePoint} (hlong : isShort i = false)
    (hfuel : (Text.ofInt i).toList.length ≤ fuel) (hr : EndsNumber rest) :
    Stops (readValue fuel depth ((Text.ofInt i).toList ++ rest)) := by
  have hpos : 0 < (Text.ofInt i).toList.length := by
    obtain ⟨c, rest', -, h⟩ := startsNumber_ofInt i []
    rw [List.append_nil] at h
    rcases h with h | h <;> (rw [h]; exact Nat.succ_pos _)
  obtain ⟨digits, hread⟩ := readNumber_long hlong hr
  refine ⟨.numberTooLong digits, ?_⟩
  rw [(startsNumber_ofInt i rest).readValue (hpos.trans_le hfuel), hread]

mutual

/-- Reading a value stops where a whole number in it is too long, or a collection in it nested too deep. -/
theorem readValue_prettyChars_of_unreadable : ∀ (v : Json) (level fuel depth : ℕ) (rest : List CodePoint), v.IsRegular →
    ¬ v.IsReadable depth → (prettyChars level v).length ≤ fuel → EndsNumber rest →
    StartsValue (prettyChars level v ++ rest) ∧ Stops (readValue fuel depth (prettyChars level v ++ rest))
  | .list [], level, fuel, depth, rest, _, hs, hfuel, _ => by
    obtain ⟨fuel, rfl⟩ : ∃ n, fuel = n + 1 := Nat.exists_eq_succ_of_ne_zero (by rintro rfl; cases hfuel)
    cases depth with
    | zero => exact ⟨⟨_, _, rfl, by decide⟩, .tooDeep, rfl⟩
    | succ depth => exact absurd ((isPartwise_isReadable.list depth []).mpr (List.forall_mem_nil _)) hs
  | .object [], level, fuel, depth, rest, _, hs, hfuel, _ => by
    obtain ⟨fuel, rfl⟩ : ∃ n, fuel = n + 1 := Nat.exists_eq_succ_of_ne_zero (by rintro rfl; cases hfuel)
    cases depth with
    | zero => exact ⟨⟨_, _, rfl, by decide⟩, .tooDeep, rfl⟩
    | succ depth => exact absurd ((isPartwise_isReadable.object depth [] List.nodup_nil).mpr (List.forall_mem_nil _)) hs
  | .list (v :: vs), level, fuel, depth, rest, hv, hs, hfuel, _ => by
    cases hv with
    | list regular =>
      rw [prettyChars, List.length_cons, List.length_append, List.length_append] at hfuel
      obtain ⟨fuel, rfl⟩ : ∃ n, fuel = n + 1 := Nat.exists_eq_succ_of_ne_zero (by omega)
      have hchars : prettyChars level (.list (v :: vs)) ++ rest =
          .char '[' :: (prettyItems (level + 1) (v :: vs) ++ (newLine level ++ .char ']' :: rest)) := by
        simp [prettyChars]
      rw [hchars]
      refine ⟨⟨_, _, rfl, by decide⟩, ?_⟩
      cases depth with
      | zero => exact ⟨.tooDeep, rfl⟩
      | succ depth =>
        obtain ⟨hstart, hitems⟩ := readItems_prettyItems_of_unreadable (v :: vs) (level + 1) level fuel depth rest
          regular (fun h => hs ((isPartwise_isReadable.list depth _).mpr h)) (by omega)
        exact readValue_list_stops hstart hitems
  | .object (e :: es), level, fuel, depth, rest, hv, hs, hfuel, _ => by
    cases hv with
    | object keys regular =>
      rw [prettyChars, List.length_cons, List.length_append, List.length_append] at hfuel
      obtain ⟨fuel, rfl⟩ : ∃ n, fuel = n + 1 := Nat.exists_eq_succ_of_ne_zero (by omega)
      have hchars : prettyChars level (.object (e :: es)) ++ rest =
          .char '\x7b' :: (prettyEntries (level + 1) (e :: es) ++ (newLine level ++ .char '\x7d' :: rest)) := by
        simp [prettyChars]
      rw [hchars]
      refine ⟨⟨_, _, rfl, by decide⟩, ?_⟩
      cases depth with
      | zero => exact ⟨.tooDeep, rfl⟩
      | succ depth =>
        obtain ⟨hstart, hentries⟩ := readEntries_prettyEntries_of_unreadable (e :: es) (level + 1) level fuel depth rest
          regular (fun h => hs ((isPartwise_isReadable.object depth _ keys).mpr h)) (by omega)
        exact readValue_object_stops hstart hentries
  | .int i, level, fuel, depth, rest, _, hs, hfuel, hr => by
    have hlong : isShort i = false := by
      rw [← Bool.not_eq_true]
      exact fun h => hs ⟨.int (isShort_iff.mp h), Nat.zero_le depth⟩
    exact ⟨(startsNumber_ofInt i rest).startsValue, readValue_ofInt_stops hlong hfuel hr⟩
  | .null, _, _, depth, _, _, hs, _, _ => absurd ⟨.null, Nat.zero_le depth⟩ hs
  | .bool b, _, _, depth, _, _, hs, _, _ => absurd ⟨.bool b, Nat.zero_le depth⟩ hs
  | .float _, _, _, depth, _, hv, hs, _, _ => by
    cases hv with
    | float usual => exact absurd ⟨.float usual, Nat.zero_le depth⟩ hs
  | .text s, _, _, depth, _, _, hs, _, _ => absurd ⟨.text s, Nat.zero_le depth⟩ hs

theorem readItems_prettyItems_of_unreadable : ∀ (items : List Json) (level l fuel depth : ℕ) (rest : List CodePoint),
    (∀ v ∈ items, v.IsRegular) → (¬ ∀ v ∈ items, v.IsReadable depth) → (prettyItems level items).length ≤ fuel →
    StartsValue (skipSpace (prettyItems level items ++ (newLine l ++ .char ']' :: rest))) ∧
      Stops (readItems fuel depth (skipSpace (prettyItems level items ++ (newLine l ++ .char ']' :: rest))))
  | [], _, _, _, _, _, _, hs, _ => absurd (List.forall_mem_nil _) hs
  | [v], level, l, fuel, depth, rest, hv, hs, hfuel => by
    rw [prettyItems, List.length_append, newLine, List.length_cons] at hfuel
    obtain ⟨fuel, rfl⟩ : ∃ n, fuel = n + 1 := Nat.exists_eq_succ_of_ne_zero (by omega)
    obtain ⟨hstart, hread⟩ := readValue_prettyChars_of_unreadable v level fuel depth _
      (hv v List.mem_cons_self) (fun h => hs (by simpa using h)) (by omega) (endsNumber_newLine l (.char ']' :: rest))
    rw [prettyItems, List.append_assoc, skipSpace_newLine_append level (skipSpace_of_startsValue hstart)]
    exact ⟨hstart, readItems_head hread⟩
  | v :: w :: vs, level, l, fuel, depth, rest, hv, hs, hfuel => by
    rw [prettyItems, List.length_append, List.length_append, List.length_cons, newLine, List.length_cons] at hfuel
    obtain ⟨fuel, rfl⟩ : ∃ n, fuel = n + 1 := Nat.exists_eq_succ_of_ne_zero (by omega)
    rw [prettyItems, List.append_assoc, List.append_assoc, List.cons_append]
    have hcomma := endsNumber_comma (prettyItems level (w :: vs) ++ (newLine l ++ .char ']' :: rest))
    rw [List.forall_mem_cons, not_and_or] at hs
    by_cases hfirst : v.IsReadable depth
    · obtain ⟨hstart, hread⟩ := readValue_prettyChars v level fuel depth _ hfirst.1 (by omega) hfirst.2 hcomma
      obtain ⟨-, hrest⟩ := readItems_prettyItems_of_unreadable (w :: vs) level l fuel depth rest
        (fun x hx => hv x (List.mem_cons_of_mem v hx)) (hs.resolve_left (not_not_intro hfirst)) (by omega)
      rw [skipSpace_newLine_append level (skipSpace_of_startsValue hstart)]
      exact ⟨hstart, readItems_tail hread hrest⟩
    · obtain ⟨hstart, hread⟩ := readValue_prettyChars_of_unreadable v level fuel depth _
        (hv v List.mem_cons_self) hfirst (by omega) hcomma
      rw [skipSpace_newLine_append level (skipSpace_of_startsValue hstart)]
      exact ⟨hstart, readItems_head hread⟩

theorem readEntries_prettyEntries_of_unreadable : ∀ (entries : List (Text × Json)) (level l fuel depth : ℕ)
    (rest : List CodePoint), (∀ e ∈ entries, e.2.IsRegular) → (¬ ∀ e ∈ entries, e.2.IsReadable depth) →
    (prettyEntries level entries).length ≤ fuel →
    StartsValue (skipSpace (prettyEntries level entries ++ (newLine l ++ .char '\x7d' :: rest))) ∧
      Stops (readEntries fuel depth (skipSpace (prettyEntries level entries ++ (newLine l ++ .char '\x7d' :: rest))))
  | [], _, _, _, _, _, _, hs, _ => absurd (List.forall_mem_nil _) hs
  | [(k, v)], level, l, fuel, depth, rest, hv, hs, hfuel => by
    rw [prettyEntries, List.length_append, List.length_append, List.length_cons, List.length_cons] at hfuel
    obtain ⟨fuel, rfl⟩ : ∃ n, fuel = n + 1 := Nat.exists_eq_succ_of_ne_zero (by omega)
    obtain ⟨hstart, hread⟩ := readValue_prettyChars_of_unreadable v level fuel depth _ (hv (k, v) List.mem_cons_self)
      (fun h => hs (by simpa using h)) (by omega) (endsNumber_newLine l (.char '\x7d' :: rest))
    rw [prettyEntries, List.append_assoc, List.append_assoc, List.cons_append, List.cons_append,
      skipSpace_newLine_append level (skipSpace_quoteChars k _)]
    exact ⟨startsValue_quoteChars k _, readEntries_head (skipSpace_of_startsValue hstart) hread⟩
  | (k, v) :: e :: es, level, l, fuel, depth, rest, hv, hs, hfuel => by
    rw [prettyEntries, List.length_append, List.length_append, List.length_cons, List.length_cons, List.length_append,
      List.length_cons] at hfuel
    obtain ⟨fuel, rfl⟩ : ∃ n, fuel = n + 1 := Nat.exists_eq_succ_of_ne_zero (by omega)
    rw [prettyEntries, List.append_assoc, List.append_assoc, List.cons_append, List.cons_append, List.append_assoc,
      List.cons_append, skipSpace_newLine_append level (skipSpace_quoteChars k _)]
    have hcomma := endsNumber_comma (prettyEntries level (e :: es) ++ (newLine l ++ .char '\x7d' :: rest))
    refine ⟨startsValue_quoteChars k _, ?_⟩
    rw [List.forall_mem_cons, not_and_or] at hs
    by_cases hfirst : v.IsReadable depth
    · obtain ⟨hstart, hread⟩ := readValue_prettyChars v level fuel depth _ hfirst.1 (by omega) hfirst.2 hcomma
      obtain ⟨-, hrest⟩ := readEntries_prettyEntries_of_unreadable (e :: es) level l fuel depth rest
        (fun x hx => hv x (List.mem_cons_of_mem _ hx)) (hs.resolve_left (not_not_intro hfirst)) (by omega)
      exact readEntries_tail (skipSpace_of_startsValue hstart) hread hrest
    · obtain ⟨hstart, hread⟩ := readValue_prettyChars_of_unreadable v level fuel depth _
        (hv (k, v) List.mem_cons_self) hfirst (by omega) hcomma
      exact readEntries_head (skipSpace_of_startsValue hstart) hread

end

/-- A whole text with a whole number that is too long, or that is nested too deep, is not read. -/
theorem read_pretty_of_unreadable {v : Json} (hv : v.IsRegular) (hs : ¬ v.IsReadable maxDepth) :
    ∃ e, read v.pretty = .error e := by
  obtain ⟨hstart, stop, hread⟩ := readValue_prettyChars_of_unreadable v 0 (2 * (v.prettyChars 0).length + 2) _ [] hv hs
    (by omega) (by rintro c ⟨⟩)
  rw [List.append_nil] at hstart hread
  have hall : readAll (v.prettyChars 0) = .error stop := by
    rw [readAll_of_startsValue hstart, hread]
    rfl
  rw [read, pretty, Text.toList_ofList, readChars, hall]
  cases stop <;> exact ⟨_, rfl⟩

end LintPreview.Json
