import LintPreview.Json.Reader
import LintPreview.Json.Writer
import LintPreview.Proofs.Json.Number
import LintPreview.Proofs.Json.Written
import Mathlib.Data.Nat.Notation
import Mathlib.Tactic.SplitIfs

/-!
# JSON text is read as it was written

* `Json.readCodes_quoteChars`: a text in quotes is read as it was written, code point by code point
  (`Json.readCodes_escapeChar`).
* `Json.IsSound`: a value as it is read from a text: no number is out of the ordinary, and no key occurs twice.
* `Json.readValue_prettyChars`: such a value is read as it was written, with numbers that are not finite as `null`.
* `Json.read_pretty`: the same for whole texts.
-/

namespace LintPreview.Json

/-! ### Escapes by number -/

theorem hexValue?_hexDigit {d : ℕ} (hd : d < 16) : Text.hexValue? (Text.hexDigit d) = some d := by
  have h : ∀ d < 16, Text.hexValue? (Text.hexDigit d) = some d := by decide
  exact h d hd

theorem hexFour?_toHex {n : ℕ} (hn : n < 0x10000) {rest : List CodePoint} (hrest : rest ≠ []) :
    hexFour? (Text.toHex 4 n ++ rest) = some (n, rest) := by
  obtain ⟨c, rest, rfl⟩ := List.exists_cons_of_ne_nil hrest
  have h₁ := hexValue?_hexDigit (d := n / 16 / 16 / 16 % 16) (by omega)
  have h₂ := hexValue?_hexDigit (d := n / 16 / 16 % 16) (by omega)
  have h₃ := hexValue?_hexDigit (d := n / 16 % 16) (by omega)
  have h₄ := hexValue?_hexDigit (d := n % 16) (by omega)
  simp only [Text.toHex, List.nil_append, List.cons_append, hexFour?, h₁, h₂, h₃, h₄]
  congr 2
  omega

/-- Only the first half of a surrogate pair is read together with what follows it. -/
theorem lowHalf?_of_lt {n : ℕ} (hn : n < 0xD800) (cs : List CodePoint) : lowHalf? n cs = none := by
  unfold lowHalf?
  split
  · rw [if_neg]
    simp [isHighHalf]
    omega
  · rfl

/-! ### Texts in quotes -/

variable (opened : List CodePoint) {rest : List CodePoint}

/-- One code point in front of what is read from `rest`. -/
def readBehind (c : CodePoint) (rest : List CodePoint) : Except JsonStop (List CodePoint × List CodePoint) :=
  (readCodes opened rest).map fun x => (c :: x.1, x.2)

theorem bind_eq_readBehind (c : CodePoint) (rest : List CodePoint) :
    (do
      let (cs, tail) ← readCodes opened rest
      return (c :: cs, tail)) = readBehind opened c rest := by
  unfold readBehind
  cases readCodes opened rest <;> rfl

theorem readCodes_simpleEscape {c e : CodePoint} (hu : c ≠ .char 'u') (he : simpleEscape? c = some e) :
    readCodes opened (.char '\\' :: c :: rest) = readBehind opened e rest := by
  rw [readCodes, he]
  · exact bind_eq_readBehind opened e rest
  · exact hu

theorem readCodes_unitEscape {c : CodePoint} (hc : c.toNat < 0xD800) (hrest : rest ≠ []) :
    readCodes opened (unitEscape c ++ rest) = readBehind opened c rest := by
  have hfour := hexFour?_toHex (n := c.toNat) (by omega) hrest
  rw [unitEscape, List.cons_append, List.cons_append, readCodes]
  split
  · rename_i h
    rw [hfour] at h
    cases h
  · rename_i n rest' h
    rw [hfour] at h
    cases h
    split
    · rename_i h
      rw [lowHalf?_of_lt hc] at h
      cases h
    · rw [bind_eq_readBehind, CodePoint.ofNat_toNat]

theorem readCodes_plain {c : CodePoint} (hquote : c ≠ .char '"') (hback : c ≠ .char '\\') (hc : 0x20 ≤ c.toNat) :
    readCodes opened (c :: rest) = readBehind opened c rest := by
  rw [readCodes, if_neg (by omega)]
  · exact bind_eq_readBehind opened c rest
  · exact hquote
  · exact fun h _ => hback h
  · exact fun _ h _ => hback h
  · exact fun _ _ h _ => hback h

/-- What stands for a code point inside quotes is read as that code point. -/
theorem readCodes_escapeChar (c : CodePoint) (hrest : rest ≠ []) :
    readCodes opened (escapeChar c ++ rest) = readBehind opened c rest := by
  unfold escapeChar
  split_ifs with h₁ h₂ h₃ h₄ h₅ h₆ h₇ h₈
  · rw [h₁]
    exact readCodes_simpleEscape opened (by decide) rfl
  · rw [h₂]
    exact readCodes_simpleEscape opened (by decide) rfl
  · rw [h₃]
    exact readCodes_simpleEscape opened (by decide) rfl
  · rw [h₄]
    exact readCodes_simpleEscape opened (by decide) rfl
  · rw [h₅]
    exact readCodes_simpleEscape opened (by decide) rfl
  · rw [h₆]
    exact readCodes_simpleEscape opened (by decide) rfl
  · rw [h₇]
    exact readCodes_simpleEscape opened (by decide) rfl
  · exact readCodes_unitEscape opened (by omega) hrest
  · exact readCodes_plain opened h₁ h₂ (by omega)

/-- A text in quotes is read as it was written. -/
theorem readCodes_quoteChars (cs rest : List CodePoint) :
    readCodes opened (cs.flatMap escapeChar ++ .char '"' :: rest) = .ok (cs, rest) := by
  induction cs with
  | nil => rw [List.flatMap_nil, List.nil_append, readCodes]
  | cons c cs ih =>
    rw [List.flatMap_cons, List.append_assoc, readCodes_escapeChar opened c (by simp), readBehind, ih]
    rfl

end LintPreview.Json

namespace LintPreview

/-! ### Sound values -/

/-- Entries whose keys differ are collected as they are. -/
theorem collectEntries_of_nodup {α : Type} {entries : List (Text × α)} (h : (entries.map (·.1)).Nodup) :
    collectEntries entries = entries := by
  have hput : ∀ (es : List (Text × α)) (k : Text) (v : α), k ∉ es.map (·.1) → putEntry k v es = es ++ [(k, v)] := by
    intro es k v hk
    induction es with
    | nil => rfl
    | cons e es ih =>
      simp only [List.map_cons, List.mem_cons, not_or] at hk
      rw [putEntry, if_neg (Ne.symm hk.1), ih hk.2]
      rfl
  have hfold : ∀ es fs : List (Text × α), ((fs ++ es).map (·.1)).Nodup →
      es.foldl (fun acc e => putEntry e.1 e.2 acc) fs = fs ++ es := by
    intro es
    induction es with
    | nil => simp
    | cons e es ih =>
      intro fs h
      have hk : e.1 ∉ fs.map (·.1) := by
        intro hmem
        rw [List.map_append, List.nodup_append] at h
        exact h.2.2 _ hmem _ List.mem_cons_self rfl
      rw [List.foldl_cons, hput fs e.1 e.2 hk, ih _ (by simpa using h)]
      simp
  exact hfold entries [] h

namespace Json

/-- A value as it is read from a text. -/
inductive IsSound : Json → Prop where
  | null : IsSound .null
  | bool (b : Bool) : IsSound (.bool b)
  | int {i : ℤ} (short : i.natAbs < 10 ^ maxDecimalDigits) : IsSound (.int i)
  | float {x : Binary64} (usual : ∀ negative m e, x = .finite negative m e → Binary64.IsUsual m e) : IsSound (.float x)
  | text (s : Text) : IsSound (.text s)
  | list {items : List Json} (sound : ∀ v ∈ items, IsSound v) : IsSound (.list items)
  | object {entries : List (Text × Json)} (keys : (entries.map (·.1)).Nodup) (sound : ∀ e ∈ entries, IsSound e.2) :
      IsSound (.object entries)

theorem isPartwise_isSound : IsPartwise fun _ v => v.IsSound where
  null _ := .null
  bool _ b := .bool b
  text _ s := .text s
  list _ _ := ⟨fun h => by cases h; assumption, .list⟩
  object _ _ keys := ⟨fun h => by cases h; assumption, .object keys⟩

/-! ### The start of a value -/

/-- A text that starts with something other than a blank, the end of a collection, or a mark of the byte order. -/
def StartsValue (cs : List CodePoint) : Prop :=
  ∃ c rest, cs = c :: rest ∧ isSpace c = false ∧ c ≠ .char ']' ∧ c ≠ .char '\x7d' ∧ c ≠ .char '\uFEFF'

theorem skipSpace_of_startsValue {cs : List CodePoint} (h : StartsValue cs) : skipSpace cs = cs := by
  obtain ⟨c, rest, rfl, hspace, -⟩ := h
  rw [skipSpace, List.dropWhile_cons_of_neg (by simp [hspace])]

theorem skipSpace_newLine_append (level : ℕ) {cs : List CodePoint} (h : skipSpace cs = cs) :
    skipSpace (newLine level ++ cs) = cs := by
  unfold skipSpace newLine at *
  rw [List.dropWhile_append_of_pos]
  · exact h
  · intro c hc
    rcases List.mem_cons.mp hc with rfl | hc
    · rfl
    · rw [List.eq_of_mem_replicate hc]
      rfl

theorem startsValue_of_isDigit {c : CodePoint} (hc : c.isDigit = true) (rest : List CodePoint) :
    StartsValue (c :: rest) := by
  refine ⟨c, rest, rfl, ?_, ?_, ?_, ?_⟩
  · simp only [isSpace, Bool.or_eq_false_iff, beq_eq_false_iff_ne]
    refine ⟨⟨⟨?_, ?_⟩, ?_⟩, ?_⟩ <;> (rintro rfl; cases hc)
  all_goals
    rintro rfl
    cases hc

theorem exists_digit_of_readMagnitude? {negative : Bool} {cs : List CodePoint}
    {r : Except JsonStop (Json × List CodePoint)} (h : readMagnitude? negative cs = some r) :
    ∃ c rest, c.isDigit = true ∧ cs = c :: rest := by
  cases cs with
  | nil => cases h
  | cons c rest =>
    by_cases hc : c.isDigit = true
    · exact ⟨c, rest, hc, rfl⟩
    · have hzero : c ≠ .char '0' := by
        rintro rfl
        exact hc rfl
      have hwhole : wholePart? (c :: rest) = none := by
        rw [wholePart?, if_neg hc]
        exact hzero
      rw [readMagnitude?, hwhole] at h
      cases h

/-- A text that starts with a digit, perhaps behind a sign. -/
def StartsNumber (cs : List CodePoint) : Prop :=
  ∃ c rest, c.isDigit = true ∧ (cs = c :: rest ∨ cs = .char '-' :: c :: rest)

theorem startsNumber_of_readNumber {cs : List CodePoint} {result : Json × List CodePoint}
    (h : readNumber cs = .ok result) : StartsNumber cs := by
  unfold readNumber at h
  dsimp only at h
  split at h
  · rename_i r hr
    split at hr
    · obtain ⟨c, rest, hc, rfl⟩ := exists_digit_of_readMagnitude? hr
      exact ⟨c, rest, hc, .inr rfl⟩
    · obtain ⟨c, rest, hc, rfl⟩ := exists_digit_of_readMagnitude? hr
      exact ⟨c, rest, hc, .inl rfl⟩
  · cases h

theorem StartsNumber.startsValue {cs : List CodePoint} (h : StartsNumber cs) : StartsValue cs := by
  obtain ⟨c, rest, hc, rfl | rfl⟩ := h
  · exact startsValue_of_isDigit hc rest
  · exact ⟨.char '-', c :: rest, rfl, by decide⟩

/-- A number is no named value. -/
theorem StartsNumber.readName? {cs : List CodePoint} (h : StartsNumber cs) : readName? cs = none := by
  obtain ⟨c, rest, hc, rfl | rfl⟩ := h
  · have hne : ∀ d : Char, d.isDigit = false → CodePoint.char d ≠ c := by
      rintro d hd rfl
      rw [CodePoint.isDigit, hd] at hc
      cases hc
    simp [Json.readName?, names, Text.toList, Text.ofString, Text.ofChars, List.isPrefixOf, hne]
  · have hne : CodePoint.char 'I' ≠ c := by
      rintro rfl
      cases hc
    simp [Json.readName?, names, Text.toList, Text.ofString, Text.ofChars, List.isPrefixOf, hne]

/-- What starts with a digit is a number or nothing. -/
theorem StartsNumber.readValue {fuel depth : ℕ} {cs : List CodePoint} (h : StartsNumber cs) (hfuel : 0 < fuel) :
    readValue fuel depth cs = readNumber cs := by
  obtain ⟨fuel, rfl⟩ := Nat.exists_eq_add_of_lt hfuel
  have hname := h.readName?
  obtain ⟨c, rest, hc, hcs⟩ := h
  rw [Json.readValue, hname]
  all_goals
    rintro rest' rfl
    rcases hcs with hcs | hcs <;> cases hcs
    try cases hc

/-! ### Single values -/

theorem quoteChars_append (cs rest : List CodePoint) :
    quoteChars cs ++ rest = .char '"' :: (cs.flatMap escapeChar ++ .char '"' :: rest) := by
  simp [quoteChars]

theorem readValue_quoteChars {fuel depth : ℕ} (s : Text) (rest : List CodePoint) (hfuel : 0 < fuel) :
    readValue fuel depth (quoteChars s.toList ++ rest) = .ok (.text s, rest) := by
  obtain ⟨fuel, rfl⟩ := Nat.exists_eq_add_of_lt hfuel
  rw [quoteChars_append, readValue, readCodes_quoteChars]
  rfl

/-- A value that is no collection is read as it was written. -/
theorem readValue_leafChars {v : Json} {fuel depth : ℕ} {rest : List CodePoint} (hs : v.IsSound)
    (hv : v.isCollection = false) (hr : EndsNumber rest) (hfuel : 0 < fuel) :
    StartsValue (leafChars v ++ rest) ∧ readValue fuel depth (leafChars v ++ rest) = .ok (v.asWritten, rest) := by
  have hname : ∀ c cs w, StartsValue (c :: cs) → readName? (c :: cs) = some (w, rest) → c ≠ .char '"' → c ≠ .char '[' →
      c ≠ .char '\x7b' → StartsValue (c :: cs) ∧ readValue fuel depth (c :: cs) = .ok (w, rest) := by
    intro c cs w hstart hread h₁ h₂ h₃
    obtain ⟨fuel, rfl⟩ := Nat.exists_eq_add_of_lt hfuel
    refine ⟨hstart, ?_⟩
    rw [readValue, hread]
    · rintro rest' ⟨⟩
      exact h₁ rfl
    · rintro rest' ⟨⟩
      exact h₂ rfl
    · rintro rest' ⟨⟩
      exact h₃ rfl
  have hnull : StartsValue (Text.toList "null" ++ rest) ∧
      readValue fuel depth (Text.toList "null" ++ rest) = .ok (.null, rest) :=
    hname (.char 'n') _ .null ⟨_, _, rfl, by decide⟩ rfl (by decide) (by decide) (by decide)
  cases hs with
  | null => exact hnull
  | bool b =>
    cases b with
    | true => exact hname (.char 't') _ (.bool true) ⟨_, _, rfl, by decide⟩ rfl (by decide) (by decide) (by decide)
    | false => exact hname (.char 'f') _ (.bool false) ⟨_, _, rfl, by decide⟩ rfl (by decide) (by decide) (by decide)
  | int short =>
    have hread := readNumber_ofInt short hr
    have hstart := startsNumber_of_readNumber hread
    exact ⟨hstart.startsValue, (hstart.readValue hfuel).trans hread⟩
  | @float x usual =>
    cases x with
    | finite negative m e =>
      have hread := readNumber_floatChars negative (usual negative m e rfl) hr
      have hstart := startsNumber_of_readNumber hread
      exact ⟨hstart.startsValue, (hstart.readValue hfuel).trans hread⟩
    | infinite negative => exact hnull
    | undefined => exact hnull
  | text s => exact ⟨⟨.char '"', _, rfl, by decide⟩, readValue_quoteChars s rest hfuel⟩
  | list => cases hv
  | object => cases hv

theorem startsValue_quoteChars (s : Text) (rest : List CodePoint) : StartsValue (quoteChars s.toList ++ rest) :=
  ⟨.char '"', _, rfl, by decide⟩

theorem skipSpace_quoteChars (s : Text) (rest : List CodePoint) :
    skipSpace (quoteChars s.toList ++ rest) = quoteChars s.toList ++ rest :=
  skipSpace_of_startsValue (startsValue_quoteChars s rest)

theorem length_leafChars_pos {v : Json} (hs : v.IsSound) (hv : v.isCollection = false) : 0 < (leafChars v).length := by
  obtain ⟨⟨c, cs, h, -⟩, -⟩ :
      StartsValue (leafChars v ++ []) ∧ readValue 1 0 (leafChars v ++ []) = .ok (v.asWritten, []) :=
    readValue_leafChars hs hv (by rintro c ⟨⟩) Nat.one_pos
  rw [List.append_nil] at h
  rw [h, List.length_cons]
  omega

/-- The same with as much fuel as the value has characters. -/
theorem readValue_leaf {v : Json} {fuel depth : ℕ} {rest : List CodePoint} (hs : v.IsSound)
    (hv : v.isCollection = false) (hr : EndsNumber rest) (hfuel : (leafChars v).length ≤ fuel) :
    StartsValue (leafChars v ++ rest) ∧ readValue fuel depth (leafChars v ++ rest) = .ok (v.asWritten, rest) :=
  readValue_leafChars hs hv hr ((length_leafChars_pos hs hv).trans_le hfuel)

/-! ### Collections -/

theorem endsNumber_comma (rest : List CodePoint) : EndsNumber (.char ',' :: rest) := by
  rintro c ⟨⟩
  decide

theorem endsNumber_newLine (level : ℕ) (rest : List CodePoint) : EndsNumber (newLine level ++ rest) := by
  rintro c ⟨⟩
  decide

theorem skipSpace_newLine_cons (level : ℕ) {c : CodePoint} (hc : isSpace c = false) (rest : List CodePoint) :
    skipSpace (newLine level ++ c :: rest) = c :: rest := by
  apply skipSpace_newLine_append
  rw [skipSpace, List.dropWhile_cons_of_neg (by simp [hc])]

/-- The last item of a list. -/
theorem readItems_last {fuel depth : ℕ} {cs rest tail : List CodePoint} {v : Json}
    (hv : readValue fuel depth cs = .ok (v, rest)) (hrest : skipSpace rest = .char ']' :: tail) :
    readItems (fuel + 1) depth cs = .ok ([v], tail) := by
  simp only [readItems, hv, bind, Except.bind, hrest]
  rfl

/-- An item with others behind it. -/
theorem readItems_more {fuel depth : ℕ} {cs more tail : List CodePoint} {v : Json} {vs : List Json}
    (hv : readValue fuel depth cs = .ok (v, .char ',' :: more))
    (hvs : readItems fuel depth (skipSpace more) = .ok (vs, tail)) :
    readItems (fuel + 1) depth cs = .ok (v :: vs, tail) := by
  have hcomma : skipSpace (.char ',' :: more) = .char ',' :: more := rfl
  simp only [readItems, hv, bind, Except.bind, hcomma, hvs]
  rfl

/-- The last entry of an object. -/
theorem readEntries_last {fuel depth : ℕ} {cs rest tail : List CodePoint} {k : Text} {v : Json}
    (hstart : skipSpace cs = cs) (hv : readValue fuel depth cs = .ok (v, rest))
    (hrest : skipSpace rest = .char '\x7d' :: tail) :
    readEntries (fuel + 1) depth (quoteChars k.toList ++ .char ':' :: .char ' ' :: cs) = .ok ([(k, v)], tail) := by
  have hcolon : skipSpace (.char ':' :: .char ' ' :: cs) = .char ':' :: .char ' ' :: cs := rfl
  have hspace : skipSpace (.char ' ' :: cs) = cs := hstart
  rw [quoteChars_append]
  simp only [readEntries, readCodes_quoteChars, bind, Except.bind, hcolon, hspace, hv, hrest]
  rfl

/-- An entry with others behind it. -/
theorem readEntries_more {fuel depth : ℕ} {cs more tail : List CodePoint} {k : Text} {v : Json}
    {es : List (Text × Json)} (hstart : skipSpace cs = cs) (hv : readValue fuel depth cs = .ok (v, .char ',' :: more))
    (hes : readEntries fuel depth (skipSpace more) = .ok (es, tail)) :
    readEntries (fuel + 1) depth (quoteChars k.toList ++ .char ':' :: .char ' ' :: cs) = .ok ((k, v) :: es, tail) := by
  have hcolon : skipSpace (.char ':' :: .char ' ' :: cs) = .char ':' :: .char ' ' :: cs := rfl
  have hspace : skipSpace (.char ' ' :: cs) = cs := hstart
  have hcomma : skipSpace (.char ',' :: more) = .char ',' :: more := rfl
  rw [quoteChars_append]
  simp only [readEntries, readCodes_quoteChars, bind, Except.bind, hcolon, hspace, hv, hcomma, hes]
  rfl

/-- A list that is not empty is read item by item. -/
theorem readValue_bracket {fuel depth : ℕ} {cs : List CodePoint} (hstart : StartsValue (skipSpace cs)) :
    readValue (fuel + 1) (depth + 1) (.char '[' :: cs) = do
      let (items, tail) ← readItems fuel depth (skipSpace cs)
      return (.list items, tail) := by
  obtain ⟨c, inner, hcs, -, hclose, -⟩ := hstart
  rw [readValue]
  dsimp only
  split
  · rename_i h
    rw [hcs] at h
    cases h
    exact absurd rfl hclose
  · rfl

/-- An object that is not empty is read entry by entry. -/
theorem readValue_brace {fuel depth : ℕ} {cs : List CodePoint} (hstart : StartsValue (skipSpace cs)) :
    readValue (fuel + 1) (depth + 1) (.char '\x7b' :: cs) = do
      let (entries, tail) ← readEntries fuel depth (skipSpace cs)
      return (.object (collectEntries entries), tail) := by
  obtain ⟨c, inner, hcs, -, -, hclose, -⟩ := hstart
  rw [readValue]
  dsimp only
  split
  · rename_i h
    rw [hcs] at h
    cases h
    exact absurd rfl hclose
  · rfl

theorem readValue_list {fuel depth : ℕ} {cs tail : List CodePoint} {items : List Json}
    (hstart : StartsValue (skipSpace cs)) (hitems : readItems fuel depth (skipSpace cs) = .ok (items, tail)) :
    readValue (fuel + 1) (depth + 1) (.char '[' :: cs) = .ok (.list items, tail) := by
  rw [readValue_bracket hstart, hitems]
  rfl

theorem readValue_object {fuel depth : ℕ} {cs tail : List CodePoint} {entries : List (Text × Json)}
    (hstart : StartsValue (skipSpace cs)) (hentries : readEntries fuel depth (skipSpace cs) = .ok (entries, tail)) :
    readValue (fuel + 1) (depth + 1) (.char '\x7b' :: cs) = .ok (.object (collectEntries entries), tail) := by
  rw [readValue_brace hstart, hentries]
  rfl

theorem map_fst_writtenEntries (entries : List (Text × Json)) :
    (asWritten.writtenEntries entries).map (·.1) = entries.map (·.1) := by
  induction entries with
  | nil => rfl
  | cons e entries ih => rw [asWritten.writtenEntries, List.map_cons, List.map_cons, ih]

/-! ### Values -/

mutual

/-- A value is read as it was written. -/
theorem readValue_prettyChars : ∀ (v : Json) (level fuel depth : ℕ) (rest : List CodePoint), v.IsSound →
    (prettyChars level v).length ≤ fuel → v.nesting ≤ depth → EndsNumber rest →
    StartsValue (prettyChars level v ++ rest) ∧
      readValue fuel depth (prettyChars level v ++ rest) = .ok (v.asWritten, rest)
  | .list [], level, fuel, depth, rest, _, hfuel, hdepth, _ => by
    obtain ⟨fuel, rfl⟩ : ∃ n, fuel = n + 1 := Nat.exists_eq_succ_of_ne_zero (by rintro rfl; cases hfuel)
    rw [nesting] at hdepth
    obtain ⟨depth, rfl⟩ : ∃ n, depth = n + 1 := Nat.exists_eq_succ_of_ne_zero (by omega)
    exact ⟨⟨_, _, rfl, by decide⟩, by rw [show prettyChars level (.list []) = [.char '[', .char ']'] from rfl]; rfl⟩
  | .object [], level, fuel, depth, rest, _, hfuel, hdepth, _ => by
    obtain ⟨fuel, rfl⟩ : ∃ n, fuel = n + 1 := Nat.exists_eq_succ_of_ne_zero (by rintro rfl; cases hfuel)
    rw [nesting] at hdepth
    obtain ⟨depth, rfl⟩ : ∃ n, depth = n + 1 := Nat.exists_eq_succ_of_ne_zero (by omega)
    exact ⟨⟨_, _, rfl, by decide⟩,
      by rw [show prettyChars level (.object []) = [.char '\x7b', .char '\x7d'] from rfl]; rfl⟩
  | .list (v :: vs), level, fuel, depth, rest, hs, hfuel, hdepth, _ => by
    cases hs with
    | list sound =>
      rw [prettyChars, List.length_cons, List.length_append, List.length_append] at hfuel
      obtain ⟨fuel, rfl⟩ : ∃ n, fuel = n + 1 := Nat.exists_eq_succ_of_ne_zero (by omega)
      rw [nesting] at hdepth
      obtain ⟨depth, rfl⟩ : ∃ n, depth = n + 1 := Nat.exists_eq_succ_of_ne_zero (by omega)
      obtain ⟨hstart, hitems⟩ := readItems_prettyItems (v :: vs) (level + 1) level fuel depth rest
        (by simp) sound (by omega) (by omega)
      have hchars : prettyChars level (.list (v :: vs)) ++ rest =
          .char '[' :: (prettyItems (level + 1) (v :: vs) ++ (newLine level ++ .char ']' :: rest)) := by
        simp [prettyChars]
      rw [hchars]
      exact ⟨⟨_, _, rfl, by decide⟩, readValue_list hstart hitems⟩
  | .object (e :: es), level, fuel, depth, rest, hs, hfuel, hdepth, _ => by
    cases hs with
    | object keys sound =>
      rw [prettyChars, List.length_cons, List.length_append, List.length_append] at hfuel
      obtain ⟨fuel, rfl⟩ : ∃ n, fuel = n + 1 := Nat.exists_eq_succ_of_ne_zero (by omega)
      rw [nesting] at hdepth
      obtain ⟨depth, rfl⟩ : ∃ n, depth = n + 1 := Nat.exists_eq_succ_of_ne_zero (by omega)
      obtain ⟨hstart, hentries⟩ := readEntries_prettyEntries (e :: es) (level + 1) level fuel depth rest
        (by simp) sound (by omega) (by omega)
      have hchars : prettyChars level (.object (e :: es)) ++ rest =
          .char '\x7b' :: (prettyEntries (level + 1) (e :: es) ++ (newLine level ++ .char '\x7d' :: rest)) := by
        simp [prettyChars]
      have hkeys : ((asWritten.writtenEntries (e :: es)).map (·.1)).Nodup := by
        rw [map_fst_writtenEntries]
        exact keys
      rw [hchars, readValue_object hstart hentries, collectEntries_of_nodup hkeys]
      exact ⟨⟨_, _, rfl, by decide⟩, rfl⟩
  | .null, _, _, _, _, hs, hfuel, _, hr => readValue_leaf hs rfl hr hfuel
  | .bool _, _, _, _, _, hs, hfuel, _, hr => readValue_leaf hs rfl hr hfuel
  | .int _, _, _, _, _, hs, hfuel, _, hr => readValue_leaf hs rfl hr hfuel
  | .float _, _, _, _, _, hs, hfuel, _, hr => readValue_leaf hs rfl hr hfuel
  | .text _, _, _, _, _, hs, hfuel, _, hr => readValue_leaf hs rfl hr hfuel

/-- The items of a list are read as they were written. -/
theorem readItems_prettyItems : ∀ (items : List Json) (level l fuel depth : ℕ) (rest : List CodePoint), items ≠ [] →
    (∀ v ∈ items, v.IsSound) → (prettyItems level items).length ≤ fuel → nesting.listNesting items ≤ depth →
    StartsValue (skipSpace (prettyItems level items ++ (newLine l ++ .char ']' :: rest))) ∧
      readItems fuel depth (skipSpace (prettyItems level items ++ (newLine l ++ .char ']' :: rest))) =
        .ok (asWritten.writtenItems items, rest)
  | [], _, _, _, _, _, hne, _, _, _ => absurd rfl hne
  | [v], level, l, fuel, depth, rest, _, hs, hfuel, hdepth => by
    rw [prettyItems, List.length_append, newLine, List.length_cons] at hfuel
    obtain ⟨fuel, rfl⟩ : ∃ n, fuel = n + 1 := Nat.exists_eq_succ_of_ne_zero (by omega)
    rw [nesting.listNesting] at hdepth
    obtain ⟨hstart, hv⟩ := readValue_prettyChars v level fuel depth _
      (hs v List.mem_cons_self) (by omega) (by omega) (endsNumber_newLine l (.char ']' :: rest))
    rw [prettyItems, List.append_assoc, skipSpace_newLine_append level (skipSpace_of_startsValue hstart)]
    exact ⟨hstart, readItems_last hv (skipSpace_newLine_cons l rfl rest)⟩
  | v :: w :: vs, level, l, fuel, depth, rest, _, hs, hfuel, hdepth => by
    rw [prettyItems, List.length_append, List.length_append, List.length_cons, newLine, List.length_cons] at hfuel
    obtain ⟨fuel, rfl⟩ : ∃ n, fuel = n + 1 := Nat.exists_eq_succ_of_ne_zero (by omega)
    rw [nesting.listNesting] at hdepth
    obtain ⟨hstart, hv⟩ := readValue_prettyChars v level fuel depth _
      (hs v List.mem_cons_self) (by omega) (by omega)
      (endsNumber_comma (prettyItems level (w :: vs) ++ (newLine l ++ .char ']' :: rest)))
    obtain ⟨-, hvs⟩ := readItems_prettyItems (w :: vs) level l fuel depth rest
      (by simp) (fun x hx => hs x (List.mem_cons_of_mem v hx)) (by omega) (by omega)
    rw [prettyItems, List.append_assoc, List.append_assoc, List.cons_append,
      skipSpace_newLine_append level (skipSpace_of_startsValue hstart)]
    exact ⟨hstart, readItems_more hv hvs⟩

/-- The entries of an object are read as they were written. -/
theorem readEntries_prettyEntries : ∀ (entries : List (Text × Json)) (level l fuel depth : ℕ) (rest : List CodePoint),
    entries ≠ [] → (∀ e ∈ entries, e.2.IsSound) → (prettyEntries level entries).length ≤ fuel →
    nesting.entriesNesting entries ≤ depth →
    StartsValue (skipSpace (prettyEntries level entries ++ (newLine l ++ .char '\x7d' :: rest))) ∧
      readEntries fuel depth (skipSpace (prettyEntries level entries ++ (newLine l ++ .char '\x7d' :: rest))) =
        .ok (asWritten.writtenEntries entries, rest)
  | [], _, _, _, _, _, hne, _, _, _ => absurd rfl hne
  | [(k, v)], level, l, fuel, depth, rest, _, hs, hfuel, hdepth => by
    rw [prettyEntries, List.length_append, List.length_append, List.length_cons, List.length_cons] at hfuel
    obtain ⟨fuel, rfl⟩ : ∃ n, fuel = n + 1 := Nat.exists_eq_succ_of_ne_zero (by omega)
    rw [nesting.entriesNesting] at hdepth
    obtain ⟨hstart, hv⟩ := readValue_prettyChars v level fuel depth _
      (hs (k, v) List.mem_cons_self) (by omega) (by omega) (endsNumber_newLine l (.char '\x7d' :: rest))
    rw [prettyEntries, List.append_assoc, List.append_assoc, List.cons_append, List.cons_append,
      skipSpace_newLine_append level (skipSpace_quoteChars k _)]
    exact ⟨startsValue_quoteChars k _,
      readEntries_last (skipSpace_of_startsValue hstart) hv (skipSpace_newLine_cons l rfl rest)⟩
  | (k, v) :: e :: es, level, l, fuel, depth, rest, _, hs, hfuel, hdepth => by
    rw [prettyEntries, List.length_append, List.length_append, List.length_cons, List.length_cons, List.length_append,
      List.length_cons] at hfuel
    obtain ⟨fuel, rfl⟩ : ∃ n, fuel = n + 1 := Nat.exists_eq_succ_of_ne_zero (by omega)
    rw [nesting.entriesNesting] at hdepth
    obtain ⟨hstart, hv⟩ := readValue_prettyChars v level fuel depth _
      (hs (k, v) List.mem_cons_self) (by omega) (by omega)
      (endsNumber_comma (prettyEntries level (e :: es) ++ (newLine l ++ .char '\x7d' :: rest)))
    obtain ⟨-, hes⟩ := readEntries_prettyEntries (e :: es) level l fuel depth rest
      (by simp) (fun x hx => hs x (List.mem_cons_of_mem _ hx)) (by omega) (by omega)
    rw [prettyEntries, List.append_assoc, List.append_assoc, List.cons_append, List.cons_append, List.append_assoc,
      List.cons_append, skipSpace_newLine_append level (skipSpace_quoteChars k _)]
    exact ⟨startsValue_quoteChars k _, readEntries_more (skipSpace_of_startsValue hstart) hv hes⟩

end

/-- A whole text that starts with a value is this value, if only blanks follow. -/
theorem readAll_of_startsValue {cs : List CodePoint} (h : StartsValue cs) :
    readAll cs = readValue (2 * cs.length + 2) maxDepth cs >>= fun found =>
      match skipSpace found.2 with
      | [] => .ok found.1
      | other => .error (.malformed .extraData other.length) := by
  unfold readAll
  split
  · -- A mark of the byte order is no start of a value.
    obtain ⟨c, rest, hcs, -, -, -, hmark⟩ := h
    cases hcs
    exact absurd rfl hmark
  · rw [skipSpace_of_startsValue h]
    rfl

/-- A whole text is read as it was written. -/
theorem read_pretty {v : Json} (hs : v.IsSound) (hdepth : v.nesting ≤ maxDepth) : read v.pretty = .ok v.asWritten := by
  obtain ⟨hstart, hv⟩ := readValue_prettyChars v 0 (2 * (v.prettyChars 0).length + 2) _ [] hs
    (by omega) hdepth (by rintro c ⟨⟩)
  rw [List.append_nil] at hstart hv
  have hall : readAll (v.prettyChars 0) = .ok v.asWritten := by
    rw [readAll_of_startsValue hstart, hv]
    rfl
  rw [read, pretty, Text.toList_ofList, readChars, hall]

end Json

end LintPreview
