import LintPreview.Proofs.Outcome
import LintPreview.Proofs.Text.Pieces
import LintPreview.Remote.Fetch

/-!
# The scheme of an address

* `IsScheme`: what can stand as a scheme in front of a colon.
* `Address.scheme_of_ofChars`: an address has the scheme that stands in front of its text.
* `schemeOf`: the scheme in front of a text, in lower case. `Address.schemeOf_text`: that of the text of an address.
* `scheme_of_requestUrl`: the first address for a URL that may be fetched names `https`, or no scheme at all.
-/

namespace LintPreview.Remote

/-- The scheme that a URL must have. -/
def secureScheme : List CodePoint := Text.toList "https"

/-! ### Schemes in front of texts -/

/-- A letter, and behind it what may stand in a scheme. -/
structure IsScheme (s : List CodePoint) : Prop where
  head : (s.head?).any CodePoint.isLetter = true
  chars : s.all isSchemeChar = true

theorem isSchemeChar_colon : isSchemeChar ':' = false := by decide

theorem IsScheme.ne_nil {s : List CodePoint} (h : IsScheme s) : s ≠ [] := by
  rintro rfl
  cases h.head

theorem IsScheme.colon_notMem {s : List CodePoint} (h : IsScheme s) : CodePoint.char ':' ∉ s := by
  intro hmem
  have := List.all_eq_true.mp h.chars _ hmem
  rw [isSchemeChar_colon] at this
  cases this

theorem takeScheme_append {s : List CodePoint} (h : IsScheme s) (rest : List CodePoint) :
    takeScheme (s ++ .char ':' :: rest) = (s.map CodePoint.toLower, rest) := by
  unfold takeScheme
  rw [Text.cutAt_append_cons h.colon_notMem]
  simp [h.head, h.chars]

theorem Address.takeScheme_append {s : List CodePoint} (h : IsScheme s) (rest : List CodePoint) :
    Address.takeScheme (s ++ .char ':' :: rest) = (s, rest) := by
  unfold Address.takeScheme
  rw [Text.cutAt_append_cons h.colon_notMem]
  simp [h.head, h.chars]

/-- A scheme in front of a text has a colon behind it. -/
theorem exists_of_takeScheme {cs : List CodePoint} (h : (takeScheme cs).1 ≠ []) :
    ∃ s rest, IsScheme s ∧ cs = s ++ .char ':' :: rest ∧ (takeScheme cs).1 = s.map CodePoint.toLower := by
  unfold takeScheme at h ⊢
  rcases hcut : Text.cutAt ':' cs with ⟨front, - | rest⟩
  · simp [hcut] at h
  · simp only [hcut] at h ⊢
    by_cases hfront : ((front.head?).any CodePoint.isLetter && front.all isSchemeChar) = true
    · rw [Bool.and_eq_true] at hfront
      refine ⟨front, rest, ⟨hfront.1, hfront.2⟩, (Text.eq_of_cutAt hcut).1, ?_⟩
      simp [hfront.1, hfront.2]
    · simp [hfront] at h

theorem Address.exists_of_takeScheme {cs : List CodePoint} (h : (Address.takeScheme cs).1 ≠ []) :
    IsScheme (Address.takeScheme cs).1 ∧ ∃ rest, cs = (Address.takeScheme cs).1 ++ .char ':' :: rest := by
  unfold Address.takeScheme at h ⊢
  rcases hcut : Text.cutAt ':' cs with ⟨front, - | rest⟩
  · simp [hcut] at h
  · simp only [hcut] at h ⊢
    by_cases hfront : ((front.head?).any CodePoint.isLetter && front.all isSchemeChar) = true
    · have hscheme := Bool.and_eq_true_iff.mp hfront
      simp only [hfront, Bool.or_true, if_true]
      exact ⟨⟨hscheme.1, hscheme.2⟩, rest, (Text.eq_of_cutAt hcut).1⟩
    · by_cases hempty : front.isEmpty = true
      · have hnil : front = [] := by simpa using hempty
        simp [hnil] at h
      · simp [hfront, hempty] at h

/-- Only capitals have another lower form. -/
theorem eq_of_toLower_ne {c : CodePoint} (h : c.toLower ≠ c) : ∃ n : Fin 26, c = CodePoint.char (Char.ofNat (65 + n)) := by
  cases c with
  | half => exact absurd rfl h
  | char c =>
    by_cases hupper : c.val ≥ 'A'.val ∧ c.val ≤ 'Z'.val
    · have hlow : 65 ≤ c.toNat := hupper.1
      have hhigh : c.toNat ≤ 90 := hupper.2
      refine ⟨⟨c.toNat - 65, by omega⟩, ?_⟩
      show CodePoint.char c = CodePoint.char (Char.ofNat (65 + (c.toNat - 65)))
      rw [show 65 + (c.toNat - 65) = c.toNat by omega, Char.ofNat_toNat]
    · refine absurd ?_ h
      show CodePoint.char c.toLower = _
      exact congrArg CodePoint.char (dif_neg hupper)

/-- Letters lie between the capital `A` and the small `z`. -/
theorem bounds_of_isLetter {c : CodePoint} (h : c.isLetter = true) : 65 ≤ c.toNat ∧ c.toNat ≤ 122 := by
  cases c with
  | half => cases h
  | char c =>
    have hranges : (decide (c.val ≥ 'A'.val ∧ c.val ≤ 'Z'.val) ||
        decide (c.val ≥ 'a'.val) && decide (c.val ≤ 'z'.val)) = true := h
    simp only [Bool.or_eq_true, Bool.and_eq_true, decide_eq_true_eq] at hranges
    rcases hranges with ⟨hlow, hhigh⟩ | ⟨hlow, hhigh⟩
    · exact ⟨hlow, Nat.le_trans hhigh (by decide)⟩
    · exact ⟨Nat.le_trans (by decide) hlow, hhigh⟩

theorem isLetter_toLower {c : CodePoint} (h : c.isLetter = true) : c.toLower.isLetter = true := by
  by_cases hc : c.toLower = c
  · rw [hc, h]
  · obtain ⟨n, rfl⟩ := eq_of_toLower_ne hc
    revert n
    decide

theorem isSchemeChar_toLower {c : CodePoint} (h : isSchemeChar c = true) : isSchemeChar c.toLower = true := by
  by_cases hc : c.toLower = c
  · rw [hc, h]
  · obtain ⟨n, rfl⟩ := eq_of_toLower_ne hc
    revert n
    decide

theorem toLower_toLower (c : CodePoint) : c.toLower.toLower = c.toLower := by
  by_cases hc : c.toLower = c
  · rw [hc, hc]
  · obtain ⟨n, rfl⟩ := eq_of_toLower_ne hc
    revert n
    decide

theorem map_toLower_twice (s : List CodePoint) :
    (s.map CodePoint.toLower).map CodePoint.toLower = s.map CodePoint.toLower := by
  rw [List.map_map]
  exact List.map_congr_left fun c _ => toLower_toLower c

theorem IsScheme.map_toLower {s : List CodePoint} (h : IsScheme s) : IsScheme (s.map CodePoint.toLower) where
  head := by
    have hhead := h.head
    cases s with
    | nil => cases hhead
    | cons c rest => exact isLetter_toLower hhead
  chars := by
    rw [List.all_map]
    exact List.all_eq_true.mpr fun c hc => isSchemeChar_toLower (List.all_eq_true.mp h.chars c hc)

/-- No scheme stands in front of what is no letter. -/
theorem takeScheme_of_head {cs : List CodePoint} (h : (cs.head?).any CodePoint.isLetter = false) :
    (takeScheme cs).1 = [] := by
  by_contra hne
  obtain ⟨s, rest, hs, rfl, -⟩ := exists_of_takeScheme hne
  obtain ⟨c, s', rfl⟩ := List.exists_cons_of_ne_nil hs.ne_nil
  exact absurd (hs.head.symm.trans h).symm Bool.false_ne_true

/-- The scheme in front of a text, in lower case. -/
def schemeOf (s : Text) : List CodePoint := (takeScheme s.toList).1

/-! ### The scheme of an address -/

namespace Address

theorem scheme_of_ofParts {scheme user host port path : List CodePoint} {query fragment : Option (List CodePoint)}
    {a : Address} (h : ofParts scheme user host port path query fragment = .ok a) :
    a.scheme = scheme.map CodePoint.toLower := by
  unfold ofParts at h
  obtain ⟨user', -, h⟩ := exists_of_bind_ok h
  obtain ⟨host', -, h⟩ := exists_of_bind_ok h
  obtain ⟨port', -, h⟩ := exists_of_bind_ok h
  obtain ⟨-, -, h⟩ := exists_of_bind_ok h
  obtain ⟨path', -, h⟩ := exists_of_bind_ok h
  obtain ⟨query', -, h⟩ := exists_of_bind_ok h
  obtain ⟨fragment', -, h⟩ := exists_of_bind_ok h
  cases h
  rfl

/-- An address has the scheme that stands in front of its text. -/
theorem scheme_of_ofChars {cs : List CodePoint} {a : Address} (h : ofChars cs = .ok a) :
    a.scheme = (Address.takeScheme cs).1.map CodePoint.toLower := by
  unfold ofChars at h
  obtain ⟨-, -, h⟩ := exists_of_bind_ok h
  exact scheme_of_ofParts h

/-- An address with a scheme that can stand in front of a text, in lower case. -/
structure HasScheme (a : Address) : Prop where
  isScheme : IsScheme a.scheme
  isLower : a.scheme.map CodePoint.toLower = a.scheme

/-- An address that is read from a text has such a scheme, or none. -/
theorem hasScheme_of_ofChars {cs : List CodePoint} {a : Address} (h : ofChars cs = .ok a) (hne : a.scheme ≠ []) :
    a.HasScheme := by
  have hscheme := scheme_of_ofChars h
  have htake : (Address.takeScheme cs).1 ≠ [] := by
    intro hnil
    rw [hnil] at hscheme
    exact hne hscheme
  constructor
  · rw [hscheme]
    exact (exists_of_takeScheme htake).1.map_toLower
  · rw [hscheme, map_toLower_twice]

/-- A scheme stands in front of the text of its address. -/
theorem exists_chars_eq {a : Address} (hne : a.scheme ≠ []) : ∃ rest, a.chars = a.scheme ++ .char ':' :: rest := by
  unfold chars
  rw [if_neg (by simpa using hne)]
  simp only [List.append_assoc, List.singleton_append]
  exact ⟨_, rfl⟩

theorem scheme_of_ofChars_append {s rest : List CodePoint} {a : Address} (hs : IsScheme s)
    (h : ofChars (s ++ .char ':' :: rest) = .ok a) : a.scheme = s.map CodePoint.toLower := by
  rw [scheme_of_ofChars h, takeScheme_append hs]

theorem scheme_of_withHost {a b : Address} {host : List CodePoint} (h : a.withHost host = .ok b) :
    b.scheme = a.scheme.map CodePoint.toLower := by
  unfold withHost at h
  obtain ⟨-, -, h⟩ := exists_of_bind_ok h
  obtain ⟨-, -, h⟩ := exists_of_bind_ok h
  exact scheme_of_ofParts h

theorem scheme_of_withFragment {a b : Address} {fragment : List CodePoint} (h : a.withFragment fragment = .ok b) :
    b.scheme = a.scheme := by
  unfold withFragment at h
  obtain ⟨-, -, h⟩ := exists_of_bind_ok h
  obtain ⟨quoted, -, h⟩ := exists_of_bind_ok h
  cases h
  rfl

/-- The scheme of an address stands in front of its text. -/
theorem schemeOf_text {a : Address} (h : a.HasScheme) : schemeOf a.text = a.scheme := by
  obtain ⟨rest, hchars⟩ := exists_chars_eq h.isScheme.ne_nil
  show (Remote.takeScheme a.chars).1 = _
  rw [hchars, Remote.takeScheme_append h.isScheme, h.isLower]

end Address

/-! ### Reading one URL from another -/

theorem scheme_of_split {cs : List CodePoint} {u : Url} (h : Url.split cs = .ok u) :
    u.scheme = (takeScheme (cleaned cs)).1 := by
  unfold Url.split at h
  obtain ⟨-, -, h⟩ := exists_of_bind_ok h
  cases h
  rfl

/-- What is dropped from a URL are blanks and controls. -/
theorem not_isJunk {c : CodePoint} (h : 0x20 < c.toNat) : isLeadingJunk c = false ∧ isInnerJunk c = false := by
  refine ⟨by simpa [isLeadingJunk] using h, ?_⟩
  simp only [isInnerJunk, Bool.or_eq_false_iff, beq_eq_false_iff_ne]
  refine ⟨⟨?_, ?_⟩, ?_⟩ <;> rintro rfl <;> revert h <;> decide

theorem lt_toNat_of_isSchemeChar {c : CodePoint} (h : isSchemeChar c = true) : 0x20 < c.toNat := by
  simp only [isSchemeChar, Bool.or_eq_true, beq_iff_eq] at h
  rcases h with (((hletter | hdigit) | rfl) | rfl) | rfl
  · exact Nat.lt_of_lt_of_le (by decide) (bounds_of_isLetter hletter).1
  · cases c with
    | half => cases hdigit
    | char c =>
      simp only [CodePoint.isDigit, Char.isDigit, Bool.and_eq_true, decide_eq_true_eq] at hdigit
      exact Nat.lt_of_lt_of_le (by decide) hdigit.1
  all_goals decide

/-- So the scheme in front of a URL stays whole. -/
theorem exists_cleaned_eq {s : List CodePoint} (hs : IsScheme s) (rest : List CodePoint) :
    ∃ rest', cleaned (s ++ .char ':' :: rest) = s ++ .char ':' :: rest' := by
  obtain ⟨c, s', rfl⟩ := List.exists_cons_of_ne_nil hs.ne_nil
  have hjunk : ∀ d ∈ c :: s', isLeadingJunk d = false ∧ isInnerJunk d = false :=
    fun d hd => not_isJunk (lt_toNat_of_isSchemeChar (List.all_eq_true.mp hs.chars d hd))
  refine ⟨rest.filter fun c => !isInnerJunk c, ?_⟩
  have hdrop : (c :: s' ++ .char ':' :: rest).dropWhile isLeadingJunk = c :: s' ++ .char ':' :: rest := by
    rw [List.cons_append, List.dropWhile_cons_of_neg (by simp [(hjunk c List.mem_cons_self).1])]
  have hfilter : (c :: s').filter (fun c => !isInnerJunk c) = c :: s' :=
    List.filter_eq_self.mpr fun d hd => by simp [(hjunk d hd).2]
  rw [cleaned, hdrop, List.filter_append, hfilter, List.filter_cons_of_pos (by decide)]

theorem scheme_of_split_append {s rest : List CodePoint} {u : Url} (hs : IsScheme s)
    (h : Url.split (s ++ .char ':' :: rest) = .ok u) : u.scheme = s.map CodePoint.toLower := by
  obtain ⟨rest', hclean⟩ := exists_cleaned_eq hs rest
  rw [scheme_of_split h, hclean, takeScheme_append hs]

theorem exists_join_eq {u : Url} (hne : u.scheme ≠ []) : ∃ rest, u.join = u.scheme ++ .char ':' :: rest := by
  unfold Url.join
  simp only [List.isEmpty_iff, hne, if_false]
  generalize (if u.authority = [] then u.path else _) = text
  split_ifs
  · exact ⟨text, rfl⟩
  · exact ⟨text ++ .char '?' :: u.query, by simp⟩
  · exact ⟨text ++ .char '#' :: u.fragment, by simp⟩
  · exact ⟨text ++ .char '?' :: u.query ++ .char '#' :: u.fragment, by simp⟩

theorem isScheme_secureScheme : IsScheme secureScheme := ⟨by decide, by decide⟩

/-- A URL is read from a secure one only if it names no other scheme, and then it is secure too. -/
theorem scheme_of_joinUrls? {base u : Url} (hbase : base.scheme = secureScheme) :
    (u.scheme = [] ∨ u.scheme = secureScheme → ∃ v, Address.joinUrls? base u = some v ∧ v.scheme = secureScheme) ∧
    (u.scheme ≠ [] → u.scheme ≠ secureScheme → Address.joinUrls? base u = none) := by
  have hknown : Address.hierarchical.contains (Text.ofList secureScheme) = true := by decide
  constructor
  · intro hu
    have hscheme : (if u.scheme.isEmpty then secureScheme else u.scheme) = secureScheme := by
      rcases hu with hu | hu
      · rw [hu]
        rfl
      · rw [hu]
        rfl
    unfold Address.joinUrls?
    simp only [hbase, hscheme, hknown, ne_eq, not_true_eq_false, Bool.not_true, Bool.false_eq_true, or_self, if_false]
    split_ifs <;> exact ⟨_, rfl, rfl⟩
  · intro hne hother
    unfold Address.joinUrls?
    simp [hne, hother, hbase]

/-! ### The first address -/

theorem not_isBlank_of_isLetter {c : CodePoint} (h : c.isLetter = true) : Text.isBlank c = false := by
  have hbounds := bounds_of_isLetter h
  cases c with
  | half => cases h
  | char c =>
    have hnat : (CodePoint.char c).toNat = c.toNat := rfl
    simp only [Text.isBlank, hnat, Bool.or_eq_false_iff, Bool.and_eq_false_iff, decide_eq_false_iff_not, beq_eq_false_iff_ne]
    omega

/-- The scheme in front of a text that may be fetched, if there is one. -/
theorem takeScheme_of_validateUrl {url : Text} (h : validateUrl url = .valid)
    (hne : (Address.takeScheme url.toList).1 ≠ []) :
    (Address.takeScheme url.toList).1.map CodePoint.toLower = secureScheme := by
  obtain ⟨hs, rest, heq⟩ := Address.exists_of_takeScheme hne
  generalize (Address.takeScheme url.toList).1 = s at hs heq
  -- Trimming leaves the scheme in front.
  have htrim : Text.trimChars url.toList = s ++ .char ':' :: Text.trimRightChars rest := by
    obtain ⟨c, s', rfl⟩ := List.exists_cons_of_ne_nil hs.ne_nil
    unfold Text.trimChars
    rw [heq, Text.trimLeftChars_of_head, Text.trimRightChars_append_cons (by decide)]
    intro d hd
    cases hd
    exact not_isBlank_of_isLetter hs.head
  unfold validateUrl at h
  rw [htrim] at h
  split at h
  · rename_i u hu
    have hu := scheme_of_split_append hs hu
    rw [← hu]
    unfold Url.verdict at h
    split_ifs at h with _ _ hsecure
    exact not_ne_iff.mp hsecure
  · cases h

/-- A raw address is a secure one. -/
theorem scheme_of_raw? {u v : Url} (h : u.raw? = some v) : v.scheme = secureScheme := by
  unfold Url.raw? at h
  split at h
  · cases h
  · split_ifs at h
    · split at h
      · split_ifs at h
        cases h
        rfl
      · cases h
    · cases h
      rfl

theorem requestUrl_eq_ok_iff {url resolved : Text} :
    requestUrl url = .ok resolved ↔ validateUrl url = .valid ∧ rawUrl url = .ok resolved := by
  unfold requestUrl
  constructor
  · intro h
    cases hvalid : validateUrl url <;> simp only [hvalid, reduceCtorEq] at h
    exact ⟨rfl, eq_ok_of_mapError h⟩
  · rintro ⟨hvalid, hraw⟩
    rw [hvalid, hraw]
    rfl

/-- The address of a URL that may be fetched is secure, or has no scheme. -/
theorem scheme_of_requestUrl {url resolved : Text} {a : Address} (h : requestUrl url = .ok resolved)
    (ha : Address.ofText resolved = .ok a) : a.scheme = secureScheme ∨ a.scheme = [] := by
  obtain ⟨hvalid, hraw⟩ := requestUrl_eq_ok_iff.mp h
  unfold rawUrl at hraw
  obtain ⟨u, -, hraw⟩ := exists_of_bind_ok hraw
  split at hraw
  · rename_i v hv
    cases hraw
    have hscheme := scheme_of_raw? hv
    obtain ⟨rest, hjoin⟩ := exists_join_eq (u := v) (by rw [hscheme]; exact isScheme_secureScheme.ne_nil)
    have ha : Address.ofChars v.join = .ok a := ha
    rw [hjoin, hscheme] at ha
    exact .inl (Address.scheme_of_ofChars_append isScheme_secureScheme ha)
  · cases hraw
    have hscheme := Address.scheme_of_ofChars ha
    by_cases hne : (Address.takeScheme url.toList).1 = []
    · rw [hne] at hscheme
      exact .inr hscheme
    · rw [takeScheme_of_validateUrl hvalid hne] at hscheme
      exact .inl hscheme

end LintPreview.Remote
