import LintPreview.Proofs.Remote.Scheme

/-!
# Where redirections lead

* `Address.redirect_eq`: a redirection in three steps: the address that its location names is placed, read from the
  address that was asked, and given a fragment.
* `locationScheme`: the scheme of the address that a location names.
* `Address.scheme_of_redirect`: where a redirection from an `https` address leads: the scheme stays, unless the address
  that its location names has one.
-/

namespace LintPreview.Remote

namespace Address

theorem exists_of_mem_toHex {width n : Nat} {c : CodePoint} (h : c ∈ Text.toHex width n) :
    ∃ m : Fin 16, c = Text.hexDigit m := by
  induction width generalizing n with
  | zero => cases h
  | succ width ih =>
    rcases List.mem_append.mp h with h | h
    · exact ih h
    · exact ⟨⟨n % 16, Nat.mod_lt _ (by decide)⟩, List.mem_singleton.mp h⟩

/-- What is written with percent codes holds no blanks, if none may be sent. -/
theorem lt_toNat_of_mem_percentQuoted {maySend : CodePoint → Bool} {cs quoted : List CodePoint}
    (hsend : ∀ c, maySend c = true → 0x20 < c.toNat) (h : percentQuoted maySend cs = .ok quoted) :
    ∀ c ∈ quoted, 0x20 < c.toNat := by
  unfold percentQuoted at h
  obtain ⟨parts, hparts, h⟩ := exists_of_bind_ok h
  cases h
  intro c hc
  obtain ⟨part, hpart, hc⟩ := List.mem_flatten.mp hc
  obtain ⟨d, -, hd⟩ := exists_of_mem_mapM hparts hpart
  split at hd
  · cases hd
    rw [List.mem_singleton.mp hc]
    exact hsend d ‹_›
  · obtain ⟨bytes, -, rfl⟩ := exists_of_map_ok hd
    obtain ⟨b, -, hc⟩ := List.mem_flatMap.mp hc
    rcases List.mem_cons.mp hc with rfl | hc
    · decide
    · obtain ⟨digit, hdigit, rfl⟩ := List.mem_map.mp hc
      obtain ⟨n, rfl⟩ := exists_of_mem_toHex hdigit
      have hall : ∀ n : Fin 16, 0x20 < (Text.hexDigit n).toUpper.toNat := by decide
      exact hall n

theorem lt_toNat_of_isPlainBut {excepted : List Char} {c : CodePoint} (h : isPlainBut excepted c = true) :
    0x20 < c.toNat := by
  simp only [isPlainBut, Bool.and_eq_true, decide_eq_true_eq] at h
  exact h.1.1

theorem lt_toNat_of_mem_mapM {maySend : CodePoint → Bool} {part quoted : Option (List CodePoint)}
    (hsend : ∀ c, maySend c = true → 0x20 < c.toNat) (h : part.mapM (percentQuoted maySend) = .ok quoted)
    (mark : CodePoint) (hmark : 0x20 < mark.toNat) :
    ∀ c ∈ (quoted.map (mark :: ·)).getD [], 0x20 < c.toNat := by
  cases part with
  | none =>
    cases h
    exact nofun
  | some cs =>
    obtain ⟨text, htext, rfl⟩ := exists_of_map_ok h
    exact List.forall_mem_cons.mpr ⟨hmark, lt_toNat_of_mem_percentQuoted hsend htext⟩

/-- Nothing of an address but its host can hold a blank. -/
theorem lt_toNat_of_mem_chars {cs : List CodePoint} {a : Address} (h : ofChars cs = .ok a) (hscheme : a.scheme = [])
    (hauthority : a.authority = []) : ∀ c ∈ a.chars, 0x20 < c.toNat := by
  unfold chars
  rw [hauthority, hscheme]
  unfold ofChars at h
  obtain ⟨-, -, h⟩ := exists_of_bind_ok h
  unfold ofParts at h
  obtain ⟨user, -, h⟩ := exists_of_bind_ok h
  obtain ⟨host, -, h⟩ := exists_of_bind_ok h
  obtain ⟨port, -, h⟩ := exists_of_bind_ok h
  obtain ⟨-, -, h⟩ := exists_of_bind_ok h
  obtain ⟨path, hpath, h⟩ := exists_of_bind_ok h
  obtain ⟨query, hquery, h⟩ := exists_of_bind_ok h
  obtain ⟨fragment, hfragment, h⟩ := exists_of_bind_ok h
  cases h
  have hpath := lt_toNat_of_mem_percentQuoted (fun c => lt_toNat_of_isPlainBut) hpath
  have hquery := lt_toNat_of_mem_mapM (fun c => lt_toNat_of_isPlainBut) hquery '?' (by decide)
  have hfragment := lt_toNat_of_mem_mapM (fun c => lt_toNat_of_isPlainBut) hfragment '#' (by decide)
  intro c hc
  rcases List.mem_append.mp hc with hc | hc
  · rcases List.mem_append.mp hc with hc | hc
    · exact hpath c hc
    · exact hquery c hc
  · exact hfragment c hc

/-- What is dropped from a URL is not in front of an address. -/
theorem takeScheme_cleaned_chars {cs : List CodePoint} {a : Address} (h : ofChars cs = .ok a) :
    (Remote.takeScheme (cleaned a.chars)).1 = schemeOf a.text := by
  show _ = (Remote.takeScheme a.chars).1
  by_cases hne : a.scheme = []
  · by_cases hauthority : a.authority = []
    · -- All characters stay.
      have hplain := lt_toNat_of_mem_chars h hne hauthority
      have hclean : cleaned a.chars = a.chars := by
        unfold cleaned
        rw [List.dropWhile_eq_self_iff.mpr, List.filter_eq_self.mpr]
        · intro c hc
          rw [(not_isJunk (hplain c hc)).2]
          rfl
        · intro hlen
          rw [(not_isJunk (hplain _ (List.getElem_mem hlen))).1]
          exact Bool.false_ne_true
      rw [hclean]
    · -- A slash stays in front.
      obtain ⟨rest, hchars⟩ : ∃ rest, a.chars = .char '/' :: rest := by
        have hsome : a.authority.isEmpty = false := by simpa using hauthority
        unfold chars
        rw [hne, hsome]
        exact ⟨_, rfl⟩
      rw [hchars, takeScheme_of_head rfl, takeScheme_of_head rfl]
  · obtain ⟨hscheme, hlower⟩ := hasScheme_of_ofChars h hne
    obtain ⟨rest, hchars⟩ := exists_chars_eq hne
    obtain ⟨rest', hclean⟩ := exists_cleaned_eq hscheme rest
    rw [hchars, hclean, Remote.takeScheme_append hscheme, Remote.takeScheme_append hscheme]

end Address

/-- The scheme of the address that a location names; a location that is no address names none. -/
def locationScheme (location : Text) : List CodePoint :=
  match Address.ofText location with
  | .ok named => schemeOf named.text
  | .error _ => []

namespace Address

/-- The target of a redirection, before its fragment is put in. -/
theorem scheme_of_joinTexts {asked placed target : Address} {joined : List CodePoint} {scheme : List CodePoint}
    (hasked : asked.scheme = secureScheme) (hplaced : (Remote.takeScheme placed.chars).1 = scheme)
    (hclean : (Remote.takeScheme (cleaned placed.chars)).1 = scheme)
    (hjoin : joinTexts asked.chars placed.chars = .ok joined) (h : ofChars joined = .ok target) :
    target.scheme = if scheme = [] then secureScheme else scheme := by
  obtain ⟨rest, hchars⟩ : ∃ rest, asked.chars = secureScheme ++ .char ':' :: rest := by
    rw [← hasked]
    exact exists_chars_eq (by rw [hasked]; exact isScheme_secureScheme.ne_nil)
  have hsecure : ∀ {rest : List CodePoint}, ofChars (secureScheme ++ .char ':' :: rest) = .ok target →
      target.scheme = secureScheme := fun h => scheme_of_ofChars_append isScheme_secureScheme h
  unfold joinTexts at hjoin
  rw [hchars, if_neg (by simp)] at hjoin
  split at hjoin
  case isTrue hempty =>
    -- The location names the address that was asked.
    cases hjoin
    rw [show placed.chars = [] by simpa using hempty] at hplaced
    rw [← hplaced, hsecure h]
    rfl
  case isFalse =>
    obtain ⟨b, hb, hjoin⟩ := exists_of_bind_ok hjoin
    obtain ⟨u, hu, hjoin⟩ := exists_of_bind_ok hjoin
    cases hjoin
    have hbase : b.scheme = secureScheme := scheme_of_split_append isScheme_secureScheme hb
    have huscheme : u.scheme = scheme := by rw [scheme_of_split hu, hclean]
    by_cases hstays : u.scheme = [] ∨ u.scheme = secureScheme
    · obtain ⟨v, hv, hvscheme⟩ := (scheme_of_joinUrls? hbase).1 hstays
      obtain ⟨rest', hjoined⟩ := exists_join_eq (u := v) (by rw [hvscheme]; exact isScheme_secureScheme.ne_nil)
      rw [hv] at h
      rw [hvscheme] at hjoined
      rw [Option.map_some, Option.getD_some, hjoined] at h
      rw [hsecure h]
      rcases hstays with hnone | hsame
      · rw [if_pos (huscheme ▸ hnone)]
      · rw [← huscheme, hsame]
        rfl
    · obtain ⟨hne, hother⟩ := not_or.mp hstays
      rw [(scheme_of_joinUrls? hbase).2 hne hother] at h
      rw [huscheme] at hne
      obtain ⟨s, rest', hs, heq, hlower⟩ := Remote.exists_of_takeScheme (hplaced ▸ hne)
      rw [Option.map_none, Option.getD_none, heq] at h
      rw [if_neg hne, scheme_of_ofChars_append hs h, ← hlower, hplaced]

/-- The address that a location names, with the host of the one that was asked if it has a scheme but no host. -/
def placedFrom (asked named : Address) : Except RedirectFault Address := do
  let host ← named.readHost
  if named.scheme.isEmpty then return named
  else if host.isEmpty then (named.withHost (← asked.readHost)).mapError .badTarget
  else return named

/-- An address that says by itself where it leads, or what it names read from the one that was asked. -/
def readFrom (asked placed : Address) : Except RedirectFault Address :=
  if placed.isAbsolute then return placed
  else do
    let joined ← (joinTexts asked.chars placed.chars).mapError .badUrl
    (ofChars joined).mapError .badTarget

/-- The target of a redirection with the fragment that was asked for, if it has none of its own. -/
def keptFragment (asked target : Address) : Except RedirectFault Address :=
  if !asked.fragmentText.isEmpty && target.fragmentText.isEmpty then
    (target.withFragment asked.fragmentText).mapError .badTarget
  else return target

/-- A redirection step by step. -/
theorem redirect_eq (asked : Address) (location : Text) : asked.redirect location = do
    let named ← (ofText location).mapError .badLocation
    let placed ← placedFrom asked named
    let target ← readFrom asked placed
    let target ← keptFragment asked target
    checkHosts asked target
    return target := by
  have hite : ∀ {c : Prop} [Decidable c] {α β : Type} (x y : Except RedirectFault α) (f : α → Except RedirectFault β),
      (if c then x else y) >>= f = if c then x >>= f else y >>= f := by
    intro c _ α β x y f
    split <;> rfl
  unfold redirect placedFrom readFrom keptFragment
  simp only [hite, bind_assoc, pure_bind]

/-- A redirection that has a target has come through all steps to it. -/
theorem exists_of_redirect {asked target : Address} {location : Text} (h : asked.redirect location = .ok target) :
    ∃ named placed found, ofChars location.toList = .ok named ∧ placedFrom asked named = .ok placed ∧
      readFrom asked placed = .ok found ∧ keptFragment asked found = .ok target := by
  rw [redirect_eq] at h
  obtain ⟨named, hnamed, h⟩ := exists_of_bind_ok h
  obtain ⟨placed, hplaced, h⟩ := exists_of_bind_ok h
  obtain ⟨found, hread, h⟩ := exists_of_bind_ok h
  obtain ⟨kept, hkept, h⟩ := exists_of_bind_ok h
  obtain ⟨-, -, h⟩ := exists_of_bind_ok h
  cases h
  exact ⟨named, placed, found, eq_ok_of_mapError hnamed, hplaced, hread, hkept⟩

theorem scheme_of_placedFrom {asked named placed : Address} {cs : List CodePoint} (hnamed : ofChars cs = .ok named)
    (h : placedFrom asked named = .ok placed) :
    placed = named ∨ named.scheme ≠ [] ∧ placed.scheme = named.scheme := by
  unfold placedFrom at h
  obtain ⟨host, -, h⟩ := exists_of_bind_ok h
  split at h
  · cases h
    exact .inl rfl
  · rename_i hne
    have hne : named.scheme ≠ [] := by simpa using hne
    split at h
    · obtain ⟨_, -, h⟩ := exists_of_bind_ok h
      rw [scheme_of_withHost (eq_ok_of_mapError h), (hasScheme_of_ofChars hnamed hne).isLower]
      exact .inr ⟨hne, rfl⟩
    · cases h
      exact .inl rfl

theorem scheme_of_keptFragment {asked target target' : Address} (h : keptFragment asked target = .ok target') :
    target'.scheme = target.scheme := by
  unfold keptFragment at h
  split at h
  · exact scheme_of_withFragment (eq_ok_of_mapError h)
  · cases h
    rfl

/-- The target of a redirection has a scheme that can stand in front of a text, or none. -/
theorem hasScheme_of_redirect {asked target : Address} {location : Text} (h : asked.redirect location = .ok target)
    (hne : target.scheme ≠ []) : target.HasScheme := by
  obtain ⟨named, placed, found, hnamed, hplaced, hread, hkept⟩ := exists_of_redirect h
  have hsame := scheme_of_keptFragment hkept
  rw [hsame] at hne
  have hread : found.HasScheme := by
    unfold readFrom at hread
    split at hread
    · cases hread
      rcases scheme_of_placedFrom hnamed hplaced with rfl | ⟨hnamedne, hplacedscheme⟩
      · exact hasScheme_of_ofChars hnamed hne
      · have hhas := hasScheme_of_ofChars hnamed hnamedne
        exact ⟨hplacedscheme ▸ hhas.isScheme, by rw [hplacedscheme, hhas.isLower]⟩
    · obtain ⟨joined, -, hread⟩ := exists_of_bind_ok hread
      exact hasScheme_of_ofChars (eq_ok_of_mapError hread) hne
  exact ⟨hsame ▸ hread.isScheme, by rw [hsame, hread.isLower]⟩

/-- A redirection from a secure address leads to a secure one, unless the address that its location names has another
scheme: then that is the scheme of the target. -/
theorem scheme_of_redirect {asked target : Address} {location : Text} (hasked : asked.scheme = secureScheme)
    (h : asked.redirect location = .ok target) :
    target.scheme = if locationScheme location = [] then secureScheme else locationScheme location := by
  obtain ⟨named, placed, found, hnamed, hplaced, hread, hkept⟩ := exists_of_redirect h
  have hlocation : locationScheme location = schemeOf named.text := by
    rw [locationScheme, ofText, hnamed]
  rw [hlocation, scheme_of_keptFragment hkept]
  -- The scheme in front of the placed address is the one in front of the named address.
  have hfront : (Remote.takeScheme placed.chars).1 = schemeOf named.text ∧
      (Remote.takeScheme (cleaned placed.chars)).1 = schemeOf named.text := by
    rcases scheme_of_placedFrom hnamed hplaced with rfl | ⟨hne, hsame⟩
    · exact ⟨rfl, takeScheme_cleaned_chars hnamed⟩
    · have hhas := hasScheme_of_ofChars hnamed hne
      obtain ⟨rest, hchars⟩ := exists_chars_eq (hsame ▸ hne)
      rw [hsame] at hchars
      obtain ⟨rest', hclean⟩ := exists_cleaned_eq hhas.isScheme rest
      rw [schemeOf_text hhas, hchars, hclean, Remote.takeScheme_append hhas.isScheme,
        Remote.takeScheme_append hhas.isScheme]
      exact ⟨hhas.isLower, hhas.isLower⟩
  unfold readFrom at hread
  split at hread
  · rename_i habsolute
    cases hread
    have hne : placed.scheme ≠ [] := by
      simp only [isAbsolute, Bool.and_eq_true, Bool.not_eq_true', List.isEmpty_eq_false_iff] at habsolute
      exact habsolute.1
    have hsame : placed.scheme = named.scheme := by
      rcases scheme_of_placedFrom hnamed hplaced with rfl | ⟨-, hsame⟩
      · rfl
      · exact hsame
    rw [schemeOf_text (hasScheme_of_ofChars hnamed (hsame ▸ hne)), if_neg (hsame ▸ hne), hsame]
  · obtain ⟨joined, hjoin, hread⟩ := exists_of_bind_ok hread
    exact scheme_of_joinTexts hasked hfront.1 hfront.2 (eq_ok_of_mapError hjoin) (eq_ok_of_mapError hread)

end Address

end LintPreview.Remote
