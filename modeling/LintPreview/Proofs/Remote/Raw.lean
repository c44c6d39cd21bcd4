import LintPreview.Proofs.Files.Names
import LintPreview.Proofs.Remote.Parts

/-!
# Raw addresses

* `Url.isRaw_of_raw?`: what is the same in all raw addresses, and what they take over from a page.
* `Url.isRegular_of_raw?`: a raw address is read back from its text.
* `validateUrl_of_rawUrl`: what a valid URL is resolved to is valid.
* `rawUrl_eq_error_iff_of_valid`: the valid URLs that cannot be resolved.
* `rawUrl_rawUrl`: resolving twice is resolving once.
-/

namespace LintPreview

theorem Text.mem_of_mem_splitOnChar {sep c : CodePoint} {cs piece : List CodePoint} (h : piece ∈ splitOnChar sep cs)
    (hc : c ∈ piece) : c ∈ cs := by
  induction cs generalizing piece with
  | nil =>
    rw [splitOnChar, List.mem_singleton] at h
    exact h ▸ hc
  | cons d cs ih =>
    rw [splitOnChar] at h
    split at h
    · rcases List.mem_cons.mp h with rfl | h
      · cases hc
      · exact List.mem_cons_of_mem d (ih h hc)
    · split at h
      · rw [List.mem_singleton] at h
        rw [h, List.mem_singleton] at hc
        exact hc ▸ List.mem_cons_self
      · rename_i first pieces heq
        rcases List.mem_cons.mp h with rfl | h
        · rcases List.mem_cons.mp hc with rfl | hc
          · exact List.mem_cons_self
          · exact List.mem_cons_of_mem d (ih (heq ▸ List.mem_cons_self) hc)
        · exact List.mem_cons_of_mem d (ih (heq ▸ List.mem_cons_of_mem first h) hc)

theorem Text.trimChars_trimChars (cs : List CodePoint) : trimChars (trimChars cs) = trimChars cs := by
  by_cases hnil : trimChars cs = []
  · rw [hnil, trimChars_nil]
  · exact (isTrimmed_trimChars hnil).trimChars_eq

namespace Remote

namespace Url

variable {u v : Url}

theorem raw?_eq_some_iff : u.raw? = some v ↔
    (u.host? = some pageHost ∧ ∃ owner repository reference rest,
      u.segments = owner :: repository :: Text.toList "blob" :: reference :: rest ∧
      v = u.elsewhere rawPageHost (owner :: repository :: reference :: rest)) ∨
    (u.host? = some snippetHost ∧ 2 ≤ u.segments.length ∧ v = u.elsewhere rawSnippetHost (snippetSegments u.segments)) := by
  have hother : snippetHost ≠ pageHost := by decide
  unfold raw?
  cases hhost : u.host? with
  | none => simp
  | some host =>
    dsimp only
    by_cases hpage : host = pageHost
    · subst hpage
      rw [if_pos rfl]
      constructor
      · intro h
        split at h
        · rename_i owner repository mark reference rest hsegments
          split_ifs at h with hmark
          cases h
          exact .inl ⟨rfl, owner, repository, reference, rest, by rw [hsegments, hmark], rfl⟩
        · cases h
      · rintro (⟨-, owner, repository, reference, rest, hsegments, rfl⟩ | ⟨heq, -⟩)
        · rw [hsegments]
          rfl
        · exact absurd (Option.some.inj heq).symm hother
    · rw [if_neg hpage]
      constructor
      · intro h
        split_ifs at h with hsnippet
        cases h
        exact .inr ⟨congrArg some hsnippet.1, hsnippet.2, rfl⟩
      · rintro (⟨heq, -⟩ | ⟨heq, hlength, rfl⟩)
        · exact absurd (Option.some.inj heq) hpage
        · rw [if_pos ⟨Option.some.inj heq, hlength⟩]

/-- Only pages have a raw address elsewhere. -/
theorem raw?_of_host (hpage : u.host? ≠ some pageHost) (hsnippet : u.host? ≠ some snippetHost) : u.raw? = none := by
  by_contra hne
  obtain ⟨v, hv⟩ := Option.ne_none_iff_exists'.mp hne
  rcases raw?_eq_some_iff.mp hv with ⟨heq, -⟩ | ⟨heq, -⟩
  · exact hpage heq
  · exact hsnippet heq

/-- The host is read from the authority. -/
theorem host?_congr (h : u.authority = v.authority) : u.host? = v.host? := by
  unfold host?
  rw [h]

/-- Without an authority there is none. -/
theorem raw?_of_authority (h : u.authority = []) : u.raw? = none := by
  have hhost : u.host? = none := host?_congr (v := {}) h
  exact raw?_of_host (by simp [hhost]) (by simp [hhost])

/-! ### The raw address -/

/-- The hosts of raw addresses. -/
def rawHosts : List (List CodePoint) := [rawPageHost, rawSnippetHost]

/-- A raw address behind a URL that was read. -/
structure IsRaw (u v : Url) : Prop where
  scheme : v.scheme = secureScheme
  authority : v.authority ∈ rawHosts
  segments : ∃ segments : List (List CodePoint), segments ≠ [] ∧ v.path = segments.flatMap (fun s => CodePoint.char '/' :: s) ∧
    ∀ s ∈ segments, s ∈ u.segments ∨ s = Text.toList "raw"
  query : v.query = u.query
  fragment : v.fragment = []

theorem mem_snippetSegments {segments : List (List CodePoint)} {s : List CodePoint} (h : s ∈ snippetSegments segments) :
    s ∈ segments ∨ s = Text.toList "raw" := by
  unfold snippetSegments at h
  dsimp only at h
  split_ifs at h
  · exact .inl h
  · rcases List.mem_append.mp h with h | h
    · exact .inl (List.mem_of_mem_take h)
    · exact .inr (List.mem_singleton.mp h)

theorem snippetSegments_ne_nil {segments : List (List CodePoint)} (h : segments ≠ []) : snippetSegments segments ≠ [] := by
  unfold snippetSegments
  dsimp only
  split_ifs
  · exact h
  · simp

theorem isRaw_of_raw? (h : u.raw? = some v) : IsRaw u v := by
  rcases raw?_eq_some_iff.mp h with ⟨-, owner, repository, reference, rest, hsegments, rfl⟩ | ⟨-, hlength, rfl⟩
  · refine ⟨rfl, List.mem_cons_self, ⟨_, List.cons_ne_nil _ _, rfl, fun s hs => .inl ?_⟩, rfl, rfl⟩
    rw [hsegments]
    simp only [List.mem_cons] at hs ⊢
    tauto
  · have hne : u.segments ≠ [] := by
      rintro hnil
      rw [hnil] at hlength
      exact absurd hlength (by decide)
    exact ⟨rfl, List.mem_cons_of_mem _ List.mem_cons_self, ⟨_, snippetSegments_ne_nil hne, rfl, fun s hs => mem_snippetSegments hs⟩, rfl, rfl⟩

theorem host?_of_mem_rawHosts (h : u.authority ∈ rawHosts) : u.host? = some u.authority := by
  have hhosts : ∀ host ∈ rawHosts, Url.host? { authority := host } = some host := by decide +kernel
  exact (host?_congr rfl).trans (hhosts _ h)

/-- On the host of a raw address no other one stands behind a URL. -/
theorem raw?_of_mem_rawHosts (h : u.authority ∈ rawHosts) : u.raw? = none := by
  have hhosts : ∀ host ∈ rawHosts, some host ≠ some pageHost ∧ some host ≠ some snippetHost := by decide +kernel
  obtain ⟨hpage, hsnippet⟩ := hhosts _ h
  rw [← host?_of_mem_rawHosts h] at hpage hsnippet
  exact raw?_of_host hpage hsnippet

theorem mem_path_of_mem_segments {s : List CodePoint} {c : CodePoint} (hs : s ∈ u.segments) (hc : c ∈ s) : c ∈ u.path :=
  Text.mem_of_mem_splitOnChar (List.mem_filter.mp hs).1 hc

/-- What stands in the path of a raw address stood in the path before, or was put there. -/
theorem IsRaw.mem_path (h : IsRaw u v) {c : CodePoint} (hc : c ∈ v.path) :
    c ∈ u.path ∨ c ∈ CodePoint.char '/' :: Text.toList "raw" := by
  obtain ⟨segments, -, hpath, hsegments⟩ := h.segments
  rw [hpath] at hc
  obtain ⟨s, hs, hc⟩ := List.mem_flatMap.mp hc
  rcases List.mem_cons.mp hc with rfl | hc
  · exact .inr List.mem_cons_self
  · rcases hsegments s hs with hs | rfl
    · exact .inl (mem_path_of_mem_segments hs hc)
    · exact .inr (List.mem_cons_of_mem _ hc)

/-- So a raw address is read back from its text. -/
theorem isRegular_of_raw? {cs : List CodePoint} (h : (unchecked (cleaned cs)).raw? = some v) : v.IsRegular := by
  have hraw := isRaw_of_raw? h
  have hhosts : ∀ host ∈ rawHosts, host ≠ [] ∧ (∀ c ∈ host, endsAuthority c = false ∧ isInnerJunk c = false) ∧
      checkAuthority host = .ok () := by decide +kernel
  have hput : ∀ c ∈ CodePoint.char '/' :: Text.toList "raw", c ≠ .char '?' ∧ c ≠ .char '#' ∧ isInnerJunk c = false := by
    decide
  have hread := notMem_path_unchecked (cleaned cs)
  have hjunk : ∀ c, c ∈ (unchecked (cleaned cs)).path ∨ c ∈ (unchecked (cleaned cs)).query → isInnerJunk c = false :=
    fun c hc => not_isInnerJunk_of_mem_cleaned (mem_of_mem_unchecked hc)
  obtain ⟨hauthority, hinside, hchecked⟩ := hhosts _ hraw.authority
  refine ⟨?_, ?_, hauthority, fun c hc => (hinside c hc).1, hchecked, ?_, ⟨?_, ?_⟩, ?_, ?_⟩
  · rw [hraw.scheme]
    exact isScheme_secureScheme
  · rw [hraw.scheme]
    decide
  · obtain ⟨segments, hne, hpath, -⟩ := hraw.segments
    obtain ⟨s, rest, rfl⟩ := List.exists_cons_of_ne_nil hne
    rw [hpath]
    rintro c ⟨⟩
    rfl
  · intro hmem
    rcases hraw.mem_path hmem with hmem | hmem
    · exact hread.1 hmem
    · exact (hput _ hmem).1 rfl
  · intro hmem
    rcases hraw.mem_path hmem with hmem | hmem
    · exact hread.2 hmem
    · exact (hput _ hmem).2.1 rfl
  · rw [hraw.query]
    exact notMem_query_unchecked _
  · intro c hc
    rw [hraw.fragment, List.append_nil, List.mem_append, List.mem_append, hraw.query] at hc
    rcases hc with (hc | hc) | hc
    · exact (hinside c hc).2
    · rcases hraw.mem_path hc with hc | hc
      · exact hjunk c (.inl hc)
      · exact (hput c hc).2.2
    · exact hjunk c (.inr hc)

end Url

/-! ### Resolving -/

section

variable {url : Text} {u v : Url}

theorem rawUrl_of_raw? (h : Url.split url.toList = .ok u) (hv : u.raw? = some v) :
    rawUrl url = .ok (Text.ofList v.join) := by
  simp only [rawUrl, h, hv, bind, Except.bind, pure, Except.pure]

theorem rawUrl_of_raw?_eq_none (h : Url.split url.toList = .ok u) (hnone : u.raw? = none) : rawUrl url = .ok url := by
  simp only [rawUrl, h, hnone, bind, Except.bind, pure, Except.pure]

theorem rawUrl_eq_error_iff {fault : UrlFault} : rawUrl url = .error fault ↔ Url.split url.toList = .error fault := by
  cases h : Url.split url.toList with
  | error fault' => simp only [rawUrl, h, bind, Except.bind, Except.error.injEq]
  | ok u =>
    refine iff_of_false (fun herror => ?_) (by simp)
    cases hv : u.raw? with
    | none => cases (rawUrl_of_raw?_eq_none h hv).symm.trans herror
    | some v => cases (rawUrl_of_raw? h hv).symm.trans herror

theorem isRegular_of_split (h : Url.split url.toList = .ok u) (hv : u.raw? = some v) : v.IsRegular := by
  obtain ⟨-, rfl⟩ := Url.split_eq_ok_iff.mp h
  exact Url.isRegular_of_raw? hv

/-- What a URL is resolved to is resolved to itself. -/
theorem exists_rawUrl_eq (h : Url.split url.toList = .ok u) :
    ∃ resolved, rawUrl url = .ok resolved ∧ rawUrl resolved = .ok resolved := by
  cases hv : u.raw? with
  | none => exact ⟨url, rawUrl_of_raw?_eq_none h hv, rawUrl_of_raw?_eq_none h hv⟩
  | some v =>
    have hnone := Url.raw?_of_mem_rawHosts (Url.isRaw_of_raw? hv).authority
    exact ⟨Text.ofList v.join, rawUrl_of_raw? h hv, rawUrl_of_raw?_eq_none (isRegular_of_split h hv).split_join hnone⟩

/-! ### Valid URLs -/

theorem verdict_eq_valid_iff : u.verdict = .valid ↔ u.scheme = secureScheme ∧ u.host? ≠ none := by
  have hsecure : secureScheme ≠ Text.toList "http" := by decide
  unfold Url.verdict
  constructor
  · intro h
    split_ifs at h with _ _ hscheme hhost
    exact ⟨not_ne_iff.mp hscheme, by simpa using hhost⟩
  · rintro ⟨hscheme, hhost⟩
    have hhttps : ¬ secureScheme ≠ Text.toList "https" := not_ne_iff.mpr rfl
    rw [hscheme, if_neg (by decide), if_neg hsecure, if_neg hhttps, if_neg (by simpa using hhost)]

/-- The parts of a text without the blanks around it. -/
def trimmedParts (url : Text) : Url := Url.unchecked (cleaned url.trim.toList)

theorem validateUrl_eq_valid_iff : validateUrl url = .valid ↔ checkAuthority (trimmedParts url).authority = .ok () ∧
    (trimmedParts url).scheme = secureScheme ∧ (trimmedParts url).host? ≠ none := by
  unfold validateUrl trimmedParts
  rw [Text.trim_toList, Url.split_eq]
  cases checkAuthority (Url.unchecked (cleaned (Text.trimChars url.toList))).authority with
  | error fault => simp [bind, Except.bind]
  | ok => simp [bind, Except.bind, verdict_eq_valid_iff]

theorem split_trim_of_valid (h : validateUrl url = .valid) : Url.split url.trim.toList = .ok (trimmedParts url) :=
  Url.split_eq_ok_iff.mpr ⟨(validateUrl_eq_valid_iff.mp h).1, rfl⟩

theorem validateUrl_trim (url : Text) : validateUrl url.trim = validateUrl url := by
  unfold validateUrl
  rw [Text.trim_toList, Text.trimChars_trimChars]

theorem authority_ne_nil_of_host? (h : u.host? ≠ none) : u.authority ≠ [] := by
  intro hnil
  exact h (Url.host?_congr (v := {}) hnil)

theorem unchecked_append_slash {s host : List CodePoint} (hs : IsScheme s) (hhost : ∀ c ∈ host, endsAuthority c = false)
    (rest : List CodePoint) :
    (Url.unchecked (s ++ .char ':' :: .char '/' :: .char '/' :: (host ++ .char '/' :: rest))).scheme = s.map CodePoint.toLower ∧
    (Url.unchecked (s ++ .char ':' :: .char '/' :: .char '/' :: (host ++ .char '/' :: rest))).authority = host := by
  have hinside : ∀ c ∈ host, (!endsAuthority c) = true := fun c hc => by rw [hhost c hc]; rfl
  unfold Url.unchecked
  rw [takeScheme_append hs]
  refine ⟨rfl, ?_⟩
  dsimp only
  rw [Url.takeAuthority_cons_cons, List.takeWhile_append_of_pos hinside, List.takeWhile_cons_of_neg (by decide), List.append_nil]

/-- What stands behind the host of a raw address does not count. -/
theorem validateUrl_of_mem_rawHosts {host : List CodePoint} (hhost : host ∈ Url.rawHosts) (rest : List CodePoint) :
    validateUrl (Text.ofList (secureScheme ++ .char ':' :: .char '/' :: .char '/' :: (host ++ .char '/' :: rest))) = .valid := by
  have hhosts : ∀ host ∈ Url.rawHosts, checkAuthority host = .ok () ∧ (∀ c ∈ host, endsAuthority c = false) ∧
      (secureScheme ++ .char ':' :: .char '/' :: .char '/' :: host).dropWhile isLeadingJunk ≠ [] ∧
      cleaned (secureScheme ++ .char ':' :: .char '/' :: .char '/' :: host) =
        secureScheme ++ .char ':' :: .char '/' :: .char '/' :: host := by decide +kernel
  obtain ⟨hchecked, hinside, hne, hclean⟩ := hhosts host hhost
  have hfront : ∀ rest, secureScheme ++ .char ':' :: .char '/' :: .char '/' :: (host ++ .char '/' :: rest) =
      (secureScheme ++ .char ':' :: .char '/' :: .char '/' :: host) ++ .char '/' :: rest := fun rest => by simp
  have htrim : Text.trimChars (secureScheme ++ .char ':' :: .char '/' :: .char '/' :: (host ++ .char '/' :: rest)) =
      secureScheme ++ .char ':' :: .char '/' :: .char '/' :: (host ++ .char '/' :: Text.trimRightChars rest) := by
    rw [Text.trimChars, Text.trimLeftChars_of_head, hfront, Text.trimRightChars_append_cons (by decide), hfront]
    rintro c ⟨⟩
    decide
  have hcleaned : cleaned (Text.trimChars (secureScheme ++ .char ':' :: .char '/' :: .char '/' :: (host ++ .char '/' :: rest))) =
      secureScheme ++ .char ':' :: .char '/' :: .char '/' ::
        (host ++ .char '/' :: (Text.trimRightChars rest).filter fun c => !isInnerJunk c) := by
    rw [htrim, hfront, Url.cleaned_append hne, hclean, List.filter_cons_of_pos (by decide), hfront]
  obtain ⟨hscheme, hauthority⟩ := unchecked_append_slash isScheme_secureScheme hinside
    ((Text.trimRightChars rest).filter fun c => !isInnerJunk c)
  rw [validateUrl_eq_valid_iff, trimmedParts, Text.trim_toList, Text.toList_ofList]
  refine ⟨?_, ?_, ?_⟩
  · rw [hcleaned, hauthority, hchecked]
  · rw [hcleaned, hscheme]
    decide
  · rw [hcleaned, Url.host?_of_mem_rawHosts (by rwa [hauthority])]
    simp

/-- So a raw address is valid. -/
theorem validateUrl_of_raw? (h : Url.split url.toList = .ok u) (hv : u.raw? = some v) :
    validateUrl (Text.ofList v.join) = .valid := by
  have hraw := Url.isRaw_of_raw? hv
  obtain ⟨segments, hne, hpath, -⟩ := hraw.segments
  obtain ⟨s, rest, rfl⟩ := List.exists_cons_of_ne_nil hne
  rw [(isRegular_of_split h hv).join_eq, hraw.scheme, Url.behind, hpath, List.flatMap_cons]
  simp only [List.cons_append]
  exact validateUrl_of_mem_rawHosts hraw.authority _

/-- What a valid URL is resolved to is valid. -/
theorem validateUrl_of_rawUrl {resolved : Text} (hvalid : validateUrl url = .valid) (h : rawUrl url = .ok resolved) :
    validateUrl resolved = .valid := by
  cases hsplit : Url.split url.toList with
  | error fault => cases (rawUrl_eq_error_iff.mpr hsplit).symm.trans h
  | ok u =>
    cases hv : u.raw? with
    | none =>
      cases (rawUrl_of_raw?_eq_none hsplit hv).symm.trans h
      exact hvalid
    | some v =>
      cases (rawUrl_of_raw? hsplit hv).symm.trans h
      exact validateUrl_of_raw? hsplit hv

/-! ### Blanks around a valid URL -/

/-- The parts of a valid URL with the blanks around it. -/
theorem unchecked_of_valid (hvalid : validateUrl url = .valid) (hdrops : Url.DropsBefore url.toList) :
    Url.unchecked (cleaned url.toList) =
      (trimmedParts url).extend (Url.lastPart (cleaned url.trim.toList)) (Url.keptBehind url.toList) := by
  obtain ⟨-, hscheme, hhost⟩ := validateUrl_eq_valid_iff.mp hvalid
  have hscheme' : (trimmedParts url).scheme ≠ [] := by
    rw [hscheme]
    exact isScheme_secureScheme.ne_nil
  exact Url.unchecked_of_dropsBefore hdrops hscheme' (authority_ne_nil_of_host? hhost)

/-- A blank in front that is not dropped: the URL stays as it is. -/
theorem rawUrl_of_not_dropsBefore (h : ¬ Url.DropsBefore url.toList) : rawUrl url = .ok url := by
  obtain ⟨-, hauthority⟩ := Url.unchecked_of_not_dropsBefore h
  have hchecked : checkAuthority (Url.unchecked (cleaned url.toList)).authority = .ok () := by
    rw [hauthority]
    decide
  exact rawUrl_of_raw?_eq_none (Url.split_eq_ok_iff.mpr ⟨hchecked, rfl⟩) (Url.raw?_of_authority hauthority)

theorem notMem_hidingDelimiter {c : CodePoint} (h : Text.isBlank c = true) : hidingDelimiter.contains c.toNat = false := by
  have hall : ∀ n ∈ hidingDelimiter, Text.isBlank (.ofNat n) = false := by decide
  by_contra hmem
  rw [Bool.not_eq_false, List.contains_iff_mem] at hmem
  have hnot := hall _ hmem
  rw [CodePoint.ofNat_toNat, h] at hnot
  cases hnot

theorem checkAuthority_eq_ok_iff {authority : List CodePoint} (hopen : .char '[' ∉ authority) :
    checkAuthority authority = .ok () ↔
      .char ']' ∉ authority ∧ ∀ c ∈ authority, hidingDelimiter.contains c.toNat = false := by
  have hopens : authority.contains (.char '[') = false := by simpa using hopen
  unfold checkAuthority
  rw [hopens]
  cases hcloses : authority.contains (.char ']') with
  | true =>
    refine iff_of_false ?_ fun h => h.1 (by simpa using hcloses)
    simp [bind, Except.bind, throw, throwThe, MonadExceptOf.throw]
  | false =>
    have hclose : .char ']' ∉ authority := by simpa using hcloses
    have hany : (authority.any fun c => hidingDelimiter.contains c.toNat) = false ↔
        ∀ c ∈ authority, hidingDelimiter.contains c.toNat = false := by simp
    rw [← hany]
    cases authority.any fun c => hidingDelimiter.contains c.toNat <;>
      simp [hclose, throw, throwThe, MonadExceptOf.throw, pure, Except.pure]

/-- Blanks behind an authority without brackets do not matter. -/
theorem checkAuthority_append_blanks {authority blanks : List CodePoint} (h : checkAuthority authority = .ok ())
    (hopen : .char '[' ∉ authority) (hblanks : ∀ c ∈ blanks, Text.isBlank c = true) :
    checkAuthority (authority ++ blanks) = .ok () := by
  have hmark : ∀ mark, Text.isBlank mark = false → mark ∉ blanks := by
    intro mark hmark hmem
    rw [hblanks mark hmem] at hmark
    cases hmark
  have hopen' : .char '[' ∉ authority ++ blanks := by simp [hopen, hmark (.char '[') (by decide)]
  obtain ⟨hclose, hplain⟩ := (checkAuthority_eq_ok_iff hopen).mp h
  refine (checkAuthority_eq_ok_iff hopen').mpr ⟨by simp [hclose, hmark (.char ']') (by decide)], fun c hc => ?_⟩
  rcases List.mem_append.mp hc with hc | hc
  · exact hplain c hc
  · exact notMem_hidingDelimiter (hblanks c hc)

/-- When a valid URL cannot be resolved: it ends in its authority, and this is not well formed with the blanks behind it
that are kept. -/
theorem rawUrl_eq_error_iff_of_valid {fault : UrlFault} (hvalid : validateUrl url = .valid) : rawUrl url = .error fault ↔
    Url.DropsBefore url.toList ∧ Url.lastPart (cleaned url.trim.toList) = .authority ∧
      checkAuthority ((trimmedParts url).authority ++ Url.keptBehind url.toList) = .error fault := by
  have hchecked := (validateUrl_eq_valid_iff.mp hvalid).1
  by_cases hdrops : Url.DropsBefore url.toList
  · rw [rawUrl_eq_error_iff, Url.split_eq_error_iff, unchecked_of_valid hvalid hdrops]
    cases Url.lastPart (cleaned url.trim.toList) with
    | authority => simp [Url.extend, hdrops]
    | path => simp [Url.extend, hchecked]
    | query => simp [Url.extend, hchecked]
    | fragment => simp [Url.extend, hchecked]
  · rw [rawUrl_of_not_dropsBefore hdrops]
    simp [hdrops]

/-- Resolving a URL twice is resolving it once, and only pages of the two hosts are resolved to another URL. What a valid
URL is resolved to, with the blanks around it or without, is valid. Without these blanks it always is resolved; with
them it is, unless the URL ends in its authority, and this, with the blanks behind it that are no line ends or tabs, is
not well formed any more; then it has brackets. -/
theorem rawUrl_rawUrl (url : Text) :
    (∀ u, Url.split url.toList = .ok u → ∃ resolved, rawUrl url = .ok resolved ∧ rawUrl resolved = .ok resolved ∧
      (u.host? ≠ some pageHost → u.host? ≠ some snippetHost → resolved = url)) ∧
    (validateUrl url = .valid →
      (∃ resolved, rawUrl url.trim = .ok resolved ∧ validateUrl resolved = .valid) ∧
      (∀ resolved, rawUrl url = .ok resolved → validateUrl resolved = .valid) ∧
      (∀ fault, rawUrl url = .error fault ↔
        Url.DropsBefore url.toList ∧ Url.lastPart (cleaned url.trim.toList) = .authority ∧
          checkAuthority ((trimmedParts url).authority ++ Url.keptBehind url.toList) = .error fault) ∧
      (.char '[' ∉ (trimmedParts url).authority → ∃ resolved, rawUrl url = .ok resolved)) := by
  refine ⟨fun u hu => ?_, fun hvalid => ⟨?_, fun resolved h => validateUrl_of_rawUrl hvalid h,
    fun fault => rawUrl_eq_error_iff_of_valid hvalid, fun hopen => ?_⟩⟩
  · obtain ⟨resolved, hresolved, htwice⟩ := exists_rawUrl_eq hu
    refine ⟨resolved, hresolved, htwice, fun hpage hsnippet => ?_⟩
    cases (rawUrl_of_raw?_eq_none hu (Url.raw?_of_host hpage hsnippet)).symm.trans hresolved
    rfl
  · obtain ⟨resolved, hresolved, -⟩ := exists_rawUrl_eq (split_trim_of_valid hvalid)
    have htrim : validateUrl url.trim = .valid := by rwa [validateUrl_trim]
    exact ⟨resolved, hresolved, validateUrl_of_rawUrl htrim hresolved⟩
  · cases h : rawUrl url with
    | ok resolved => exact ⟨resolved, rfl⟩
    | error fault =>
      obtain ⟨-, -, hfault⟩ := (rawUrl_eq_error_iff_of_valid hvalid).mp h
      have hchecked := (validateUrl_eq_valid_iff.mp hvalid).1
      have hblanks : ∀ c ∈ Url.keptBehind url.toList, Text.isBlank c = true := fun c hc => Url.isBlank_of_mem_keptBehind hc
      cases (checkAuthority_append_blanks hchecked hopen hblanks).symm.trans hfault

/-- A page with a blank behind its name. -/
theorem rawUrl_rawUrl_page : validateUrl "https://github.com/o/r/blob/main/c.yml " = .valid ∧
    ∃ resolved, rawUrl "https://github.com/o/r/blob/main/c.yml " = .ok resolved ∧ rawUrl resolved = .ok resolved ∧
      validateUrl resolved = .valid := by
  have hvalid : validateUrl "https://github.com/o/r/blob/main/c.yml " = .valid := by decide +kernel
  obtain ⟨htwice, hresolves⟩ := rawUrl_rawUrl "https://github.com/o/r/blob/main/c.yml "
  obtain ⟨resolved, hresolved⟩ := (hresolves hvalid).2.2.2 (by decide +kernel)
  cases hsplit : Url.split (Text.ofString "https://github.com/o/r/blob/main/c.yml ").toList with
  | error fault => cases (rawUrl_eq_error_iff.mpr hsplit).symm.trans hresolved
  | ok u =>
    obtain ⟨resolved', hresolved', hagain, -⟩ := htwice u hsplit
    exact ⟨hvalid, resolved', hresolved', hagain, (hresolves hvalid).2.1 resolved' hresolved'⟩

/-- A blank behind an address in brackets is kept, and no longer lets it be an address. -/
theorem not_rawUrl_of_valid_brackets :
    ¬ ∀ url, validateUrl url = .valid → ∃ resolved, rawUrl url = .ok resolved ∧ validateUrl resolved = .valid := by
  intro h
  obtain ⟨resolved, hresolved, -⟩ := h "https://[::1] " (by decide +kernel)
  have hfails : rawUrl "https://[::1] " = .error .brackets := by decide +kernel
  rw [hfails] at hresolved
  cases hresolved

end

end Remote

end LintPreview
