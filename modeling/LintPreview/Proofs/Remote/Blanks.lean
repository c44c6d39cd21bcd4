import LintPreview.Proofs.Remote.Raw
import LintPreview.Remote.Fetch

/-!
# Blanks around the URL of a page

* `Url.raw?_extend`: the characters behind a URL that do not change its raw address.
* `BlanksAreLost`: the blanks around a URL do not reach its raw address.
* `rawUrl_trim_iff`: the valid URLs that are resolved with the blanks around them as they are without.
-/

namespace LintPreview

namespace Text

variable {sep : CodePoint}

theorem splitOnChar_ne_nil (sep : CodePoint) (cs : List CodePoint) : splitOnChar sep cs ≠ [] := by
  cases cs with
  | nil => exact List.cons_ne_nil _ _
  | cons c cs =>
    rw [splitOnChar]
    split
    · exact List.cons_ne_nil _ _
    · split <;> exact List.cons_ne_nil _ _

/-- The pieces on both sides of a separator. -/
theorem splitOnChar_append_sep (sep : CodePoint) (cs rest : List CodePoint) :
    splitOnChar sep (cs ++ sep :: rest) = splitOnChar sep cs ++ splitOnChar sep rest := by
  induction cs with
  | nil => simp [splitOnChar]
  | cons c cs ih =>
    rw [List.cons_append, splitOnChar, splitOnChar, ih]
    by_cases hc : c = sep
    · rw [if_pos hc, if_pos hc, List.cons_append]
    · rw [if_neg hc, if_neg hc]
      obtain ⟨piece, pieces, hpieces⟩ := List.exists_cons_of_ne_nil (splitOnChar_ne_nil sep cs)
      rw [hpieces]
      rfl

theorem exists_eq_append_cons_last {cs : List CodePoint} (h : sep ∈ cs) :
    ∃ front last, cs = front ++ sep :: last ∧ sep ∉ last := by
  obtain ⟨last, front, hreverse, hnot⟩ := List.eq_append_cons_of_mem (List.mem_reverse.mpr h)
  refine ⟨front.reverse, last.reverse, ?_, List.mem_reverse.not.mpr hnot⟩
  rw [← List.reverse_reverse cs, hreverse]
  simp

/-- Characters behind a text that are not the separator lengthen the last piece. This piece is empty if the text ends
with the separator. -/
theorem exists_splitOnChar_append (sep : CodePoint) (cs : List CodePoint) : ∃ pieces last,
    (∀ ds, sep ∉ ds → splitOnChar sep (cs ++ ds) = pieces ++ [last ++ ds]) ∧
      (last = [] ↔ cs = [] ∨ cs.getLast? = some sep) := by
  by_cases hmem : sep ∈ cs
  · obtain ⟨front, last, rfl, hnot⟩ := exists_eq_append_cons_last hmem
    refine ⟨splitOnChar sep front, last, fun ds hds => ?_, ?_⟩
    · have hlong : sep ∉ last ++ ds := by simp [hds, hnot]
      rw [List.append_assoc, List.cons_append, splitOnChar_append_sep, splitOnChar_of_not_mem hlong]
    · constructor
      · rintro rfl
        exact .inr (by simp)
      · rintro (hnil | hlast)
        · simp at hnil
        · by_contra hne
          rw [List.getLast?_append_cons, List.getLast?_cons_of_ne_nil hne] at hlast
          exact hnot (List.mem_of_getLast? hlast)
  · refine ⟨[], cs, fun ds hds => ?_, ?_⟩
    · have hlong : sep ∉ cs ++ ds := by simp [hds, hmem]
      rw [splitOnChar_of_not_mem hlong, List.nil_append]
    · have hlast : cs.getLast? ≠ some sep := fun h => hmem (List.mem_of_getLast? h)
      simp [hlast]

/-- Pieces with a separator in front of each are read back. -/
theorem splitOnChar_append_flatMap {pieces : List (List CodePoint)} (h : ∀ p ∈ pieces, sep ∉ p) {cs : List CodePoint}
    (hcs : sep ∉ cs) : splitOnChar sep (cs ++ pieces.flatMap fun p => sep :: p) = cs :: pieces := by
  induction pieces generalizing cs with
  | nil => rw [List.flatMap_nil, List.append_nil, splitOnChar_of_not_mem hcs]
  | cons p pieces ih =>
    rw [List.flatMap_cons, List.cons_append, splitOnChar_append_cons hcs,
      ih (fun q hq => h q (List.mem_cons_of_mem p hq)) (h p List.mem_cons_self)]

end Text

namespace Remote

/-! ### Segments of snippets -/

/-- The last segment of the path of a plain snippet. -/
def rawSegment : List CodePoint := Text.toList "raw"

theorem snippetSegments_of_raw {segments : List (List CodePoint)} 
    (h : segments.getLast? = some rawSegment ∨ segments[2]? = some rawSegment) : snippetSegments segments = segments := if_pos h

theorem snippetSegments_of_not_raw {segments : List (List CodePoint)} 
    (hlast : segments.getLast? ≠ some rawSegment) (hthird : segments[2]? ≠ some rawSegment) :
    snippetSegments segments = segments.take 2 ++ [rawSegment] :=
  if_neg (not_or.mpr ⟨hlast, hthird⟩)

/-- One more segment. -/
theorem snippetSegments_append_singleton {segments : List (List CodePoint)} {s : List CodePoint} (hs : s ≠ rawSegment)
    (hlength : 2 ≤ segments.length) : snippetSegments (segments ++ [s]) = snippetSegments segments ↔
      snippetSegments segments = segments.take 2 ++ [rawSegment] ∧ segments[2]? ≠ some rawSegment := by
  have hlast : (segments ++ [s]).getLast? ≠ some rawSegment := by simpa using hs
  have hthird : (segments ++ [s])[2]? = some rawSegment ↔ segments[2]? = some rawSegment := by
    rcases Nat.lt_or_ge 2 segments.length with hlong | hshort
    · rw [List.getElem?_append_left hlong]
    · have heq : segments.length = 2 := le_antisymm hshort hlength
      rw [List.getElem?_append_right hshort, heq, List.getElem?_eq_none hshort]
      simpa using hs
  by_cases hraw : segments[2]? = some rawSegment
  · rw [snippetSegments_of_raw (.inr (hthird.mpr hraw)), snippetSegments_of_raw (.inr hraw)]
    simp [hraw]
  · rw [snippetSegments_of_not_raw hlast (mt hthird.mp hraw), List.take_append_of_le_length hlength]
    simp [hraw, eq_comm]

/-- A longer last segment. -/
theorem snippetSegments_lengthen {segments : List (List CodePoint)} {s s' : List CodePoint} (hs : s' ≠ rawSegment)
    (hne : s' ≠ s) (hlength : 2 ≤ (segments ++ [s]).length) :
    snippetSegments (segments ++ [s']) = snippetSegments (segments ++ [s]) ↔
      snippetSegments (segments ++ [s]) = (segments ++ [s]).take 2 ++ [rawSegment] ∧ 3 ≤ (segments ++ [s]).length := by
  have hlast : (segments ++ [s']).getLast? ≠ some rawSegment := by simpa using hs
  rw [List.length_append, List.length_singleton] at hlength ⊢
  have hthird : (segments ++ [s'])[2]? = some rawSegment ↔ segments[2]? = some rawSegment := by
    rw [List.getElem?_append]
    split_ifs with hlong
    · exact Iff.rfl
    · rw [List.getElem?_eq_none (Nat.le_of_not_lt hlong), List.getElem?_singleton]
      split_ifs <;> simp [hs]
  by_cases hraw : segments[2]? = some rawSegment
  · have hlong : 2 < segments.length := (List.getElem?_eq_some_iff.mp hraw).1
    have hraw' : (segments ++ [s])[2]? = some rawSegment := by rw [List.getElem?_append_left hlong, hraw]
    rw [snippetSegments_of_raw (.inr (hthird.mpr hraw)), snippetSegments_of_raw (.inr hraw')]
    refine iff_of_false (by simpa using hne) ?_
    rintro ⟨heq, -⟩
    have hlengths := congrArg List.length heq
    rw [List.length_append, List.length_append, List.length_take, List.length_append] at hlengths
    simp only [List.length_singleton] at hlengths
    omega
  · rw [snippetSegments_of_not_raw hlast (mt hthird.mp hraw)]
    rcases Nat.lt_or_ge 1 segments.length with hlong | hshort
    · rw [List.take_append_of_le_length hlong, List.take_append_of_le_length hlong]
      exact ⟨fun h => ⟨h.symm, by omega⟩, fun h => h.1.symm⟩
    · obtain ⟨first, rfl⟩ : ∃ first, segments = [first] := List.length_eq_one_iff.mp (by omega)
      refine iff_of_false ?_ fun h => by simp at h
      unfold snippetSegments
      dsimp only
      split_ifs <;> simp [hne]

/-! ### Longer paths -/

namespace Url

variable {u v : Url}

theorem slash_notMem_of_mem_segments {s : List CodePoint} (h : s ∈ u.segments) : .char '/' ∉ s :=
  Text.not_mem_of_mem_splitOnChar (List.mem_filter.mp h).1

theorem slash_notMem_of_page {owner repository kind reference : List CodePoint} {rest : List (List CodePoint)}
    (h : u.segments = owner :: repository :: kind :: reference :: rest) :
    ∀ s ∈ owner :: repository :: reference :: rest, .char '/' ∉ s := by
  intro s hs
  have hmem : s ∈ u.segments := by
    rw [h]
    exact List.cons_subset_cons _ (List.cons_subset_cons _ (List.subset_cons_self _ _)) hs
  exact slash_notMem_of_mem_segments hmem

theorem slash_notMem_of_mem_snippetSegments {s : List CodePoint} (h : s ∈ snippetSegments u.segments) : .char '/' ∉ s := by
  rcases mem_snippetSegments h with h | rfl
  · exact slash_notMem_of_mem_segments h
  · decide

/-- The path of a raw address is the path of its segments only. -/
theorem segments_inj {segments segments' : List (List CodePoint)} (h : ∀ s ∈ segments, .char '/' ∉ s)
    (h' : ∀ s ∈ segments', .char '/' ∉ s)
    (heq : (segments.flatMap fun s => CodePoint.char '/' :: s) = segments'.flatMap fun s => CodePoint.char '/' :: s) :
    segments = segments' := by
  have hread := Text.splitOnChar_append_flatMap h (List.not_mem_nil (a := CodePoint.char '/'))
  rw [heq, Text.splitOnChar_append_flatMap h' List.not_mem_nil] at hread
  exact (List.cons.inj hread).2.symm

/-- Characters behind a slash are a segment of their own. -/
theorem segments_extend_of_slash (hslash : u.path.getLast? = some (.char '/')) {ds : List CodePoint} (hne : ds ≠ [])
    (hds : .char '/' ∉ ds) : (u.extend .path ds).segments = u.segments ++ [ds] := by
  obtain ⟨pieces, last, hlonger, hlast⟩ := Text.exists_splitOnChar_append (.char '/') u.path
  obtain rfl := hlast.mpr (.inr hslash)
  have hsplit := hlonger [] List.not_mem_nil
  rw [List.append_nil] at hsplit
  show (Text.splitOnChar '/' (u.path ++ ds)).filter (!·.isEmpty) = (Text.splitOnChar '/' u.path).filter (!·.isEmpty) ++ [ds]
  rw [hlonger ds hds, hsplit, List.filter_append, List.filter_append, List.filter_cons_of_pos (by simpa using hne)]
  simp

/-- Characters behind anything else belong to the last segment. -/
theorem exists_segments_extend (hpath : u.path ≠ []) (hslash : u.path.getLast? ≠ some (.char '/')) : ∃ pieces last,
    u.segments = pieces ++ [last] ∧ ∀ ds, .char '/' ∉ ds → (u.extend .path ds).segments = pieces ++ [last ++ ds] := by
  obtain ⟨pieces, last, hlonger, hlast⟩ := Text.exists_splitOnChar_append (.char '/') u.path
  have hne : last ≠ [] := fun hnil => (hlast.mp hnil).elim hpath hslash
  have hsegments : ∀ ds, .char '/' ∉ ds → (u.extend .path ds).segments = pieces.filter (!·.isEmpty) ++ [last ++ ds] := by
    intro ds hds
    show (Text.splitOnChar '/' (u.path ++ ds)).filter (!·.isEmpty) = _
    rw [hlonger ds hds, List.filter_append, List.filter_cons_of_pos (by simp [hne]), List.filter_nil]
  refine ⟨pieces.filter (!·.isEmpty), last, ?_, hsegments⟩
  have hnil := hsegments [] List.not_mem_nil
  rwa [extend, List.append_nil, List.append_nil] at hnil

/-- How its path ends does not matter to the raw address of a snippet. -/
def EndsAside (u : Url) : Prop :=
  u.host? = some snippetHost ∧ snippetSegments u.segments = u.segments.take 2 ++ [rawSegment] ∧
    if u.path.getLast? = some (.char '/') then u.segments[2]? ≠ some rawSegment else 3 ≤ u.segments.length

instance (u : Url) : Decidable u.EndsAside := inferInstanceAs (Decidable (_ ∧ _ ∧ _))

theorem path_ne_nil_of_raw? (h : u.raw? = some v) : u.path ≠ [] := by
  intro hnil
  have hsegments : u.segments = [] := by rw [segments, hnil]; rfl
  rcases raw?_eq_some_iff.mp h with ⟨-, owner, repository, reference, rest, heq, -⟩ | ⟨-, hlength, -⟩
  · rw [hsegments] at heq
    cases heq
  · rw [hsegments] at hlength
    exact absurd hlength (by decide)

section

variable {ds : List CodePoint}

/-- The raw address of a page tells all of its segments. -/
theorem segments_eq_of_raw? {u' : Url} (hpage : u.host? = some pageHost) (hpage' : u'.host? = some pageHost)
    (h : u.raw? = some v) (h' : u'.raw? = some v) : u'.segments = u.segments := by
  have hother : pageHost ≠ snippetHost := by decide
  rcases raw?_eq_some_iff.mp h with ⟨-, owner, repository, reference, rest, hsegments, rfl⟩ | ⟨hsnippet, -⟩
  · rcases raw?_eq_some_iff.mp h' with ⟨-, owner', repository', reference', rest', hsegments', heq⟩ | ⟨hsnippet, -⟩
    · cases segments_inj (slash_notMem_of_page hsegments) (slash_notMem_of_page hsegments') (congrArg path heq)
      rw [hsegments, hsegments']
    · exact absurd (Option.some.inj (hpage'.symm.trans hsnippet)) hother
  · exact absurd (Option.some.inj (hpage.symm.trans hsnippet)) hother

theorem segments_extend_ne (hpath : u.path ≠ []) (hne : ds ≠ []) (hds : .char '/' ∉ ds) :
    (u.extend .path ds).segments ≠ u.segments := by
  by_cases hslash : u.path.getLast? = some (.char '/')
  · rw [segments_extend_of_slash hslash hne hds]
    simp
  · obtain ⟨pieces, last, hsegments, hlonger⟩ := exists_segments_extend hpath hslash
    rw [hlonger ds hds, hsegments]
    simpa using hne

/-- The raw address of a snippet tells what becomes of its segments. -/
theorem raw?_eq_iff_of_snippet {u' : Url} (hsnippet : u.host? = some snippetHost) (hsnippet' : u'.host? = some snippetHost)
    (hquery : u'.query = u.query) (h : u.raw? = some v) : u'.raw? = some v ↔
      2 ≤ u'.segments.length ∧ snippetSegments u'.segments = snippetSegments u.segments := by
  have hother : snippetHost ≠ pageHost := by decide
  rcases raw?_eq_some_iff.mp h with ⟨hpage, -⟩ | ⟨-, hlength, rfl⟩
  · exact absurd (Option.some.inj (hsnippet.symm.trans hpage)) hother
  · rw [raw?_eq_some_iff]
    constructor
    · rintro (⟨hpage, -⟩ | ⟨-, hlength', heq⟩)
      · exact absurd (Option.some.inj (hsnippet'.symm.trans hpage)) hother
      · exact ⟨hlength', (segments_inj (fun s hs => slash_notMem_of_mem_snippetSegments hs)
          (fun s hs => slash_notMem_of_mem_snippetSegments hs) (congrArg path heq)).symm⟩
    · rintro ⟨hlength', heq⟩
      refine .inr ⟨hsnippet', hlength', ?_⟩
      rw [elsewhere, elsewhere, heq, hquery]

/-- Blanks behind the path of a page change its raw address, unless it is a snippet whose path does not count there. -/
theorem raw?_extend_path (h : u.raw? = some v) (hne : ds ≠ []) (hblanks : ∀ c ∈ ds, Text.isBlank c = true) :
    (u.extend .path ds).raw? = some v ↔ u.EndsAside := by
  have hother : pageHost ≠ snippetHost := by decide
  have hpath := path_ne_nil_of_raw? h
  have hslashes : .char '/' ∉ ds := fun hmem => absurd (hblanks _ hmem) (by decide)
  -- Segments that end with a blank are not the one of plain snippets.
  have hraw : ∀ cs, cs ++ ds ≠ rawSegment := by
    intro cs heq
    have hlast := hblanks _ (List.getLast_mem hne)
    have : (cs ++ ds).getLast? = some (ds.getLast hne) := by
      rw [List.getLast?_append_of_ne_nil _ hne, List.getLast?_eq_some_getLast hne]
    rw [heq] at this
    rw [← Option.some.inj this] at hlast
    revert hlast
    decide
  have hhost : (u.extend .path ds).host? = u.host? := host?_congr rfl
  rcases raw?_eq_some_iff.mp h with ⟨hpage, -⟩ | ⟨hsnippet, hlength, -⟩
  · refine iff_of_false (fun h' => ?_) fun haside => hother (Option.some.inj (hpage.symm.trans haside.1))
    exact segments_extend_ne hpath hne hslashes (segments_eq_of_raw? hpage (hhost.trans hpage) h h')
  · rw [raw?_eq_iff_of_snippet hsnippet (hhost.trans hsnippet) rfl h, EndsAside]
    by_cases hslash : u.path.getLast? = some (.char '/')
    · rw [segments_extend_of_slash hslash hne hslashes,
        snippetSegments_append_singleton (by simpa using hraw []) hlength, if_pos hslash]
      have hlong : 2 ≤ (u.segments ++ [ds]).length := by
        rw [List.length_append]
        omega
      rw [and_iff_right hlong, and_iff_right hsnippet]
    · obtain ⟨pieces, last, hsegments, hlonger⟩ := exists_segments_extend hpath hslash
      rw [hsegments] at hlength ⊢
      rw [hlonger ds hslashes, snippetSegments_lengthen (hraw last) (by simpa using hne) hlength, if_neg hslash]
      have hlong : 2 ≤ (pieces ++ [last ++ ds]).length := by simpa using hlength
      rw [and_iff_right hlong, and_iff_right hsnippet]

/-- Where blanks behind a URL do not change its raw address. -/
theorem raw?_extend {part : Part} (h : u.raw? = some v) (hne : ds ≠ []) (hblanks : ∀ c ∈ ds, Text.isBlank c = true)
    (hpart : part ≠ .authority) :
    (u.extend part ds).raw? = some v ↔ part = .fragment ∨ part = .path ∧ u.EndsAside := by
  cases part with
  | authority => exact absurd rfl hpart
  | path => simpa using raw?_extend_path h hne hblanks
  | query =>
    refine iff_of_false (fun h' => ?_) (by simp)
    have hquery : u.query ++ ds = u.query := (isRaw_of_raw? h').query.symm.trans (isRaw_of_raw? h).query
    exact hne (by simpa using hquery)
  | fragment =>
    have hsame : (u.extend .fragment ds).raw? = u.raw? := rfl
    simpa [hsame] using h

theorem extend_nil (u : Url) (part : Part) : u.extend part [] = u := by
  cases part <;> simp [extend]

theorem path_extend_authority (u : Url) (ds : List CodePoint) : (u.extend .authority ds).path = u.path := rfl

theorem authority_extend {part : Part} (h : part ≠ .authority) (u : Url) (ds : List CodePoint) :
    (u.extend part ds).authority = u.authority := by
  cases part with
  | authority => exact absurd rfl h
  | path | query | fragment => rfl

theorem path_of_lastPart {cs : List CodePoint} (h : lastPart cs = .authority) : (unchecked cs).path = [] := by
  have hrest : (takeAuthority (takeScheme cs).2).2 = [] := by
    unfold lastPart at h
    dsimp only at h
    split_ifs at h with hrest
    exact hrest
  unfold unchecked
  dsimp only
  rw [hrest]
  rfl

end

end Url

/-! ### The blanks around a URL -/

section

variable {url : Text}

/-- The blanks around a URL do not reach its raw address: those in front are dropped, and those behind are dropped too,
or stand in the fragment, or at the end of a path that does not matter. -/
structure BlanksAreLost (url : Text) : Prop where
  drops : Url.DropsBefore url.toList
  isPage : (trimmedParts url).raw? ≠ none
  place : Url.keptBehind url.toList = [] ∨ Url.lastPart (cleaned url.trim.toList) = .fragment ∨
    Url.lastPart (cleaned url.trim.toList) = .path ∧ (trimmedParts url).EndsAside

/-- A URL is resolved to a text of regular parts if these are its raw address, or its own parts. -/
theorem exists_of_rawUrl_eq_join {v : Url} (hv : v.IsRegular) (h : rawUrl url = .ok (Text.ofList v.join)) :
    ∃ u, Url.split url.toList = .ok u ∧ (u.raw? = some v ∨ u = v) := by
  cases hsplit : Url.split url.toList with
  | error fault => cases (rawUrl_eq_error_iff.mpr hsplit).symm.trans h
  | ok u =>
    refine ⟨u, rfl, ?_⟩
    cases hraw : u.raw? with
    | none =>
      cases (rawUrl_of_raw?_eq_none hsplit hraw).symm.trans h
      exact .inr (Except.ok.inj (hsplit.symm.trans hv.split_join))
    | some w =>
      have hjoin : w.join = v.join := Text.mk.inj (Except.ok.inj ((rawUrl_of_raw? hsplit hraw).symm.trans h))
      have hw := (isRegular_of_split hsplit hraw).split_join
      rw [hjoin, hv.split_join] at hw
      exact .inl (congrArg some (Except.ok.inj hw).symm)

section

variable (hvalid : validateUrl url = .valid) (hdrops : Url.DropsBefore url.toList)

include hvalid hdrops

/-- When a page with blanks around its URL is resolved to its raw address. -/
theorem rawUrl_eq_iff_of_raw? {v : Url} (hv : (trimmedParts url).raw? = some v) :
    rawUrl url = .ok (Text.ofList v.join) ↔
      ((trimmedParts url).extend (Url.lastPart (cleaned url.trim.toList)) (Url.keptBehind url.toList)).raw? = some v := by
  have hread := unchecked_of_valid hvalid hdrops
  have hpart : Url.lastPart (cleaned url.trim.toList) ≠ .authority :=
    fun hpart => Url.path_ne_nil_of_raw? hv (Url.path_of_lastPart hpart)
  have hauthority := Url.authority_extend hpart (trimmedParts url) (Url.keptBehind url.toList)
  constructor
  · intro h
    obtain ⟨u, hsplit, hu⟩ := exists_of_rawUrl_eq_join (isRegular_of_split (split_trim_of_valid hvalid) hv) h
    obtain ⟨-, rfl⟩ := Url.split_eq_ok_iff.mp hsplit
    rw [hread] at hu
    refine hu.resolve_right fun heq => ?_
    rw [heq] at hauthority
    have hnone := Url.raw?_of_mem_rawHosts (hauthority ▸ (Url.isRaw_of_raw? hv).authority)
    cases hnone.symm.trans hv
  · intro h
    rw [← hread] at h hauthority
    refine rawUrl_of_raw? (Url.split_eq_ok_iff.mpr ⟨?_, rfl⟩) h
    rw [hauthority]
    exact (validateUrl_eq_valid_iff.mp hvalid).1

/-- Any other URL with blanks around it is never resolved to the URL without them. -/
theorem rawUrl_eq_iff_of_raw?_eq_none (hnone : (trimmedParts url).raw? = none) :
    rawUrl url = .ok url.trim ↔ url = url.trim := by
  have hread := unchecked_of_valid hvalid hdrops
  constructor
  · intro h
    cases hsplit : Url.split url.toList with
    | error fault => cases (rawUrl_eq_error_iff.mpr hsplit).symm.trans h
    | ok u =>
      cases hraw : u.raw? with
      | none => exact Except.ok.inj ((rawUrl_of_raw?_eq_none hsplit hraw).symm.trans h)
      | some w =>
        exfalso
        have htrim : Text.ofList w.join = url.trim := Except.ok.inj ((rawUrl_of_raw? hsplit hraw).symm.trans h)
        have hw := (isRegular_of_split hsplit hraw).split_join
        have hparts : trimmedParts url = w := by
          have := split_trim_of_valid hvalid
          rw [← htrim, Text.toList_ofList, hw] at this
          exact (Except.ok.inj this).symm
        obtain ⟨-, rfl⟩ := Url.split_eq_ok_iff.mp hsplit
        have hhost := (Url.isRaw_of_raw? hraw).authority
        rw [hread] at hraw
        by_cases hpart : Url.lastPart (cleaned url.trim.toList) = .authority
        · have hpath : (trimmedParts url).path = [] := Url.path_of_lastPart hpart
          refine Url.path_ne_nil_of_raw? hraw ?_
          rw [hpart, Url.path_extend_authority, hpath]
        · rw [← hparts, ← Url.authority_extend hpart _ (Url.keptBehind url.toList)] at hhost
          cases (Url.raw?_of_mem_rawHosts hhost).symm.trans hraw
  · intro h
    have hstays := rawUrl_of_raw?_eq_none (split_trim_of_valid hvalid) hnone
    rw [← h] at hstays ⊢
    exact hstays

end

theorem isBlank_keptBehind (url : Text) : ∀ c ∈ Url.keptBehind url.toList, Text.isBlank c = true :=
  fun _ hc => Url.isBlank_of_mem_keptBehind hc

/-- When a valid page is resolved to one raw address with the blanks around its URL and without. -/
theorem rawUrl_eq_iff_of_page {v : Url} (hvalid : validateUrl url = .valid) (hv : (trimmedParts url).raw? = some v) :
    rawUrl url = .ok (Text.ofList v.join) ↔ BlanksAreLost url := by
  by_cases hdrops : Url.DropsBefore url.toList
  · have hpart : Url.lastPart (cleaned url.trim.toList) ≠ .authority :=
      fun hpart => Url.path_ne_nil_of_raw? hv (Url.path_of_lastPart hpart)
    rw [rawUrl_eq_iff_of_raw? hvalid hdrops hv]
    by_cases hkept : Url.keptBehind url.toList = []
    · rw [hkept, Url.extend_nil]
      exact iff_of_true hv ⟨hdrops, by simp [hv], .inl hkept⟩
    · rw [Url.raw?_extend hv hkept (isBlank_keptBehind url) hpart]
      exact ⟨fun h => ⟨hdrops, by simp [hv], .inr h⟩, fun h => h.place.resolve_left hkept⟩
  · refine iff_of_false (fun h => ?_) fun h => hdrops h.drops
    obtain ⟨u, hsplit, hu⟩ := exists_of_rawUrl_eq_join (isRegular_of_split (split_trim_of_valid hvalid) hv) h
    obtain ⟨-, rfl⟩ := Url.split_eq_ok_iff.mp hsplit
    have hauthority := (Url.unchecked_of_not_dropsBefore hdrops).2
    rcases hu with hu | rfl
    · cases (Url.raw?_of_authority hauthority).symm.trans hu
    · have hhost := (Url.isRaw_of_raw? hv).authority
      rw [hauthority] at hhost
      exact absurd hhost (by decide)

theorem fetchConfig_congr {url url' : Text} (h : requestUrl url = requestUrl url') (settings : RemoteSettings)
    (threshold : LogLevel) : fetchConfig settings threshold url = fetchConfig settings threshold url' := by
  unfold fetchConfig
  rw [h]

/-- A valid URL with blanks around it is resolved as without them only if there are none, or if it is a page and the
blanks do not reach its raw address. Then the same is fetched. -/
theorem rawUrl_trim_iff (hvalid : validateUrl url = .valid) :
    (rawUrl url = rawUrl url.trim ↔ url = url.trim ∨ BlanksAreLost url) ∧
    (url = url.trim ∨ BlanksAreLost url →
      ∀ settings threshold, fetchConfig settings threshold url = fetchConfig settings threshold url.trim) := by
  have hiff : rawUrl url = rawUrl url.trim ↔ url = url.trim ∨ BlanksAreLost url := by
    have hsplit := split_trim_of_valid hvalid
    constructor
    · intro h
      cases hv : (trimmedParts url).raw? with
      | none =>
        rw [rawUrl_of_raw?_eq_none hsplit hv] at h
        by_cases hdrops : Url.DropsBefore url.toList
        · exact .inl ((rawUrl_eq_iff_of_raw?_eq_none hvalid hdrops hv).mp h)
        · exact .inl (Except.ok.inj ((rawUrl_of_not_dropsBefore hdrops).symm.trans h))
      | some v =>
        rw [rawUrl_of_raw? hsplit hv] at h
        exact .inr ((rawUrl_eq_iff_of_page hvalid hv).mp h)
    · rintro (h | h)
      · exact congrArg rawUrl h
      · obtain ⟨v, hv⟩ := Option.ne_none_iff_exists'.mp h.isPage
        rw [rawUrl_of_raw? hsplit hv]
        exact (rawUrl_eq_iff_of_page hvalid hv).mpr h
  refine ⟨hiff, fun h settings threshold => fetchConfig_congr ?_ settings threshold⟩
  unfold requestUrl
  rw [validateUrl_trim, hiff.mpr h, hvalid]

end

/-- Blanks around a page that are dropped: a space in front, and line ends behind. -/
theorem rawUrl_trim_iff_page : validateUrl " https://github.com/o/r/blob/main/c.yml\r\n" = .valid ∧
    rawUrl " https://github.com/o/r/blob/main/c.yml\r\n" =
      rawUrl (Text.trim " https://github.com/o/r/blob/main/c.yml\r\n") := by
  have hvalid : validateUrl " https://github.com/o/r/blob/main/c.yml\r\n" = .valid := by decide +kernel
  exact ⟨hvalid, (rawUrl_trim_iff hvalid).1.mpr (.inr ⟨by decide +kernel, by decide +kernel, .inl (by decide +kernel)⟩)⟩

/-- A space behind the name of a page is asked for. -/
theorem not_rawUrl_eq_rawUrl_trim : ¬ ∀ url, validateUrl url = .valid → rawUrl url = rawUrl url.trim := by
  intro h
  have heq := h "https://github.com/o/r/blob/main/c.yml " (by decide +kernel)
  revert heq
  decide +kernel

end Remote

end LintPreview
