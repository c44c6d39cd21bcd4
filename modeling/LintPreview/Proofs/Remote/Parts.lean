import LintPreview.Proofs.Remote.Scheme

/-!
# The parts of a URL and its text

* `Url.unchecked`: the parts that a text is cut into. `Url.split_eq_ok_iff`, `Url.split_eq_error_iff`: they are the parts
  of the URL if the authority is well formed; otherwise its fault is the only one there can be.
* `Url.IsRegular`, `Url.IsRegular.split_join`: the parts that are read back from their text.
* `Url.unchecked_append`: characters behind a text go to the part that the text ends in (`Url.lastPart`).
* `Url.cleaned_of_dropsBefore`: which of the blanks around a URL belong to it (`Url.DropsBefore`, `Url.keptBehind`).
-/

namespace LintPreview

namespace Text

variable {sep : CodePoint}

theorem cutAt_cases (sep : CodePoint) (cs : List CodePoint) : (sep ∉ cs ∧ cutAt sep cs = (cs, none)) ∨
    ∃ front rest, cs = front ++ sep :: rest ∧ sep ∉ front ∧ cutAt sep cs = (front, some rest) := by
  by_cases hmem : sep ∈ cs
  · obtain ⟨front, rest, rfl, hnot⟩ := List.eq_append_cons_of_mem hmem
    exact .inr ⟨front, rest, rfl, hnot, cutAt_append_cons hnot rest⟩
  · exact .inl ⟨hmem, cutAt_of_not_mem hmem⟩

theorem not_mem_cutAt (sep : CodePoint) (cs : List CodePoint) : sep ∉ (cutAt sep cs).1 := by
  rcases cutAt_cases sep cs with ⟨hnot, hcut⟩ | ⟨front, rest, -, hnot, hcut⟩ <;> rwa [hcut]

theorem mem_of_mem_cutAt {cs : List CodePoint} {c : CodePoint} :
    (c ∈ (cutAt sep cs).1 → c ∈ cs) ∧ (c ∈ (cutAt sep cs).2.getD [] → c ∈ cs) := by
  rcases cutAt_cases sep cs with ⟨-, hcut⟩ | ⟨front, rest, rfl, -, hcut⟩
  · simp [hcut]
  · simp [hcut]
    tauto

theorem cutAt_append_of_mem {cs : List CodePoint} (h : sep ∈ cs) (ds : List CodePoint) :
    (cutAt sep (cs ++ ds)).1 = (cutAt sep cs).1 ∧ (cutAt sep (cs ++ ds)).2.getD [] = (cutAt sep cs).2.getD [] ++ ds := by
  obtain ⟨front, rest, rfl, hnot⟩ := List.eq_append_cons_of_mem h
  rw [List.append_assoc, List.cons_append, cutAt_append_cons hnot, cutAt_append_cons hnot]
  exact ⟨rfl, rfl⟩

/-- A text behind a mark, or nothing if there is none. -/
def marked (mark : CodePoint) (cs : List CodePoint) : List CodePoint := if cs.isEmpty then [] else mark :: cs

/-- A text behind a mark is read back. -/
theorem cutAt_append_marked {front : List CodePoint} (h : sep ∉ front) (cs : List CodePoint) :
    (cutAt sep (front ++ marked sep cs)).1 = front ∧ (cutAt sep (front ++ marked sep cs)).2.getD [] = cs := by
  cases cs with
  | nil =>
    rw [marked, List.isEmpty_nil, if_pos rfl, List.append_nil, cutAt_of_not_mem h]
    exact ⟨rfl, rfl⟩
  | cons c cs =>
    rw [marked, List.isEmpty_cons, if_neg Bool.false_ne_true, cutAt_append_cons h]
    exact ⟨rfl, rfl⟩

theorem head?_marked {mark : CodePoint} {cs : List CodePoint} : ∀ c ∈ (marked mark cs).head?, c = mark := by
  cases cs <;> simp [marked]

theorem mem_marked {mark c : CodePoint} {cs : List CodePoint} (h : c ∈ marked mark cs) : c = mark ∨ c ∈ cs := by
  cases cs with
  | nil => cases h
  | cons d cs => exact List.mem_cons.mp h

/-! ### Blanks around a text -/

/-- The blanks in front of a text. -/
def blanksBefore (cs : List CodePoint) : List CodePoint := cs.takeWhile isBlank

/-- The blanks behind a text, without those that also stand in front of it. -/
def blanksBehind (cs : List CodePoint) : List CodePoint := ((trimLeftChars cs).reverse.takeWhile isBlank).reverse

theorem blanks_append_trimChars (cs : List CodePoint) : blanksBefore cs ++ trimChars cs ++ blanksBehind cs = cs := by
  have hbehind : trimChars cs ++ blanksBehind cs = trimLeftChars cs := by
    rw [trimChars, trimRightChars, blanksBehind, ← List.reverse_append, List.takeWhile_append_dropWhile, List.reverse_reverse]
  rw [List.append_assoc, hbehind, blanksBefore, trimLeftChars, List.takeWhile_append_dropWhile]

theorem isBlank_of_mem_blanksBefore {cs : List CodePoint} {c : CodePoint} (h : c ∈ blanksBefore cs) : isBlank c = true :=
  List.mem_takeWhile_imp h

theorem isBlank_of_mem_blanksBehind {cs : List CodePoint} {c : CodePoint} (h : c ∈ blanksBehind cs) : isBlank c = true :=
  List.mem_takeWhile_imp (List.mem_reverse.mp h)

end Text

namespace Remote

namespace Url

/-- The parts of a text, whatever stands in the authority. -/
def unchecked (cs : List CodePoint) : Url :=
  let front := takeScheme cs
  let place := takeAuthority front.2
  let behind := Text.cutAt '#' place.2
  let way := Text.cutAt '?' behind.1
  { scheme := front.1, authority := place.1, path := way.1, query := way.2.getD [], fragment := behind.2.getD [] }

theorem split_eq (cs : List CodePoint) : split cs =
    checkAuthority (unchecked (cleaned cs)).authority >>= fun _ => .ok (unchecked (cleaned cs)) := rfl

theorem split_eq_ok_iff {cs : List CodePoint} {u : Url} :
    split cs = .ok u ↔ checkAuthority (unchecked (cleaned cs)).authority = .ok () ∧ unchecked (cleaned cs) = u := by
  rw [split_eq]
  cases checkAuthority (unchecked (cleaned cs)).authority <;> simp [bind, Except.bind]

theorem split_eq_error_iff {cs : List CodePoint} {fault : UrlFault} :
    split cs = .error fault ↔ checkAuthority (unchecked (cleaned cs)).authority = .error fault := by
  rw [split_eq]
  cases checkAuthority (unchecked (cleaned cs)).authority <;> simp [bind, Except.bind]

theorem notMem_path_unchecked (cs : List CodePoint) :
    .char '?' ∉ (unchecked cs).path ∧ .char '#' ∉ (unchecked cs).path :=
  ⟨Text.not_mem_cutAt _ _, fun h => Text.not_mem_cutAt _ _ (Text.mem_of_mem_cutAt.1 h)⟩

theorem notMem_query_unchecked (cs : List CodePoint) : .char '#' ∉ (unchecked cs).query :=
  fun h => Text.not_mem_cutAt _ _ (Text.mem_of_mem_cutAt.2 h)

theorem takeScheme_cases (cs : List CodePoint) : takeScheme cs = ([], cs) ∨ (takeScheme cs).1 ≠ [] := by
  unfold takeScheme
  rcases Text.cutAt_cases ':' cs with ⟨-, hcut⟩ | ⟨front, rest, -, -, hcut⟩
  · rw [hcut]
    exact .inl rfl
  · rw [hcut]
    dsimp only
    split
    · rename_i hfront
      refine .inr fun hnil => ?_
      rw [List.map_eq_nil_iff.mp hnil] at hfront
      cases hfront
    · exact .inl rfl

theorem takeScheme_suffix (cs : List CodePoint) : (takeScheme cs).2 <:+ cs := by
  unfold takeScheme
  rcases Text.cutAt_cases ':' cs with ⟨-, hcut⟩ | ⟨front, rest, heq, -, hcut⟩
  · simp only [hcut]
    exact List.suffix_refl _
  · rw [hcut, heq]
    dsimp only
    split
    · exact ⟨front ++ [.char ':'], by simp⟩
    · exact List.suffix_refl _

theorem takeAuthority_cons_cons (rest : List CodePoint) : takeAuthority (.char '/' :: .char '/' :: rest) =
    (rest.takeWhile fun c => !endsAuthority c, rest.dropWhile fun c => !endsAuthority c) := rfl

/-- An authority stands behind two slashes. -/
theorem takeAuthority_cases (cs : List CodePoint) :
    takeAuthority cs = ([], cs) ∨ ∃ rest, cs = .char '/' :: .char '/' :: rest := by
  unfold takeAuthority
  split
  · exact .inr ⟨_, rfl⟩
  · exact .inl rfl

theorem takeAuthority_suffix (cs : List CodePoint) : (takeAuthority cs).2 <:+ cs := by
  unfold takeAuthority
  split
  · exact (List.dropWhile_suffix _).trans ⟨[_, _], rfl⟩
  · exact List.suffix_refl _

theorem mem_of_mem_unchecked {cs : List CodePoint} {c : CodePoint}
    (h : c ∈ (unchecked cs).path ∨ c ∈ (unchecked cs).query) : c ∈ cs := by
  have hrest : (takeAuthority (takeScheme cs).2).2 <:+ cs := (takeAuthority_suffix _).trans (takeScheme_suffix _)
  apply hrest.subset
  rcases h with h | h
  · exact Text.mem_of_mem_cutAt.1 (Text.mem_of_mem_cutAt.1 h)
  · exact Text.mem_of_mem_cutAt.1 (Text.mem_of_mem_cutAt.2 h)

theorem not_isInnerJunk_of_mem_cleaned {cs : List CodePoint} {c : CodePoint} (h : c ∈ cleaned cs) :
    isInnerJunk c = false := by
  simpa using (List.mem_filter.mp h).2

/-! ### Parts that are read back -/

/-- The text behind the authority. -/
def behind (u : Url) : List CodePoint := u.path ++ Text.marked '?' u.query ++ Text.marked '#' u.fragment

/-- Parts that are read back from their text. -/
structure IsRegular (u : Url) : Prop where
  scheme : IsScheme u.scheme
  lower : u.scheme.map CodePoint.toLower = u.scheme
  authority : u.authority ≠ []
  inside : ∀ c ∈ u.authority, endsAuthority c = false
  checked : checkAuthority u.authority = .ok ()
  rooted : ∀ c ∈ u.path.head?, c = .char '/'
  path : .char '?' ∉ u.path ∧ .char '#' ∉ u.path
  query : .char '#' ∉ u.query
  clean : ∀ c ∈ u.authority ++ u.path ++ u.query ++ u.fragment, isInnerJunk c = false

namespace IsRegular

variable {u : Url} (h : u.IsRegular)

include h

theorem join_eq : u.join = u.scheme ++ .char ':' :: .char '/' :: .char '/' :: (u.authority ++ u.behind) := by
  have hpath : (!u.path.isEmpty && u.path.head? ≠ some '/') = false := by
    cases hp : u.path with
    | nil => rfl
    | cons c path =>
      have := h.rooted c (by rw [hp]; rfl)
      simp [this]
  unfold join behind Text.marked
  rw [hpath]
  simp only [List.isEmpty_iff, h.scheme.ne_nil, h.authority, if_false, Bool.false_eq_true]
  split_ifs <;> simp

/-- What stands behind the authority ends it. -/
theorem head?_behind : ∀ c ∈ u.behind.head?, endsAuthority c = true := by
  intro c hc
  have hmark : c = .char '/' ∨ c = .char '?' ∨ c = .char '#' := by
    unfold behind at hc
    rw [List.head?_append, List.head?_append, Option.mem_def, Option.or_eq_some_iff, Option.or_eq_some_iff] at hc
    rcases hc with (hc | ⟨-, hc⟩) | ⟨-, hc⟩
    · exact .inl (h.rooted c hc)
    · exact .inr (.inl (Text.head?_marked c hc))
    · exact .inr (.inr (Text.head?_marked c hc))
  rcases hmark with rfl | rfl | rfl <;> decide

theorem takeAuthority_eq : takeAuthority (.char '/' :: .char '/' :: (u.authority ++ u.behind)) = (u.authority, u.behind) := by
  have hinside : ∀ c ∈ u.authority, (!endsAuthority c) = true := fun c hc => by rw [h.inside c hc]; rfl
  rw [takeAuthority_cons_cons, List.takeWhile_append_of_pos hinside, List.dropWhile_append_of_pos hinside]
  cases hb : u.behind with
  | nil => simp
  | cons c rest =>
    have hc := h.head?_behind c (by rw [hb]; rfl)
    simp [hc]

theorem unchecked_join : unchecked u.join = u := by
  have hway : .char '#' ∉ u.path ++ Text.marked '?' u.query := by
    intro hmem
    rcases List.mem_append.mp hmem with hmem | hmem
    · exact h.path.2 hmem
    · rcases Text.mem_marked hmem with hmark | hmem
      · exact absurd hmark (by decide)
      · exact h.query hmem
  obtain ⟨hfront, hfragment⟩ := Text.cutAt_append_marked hway u.fragment
  obtain ⟨hpath, hquery⟩ := Text.cutAt_append_marked h.path.1 u.query
  unfold unchecked
  rw [h.join_eq, takeScheme_append h.scheme]
  dsimp only
  rw [h.takeAuthority_eq]
  dsimp only [behind]
  rw [hfront, hfragment, hpath, hquery, h.lower]

theorem cleaned_join : cleaned u.join = u.join := by
  obtain ⟨c, scheme, hscheme⟩ := List.exists_cons_of_ne_nil h.scheme.ne_nil
  have hchars : ∀ d ∈ u.scheme, isLeadingJunk d = false ∧ isInnerJunk d = false :=
    fun d hd => not_isJunk (lt_toNat_of_isSchemeChar (List.all_eq_true.mp h.scheme.chars d hd))
  have hdrop : u.join.dropWhile isLeadingJunk = u.join := by
    rw [h.join_eq, hscheme, List.cons_append, List.dropWhile_cons_of_neg]
    rw [(hchars c (hscheme ▸ List.mem_cons_self)).1]
    exact Bool.false_ne_true
  rw [cleaned, hdrop, List.filter_eq_self]
  intro d hd
  rw [Bool.not_eq_true']
  simp only [h.join_eq, behind, List.mem_append, List.mem_cons] at hd
  have hclean := h.clean d
  simp only [List.mem_append] at hclean
  rcases hd with hd | rfl | rfl | rfl | hd | (hd | hd) | hd
  · exact (hchars d hd).2
  · decide
  · decide
  · decide
  · exact hclean (.inl (.inl (.inl hd)))
  · exact hclean (.inl (.inl (.inr hd)))
  · rcases Text.mem_marked hd with rfl | hd
    · decide
    · exact hclean (.inl (.inr hd))
  · rcases Text.mem_marked hd with rfl | hd
    · decide
    · exact hclean (.inr hd)

/-- Regular parts are read back from their text. -/
theorem split_join : split u.join = .ok u := by
  rw [split_eq_ok_iff, h.cleaned_join, h.unchecked_join]
  exact ⟨h.checked, rfl⟩

end IsRegular

/-! ### Longer texts -/

/-- The parts that the text of a URL can end in. -/
inductive Part where
  | authority
  | path
  | query
  | fragment
deriving DecidableEq, Repr

/-- The part that a text with a scheme and an authority ends in. -/
def lastPart (cs : List CodePoint) : Part :=
  let rest := (takeAuthority (takeScheme cs).2).2
  if rest = [] then .authority
  else if .char '#' ∈ rest then .fragment
  else if .char '?' ∈ rest then .query
  else .path

/-- A URL with more characters at the end of one part. -/
def extend (u : Url) (part : Part) (cs : List CodePoint) : Url :=
  match part with
  | .authority => { u with authority := u.authority ++ cs }
  | .path => { u with path := u.path ++ cs }
  | .query => { u with query := u.query ++ cs }
  | .fragment => { u with fragment := u.fragment ++ cs }

/-- Characters that begin no new part behind an authority. -/
def IsPlain (cs : List CodePoint) : Prop := ∀ c ∈ cs, endsAuthority c = false

theorem IsPlain.notMem {cs : List CodePoint} (h : IsPlain cs) : .char '#' ∉ cs ∧ .char '?' ∉ cs :=
  ⟨fun hmem => absurd (h _ hmem) (by decide), fun hmem => absurd (h _ hmem) (by decide)⟩

theorem takeScheme_append_of_ne_nil {cs : List CodePoint} (h : (takeScheme cs).1 ≠ []) (ds : List CodePoint) :
    takeScheme (cs ++ ds) = ((takeScheme cs).1, (takeScheme cs).2 ++ ds) := by
  obtain ⟨s, rest, hs, rfl, -⟩ := exists_of_takeScheme h
  rw [List.append_assoc, List.cons_append, takeScheme_append hs, takeScheme_append hs]

theorem takeAuthority_append {cs ds : List CodePoint} (h : (takeAuthority cs).1 ≠ []) (hds : IsPlain ds) :
    takeAuthority (cs ++ ds) = if (takeAuthority cs).2 = [] then ((takeAuthority cs).1 ++ ds, [])
      else ((takeAuthority cs).1, (takeAuthority cs).2 ++ ds) := by
  have hplain : ∀ c ∈ ds, (!endsAuthority c) = true := fun c hc => by rw [hds c hc]; rfl
  rcases takeAuthority_cases cs with heq | ⟨rest, rfl⟩
  · rw [heq] at h
    exact absurd rfl h
  · rw [List.cons_append, List.cons_append, takeAuthority_cons_cons, takeAuthority_cons_cons]
    dsimp only
    split_ifs with hrest
    · have hall := List.dropWhile_eq_nil_iff.mp hrest
      rw [List.takeWhile_append_of_pos hall, List.dropWhile_append_of_pos hall, List.takeWhile_eq_self_iff.mpr hplain,
        List.dropWhile_eq_nil_iff.mpr hplain, List.takeWhile_eq_self_iff.mpr hall]
    · have hshort : (rest.takeWhile fun c => !endsAuthority c).length ≠ rest.length := by
        intro hlength
        have hwhole := (List.takeWhile_prefix _).eq_of_length hlength
        exact hrest (List.dropWhile_eq_nil_iff.mpr (List.takeWhile_eq_self_iff.mp hwhole))
      rw [List.takeWhile_append, if_neg hshort, List.dropWhile_append, if_neg (by simpa using hrest)]

theorem unchecked_append {cs ds : List CodePoint} (hscheme : (unchecked cs).scheme ≠ [])
    (hauthority : (unchecked cs).authority ≠ []) (hds : IsPlain ds) :
    unchecked (cs ++ ds) = (unchecked cs).extend (lastPart cs) ds := by
  have hmarks := hds.notMem
  unfold unchecked at hscheme hauthority ⊢
  dsimp only at hscheme hauthority ⊢
  rw [takeScheme_append_of_ne_nil hscheme]
  dsimp only
  rw [takeAuthority_append hauthority hds]
  unfold lastPart
  generalize takeAuthority (takeScheme cs).2 = place
  obtain ⟨authority, rest⟩ := place
  dsimp only
  split_ifs with hrest hfragment hquery
  · subst hrest
    rfl
  · obtain ⟨hfront, hbehind⟩ := Text.cutAt_append_of_mem hfragment ds
    dsimp only [extend]
    rw [hfront, hbehind]
  · obtain ⟨hfront, hbehind⟩ := Text.cutAt_append_of_mem hquery ds
    have hlong : .char '#' ∉ rest ++ ds := by simp [hfragment, hmarks.1]
    dsimp only [extend]
    rw [Text.cutAt_of_not_mem hfragment, Text.cutAt_of_not_mem hlong]
    dsimp only
    rw [hfront, hbehind]
  · have hfragment' : .char '#' ∉ rest ++ ds := by simp [hfragment, hmarks.1]
    have hquery' : .char '?' ∉ rest ++ ds := by simp [hquery, hmarks.2]
    dsimp only [extend]
    rw [Text.cutAt_of_not_mem hfragment, Text.cutAt_of_not_mem hfragment', Text.cutAt_of_not_mem hquery,
      Text.cutAt_of_not_mem hquery']

/-! ### Blanks around a URL -/

/-- Every blank in front of a text is dropped when it is read as a URL. -/
def DropsBefore (cs : List CodePoint) : Prop := ∀ c ∈ Text.blanksBefore cs, isLeadingJunk c = true

instance (cs : List CodePoint) : Decidable (DropsBefore cs) :=
  inferInstanceAs (Decidable (∀ c ∈ Text.blanksBefore cs, isLeadingJunk c = true))

/-- The blanks behind a text that are kept when it is read as a URL. -/
def keptBehind (cs : List CodePoint) : List CodePoint := (Text.blanksBehind cs).filter fun c => !isInnerJunk c

theorem isBlank_of_mem_keptBehind {cs : List CodePoint} {c : CodePoint} (h : c ∈ keptBehind cs) : Text.isBlank c = true :=
  Text.isBlank_of_mem_blanksBehind (List.mem_filter.mp h).1

theorem isPlain_keptBehind (cs : List CodePoint) : IsPlain (keptBehind cs) := by
  intro c hc
  have hblank := isBlank_of_mem_keptBehind hc
  by_contra hends
  simp only [endsAuthority, Bool.not_eq_false, Bool.or_eq_true, beq_iff_eq] at hends
  rcases hends with (rfl | rfl) | rfl <;> revert hblank <;> decide

theorem cleaned_append {cs : List CodePoint} (h : cs.dropWhile isLeadingJunk ≠ []) (ds : List CodePoint) :
    cleaned (cs ++ ds) = cleaned cs ++ ds.filter fun c => !isInnerJunk c := by
  rw [cleaned, List.dropWhile_append, if_neg (by simpa using h), List.filter_append, cleaned]

/-- Of the blanks around a URL some of those behind are kept. -/
theorem cleaned_of_dropsBefore {cs : List CodePoint} (h : DropsBefore cs) (hne : cleaned (Text.trimChars cs) ≠ []) :
    cleaned cs = cleaned (Text.trimChars cs) ++ keptBehind cs := by
  have hdrop : (Text.trimChars cs).dropWhile isLeadingJunk ≠ [] := by
    intro hnil
    rw [cleaned, hnil] at hne
    exact hne rfl
  have hfront : cleaned cs = cleaned (Text.trimChars cs ++ Text.blanksBehind cs) := by
    conv_lhs => rw [← Text.blanks_append_trimChars cs, List.append_assoc, cleaned, List.dropWhile_append_of_pos h]
    rfl
  rw [hfront, cleaned_append hdrop, keptBehind]

/-- A blank in front that is not dropped starts what is read. -/
theorem exists_cleaned_of_not_dropsBefore {cs : List CodePoint} (h : ¬ DropsBefore cs) :
    ∃ c rest, cleaned cs = c :: rest ∧ Text.isBlank c = true := by
  have hne : (Text.blanksBefore cs).dropWhile isLeadingJunk ≠ [] := fun hnil => h (List.dropWhile_eq_nil_iff.mp hnil)
  obtain ⟨c, rest, hdrop⟩ := List.exists_cons_of_ne_nil hne
  have hblank : Text.isBlank c = true := by
    have hmem : c ∈ (Text.blanksBefore cs).dropWhile isLeadingJunk := by
      rw [hdrop]
      exact List.mem_cons_self
    exact Text.isBlank_of_mem_blanksBefore ((List.dropWhile_suffix isLeadingJunk).subset hmem)
  have hlead : isLeadingJunk c = false := by
    have hhead := List.head?_dropWhile_not isLeadingJunk (Text.blanksBefore cs)
    rw [hdrop] at hhead
    simpa using hhead
  have hinner : isInnerJunk c = false := (not_isJunk (by simpa [isLeadingJunk] using hlead)).2
  have hfront : cs.dropWhile isLeadingJunk = c :: (rest ++ (Text.trimChars cs ++ Text.blanksBehind cs)) := by
    conv_lhs => rw [← Text.blanks_append_trimChars cs, List.append_assoc, List.dropWhile_append,
      if_neg (by simpa using hne), hdrop, List.cons_append]
  refine ⟨c, (rest ++ (Text.trimChars cs ++ Text.blanksBehind cs)).filter fun c => !isInnerJunk c, ?_, hblank⟩
  rw [cleaned, hfront, List.filter_cons_of_pos (by rw [hinner]; rfl)]

/-- It hides the scheme and the authority. -/
theorem unchecked_of_not_dropsBefore {cs : List CodePoint} (h : ¬ DropsBefore cs) :
    (unchecked (cleaned cs)).scheme = [] ∧ (unchecked (cleaned cs)).authority = [] := by
  obtain ⟨c, rest, hcleaned, hblank⟩ := exists_cleaned_of_not_dropsBefore h
  have hscheme : (takeScheme (c :: rest)).1 = [] := by
    apply takeScheme_of_head
    by_contra hletter
    rw [not_isBlank_of_isLetter (by simpa using hletter)] at hblank
    cases hblank
  have htake := (takeScheme_cases (c :: rest)).resolve_right (not_not.mpr hscheme)
  have hauthority : takeAuthority (c :: rest) = ([], c :: rest) := by
    refine (takeAuthority_cases (c :: rest)).resolve_right ?_
    rintro ⟨rest', hslash⟩
    rw [(List.cons.inj hslash).1] at hblank
    revert hblank
    decide
  unfold unchecked
  rw [hcleaned, htake]
  exact ⟨rfl, congrArg Prod.fst hauthority⟩

/-- A URL with a scheme and an authority is read with some of the blanks behind it, at the end of one part. -/
theorem unchecked_of_dropsBefore {cs : List CodePoint} (h : DropsBefore cs)
    (hscheme : (unchecked (cleaned (Text.trimChars cs))).scheme ≠ [])
    (hauthority : (unchecked (cleaned (Text.trimChars cs))).authority ≠ []) :
    unchecked (cleaned cs) = (unchecked (cleaned (Text.trimChars cs))).extend (lastPart (cleaned (Text.trimChars cs)))
      (keptBehind cs) := by
  have hne : cleaned (Text.trimChars cs) ≠ [] := by
    intro hnil
    rw [hnil] at hscheme
    exact hscheme rfl
  rw [cleaned_of_dropsBefore h hne, unchecked_append hscheme hauthority (isPlain_keptBehind cs)]

end Url

end Remote

end LintPreview
