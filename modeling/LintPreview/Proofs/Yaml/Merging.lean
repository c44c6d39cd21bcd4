import LintPreview.Proofs.Outcome
import LintPreview.Yaml.Merge
import Mathlib.Algebra.BigOperators.Group.Finset.Basic
import Mathlib.Algebra.Order.BigOperators.Group.Finset
import Mathlib.Data.List.TakeWhile

/-!
# Merging comes to an end

* `Graph.mergeCount`: how many merge keys there are in a graph.
* `Graph.MergedFrom`: what merging leaves of a graph. Scalars and sequences stay, no merge key and no default value is
  new.
* `Graph.ends_flatten`: mappings can be merged in circles, and still merging them comes to an end: every step into
  another mapping takes a merge key away for good.
-/

namespace LintPreview.Yaml.Graph

variable {g g' g'' : Graph} {place key p : ℕ} {entries : List (ℕ × ℕ)}

/-! ### Entries and tags -/

theorem getElem?_setEntries_self : (g.setEntries place entries)[place]? =
    g[place]?.map fun n => { n with content := .mapping entries } := by
  unfold setEntries
  rw [Array.getElem?_modify, if_pos rfl]

theorem getElem?_setEntries_ne (h : p ≠ place) : (g.setEntries place entries)[p]? = g[p]? := by
  unfold setEntries
  rw [Array.getElem?_modify, if_neg (Ne.symm h)]

theorem size_setEntries : (g.setEntries place entries).size = g.size := Array.size_modify

theorem tagAt_setEntries (p : ℕ) : (g.setEntries place entries).tagAt p = g.tagAt p := by
  unfold tagAt
  by_cases h : p = place
  · subst h
    rw [getElem?_setEntries_self]
    cases g[p]? <;> rfl
  · rw [getElem?_setEntries_ne h]

theorem content_nameDefault (p : ℕ) : (g.nameDefault key)[p]?.map Node.content = g[p]?.map Node.content := by
  unfold nameDefault
  rw [Array.getElem?_modify]
  split
  · cases g[p]? with
    | none => rfl
    | some n =>
      simp only [Option.map_some]
      split <;> rfl
  · rfl

theorem size_nameDefault : (g.nameDefault key).size = g.size := Array.size_modify

theorem tagAt_nameDefault (p : ℕ) : (g.nameDefault key).tagAt p =
    if p = key ∧ g.tagAt p = .default then .text else g.tagAt p := by
  unfold tagAt nameDefault
  rw [Array.getElem?_modify]
  by_cases h : key = p
  · subst h
    rw [if_pos rfl]
    cases g[key]? with
    | none => simp
    | some n => by_cases hn : n.tag = .default <;> simp [hn]
  · rw [if_neg h, if_neg fun h' => h h'.1.symm]

theorem lt_size_of_isMapping (h : g.isMapping place = true) : place < g.size := by
  unfold isMapping at h
  by_contra hle
  rw [Array.getElem?_eq_none (Nat.le_of_not_lt hle)] at h
  cases h

theorem isMapping_of_entriesAt_ne_nil (h : g.entriesAt place ≠ []) : g.isMapping place = true := by
  unfold entriesAt at h
  unfold isMapping
  split at h
  · rfl
  · exact absurd rfl h

theorem entriesAt_congr (h : g'[p]?.map Node.content = g[p]?.map Node.content) : g'.entriesAt p = g.entriesAt p := by
  unfold entriesAt
  rw [h]

theorem isMapping_congr (h : g'[p]?.map Node.content = g[p]?.map Node.content) : g'.isMapping p = g.isMapping p := by
  unfold isMapping
  rw [h]

theorem content_setEntries_self (h : g.isMapping place = true) :
    (g.setEntries place entries)[place]?.map Node.content = some (.mapping entries) := by
  rw [getElem?_setEntries_self]
  cases hnode : g[place]? with
  | none =>
    unfold isMapping at h
    rw [hnode] at h
    cases h
  | some n => rfl

theorem entriesAt_setEntries_self (h : g.isMapping place = true) :
    (g.setEntries place entries).entriesAt place = entries := by
  unfold entriesAt
  rw [content_setEntries_self h]

theorem entriesAt_setEntries_ne (h : p ≠ place) : (g.setEntries place entries).entriesAt p = g.entriesAt p :=
  entriesAt_congr (by rw [getElem?_setEntries_ne h])

/-! ### Merge keys -/

/-- Whether an entry merges mappings into its own. -/
def isMerge (g : Graph) (e : ℕ × ℕ) : Bool := g.tagAt e.1 = .merge

/-- How many merge keys there are in a graph. -/
def mergeCount (g : Graph) : ℕ := ∑ p ∈ Finset.range g.size, (g.entriesAt p).countP g.isMerge

theorem isMerge_setEntries : (g.setEntries place entries).isMerge = g.isMerge := by
  funext e
  unfold isMerge
  rw [tagAt_setEntries]

theorem isMerge_nameDefault : (g.nameDefault key).isMerge = g.isMerge := by
  funext e
  unfold isMerge
  rw [tagAt_nameDefault]
  split
  · rename_i h
    rw [h.2]
    rfl
  · rfl

theorem mergeCount_nameDefault : (g.nameDefault key).mergeCount = g.mergeCount := by
  unfold mergeCount
  rw [size_nameDefault, isMerge_nameDefault]
  exact Finset.sum_congr rfl fun p _ => by rw [entriesAt_congr (content_nameDefault p)]

theorem countP_entriesAt_setEntries (h : g.isMapping place = true)
    (hcount : entries.countP g.isMerge ≤ (g.entriesAt place).countP g.isMerge) (p : ℕ) :
    ((g.setEntries place entries).entriesAt p).countP g.isMerge ≤ (g.entriesAt p).countP g.isMerge := by
  by_cases hp : p = place
  · subst hp
    rw [entriesAt_setEntries_self h]
    exact hcount
  · rw [entriesAt_setEntries_ne hp]

theorem mergeCount_setEntries_le (h : g.isMapping place = true)
    (hcount : entries.countP g.isMerge ≤ (g.entriesAt place).countP g.isMerge) :
    (g.setEntries place entries).mergeCount ≤ g.mergeCount := by
  unfold mergeCount
  rw [size_setEntries, isMerge_setEntries]
  exact Finset.sum_le_sum fun p _ => countP_entriesAt_setEntries h hcount p

theorem mergeCount_setEntries_lt (h : g.isMapping place = true)
    (hcount : entries.countP g.isMerge < (g.entriesAt place).countP g.isMerge) :
    (g.setEntries place entries).mergeCount < g.mergeCount := by
  unfold mergeCount
  rw [size_setEntries, isMerge_setEntries]
  refine Finset.sum_lt_sum (fun p _ => countP_entriesAt_setEntries h hcount.le p) ?_
  refine ⟨place, Finset.mem_range.mpr (lt_size_of_isMapping h), ?_⟩
  rw [entriesAt_setEntries_self h]
  exact hcount

/-! ### What merging leaves -/

/-- What merging leaves of a graph: nodes keep what they hold, or are mappings as before. A default key can become a
text, but no merge key and no default value is new. -/
structure MergedFrom (g g' : Graph) : Prop where
  size : g'.size = g.size
  tag : ∀ p, g'.tagAt p = g.tagAt p ∨ g.tagAt p = .default ∧ g'.tagAt p = .text
  content : ∀ p, g'[p]?.map Node.content = g[p]?.map Node.content ∨ g.isMapping p = true ∧ g'.isMapping p = true
  default : ∀ p, ∀ e ∈ g'.entriesAt p, g'.tagAt e.1 = .default → e ∈ g.entriesAt p
  count : g'.mergeCount ≤ g.mergeCount

namespace MergedFrom

theorem refl (g : Graph) : MergedFrom g g where
  size := rfl
  tag _ := .inl rfl
  content _ := .inl rfl
  default _ _ he _ := he
  count := le_rfl

theorem tagAt_eq_default (h : MergedFrom g g') (hp : g'.tagAt p = .default) : g.tagAt p = .default := by
  rcases h.tag p with htag | ⟨htag, -⟩
  · rw [← htag]
    exact hp
  · exact htag

theorem tagAt_ne (h : MergedFrom g g') {tag : Tag} (htext : tag ≠ .text) (hp : g.tagAt p ≠ tag) : g'.tagAt p ≠ tag := by
  rcases h.tag p with htag | ⟨-, htag⟩
  · rw [htag]
    exact hp
  · rw [htag]
    exact htext.symm

theorem isMapping_eq (h : MergedFrom g g') (p : ℕ) : g'.isMapping p = g.isMapping p := by
  rcases h.content p with hcontent | ⟨hp, hp'⟩
  · exact isMapping_congr hcontent
  · rw [hp, hp']

theorem trans (h : MergedFrom g g') (h' : MergedFrom g' g'') : MergedFrom g g'' where
  size := h'.size.trans h.size
  tag p := by
    rcases h'.tag p with htag' | ⟨htag', htext⟩
    · rw [htag']
      exact h.tag p
    · exact .inr ⟨h.tagAt_eq_default htag', htext⟩
  content p := by
    rcases h'.content p with hcontent' | ⟨hp, hp'⟩
    · rcases h.content p with hcontent | ⟨hp, hp'⟩
      · exact .inl (hcontent'.trans hcontent)
      · exact .inr ⟨hp, (isMapping_congr hcontent').trans hp'⟩
    · exact .inr ⟨(h.isMapping_eq p).symm.trans hp, hp'⟩
  default p e he hdefault := h.default p e (h'.default p e he hdefault) (h'.tagAt_eq_default hdefault)
  count := h'.count.trans h.count

/-- What a node holds that is no mapping is what it held. -/
theorem content_eq (h : MergedFrom g g') {content : Content} (hcontent : g'[p]?.map Node.content = some content)
    (hmapping : g'.isMapping p = false) : g[p]?.map Node.content = some content := by
  rcases h.content p with hsame | ⟨-, hp'⟩
  · rw [← hsame]
    exact hcontent
  · rw [hmapping] at hp'
    cases hp'

end MergedFrom

theorem mergedFrom_setEntries (h : g.isMapping place = true)
    (hcount : entries.countP g.isMerge ≤ (g.entriesAt place).countP g.isMerge)
    (hdefault : ∀ e ∈ entries, g.tagAt e.1 = .default → e ∈ g.entriesAt place) :
    MergedFrom g (g.setEntries place entries) where
  size := size_setEntries
  tag p := .inl (tagAt_setEntries p)
  content p := by
    by_cases hp : p = place
    · subst hp
      refine .inr ⟨h, ?_⟩
      unfold isMapping
      rw [content_setEntries_self h]
    · rw [getElem?_setEntries_ne hp]
      exact .inl rfl
  default p e he hetag := by
    rw [tagAt_setEntries] at hetag
    by_cases hp : p = place
    · subst hp
      rw [entriesAt_setEntries_self h] at he
      exact hdefault e he hetag
    · rw [entriesAt_setEntries_ne hp] at he
      exact he
  count := mergeCount_setEntries_le h hcount

theorem mergedFrom_nameDefault (g : Graph) (key : ℕ) : MergedFrom g (g.nameDefault key) where
  size := size_nameDefault
  tag p := by
    rw [tagAt_nameDefault]
    split
    · rename_i h
      exact .inr ⟨h.2, rfl⟩
    · exact .inl rfl
  content p := .inl (content_nameDefault p)
  default p e he _ := by
    rw [entriesAt_congr (content_nameDefault p)] at he
    exact he
  count := mergeCount_nameDefault.le

/-- Entries that need no more merging: no key is a merge key or stands for a default value. -/
def IsSettled (g : Graph) (entries : List (ℕ × ℕ)) : Prop :=
  ∀ e ∈ entries, g.tagAt e.1 ≠ .merge ∧ g.tagAt e.1 ≠ .default

theorem MergedFrom.isSettled (h : MergedFrom g g') (hentries : IsSettled g entries) : IsSettled g' entries :=
  fun e he => ⟨h.tagAt_ne (by decide) (hentries e he).1, h.tagAt_ne (by decide) (hentries e he).2⟩

theorem IsSettled.nil : IsSettled g [] := fun _ he => absurd he List.not_mem_nil

theorem IsSettled.append {more : List (ℕ × ℕ)} (h : IsSettled g entries) (hmore : IsSettled g more) :
    IsSettled g (entries ++ more) :=
  fun e he => (List.mem_append.mp he).elim (h e) (hmore e)

theorem IsSettled.countP_isMerge (h : IsSettled g entries) : entries.countP g.isMerge = 0 := by
  refine List.countP_eq_zero.mpr fun e he hmerge => ?_
  exact (h e he).1 (of_decide_eq_true hmerge)

/-- Default keys of a mapping become texts, one by one. -/
theorem mergedFrom_nameDefaults (g : Graph) (entries : List (ℕ × ℕ)) :
    MergedFrom g (entries.foldl (fun g e => g.nameDefault e.1) g) := by
  induction entries generalizing g with
  | nil => exact .refl g
  | cons e rest ih => exact (mergedFrom_nameDefault g e.1).trans (ih _)

theorem tagAt_nameDefaults_ne {e : ℕ × ℕ} (he : e ∈ entries) :
    (entries.foldl (fun g e => g.nameDefault e.1) g).tagAt e.1 ≠ .default := by
  induction entries generalizing g with
  | nil => cases he
  | cons e' rest ih =>
    rw [List.foldl_cons]
    rcases List.mem_cons.mp he with rfl | he
    · refine (mergedFrom_nameDefaults _ rest).tagAt_ne (by decide) ?_
      rw [tagAt_nameDefault]
      split
      · decide
      · rename_i h
        exact fun hdefault => h ⟨rfl, hdefault⟩
    · exact ih he

/-! ### Steps -/

theorem tagAt_ne_merge_of_span {before : List (ℕ × ℕ)}
    (h : (g.entriesAt place).span (fun e => decide (g.tagAt e.1 ≠ .merge)) = (before, [])) {e : ℕ × ℕ}
    (he : e ∈ g.entriesAt place) : g.tagAt e.1 ≠ .merge := by
  rw [List.span_eq_takeWhile_dropWhile, Prod.mk.injEq] at h
  exact of_decide_eq_true (List.dropWhile_eq_nil_iff.mp h.2 e he)

theorem entriesAt_of_span {before after : List (ℕ × ℕ)} {value : ℕ}
    (h : (g.entriesAt place).span (fun e => decide (g.tagAt e.1 ≠ .merge)) = (before, (key, value) :: after)) :
    g.entriesAt place = before ++ (key, value) :: after ∧ g.tagAt key = .merge := by
  rw [List.span_eq_takeWhile_dropWhile, Prod.mk.injEq] at h
  obtain ⟨hbefore, hafter⟩ := h
  refine ⟨by rw [← hbefore, ← hafter, List.takeWhile_append_dropWhile], ?_⟩
  have hhead := List.head?_dropWhile_not (fun e => decide (g.tagAt e.1 ≠ .merge)) (g.entriesAt place)
  rw [hafter] at hhead
  simpa using hhead

/-- Without one of its merge keys, a mapping holds nothing new, and there is one merge key less. -/
theorem mergedFrom_dropMerge {before after : List (ℕ × ℕ)} {value : ℕ} (h : g.isMapping place = true)
    (hentries : g.entriesAt place = before ++ (key, value) :: after) (hkey : g.tagAt key = .merge) :
    MergedFrom g (g.setEntries place (before ++ after)) ∧
      (g.setEntries place (before ++ after)).mergeCount < g.mergeCount := by
  have hmerge : g.isMerge (key, value) = true := decide_eq_true hkey
  have hcount : (before ++ after).countP g.isMerge < (g.entriesAt place).countP g.isMerge := by
    rw [hentries, List.countP_append, List.countP_append, List.countP_cons_of_pos hmerge]
    omega
  refine ⟨mergedFrom_setEntries h hcount.le fun e he _ => ?_, mergeCount_setEntries_lt h hcount⟩
  rw [hentries]
  exact List.mem_append.mpr ((List.mem_append.mp he).imp_right (List.mem_cons_of_mem _))

/-- Merging fails where something that is no mapping is to be merged, or when its fuel is less than it needs. -/
def RunsOut (fuel needed : ℕ) (fault : Fault) : Prop := fault = .malformed ∨ fault = .tooDeep ∧ fuel < needed

theorem RunsOut.succ {fuel needed needed' : ℕ} {fault : Fault} (h : needed + 1 ≤ needed')
    (hout : RunsOut fuel needed fault) : RunsOut (fuel + 1) needed' fault :=
  hout.imp_right fun ⟨hdeep, hlt⟩ => ⟨hdeep, by omega⟩

/-- All sequences of a graph have at most `n` items. -/
def SequencesWithin (n : ℕ) (g : Graph) : Prop :=
  ∀ (p : ℕ) (items : List ℕ), g[p]?.map Node.content = some (.sequence items) → items.length ≤ n

theorem MergedFrom.sequencesWithin {n : ℕ} (h : MergedFrom g g') (hg : SequencesWithin n g) : SequencesWithin n g' := by
  intro p items hitems
  refine hg p items (h.content_eq hitems ?_)
  unfold isMapping
  rw [hitems]

/-- Resolving the merge keys of a mapping leaves settled entries in it. -/
def Flattened (g : Graph) (place : ℕ) (g' : Graph) : Prop := MergedFrom g g' ∧ IsSettled g' (g'.entriesAt place)

/-- Merging brings settled entries in. -/
def BringsIn (g : Graph) (found : List (ℕ × ℕ) × Graph) : Prop := MergedFrom g found.2 ∧ IsSettled found.2 found.1

/-- Taking the merge keys out of a mapping brings settled entries in and leaves none of them. -/
def TakesOut (g : Graph) (place : ℕ) (found : List (ℕ × ℕ) × Graph) : Prop :=
  BringsIn g found ∧ ∀ e ∈ found.2.entriesAt place, found.2.tagAt e.1 ≠ .merge

/-- What the steps of merging need: for every merge key room for the items of a sequence, and a little more. -/
structure EndsMerging (n fuel : ℕ) : Prop where
  flatten : ∀ {g : Graph} {place : ℕ}, SequencesWithin n g → g.isMapping place = true →
    Ends (RunsOut fuel (g.mergeCount * (n + 2) + 2)) (Flattened g place) (flattenFrom fuel g place)
  take : ∀ {g : Graph} {place : ℕ}, SequencesWithin n g → g.isMapping place = true →
    Ends (RunsOut fuel (g.mergeCount * (n + 2) + 1)) (TakesOut g place) (takeMerged fuel g place)
  items : ∀ {g : Graph} {later : List (ℕ × ℕ)} (items : List ℕ), SequencesWithin n g → IsSettled g later →
    Ends (RunsOut fuel (items.length + g.mergeCount * (n + 2) + 2)) (BringsIn g) (takeItems fuel g later items)

variable {n fuel : ℕ}

theorem endsMerging_zero (n : ℕ) : EndsMerging n 0 where
  flatten _ _ := by
    rw [flattenFrom]
    exact .error (.inr ⟨rfl, by omega⟩)
  take _ _ := by
    rw [takeMerged]
    exact .error (.inr ⟨rfl, by omega⟩)
  items items _ hlater := by
    cases items with
    | nil =>
      rw [takeItems]
      exact .ok ⟨.refl _, hlater⟩
    | cons item rest =>
      rw [takeItems]
      · exact .error (.inr ⟨rfl, by omega⟩)
      · nofun

namespace EndsMerging

variable (h : EndsMerging n fuel)

include h

theorem succ_flatten (hg : SequencesWithin n g) (hplace : g.isMapping place = true) :
    Ends (RunsOut (fuel + 1) (g.mergeCount * (n + 2) + 2)) (Flattened g place) (flattenFrom (fuel + 1) g place) := by
  rw [flattenFrom]
  refine ((h.take hg hplace).imp (fun fault => RunsOut.succ (by omega)) fun _ => id).bind ?_
  rintro ⟨merged, g₁⟩ ⟨⟨hg₁, hmerged⟩, hown⟩
  dsimp only
  have hnamed := mergedFrom_nameDefaults g₁ (g₁.entriesAt place)
  have hsettled : IsSettled (List.foldl (fun g e => g.nameDefault e.1) g₁ (g₁.entriesAt place))
      (merged ++ g₁.entriesAt place) :=
    (hnamed.isSettled hmerged).append fun e he => ⟨hnamed.tagAt_ne (by decide) (hown e he), tagAt_nameDefaults_ne he⟩
  have hmapping : (List.foldl (fun g e => g.nameDefault e.1) g₁ (g₁.entriesAt place)).isMapping place = true := by
    rw [hnamed.isMapping_eq, hg₁.isMapping_eq]
    exact hplace
  have hset := mergedFrom_setEntries hmapping (hsettled.countP_isMerge.trans_le (Nat.zero_le _))
    fun e he hdefault => absurd hdefault (hsettled e he).2
  refine .ok ⟨hg₁.trans (hnamed.trans hset), ?_⟩
  rw [entriesAt_setEntries_self hmapping]
  exact hset.isSettled hsettled

theorem succ_items {later : List (ℕ × ℕ)} (items : List ℕ) (hg : SequencesWithin n g) (hlater : IsSettled g later) :
    Ends (RunsOut (fuel + 1) (items.length + g.mergeCount * (n + 2) + 2)) (BringsIn g)
      (takeItems (fuel + 1) g later items) := by
  cases items with
  | nil =>
    rw [takeItems]
    exact .ok ⟨.refl g, hlater⟩
  | cons item rest =>
    rw [takeItems]
    refine .ite (fun hitem => ?_) fun _ => .error (.inl rfl)
    have hneeded : ∀ g' : Graph, MergedFrom g g' →
        rest.length + g'.mergeCount * (n + 2) + 2 + 1 ≤ (item :: rest).length + g.mergeCount * (n + 2) + 2 := by
      intro g' hg'
      have := Nat.mul_le_mul_right (n + 2) hg'.count
      rw [List.length_cons]
      omega
    refine ((h.flatten hg hitem).imp (fun fault => RunsOut.succ ?_) fun _ => id).bind ?_
    · have := hneeded g (.refl g)
      omega
    · rintro g₁ ⟨hg₁, hsettled⟩
      have hmore := h.items rest (hg₁.sequencesWithin hg) (hsettled.append (hg₁.isSettled hlater))
      refine hmore.imp (fun fault => RunsOut.succ (hneeded g₁ hg₁)) ?_
      rintro found ⟨hfound, hentries⟩
      exact ⟨hg₁.trans hfound, hentries⟩

/-- What one merge key brings in, and then the other ones. -/
theorem take_bind (hg : SequencesWithin n g) (hplace : g.isMapping place = true) (hg' : MergedFrom g g')
    (hless : g'.mergeCount < g.mergeCount) {found : List (ℕ × ℕ) × Graph} (hfound : BringsIn g' found) :
    Ends (RunsOut (fuel + 1) (g.mergeCount * (n + 2) + 1)) (TakesOut g place)
      (takeMerged fuel found.2 place >>= fun more => pure (found.1 ++ more.1, more.2)) := by
  obtain ⟨hg₂, hsettled⟩ := hfound
  have hmerged := hg'.trans hg₂
  have hmore := h.take (hmerged.sequencesWithin hg) ((hmerged.isMapping_eq place).trans hplace)
  refine (hmore.imp (fun fault => RunsOut.succ ?_) fun _ => id).bind ?_
  · have := Nat.mul_le_mul_right (n + 2) (Nat.lt_of_le_of_lt hg₂.count hless)
    rw [Nat.succ_mul] at this
    omega
  · rintro ⟨more, g₃⟩ ⟨⟨hg₃, hmoreSettled⟩, hown⟩
    exact .ok ⟨⟨hmerged.trans hg₃, (hg₃.isSettled hsettled).append hmoreSettled⟩, hown⟩

theorem succ_take (hg : SequencesWithin n g) (hplace : g.isMapping place = true) :
    Ends (RunsOut (fuel + 1) (g.mergeCount * (n + 2) + 1)) (TakesOut g place) (takeMerged (fuel + 1) g place) := by
  rw [takeMerged]
  split
  · rename_i before hspan
    refine .ok ⟨⟨.refl g, .nil⟩, fun e he => ?_⟩
    exact tagAt_ne_merge_of_span hspan he
  · rename_i before key value after hspan
    obtain ⟨hentries, hkey⟩ := entriesAt_of_span hspan
    obtain ⟨hset, hless⟩ := mergedFrom_dropMerge hplace hentries hkey
    -- The key is gone for good, so what is merged now has the room that it leaves.
    have hwithin := hset.sequencesWithin hg
    have hroom := Nat.mul_le_mul_right (n + 2) (Nat.succ_le_of_lt hless)
    rw [Nat.succ_mul] at hroom
    dsimp only
    generalize g.setEntries place (before ++ after) = g₁ at hset hless hwithin hroom
    split
    · rename_i hvalue
      have hmapping : g₁.isMapping value = true := by
        unfold isMapping
        rw [hvalue]
      refine ((h.flatten hwithin hmapping).imp (fun fault => RunsOut.succ (by omega)) fun _ => id).bind ?_
      rintro g₂ ⟨hg₂, hsettled⟩
      have hfound : BringsIn g₁ (g₂.entriesAt value, g₂) := ⟨hg₂, hsettled⟩
      exact h.take_bind hg hplace hset hless hfound
    · rename_i items hvalue
      have hitems := hwithin value items hvalue
      refine ((h.items items hwithin .nil).imp (fun fault => RunsOut.succ (by omega)) fun _ => id).bind ?_
      exact fun found => h.take_bind hg hplace hset hless
    · exact .error (.inl rfl)

end EndsMerging

/-- With the fuel that they need, the steps of merging do not run out of it. -/
theorem endsMerging (n fuel : ℕ) : EndsMerging n fuel := by
  induction fuel with
  | zero => exact endsMerging_zero n
  | succ fuel ih => exact ⟨ih.succ_flatten, ih.succ_take, ih.succ_items⟩

/-! ### The fuel is enough -/

theorem sum_length_entriesAt (g : Graph) : ∑ p ∈ Finset.range g.size, (g.entriesAt p).length = g.entryCount := by
  unfold entryCount
  refine Array.foldl_induction (fun i n => ∑ p ∈ Finset.range i, (g.entriesAt p).length = n) rfl ?_
  intro i n hn
  have hnode : g[i.1]?.map Node.content = some g[i].content := by rw [Array.getElem?_eq_getElem i.2]; rfl
  rw [Finset.sum_range_succ, hn]
  unfold entriesAt
  rw [hnode]
  cases g[i].content <;> rfl

theorem mergeCount_le (g : Graph) : g.mergeCount ≤ g.entryCount := by
  rw [← sum_length_entriesAt]
  exact Finset.sum_le_sum fun p _ => List.countP_le_length

theorem sequencesWithin (g : Graph) : SequencesWithin g.longestSequence g := by
  suffices hall : ∀ p < g.size, ∀ items, g[p]?.map Node.content = some (.sequence items) →
      items.length ≤ g.longestSequence by
    intro p items hitems
    refine hall p (Nat.lt_of_not_le fun hle => ?_) items hitems
    rw [Array.getElem?_eq_none hle] at hitems
    cases hitems
  unfold longestSequence
  refine Array.foldl_induction (fun i n => ∀ p < i, ∀ items, g[p]?.map Node.content = some (.sequence items) →
    items.length ≤ n) nofun ?_
  intro i n hn p hp items hitems
  rcases Nat.lt_succ_iff_lt_or_eq.mp hp with hp | rfl
  · have := hn p hp items hitems
    split <;> omega
  · rw [Array.getElem?_eq_getElem i.2, Option.map_some, Option.some.injEq] at hitems
    rw [Fin.getElem_fin, hitems]
    exact Nat.le_max_right n items.length

/-- Merging fails only where something that is no mapping is to be merged. -/
theorem ends_flatten (hplace : g.isMapping place = true) :
    Ends (· = .malformed) (Flattened g place) (g.flatten place) := by
  refine ((endsMerging g.longestSequence _).flatten g.sequencesWithin hplace).imp ?_ fun _ => id
  rintro fault (hfault | ⟨-, hless⟩)
  · exact hfault
  · have := Nat.mul_le_mul_right (g.longestSequence + 2) g.mergeCount_le
    rw [Nat.succ_mul, Nat.mul_succ] at hless
    omega

end LintPreview.Yaml.Graph
