import LintPreview.Proofs.Catalog.Saving

/-!
# Saves that overtake each other

* `SavingLoads.Staged`: the saves are at their stages, and no two of them have made the same file.
* `SavingLoads.Ended`: the store's file holds the whole snapshot of the save that ended last. A save ends behind one that
  was started later only if it is abandoned.
* `SavingLoads.Laid.step`, `SavingLoads.Reachable.sound_laid`: every step keeps this.
-/

namespace LintPreview

namespace Store

open FileTree (TouchesOnly IsFileAt)

variable {s : Store} {rules rules' : List Rule} {version version' : Option Text} {t t' : FileTree}
  {own own' other : Option Location} {rest rest' : Disk (Except Failure Snapshot)}

/-- A save that has ended well returns a snapshot of its rules. -/
theorem Stage.made_of_done {snapshot : Snapshot} (h : s.Stage rules version t own rest)
    (hrest : rest = .done (.ok snapshot)) : ∃ now, Snapshot.make rules now version = .valid snapshot := by
  cases h with
  | opened made owns => exact absurd hrest (s.fill_ne _ _ _)
  | saved made =>
    cases hrest
    exact ⟨_, made⟩
  | _ => cases hrest

/-- The act of a save leaves the file of another one as it is. -/
theorem Moves.frame (h : s.Moves t t' own own' rest) (hapart : s.file.IsApart)
    (hother : s.Stage rules' version' t other rest') (hne : ∀ loc, own = some loc → other ≠ some loc) :
    s.Stage rules' version' t' other rest' ∧ ∀ loc, own' = some loc → other ≠ some loc := by
  have hfile : ∀ loc, other = some loc → t.IsFileAt loc ∧ t.placeOf? s.file ≠ some loc := by
    rintro loc rfl
    obtain ⟨temporary, howns⟩ := hother.exists_owns
    exact ⟨howns.file, howns.placeOf?_ne hapart⟩
  cases h with
  | aside touches fresh open' =>
    have hnew : ∀ loc, own' = some loc → other ≠ some loc := by
      intro loc hown' hloc
      rcases fresh loc hown' with hown | hfree
      · exact hne loc hown hloc
      · obtain ⟨content, executable, he⟩ := (hfile loc hloc).1
        rw [he] at hfree
        cases hfree
    refine ⟨hother.frame touches.keeps fun loc hloc => ?_, hnew⟩
    refine touches.get?_of_isFileAt (hfile loc hloc).1 ?_
    rintro (hown | hown)
    · exact hne loc hown.symm hloc
    · exact hnew loc hown.symm hloc
  | placed touches gone ends bytesEq file =>
    refine ⟨hother.frame touches.keeps fun loc hloc => ?_, by rw [gone]; nofun⟩
    refine touches.get?_of_isFileAt (hfile loc hloc).1 ?_
    rintro (hown | hplace)
    · exact hne loc hown.symm hloc
    · exact (hfile loc hloc).2 hplace

/-- An act that does not end a save leaves the store's file as it is. -/
theorem Moves.hasFile {content : List UInt8} (h : s.Moves t t' own own' rest) (hapart : s.file.IsApart)
    (hbefore : s.Stage rules version t own rest') (hafter : s.Stage rules version t' own' rest)
    (hopen : ∀ snapshot, rest ≠ .done (.ok snapshot)) (hfile : t.HasFile s.file content) : t'.HasFile s.file content := by
  cases h with
  | placed touches gone ends bytesEq file => exact absurd ends (hopen _)
  | aside touches fresh open' =>
    refine touches.hasFile hfile fun loc hplace => ?_
    rintro (rfl | rfl)
    · obtain ⟨temporary, howns⟩ := hbefore.exists_owns
      exact howns.placeOf?_ne hapart hplace
    · obtain ⟨temporary, howns⟩ := hafter.exists_owns
      refine howns.placeOf?_ne hapart ?_
      rw [FileTree.placeOf?_of_working touches.keeps.working, hplace]

end Store

namespace SavingLoads

variable {ι : Type} {l : Loader} {m m' : SavingLoads ι} {own : ℕ → Option Location} {ended : List ℕ}

/-- A save has ended with a snapshot. -/
def HasSaved (m : SavingLoads ι) (k : ℕ) (snapshot : Snapshot) : Prop :=
  ∃ save, m.saves[k]? = some save ∧ save.rest = .done (.ok snapshot)

/-- A save is abandoned. -/
def IsAbandoned (m : SavingLoads ι) (k : ℕ) : Prop := ∃ save, m.saves[k]? = some save ∧ save.abandoned = true

/-- The saves are at their stages, each with its own file that it has made for a while. -/
structure Staged (l : Loader) (m : SavingLoads ι) (own : ℕ → Option Location) : Prop where
  stage : ∀ (k : ℕ) (save : Save), m.saves[k]? = some save →
    l.store.Stage save.rules save.version m.host.files (own k) save.rest
  free : ∀ k, m.saves.length ≤ k → own k = none
  apart : ∀ j k loc, own j = some loc → own k = some loc → j = k

/-- The saves have ended in a certain order, and the store's file holds the whole snapshot of the last one. -/
structure Ended (l : Loader) (m : SavingLoads ι) (ended : List ℕ) : Prop where
  mem_iff : ∀ k, k ∈ ended ↔ ∃ snapshot, m.HasSaved k snapshot
  order : ended.Pairwise fun j k => j < k ∨ m.IsAbandoned k
  content : ∀ k, ended.getLast? = some k → ∃ snapshot bytes, m.HasSaved k snapshot ∧ snapshot.bytes? = some bytes ∧
    m.host.files.HasFile l.store.file bytes

/-! ### Steps that touch no files -/

/-- What has been saved stays so. -/
theorem Ended.of_hasSaved (h : m.Ended l ended) (hhost : m'.host = m.host)
    (hsaved : ∀ k snapshot, m'.HasSaved k snapshot ↔ m.HasSaved k snapshot)
    (habandoned : ∀ k, m.IsAbandoned k → m'.IsAbandoned k) : m'.Ended l ended := by
  refine ⟨fun k => ?_, h.order.imp fun hjk => hjk.imp_right (habandoned _), fun k hk => ?_⟩
  · simp only [h.mem_iff, hsaved]
  · simp only [hsaved, hhost]
    exact h.content k hk

theorem Staged.abandons (h : m.Staged l own) (habandons : Abandons m.saves m'.saves) (hhost : m'.host = m.host) :
    m'.Staged l own := by
  refine ⟨fun k save hsave => ?_, ?_, h.apart⟩
  · obtain ⟨before, hbefore, hrules, hversion, hrest, -⟩ := habandons.exists_before hsave
    rw [hrules, hversion, hrest, hhost]
    exact h.stage k before hbefore
  · rw [habandons.length]
    exact h.free

theorem Ended.abandons (h : m.Ended l ended) (habandons : Abandons m.saves m'.saves) (hhost : m'.host = m.host) :
    m'.Ended l ended := by
  refine h.of_hasSaved hhost (fun k snapshot => ⟨?_, ?_⟩) ?_
  · rintro ⟨save, hsave, hrest⟩
    obtain ⟨before, hbefore, -, -, hsame, -⟩ := habandons.exists_before hsave
    exact ⟨before, hbefore, hsame ▸ hrest⟩
  · rintro ⟨save, hsave, hrest⟩
    obtain ⟨abandoned, hsame, -⟩ := habandons.same k save hsave
    exact ⟨_, hsame, hrest⟩
  · rintro k ⟨save, hsave, habandoned⟩
    obtain ⟨abandoned, hsame, hkept⟩ := habandons.same k save hsave
    exact ⟨_, hsame, hkept habandoned⟩

section Start

variable {rules : List Rule} {version : Option Text}

/-- The saves when one has been started: those of before, and this one. -/
theorem getElem?_of_start (hsaves : m'.saves = m.saves ++ [{ rules, version, rest := l.store.save rules version }])
    {k : ℕ} {save : Save} (hsave : m'.saves[k]? = some save) : m.saves[k]? = some save ∨
      k = m.saves.length ∧ save = { rules, version, rest := l.store.save rules version } := by
  rw [hsaves] at hsave
  rcases lt_trichotomy k m.saves.length with hlt | rfl | hgt
  · rw [List.getElem?_append_left hlt] at hsave
    exact .inl hsave
  · rw [List.getElem?_concat_length] at hsave
    cases hsave
    exact .inr ⟨rfl, rfl⟩
  · rw [List.getElem?_eq_none (by simp; omega)] at hsave
    cases hsave

theorem Staged.start (h : m.Staged l own)
    (hsaves : m'.saves = m.saves ++ [{ rules, version, rest := l.store.save rules version }])
    (hhost : m'.host = m.host) : m'.Staged l own := by
  refine ⟨fun k save hsave => ?_, fun k hk => h.free k ?_, h.apart⟩
  · rw [hhost]
    rcases getElem?_of_start hsaves hsave with hsave | ⟨rfl, rfl⟩
    · exact h.stage k save hsave
    · rw [h.free _ le_rfl]
      exact .begun
  · rw [hsaves, List.length_append] at hk
    omega

theorem Ended.start (h : m.Ended l ended)
    (hsaves : m'.saves = m.saves ++ [{ rules, version, rest := l.store.save rules version }])
    (hhost : m'.host = m.host) : m'.Ended l ended := by
  have hkeeps : ∀ (k : ℕ) (save : Save), m.saves[k]? = some save → m'.saves[k]? = some save := by
    intro k save hsave
    rw [hsaves, List.getElem?_append_left (List.getElem?_eq_some_iff.mp hsave).1, hsave]
  refine h.of_hasSaved hhost (fun k snapshot => ⟨?_, ?_⟩) ?_
  · rintro ⟨save, hsave, hrest⟩
    rcases getElem?_of_start hsaves hsave with hsave | ⟨-, rfl⟩
    · exact ⟨save, hsave, hrest⟩
    · cases hrest
  · rintro ⟨save, hsave, hrest⟩
    exact ⟨save, hkeeps k save hsave, hrest⟩
  · rintro k ⟨save, hsave, habandoned⟩
    exact ⟨save, hkeeps k save hsave, habandoned⟩

end Start

/-! ### An act of a save -/

section Work

variable {k : ℕ} {save : Save} {rest : Disk (Except Failure Snapshot)} {own' : Option Location}

/-- The saves when one has done an act: this one, and the others as before. -/
theorem getElem?_of_work (hfound : m.saves[k]? = some save) (hsaves : m'.saves = m.saves.set k { save with rest }) :
    m'.saves[k]? = some { save with rest } ∧ ∀ j, j ≠ k → m'.saves[j]? = m.saves[j]? := by
  rw [hsaves]
  exact ⟨List.getElem?_set_self (List.getElem?_eq_some_iff.mp hfound).1,
    fun j hj => List.getElem?_set_ne (Ne.symm hj)⟩

/-- The other saves are at the same stage, and this one has its own file again. -/
theorem Staged.work (h : m.Staged l own) (hapart : l.store.file.IsApart) (hfound : m.saves[k]? = some save)
    (hsaves : m'.saves = m.saves.set k { save with rest })
    (hstage : l.store.Stage save.rules save.version m'.host.files own' rest)
    (hmoves : l.store.Moves m.host.files m'.host.files (own k) own' rest) :
    m'.Staged l (Function.update own k own') := by
  obtain ⟨hself, hother⟩ := getElem?_of_work hfound hsaves
  have hframe : ∀ (j : ℕ) (other : Save), j ≠ k → m.saves[j]? = some other →
      l.store.Stage other.rules other.version m'.host.files (own j) other.rest ∧
        ∀ loc, own' = some loc → own j ≠ some loc := fun j other hj hfound' =>
    hmoves.frame hapart (h.stage j other hfound') fun loc hk hj' => hj (h.apart j k loc hj' hk)
  have hnew : ∀ j, j ≠ k → ∀ loc, own' = some loc → own j ≠ some loc := by
    intro j hj loc hloc hj'
    cases hfound' : m.saves[j]? with
    | none =>
      rw [h.free j (List.getElem?_eq_none_iff.mp hfound')] at hj'
      cases hj'
    | some other => exact (hframe j other hj hfound').2 loc hloc hj'
  refine ⟨fun j other hfound' => ?_, fun j hj => ?_, fun i j loc hi hj => ?_⟩
  · by_cases hj : j = k
    · subst hj
      rw [hself] at hfound'
      cases hfound'
      rw [Function.update_self]
      exact hstage
    · rw [Function.update_of_ne hj]
      rw [hother j hj] at hfound'
      exact (hframe j other hj hfound').1
  · have hlt := (List.getElem?_eq_some_iff.mp hfound).1
    rw [hsaves, List.length_set] at hj
    have hjk : j ≠ k := by omega
    rw [Function.update_of_ne hjk]
    exact h.free j hj
  · by_cases hik : i = k
    · subst hik
      rw [Function.update_self] at hi
      by_contra hij
      rw [Function.update_of_ne (Ne.symm hij)] at hj
      exact hnew j (Ne.symm hij) loc hi hj
    · rw [Function.update_of_ne hik] at hi
      by_cases hjk : j = k
      · subst hjk
        rw [Function.update_self] at hj
        exact absurd hi (hnew i hik loc hj)
      · rw [Function.update_of_ne hjk] at hj
        exact h.apart i j loc hi hj

theorem Ended.not_mem (h : m.Ended l ended) (hfound : m.saves[k]? = some save) (hrest : ∀ e, save.rest ≠ .done e) :
    k ∉ ended := by
  intro hk
  obtain ⟨snapshot, before, hbefore, hdone⟩ := (h.mem_iff k).mp hk
  rw [hfound] at hbefore
  cases hbefore
  exact hrest _ hdone

/-- The order of the saves that ended before. -/
theorem Ended.order_of_work (h : m.Ended l ended) (hnot : k ∉ ended)
    (hother : ∀ j, j ≠ k → m'.saves[j]? = m.saves[j]?) : ended.Pairwise fun i j => i < j ∨ m'.IsAbandoned j := by
  refine h.order.imp_of_mem fun _ hj hij => hij.imp_right ?_
  rintro ⟨other, hfound, habandoned⟩
  refine ⟨other, (hother _ ?_).trans hfound, habandoned⟩
  rintro rfl
  exact hnot hj

/-- While a save does not end, the file stays as it is. -/
theorem Ended.work_open (h : m.Ended l ended) (hfound : m.saves[k]? = some save) (hrest : ∀ e, save.rest ≠ .done e)
    (hsaves : m'.saves = m.saves.set k { save with rest }) (hopen : ∀ snapshot, rest ≠ .done (.ok snapshot))
    (hfile : ∀ bytes, m.host.files.HasFile l.store.file bytes → m'.host.files.HasFile l.store.file bytes) :
    m'.Ended l ended := by
  obtain ⟨hself, hother⟩ := getElem?_of_work hfound hsaves
  have hnot := h.not_mem hfound hrest
  have hsaved : ∀ j, j ≠ k → ∀ snapshot, m'.HasSaved j snapshot ↔ m.HasSaved j snapshot := by
    intro j hj snapshot
    rw [HasSaved, HasSaved, hother j hj]
  refine ⟨fun j => ?_, h.order_of_work hnot hother, fun j hj => ?_⟩
  · by_cases hj : j = k
    · subst hj
      refine iff_of_false hnot ?_
      rintro ⟨snapshot, other, hfound', hdone⟩
      rw [hself] at hfound'
      cases hfound'
      exact hopen snapshot hdone
    · simp only [h.mem_iff, hsaved j hj]
  · have hjk : j ≠ k := by
      rintro rfl
      exact hnot (List.mem_of_getLast? hj)
    obtain ⟨snapshot, bytes, hsnapshot, hbytes, hcontent⟩ := h.content j hj
    exact ⟨snapshot, bytes, (hsaved j hjk snapshot).mpr hsnapshot, hbytes, hfile bytes hcontent⟩

/-- A save that ends with a snapshot comes last. It is abandoned if one that was started later has ended before. -/
theorem Ended.work_done {snapshot : Snapshot} {bytes : List UInt8} (h : m.Ended l ended) (hsound : m.Sound l)
    (hfound : m.saves[k]? = some save) (hrest : ∀ e, save.rest ≠ .done e)
    (hsaves : m'.saves = m.saves.set k { save with rest := .done (.ok snapshot) })
    (hbytes : snapshot.bytes? = some bytes) (hfile : m'.host.files.HasFile l.store.file bytes) :
    m'.Ended l (ended ++ [k]) := by
  obtain ⟨hself, hother⟩ := getElem?_of_work hfound hsaves
  have hnot := h.not_mem hfound hrest
  refine ⟨fun j => ?_, ?_, fun j hj => ?_⟩
  · by_cases hj : j = k
    · subst hj
      exact iff_of_true (List.mem_append_right _ (List.mem_singleton_self _)) ⟨snapshot, _, hself, rfl⟩
    · simp only [List.mem_append, List.mem_singleton, hj, or_false, h.mem_iff, HasSaved, hother j hj]
  · refine List.pairwise_append.mpr ⟨h.order_of_work hnot hother, List.pairwise_singleton _ _, fun j hj k' hk' => ?_⟩
    rw [List.mem_singleton.mp hk']
    rcases hsound.eq_last hfound hrest with habandoned | hlast
    · exact .inr ⟨_, hself, habandoned⟩
    · obtain ⟨_, other, hfound', -⟩ := (h.mem_iff j).mp hj
      have hjlt := (List.getElem?_eq_some_iff.mp hfound').1
      have hjk : j ≠ k := by
        rintro rfl
        exact hnot hj
      exact .inl (by omega)
  · rw [List.getLast?_concat] at hj
    cases hj
    exact ⟨snapshot, bytes, ⟨_, hself, rfl⟩, hbytes, hfile⟩

end Work

/-! ### All that can be reached -/

/-- The saves are at their stages and have ended in some order. -/
def Laid (l : Loader) (m : SavingLoads ι) : Prop := (∃ own, m.Staged l own) ∧ ∃ ended, m.Ended l ended

theorem laid_start (l : Loader) (host : Host) : (start l host : SavingLoads ι).Laid l := by
  refine ⟨⟨fun _ => none, nofun, fun _ _ => rfl, nofun⟩, [], ⟨fun k => iff_of_false nofun ?_, .nil, nofun⟩⟩
  rintro ⟨snapshot, save, hsave, -⟩
  cases hsave

/-- Whatever happens next, the file holds the whole snapshot of the save that ended last. -/
theorem Laid.step [DecidableEq ι] (h : m.Laid l) (hsound : m.Sound l) (hapart : l.store.file.IsApart)
    (hstep : m.Step m') : m'.Laid l := by
  obtain ⟨⟨own, hstaged⟩, ended, hended⟩ := h
  cases hstep with
  | act rest other meets => exact ⟨⟨own, hstaged.abandons (.refl _) rfl⟩, ended, hended.abandons (.refl _) rfl⟩
  | @start i store rules version next rest free =>
    obtain ⟨rfl, -, -⟩ := hsound.turn.of_save rest
    exact ⟨⟨own, hstaged.start rfl rfl⟩, ended, hended.start rfl rfl⟩
  | @work k save act next reply host found rest answers =>
    have hrest : ∀ e, save.rest ≠ .done e := by
      intro e he
      rw [rest] at he
      cases he
    obtain ⟨own', hstage, hmoves⟩ := (hstaged.stage k save found).step rest answers
    refine ⟨⟨_, hstaged.work hapart found rfl hstage hmoves⟩, ?_⟩
    by_cases hdone : ∃ snapshot, next reply = .done (.ok snapshot)
    · obtain ⟨snapshot, hdone⟩ := hdone
      rw [hdone] at hmoves ⊢
      cases hmoves with
      | aside touches fresh open' => exact absurd rfl (open' snapshot)
      | placed touches gone ends bytesEq file =>
        cases ends
        exact ⟨_, hended.work_done hsound found hrest rfl bytesEq file⟩
    · have hopen : ∀ snapshot, next reply ≠ .done (.ok snapshot) := fun snapshot heq => hdone ⟨snapshot, heq⟩
      refine ⟨ended, hended.work_open found hrest rfl hopen fun bytes => ?_⟩
      exact hmoves.hasFile hapart (hstaged.stage k save found) hstage hopen
  | finish rest waits found ended' => exact ⟨⟨own, hstaged.abandons (.refl _) rfl⟩, ended, hended.abandons (.refl _) rfl⟩
  | cancel rest =>
    exact ⟨⟨own, hstaged.abandons (abandons_abandon _ _) rfl⟩, ended, hended.abandons (abandons_abandon _ _) rfl⟩

theorem Reachable.sound_laid [DecidableEq ι] {host : Host} (h : Reachable l host m) (hapart : l.store.file.IsApart) :
    m.Sound l ∧ m.Laid l := by
  induction h with
  | refl => exact ⟨sound_start l host, laid_start l host⟩
  | tail _ hstep ih => exact ⟨ih.1.step hstep, ih.2.step ih.1 hapart hstep⟩

end SavingLoads

end LintPreview
