import LintPreview.Proofs.Catalog.History
import LintPreview.Proofs.Catalog.LateSave
import LintPreview.Proofs.Catalog.Overtaking
import LintPreview.Proofs.Catalog.Recall

/-!
# Which snapshot is left

* `SavingLoads.Reachable.recent`: when all saves have succeeded, the file holds the snapshot of the latest fetch that was
  saved, or of an earlier one whose load was cancelled while its rules were saved.
* `SavingLoads.not_recent`: the second case occurs. An earlier snapshot can take the place of a later one.
-/

namespace LintPreview

open Program (Runs)

namespace SavingLoads

variable {ι : Type} {l : Loader} {m : SavingLoads ι}

/-! ### An early save that is done last -/

/-- A lint tool that lists one rule. -/
def singleTool (id : Text) : Rehearsal where
  tool := .scripted { listRules := .text ("[\x7b\"identifier\": \"" ++ id ++ "\"\x7d]") }

/-- The rule that it lists. -/
def singleRule (id name : Text) : List Rule := [{ id, name }]

/-- Whether the tool can give this rule. -/
def isGiven (id name : Text) : Bool :=
  Program.passes Rehearsal.answer Rehearsal.passes (fetchRules Loader.ofRoot.tool) (singleTool id) &&
    match Rehearsal.run (fetchRules Loader.ofRoot.tool) (singleTool id) with
    | (.ok (rules, version), _) => decide (rules = singleRule id name ∧ version = some "0.57.0")
    | _ => false

theorem canBring_of_isGiven {id name : Text} (h : isGiven id name = true) :
    Loader.ofRoot.CanBring (singleRule id name) (some "0.57.0") := by
  rw [isGiven, Bool.and_eq_true] at h
  obtain ⟨hpasses, hrun⟩ := h
  obtain ⟨events, hruns⟩ := Rehearsal.runs_of_passes false hpasses
  split at hrun
  · rename_i rules version r heq
    obtain ⟨rfl, rfl⟩ := of_decide_eq_true hrun
    rw [heq] at hruns
    have hshown : (Notice.loaded 1 (some "0.57.0")).lost? = none := by decide +kernel
    exact Loader.canBring_of_runs rfl hshown hruns
  · cases hrun

/-- The rule `b` is saved, and then the rule `a`. The file does not hold the snapshot of the first save then. -/
theorem run_save_save :
    (let first := Loader.ofRoot.store.save (singleRule "b" "B") (some "0.57.0")
    let second := Loader.ofRoot.store.save (singleRule "a" "A") (some "0.57.0")
    Program.passes Host.answerDisk Host.passes first {} &&
    Program.passes Host.answerDisk Host.passes second (first.run Host.answerDisk {}).2 &&
    match first.run Host.answerDisk {} with
    | (.ok snapshot, host) =>
      match second.run Host.answerDisk host with
      | (.ok _, host') => decide ((host'.files.readBytes Loader.ofRoot.store.file).toOption ≠ snapshot.bytes?)
      | _ => false
    | _ => false) = true := by
  decide +kernel

/-- Both saves can be done in this order. -/
theorem exists_runs_save_save : ∃ early late snapshot snapshot' host₁ host₂,
    Runs (Host.Answers false) (Loader.ofRoot.store.save (singleRule "b" "B") (some "0.57.0")) {} early (.ok snapshot')
      host₁ ∧
    Runs (Host.Answers false) (Loader.ofRoot.store.save (singleRule "a" "A") (some "0.57.0")) host₁ late (.ok snapshot)
      host₂ ∧
    ∀ bytes, snapshot'.bytes? = some bytes → ¬ host₂.files.HasFile Loader.ofRoot.store.file bytes := by
  have hchecked := run_save_save
  dsimp only at hchecked
  simp only [Bool.and_eq_true] at hchecked
  obtain ⟨⟨hfirst, hsecond⟩, hrun⟩ := hchecked
  have hpasses : ∀ act host, Host.passes act host = true →
      Host.Answers false act (id host) (Host.answerDisk act host).1 (id (Host.answerDisk act host).2) :=
    fun _ _ => Host.answers_of_passes false
  obtain ⟨early, hearly⟩ := Program.runs_of_passes hpasses hfirst
  obtain ⟨late, hlate⟩ := Program.runs_of_passes hpasses hsecond
  split at hrun
  · rename_i snapshot' host₁ hend
    rw [hend] at hearly hlate
    split at hrun
    · rename_i snapshot host₂ hend'
      rw [hend'] at hlate
      refine ⟨early, late, snapshot, snapshot', host₁, host₂, hearly, hlate, ?_⟩
      intro bytes hbytes hfile
      have hread := of_decide_eq_true hrun
      rw [FileTree.readBytes_eq_ok_iff.mpr hfile, hbytes] at hread
      exact hread rfl
    · cases hrun
  · cases hrun

/-- A load of the rule `a` is cancelled while it is saved. A second load fetches the rule `b` and gets its snapshot. Then
the first save is done, and the file does not hold the second snapshot. -/
theorem exists_overtaken : ∃ m : SavingLoads (Fin 2), Reachable Loader.ofRoot {} m ∧ m.shared.taken = false ∧
    m.shared.catalog.isLoading = false ∧ (∀ save ∈ m.saves, ∃ snapshot, save.rest = .done (.ok snapshot)) ∧
    ∃ last snapshot, m.saves.getLast? = some last ∧ last.rest = .done (.ok snapshot) ∧
      ∀ bytes, snapshot.bytes? = some bytes → ¬ m.host.files.HasFile Loader.ofRoot.store.file bytes := by
  have hgiven : isGiven "a" "A" = true := by decide +kernel
  have hgiven' : isGiven "b" "B" = true := by decide +kernel
  obtain ⟨early, late, snapshot, snapshot', host₁, host₂, hearly, hlate, hfile⟩ := exists_runs_save_save
  obtain ⟨m, hm, hidle, hquiet, rfl, hsaves⟩ := exists_late (by decide : (0 : Fin 2) ≠ 1) (canBring_of_isGiven hgiven)
    (canBring_of_isGiven hgiven') hearly hlate
  refine ⟨m, hm, hidle, hquiet, ?_, ⟨_, _, .done (.ok snapshot'), false⟩, snapshot', by rw [hsaves]; rfl, rfl, hfile⟩
  rw [hsaves]
  exact List.forall_mem_cons.mpr ⟨⟨snapshot, rfl⟩, List.forall_mem_singleton.mpr ⟨snapshot', rfl⟩⟩

/-! ### The last snapshot -/

/-- Any number of tasks load one catalog, in any order and with any of them cancelled, and each of their saves runs beside
them to its end. When all saves have succeeded, the file holds the whole snapshot of one of them, whose rules some task has
fetched from the lint tool and put into the catalog. It is the save that was started last, or a save whose load was
cancelled while its rules were saved. -/
theorem Reachable.recent [DecidableEq ι] {host : Host} (h : Reachable l host m) (hapart : l.store.file.IsApart)
    (hall : ∀ save ∈ m.saves, ∃ snapshot, save.rest = .done (.ok snapshot)) (hsome : m.saves ≠ []) :
    ∃ (k : ℕ) (save : Save) (snapshot : Snapshot) (bytes : List UInt8), m.saves[k]? = some save ∧
      (∃ i, l.Puts (m.tasks i).events save.rules save.version) ∧ save.rest = .done (.ok snapshot) ∧
      snapshot.rules = save.rules ∧ snapshot.toolVersion = save.version ∧ snapshot.bytes? = some bytes ∧
      m.host.files.HasFile l.store.file bytes ∧ (k + 1 = m.saves.length ∨ save.abandoned = true) := by
  obtain ⟨hsound, ⟨own, hstaged⟩, ended, hended⟩ := h.sound_laid hapart
  -- The save that was started last has ended, so there is one that ended last.
  have hlength : 0 < m.saves.length := List.length_pos_of_ne_nil hsome
  obtain ⟨last, hlast⟩ : ∃ last, m.saves[m.saves.length - 1]? = some last :=
    ⟨_, List.getElem?_eq_getElem (by omega)⟩
  have hmem : m.saves.length - 1 ∈ ended := by
    obtain ⟨snapshot, hdone⟩ := hall last (List.mem_of_getElem? hlast)
    exact (hended.mem_iff _).mpr ⟨snapshot, last, hlast, hdone⟩
  obtain ⟨k, hk⟩ : ∃ k, ended.getLast? = some k := by
    cases hgot : ended.getLast? with
    | none =>
      rw [List.getLast?_eq_none_iff.mp hgot] at hmem
      cases hmem
    | some k => exact ⟨k, rfl⟩
  obtain ⟨snapshot, bytes, ⟨save, hsave, hdone⟩, hbytes, hfile⟩ := hended.content k hk
  obtain ⟨now, hmake⟩ := (hstaged.stage k save hsave).made_of_done hdone
  have hlt := (List.getElem?_eq_some_iff.mp hsave).1
  refine ⟨k, save, snapshot, bytes, hsave, hsound.puts save (List.mem_of_getElem? hsave), hdone,
    (Snapshot.spec_of_make hmake).1, Snapshot.toolVersion_of_make hmake, hbytes, hfile, ?_⟩
  obtain ⟨front, rfl⟩ := List.getLast?_eq_some_iff.mp hk
  rcases List.mem_append.mp hmem with hfront | hself
  · rcases (List.pairwise_append.mp hended.order).2.2 _ hfront k (List.mem_singleton_self k) with hle | ⟨other, hother, habandoned⟩
    · omega
    · rw [hsave] at hother
      cases hother
      exact .inr habandoned
  · rw [← List.mem_singleton.mp hself]
    exact .inl (by omega)

/-- After two loads of which the first was cancelled while its rule was saved, the file holds the snapshot of this load. -/
theorem recent_overtaken : ∃ m : SavingLoads (Fin 2), Reachable Loader.ofRoot {} m ∧ Loader.ofRoot.store.file.IsApart ∧
    (∀ save ∈ m.saves, ∃ snapshot, save.rest = .done (.ok snapshot)) ∧ m.saves ≠ [] ∧
    ∃ (k : ℕ) (save : Save) (snapshot : Snapshot) (bytes : List UInt8), m.saves[k]? = some save ∧
      save.rest = .done (.ok snapshot) ∧ snapshot.bytes? = some bytes ∧
      m.host.files.HasFile Loader.ofRoot.store.file bytes ∧ save.abandoned = true := by
  obtain ⟨m, hm, -, -, hall, last, snapshot, hlast, hdone, hother⟩ := exists_overtaken
  have hsome : m.saves ≠ [] := by
    intro hnil
    rw [hnil] at hlast
    cases hlast
  obtain ⟨k, save, snapshot', bytes, hsave, -, hdone', -, -, hbytes, hfile, hrecent⟩ :=
    hm.recent Store.isApart_ofRoot hall hsome
  refine ⟨m, hm, Store.isApart_ofRoot, hall, hsome, k, save, snapshot', bytes, hsave, hdone', hbytes, hfile, ?_⟩
  refine hrecent.resolve_left fun hk => ?_
  rw [List.getLast?_eq_getElem?, ← hk, Nat.add_sub_cancel, hsave] at hlast
  cases hlast
  rw [hdone'] at hdone
  cases hdone
  exact hother bytes hbytes hfile

/-- When no load goes on and all saves have succeeded, the file need not hold the snapshot of the save that was started
last: one that was started before can take its place. -/
theorem not_recent : ¬ ∀ (l : Loader) (host : Host) (m : SavingLoads (Fin 2)), l.useCache = true → l.store.file.IsApart →
    Reachable l host m → m.shared.taken = false → m.shared.catalog.isLoading = false →
    (∀ save ∈ m.saves, ∃ snapshot, save.rest = .done (.ok snapshot)) → ∀ last, m.saves.getLast? = some last →
    ∃ snapshot bytes, last.rest = .done (.ok snapshot) ∧ snapshot.bytes? = some bytes ∧
      m.host.files.HasFile l.store.file bytes := by
  intro hclaim
  obtain ⟨m, hm, hidle, hquiet, hall, last, snapshot, hlast, hdone, hother⟩ := exists_overtaken
  obtain ⟨snapshot', bytes, hdone', hbytes, hfile⟩ :=
    hclaim _ _ m rfl Store.isApart_ofRoot hm hidle hquiet hall last hlast
  rw [hdone] at hdone'
  cases hdone'
  exact hother bytes hbytes hfile

end SavingLoads

end LintPreview
