import LintPreview.Proofs.Catalog.Details
import LintPreview.Proofs.Catalog.Saving

/-!
# A save that ends late

* `Loader.CanBring`: the lint tool can give these rules, and a load keeps them.
* `Loader.CanBring.exists_reaches`: a load that is next comes to its save then.
* `SavingLoads.Reachable.of_reaches`, `SavingLoads.Reachable.of_runs`: a task or a save goes on alone.
* `SavingLoads.Reachable.exists_abandons`, `SavingLoads.Reachable.exists_saves`: a load is cancelled while its rules are
  saved, or gets the snapshot.
* `SavingLoads.exists_late`: a save that is abandoned can end after one that was started later.
-/

namespace LintPreview

open Program (World Reaches Runs)

/-- What a load asks of the lint tool it can always ask so, whatever the catalog is. -/
theorem SharedCatalog.runs_of_isFetching {α σ : Type} {w : World ServiceAct ServiceAct.Reply σ} {s₀ s₁ : σ}
    {events : List ServiceEvent} {p : Service α} {a : α} (hp : p.OnlyAsks ServiceAct.IsFetching)
    (h : Runs w p s₀ events a s₁) (s : SharedCatalog) : Runs SharedCatalog.Meets p s events a s := by
  induction h with
  | done a s₀ => exact .done a s
  | ask answers goesOn ih =>
    rename_i act next s₀ s₂ s₁ reply events a
    refine .ask ?_ (ih (hp.2 reply))
    have hact := hp.1
    cases act <;> first | rfl | cases hact

/-- The end of a turn. -/
theorem SharedCatalog.reaches_leave {α : Type} (s : SharedCatalog) (a : α) :
    Reaches SharedCatalog.Meets (.ask .leaveLoad fun _ => .done a) s [⟨.leaveLoad, ()⟩] (.done a)
      ⟨{ s.catalog with isLoading := false }, false⟩ :=
  .ask rfl (.here _ _)

namespace Loader

variable {σ : Type} {w : World ServiceAct ServiceAct.Reply σ} {s₀ s₁ : σ} {l : Loader} {s : SharedCatalog}
  {events : List ServiceEvent} {rules : List Rule} {version : Option Text}

/-- What a load with the cache does with rules of the lint tool, when the log can show how many they are. -/
theorem run_put (huse : l.useCache = true) (hshown : (Notice.loaded rules.length version).lost? = none) :
    (do
      Job.putRules rules
      Job.announce (.loaded rules.length version)
      if l.useCache then keepSnapshot l.store rules version
      Job.rules : Job (List Rule)).run =
    .ask (.putRules rules) fun _ => .ask (.errand (.saveRules l.store rules version)) fun
      | .ok _ => Job.rules.run
      | .error (.failed f) =>
        (Job.announce (.snapshotFailed l.store.file.toString f.message) >>= fun _ => Job.rules).run
      | .error .cancelled => .done (.error .cancelled) := by
  rw [announce_of_shown hshown, huse]
  refine congrArg (Program.ask _) (funext fun _ => congrArg (Program.ask _) (funext fun e => ?_))
  rcases e with (f | -) | snapshot <;> rfl

/-- The lint tool can give these rules. A load with the cache keeps them, because the log can show how many they are. -/
structure CanBring (l : Loader) (rules : List Rule) (version : Option Text) : Prop where
  useCache : l.useCache = true
  shown : (Notice.loaded rules.length version).lost? = none
  fetch : ∃ events, ∀ s, Job.Runs SharedCatalog.Meets (fetchRules l.tool) s events (.ok (rules, version)) s

/-- What the lint tool gives in any world it can give. -/
theorem canBring_of_runs (huse : l.useCache = true) (hshown : (Notice.loaded rules.length version).lost? = none)
    (hfetch : Job.Runs w (fetchRules l.tool) s₀ events (.ok (rules, version)) s₁) : l.CanBring rules version :=
  ⟨huse, hshown, events, SharedCatalog.runs_of_isFetching (onlyAsks_fetchRules l.tool).program hfetch⟩

/-- A load whose turn comes and that fetches rules asks for them to be saved, and for nothing else before. Its turn is
over when it is cancelled then, and when it gets the snapshot. -/
theorem CanBring.exists_reaches (h : l.CanBring rules version) (hidle : s.taken = false) :
    ∃ events next s', Reaches SharedCatalog.Meets l.loadRules.run s events
        (.ask (.errand (.saveRules l.store rules version)) next) s' ∧
      (∀ event ∈ events, ∀ store rules version, event.1 ≠ .errand (.saveRules store rules version)) ∧
      next (.error .cancelled) = .ask .leaveLoad (fun _ => .done (.error .cancelled)) ∧
      ∀ snapshot, next (.ok snapshot) = .ask .rules fun rs => .ask .leaveLoad fun _ => .done (.ok rs) := by
  obtain ⟨huse, hshown, events, hfetch⟩ := h
  let begun : SharedCatalog := ⟨{ s.catalog with isLoading := true }, true⟩
  have hturn : Reaches SharedCatalog.Meets l.loadInTurn.run begun events (do
      Job.putRules rules
      Job.announce (.loaded rules.length version)
      if l.useCache then keepSnapshot l.store rules version
      Job.rules : Job (List Rule)).run begun := by
    rw [loadInTurn, Program.run_stoppable_bind]
    exact ((hfetch begun).reaches.bind fun e => .done (Except.ok e)).bind _
  rw [run_put huse hshown] at hturn
  have hput : SharedCatalog.Meets (.putRules rules) begun () { begun with catalog := begun.catalog.replace rules } := rfl
  have henter : SharedCatalog.Meets .enterLoad s (.ok ()) begun := .inl ⟨rfl, hidle, rfl⟩
  have hsave := (hturn.snoc hput).bind fun e => Program.ask ServiceAct.leaveLoad fun _ => .done e
  rw [Loads.run_loadRules]
  refine ⟨_, _, _, .ask henter hsave, ?_, rfl, fun _ => rfl⟩
  intro event hevent store rules' version' heq
  rcases List.mem_cons.mp hevent with rfl | hevent
  · cases heq
  · rcases List.mem_append.mp hevent with hevent | hevent
    · have hact := (onlyAsks_fetchRules l.tool).program.of_mem_reaches (hfetch begun).reaches event hevent
      rw [heq] at hact
      cases hact
    · rw [List.mem_singleton.mp hevent] at heq
      cases heq

end Loader

namespace SavingLoads

variable {ι : Type} {l : Loader} {m : SavingLoads ι}

/-! ### Going on alone -/

section Alone

variable [DecidableEq ι] {host : Host}

/-- A task that waits for no save. -/
theorem update_waitsFor {i : ι} (h : m.waitsFor i = none) : Function.update m.waitsFor i none = m.waitsFor := by
  rw [← h, Function.update_eq_self]

/-- A task goes on as far as it can without a save. -/
theorem Reachable.of_reaches {i : ι} {before events : List ServiceEvent} {shared : SharedCatalog}
    {p q : Service (Except Stop (List Rule))} (h : Reachable l host m) (hfree : m.waitsFor i = none)
    (htask : m.tasks i = ⟨before, p⟩) (hreaches : Reaches SharedCatalog.Meets p m.shared events q shared)
    (hother : ∀ event ∈ events, ∀ store rules version, event.1 ≠ .errand (.saveRules store rules version)) :
    Reachable l host { m with shared, tasks := Function.update m.tasks i ⟨before ++ events, q⟩ } := by
  generalize hs : m.shared = s at hreaches
  induction hreaches generalizing m before with
  | here p s =>
    subst hs
    rwa [List.append_nil, ← htask, Function.update_eq_self]
  | ask answers goesOn ih =>
    subst hs
    rename_i act next s₁ s' reply events q
    have hstep := h.tail (.act (congrArg LoadTask.rest htask) (hother _ List.mem_cons_self) answers)
    have hnext := ih hstep (Function.update_self ..) (Function.update_self ..)
      (fun event hevent => hother event (List.mem_cons_of_mem _ hevent)) rfl
    simpa only [advance, htask, Function.update_idem, List.append_assoc, List.singleton_append, update_waitsFor hfree]
      using hnext

/-- A save goes on to its end. -/
theorem Reachable.of_runs {k : ℕ} {save : Save} {events : List DiskEvent} {e : Except Failure Snapshot} {host' : Host}
    (h : Reachable l host m) (hfound : m.saves[k]? = some save)
    (hruns : Runs (Host.Answers false) save.rest m.host events e host') :
    Reachable l host { m with host := host', saves := m.saves.set k { save with rest := .done e } } := by
  generalize hp : save.rest = p at hruns
  generalize hs : m.host = s at hruns
  induction hruns generalizing m save with
  | done e s =>
    subst hs
    obtain ⟨hlt, rfl⟩ := List.getElem?_eq_some_iff.mp hfound
    have hsame : m.saves.set k { m.saves[k] with rest := .done e } = m.saves := by
      rw [← hp]
      exact List.set_getElem_self hlt
    rwa [hsame]
  | ask answers goesOn ih =>
    subst hs
    have hlt := (List.getElem?_eq_some_iff.mp hfound).1
    have hnext := ih (h.tail (.work hfound hp answers)) (List.getElem?_set_self hlt) rfl rfl
    simpa only [List.set_set] using hnext

/-- The save that was started last is abandoned. -/
theorem abandon_concat (saves : List Save) (save : Save) :
    abandon (saves ++ [save]) (some saves.length) = saves ++ [{ save with abandoned := true }] := by
  rw [abandon, List.modify_eq_take_cons_drop (by simp)]
  simp

/-! ### A load until its save -/

/-- The load of a task is next: no task has its turn, and this one has not begun. -/
structure IsNext (l : Loader) (m : SavingLoads ι) (i : ι) : Prop where
  idle : m.shared.taken = false
  free : m.waitsFor i = none
  task : m.tasks i = ⟨[], l.loadRules.run⟩

section Next

variable {rules : List Rule} {version : Option Text} {i : ι}

/-- A task gets its turn, fetches rules, puts them into the catalog and starts to save them. -/
theorem Reachable.exists_start (h : Reachable l host m) (hnext : m.IsNext l i) (hbring : l.CanBring rules version) :
    ∃ shared events next, Reachable l host { m with
        shared
        tasks := Function.update m.tasks i ⟨events, .ask (.errand (.saveRules l.store rules version)) next⟩
        waitsFor := Function.update m.waitsFor i (some m.saves.length)
        saves := m.saves ++ [{ rules, version, rest := l.store.save rules version }] } ∧
      next (.error .cancelled) = .ask .leaveLoad (fun _ => .done (.error .cancelled)) ∧
      ∀ snapshot, next (.ok snapshot) = .ask .rules fun rs => .ask .leaveLoad fun _ => .done (.ok rs) := by
  obtain ⟨events, next, shared, hreaches, hother, hcancelled, hok⟩ := hbring.exists_reaches hnext.idle
  have hfetched := h.of_reaches hnext.free hnext.task hreaches hother
  have hstart := hfetched.tail (.start (congrArg LoadTask.rest (Function.update_self i _ m.tasks)) hnext.free)
  exact ⟨shared, events, next, hstart, hcancelled, hok⟩

/-- The load is cancelled while its rules are saved. Its turn is over then, and the save is abandoned. -/
theorem Reachable.exists_abandons (h : Reachable l host m) (hnext : m.IsNext l i) (hbring : l.CanBring rules version) :
    ∃ shared events, shared.taken = false ∧ shared.catalog.isLoading = false ∧ Reachable l host { m with
      shared
      tasks := Function.update m.tasks i ⟨events, .done (.error .cancelled)⟩
      saves := m.saves ++ [{ rules, version, rest := l.store.save rules version, abandoned := true }] } := by
  obtain ⟨shared, events, next, hstart, hcancelled, -⟩ := h.exists_start hnext hbring
  have hcancel := hstart.tail (.cancel (congrArg LoadTask.rest (Function.update_self i _ m.tasks)))
  simp only [advance, Function.update_self, Function.update_idem, hcancelled, abandon_concat] at hcancel
  have hleave := Reachable.of_reaches hcancel (Function.update_self ..) (Function.update_self ..)
    (SharedCatalog.reaches_leave shared _) (List.forall_mem_singleton.mpr nofun)
  simp only [Function.update_idem, update_waitsFor hnext.free] at hleave
  exact ⟨_, _, rfl, rfl, hleave⟩

/-- The load gets the snapshot. -/
theorem Reachable.exists_saves {events : List DiskEvent} {snapshot : Snapshot} {host' : Host} (h : Reachable l host m)
    (hnext : m.IsNext l i) (hbring : l.CanBring rules version)
    (hsave : Runs (Host.Answers false) (l.store.save rules version) m.host events (.ok snapshot) host') :
    ∃ shared events rs, shared.taken = false ∧ shared.catalog.isLoading = false ∧ Reachable l host { m with
      shared
      host := host'
      tasks := Function.update m.tasks i ⟨events, .done (.ok rs)⟩
      saves := m.saves ++ [{ rules, version, rest := .done (.ok snapshot) }] } := by
  obtain ⟨shared, before, next, hstart, -, hok⟩ := h.exists_start hnext hbring
  have hend := hstart.of_runs (List.getElem?_concat_length ..) hsave
  have hfinish := hend.tail (.finish (congrArg LoadTask.rest (Function.update_self i _ m.tasks))
    (Function.update_self i _ m.waitsFor) (List.getElem?_set_self (by simp)) rfl)
  have hgot : next ((Except.ok snapshot : Except Failure Snapshot).mapError Stop.failed) = _ := hok snapshot
  simp only [advance, Function.update_self, Function.update_idem, hgot, List.set_append_right _ _ le_rfl, Nat.sub_self,
    List.set_cons_zero] at hfinish
  have hrules : SharedCatalog.Meets .rules shared shared.catalog.rules shared := ⟨rfl, rfl⟩
  have hleave := Reachable.of_reaches hfinish (Function.update_self ..) (Function.update_self ..)
    (.ask hrules (SharedCatalog.reaches_leave shared _)) (by simp)
  simp only [Function.update_idem, update_waitsFor hnext.free] at hleave
  exact ⟨_, _, _, rfl, rfl, hleave⟩

end Next

/-! ### Two saves in the wrong order -/

/-- A load is cancelled while its rules are saved. Another load fetches rules, and they are saved. If the first save can
be done after that, this is what it comes to. -/
theorem exists_late {host₁ host₂ : Host} {early late : List DiskEvent} {rules rules' : List Rule}
    {version version' : Option Text} {snapshot snapshot' : Snapshot} {i j : ι} (hij : i ≠ j)
    (hbring : l.CanBring rules version) (hbring' : l.CanBring rules' version')
    (hearly : Runs (Host.Answers false) (l.store.save rules' version') host early (.ok snapshot') host₁)
    (hlate : Runs (Host.Answers false) (l.store.save rules version) host₁ late (.ok snapshot) host₂) :
    ∃ m : SavingLoads ι, Reachable l host m ∧ m.shared.taken = false ∧ m.shared.catalog.isLoading = false ∧
      m.host = host₂ ∧ m.saves = [⟨rules, version, .done (.ok snapshot), true⟩,
        ⟨rules', version', .done (.ok snapshot'), false⟩] := by
  have hstart : Reachable l host (start l host : SavingLoads ι) := .refl
  obtain ⟨shared, events, hidle, -, hfirst⟩ := hstart.exists_abandons (i := i) ⟨rfl, rfl, rfl⟩ hbring
  have htask : Function.update (start l host).tasks i ⟨events, .done (.error .cancelled)⟩ j = ⟨[], l.loadRules.run⟩ :=
    Function.update_of_ne (Ne.symm hij) ..
  obtain ⟨shared', events', rs, hidle', hquiet, hsecond⟩ := hfirst.exists_saves ⟨hidle, rfl, htask⟩ hbring' hearly
  have hthird := hsecond.of_runs (k := 0) List.getElem?_cons_zero hlate
  exact ⟨_, hthird, hidle', hquiet, rfl, rfl⟩

end Alone

end SavingLoads

end LintPreview
