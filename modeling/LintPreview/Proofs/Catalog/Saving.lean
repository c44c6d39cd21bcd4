import LintPreview.Proofs.Catalog.Stage
import LintPreview.Proofs.Catalog.Turns

/-!
# Saves that go on beside loads

Tasks load one catalog in turns. Each save runs beside the task that asked for it, and goes on when this task is
cancelled. So saves can overlap, and they share a disk.

* `SharedCatalog.Meets`: what a load meets, whatever its errands bring.
* `Loader.Puts`: a load has fetched rules from the lint tool and put them into the catalog. Only then it asks for
  them to be saved (`Loader.reaches_save`).
* `SavingLoads.Step`, `SavingLoads.Reachable`: what the tasks and the saves can do, and what all of them can come to.
* `SavingLoads.Turn`: either no task has its turn, or one has it.
* `SavingLoads.Sound`: the only save that a task still waits for is the one that was started last.
-/

namespace LintPreview

open Program (World Reaches)

/-! ### Loads whose saves go on beside them -/

/-- What a load meets that shares the catalog with others, whatever its errands bring. -/
def SharedCatalog.Meets : World ServiceAct ServiceAct.Reply SharedCatalog
  | .errand _, s, _, s' => s' = s
  | act, s, reply, s' => SharedCatalog.Answers act s reply s'

namespace Loader

variable {l : Loader} {s s' : SharedCatalog} {events events' : List ServiceEvent} {rules : List Rule}
  {version : Option Text}

/-- By its events a load has fetched rules from the lint tool in its turn, and has put them into the catalog. -/
def Puts (l : Loader) (events : List ServiceEvent) (rules : List Rule) (version : Option Text) : Prop :=
  ∃ toolEvents s s', ⟨.enterLoad, .ok ()⟩ :: (toolEvents ++ [⟨.putRules rules, ()⟩]) <+: events ∧
    Job.Runs SharedCatalog.Meets (fetchRules l.tool) s toolEvents (.ok (rules, version)) s'

theorem Puts.mono (h : l.Puts events rules version) (hevents : events <+: events') : l.Puts events' rules version := by
  obtain ⟨toolEvents, s, s', hprefix, hfetch⟩ := h
  exact ⟨toolEvents, s, s', hprefix.trans hevents, hfetch⟩

/-- A load that falls back on the last snapshot saves nothing. -/
theorem onlyAsks_recall (l : Loader) (live : Failure) :
    Job.OnlyAsks (fun act => ∀ store rules version, act ≠ .errand (.saveRules store rules version))
      (l.fallBack live >>= fun rules => Job.putRules rules >>= fun _ => Job.rules) := by
  have hback : (l.fallBack live).OnlyAsks fun act => ∀ store rules version,
      act ≠ .errand (.saveRules store rules version) := by
    refine (onlyAsks_fallBack l live).mono ?_
    rintro act rfl
    nofun
  exact hback.bind fun _ => (Job.onlyAsks_ask nofun).bind fun _ => Job.onlyAsks_ask nofun

/-- A load only asks for rules to be saved that it has fetched and put into the catalog. -/
theorem reaches_save {store : Store}
    {next : (ServiceAct.errand (.saveRules store rules version)).Reply → Service (Except Stop (List Rule))}
    (h : Reaches SharedCatalog.Meets l.loadInTurn.run s events (.ask (.errand (.saveRules store rules version)) next) s') :
    store = l.store ∧ l.Puts (⟨.enterLoad, .ok ()⟩ :: events) rules version := by
  rcases Job.reaches_outcome_bind h with ⟨act, next₁, next', hfetch, heq⟩ | ⟨e, s₁, events₁, events₂, hfetch, hrest, rfl⟩
  · cases heq
    cases (onlyAsks_fetchRules l.tool).of_reaches hfetch
  · rcases e with (live | -) | ⟨rules', version'⟩
    · exact absurd rfl ((onlyAsks_recall l live).of_reaches hrest store rules version)
    · cases hrest
    · rcases Job.reaches_bind hrest with ⟨act, next₁, next', hput, heq⟩ | ⟨_, s₂, events₃, events₄, hput, hsave, rfl⟩ |
        ⟨stop, -, heq⟩
      · cases heq
        cases hput with
        | ask answers goesOn => cases goesOn
      · obtain ⟨_, s₃, events₅, -, hdone, rfl⟩ := Program.runs_ask_iff.mp hput
        obtain ⟨rfl, -, -⟩ := Program.runs_done_iff.mp hdone
        rcases (onlyAsks_afterPut l rules' version').of_reaches hsave with heq | heq
        · cases heq
          refine ⟨rfl, events₁, s, s₁, ?_, hfetch⟩
          exact List.cons_prefix_cons.mpr ⟨rfl, by rw [← List.append_assoc]; exact List.prefix_append _ _⟩
        · cases heq
      · cases heq

end Loader

/-- A save: what is kept, what is left of it, and whether the load that asked for it has been cancelled since. -/
structure Save where
  rules : List Rule
  version : Option Text
  rest : Disk (Except Failure Snapshot)
  abandoned : Bool := false

/-- Tasks that load one catalog, the saves in the order in which they were started, and for which of them a task waits. -/
structure SavingLoads (ι : Type) where
  shared : SharedCatalog := {}
  host : Host := {}
  tasks : ι → LoadTask
  waitsFor : ι → Option ℕ := fun _ => none
  saves : List Save := []

namespace SavingLoads

variable {ι : Type} {l : Loader} {m m' : SavingLoads ι}

/-- Nothing has been loaded, and no task has begun. -/
def start (l : Loader) (host : Host) : SavingLoads ι := { host, tasks := fun _ => { rest := l.loadRules.run } }

/-- Saves of which one is abandoned, if a task waits for one. -/
def abandon (saves : List Save) : Option ℕ → List Save
  | none => saves
  | some k => saves.modify k fun save => { save with abandoned := true }

section Step

variable [DecidableEq ι]

/-- The tasks after one more act of one of them, which waits for no save then. -/
def advance (m : SavingLoads ι) (i : ι) (shared : SharedCatalog) (event : ServiceEvent)
    (rest : Service (Except Stop (List Rule))) : SavingLoads ι :=
  { m with
    shared
    tasks := Function.update m.tasks i ⟨(m.tasks i).events ++ [event], rest⟩
    waitsFor := Function.update m.waitsFor i none }

/-- What can happen next: a task does an act that is no save; it starts a save; a save does an act; a task gets the result
of its save; or it is cancelled before or while its save is done. The save goes on then. -/
inductive Step (m : SavingLoads ι) : SavingLoads ι → Prop where
  | act {i : ι} {act : ServiceAct} {next : act.Reply → Service (Except Stop (List Rule))} {reply : act.Reply}
      {shared : SharedCatalog} (rest : (m.tasks i).rest = .ask act next)
      (other : ∀ store rules version, act ≠ .errand (.saveRules store rules version))
      (meets : SharedCatalog.Meets act m.shared reply shared) :
      Step m (m.advance i shared ⟨act, reply⟩ (next reply))
  | start {i : ι} {store : Store} {rules : List Rule} {version : Option Text}
      {next : (ServiceAct.errand (.saveRules store rules version)).Reply → Service (Except Stop (List Rule))}
      (rest : (m.tasks i).rest = .ask (.errand (.saveRules store rules version)) next) (free : m.waitsFor i = none) :
      Step m { m with
        waitsFor := Function.update m.waitsFor i (some m.saves.length)
        saves := m.saves ++ [{ rules, version, rest := store.save rules version }] }
  | work {k : ℕ} {save : Save} {act : DiskAct} {next : act.Reply → Disk (Except Failure Snapshot)} {reply : act.Reply}
      {host : Host} (found : m.saves[k]? = some save) (rest : save.rest = .ask act next)
      (answers : Host.Answers false act m.host reply host) :
      Step m { m with host, saves := m.saves.set k { save with rest := next reply } }
  | finish {i : ι} {k : ℕ} {save : Save} {e : Except Failure Snapshot} {store : Store} {rules : List Rule}
      {version : Option Text}
      {next : (ServiceAct.errand (.saveRules store rules version)).Reply → Service (Except Stop (List Rule))}
      (rest : (m.tasks i).rest = .ask (.errand (.saveRules store rules version)) next) (waits : m.waitsFor i = some k)
      (found : m.saves[k]? = some save) (ended : save.rest = .done e) :
      Step m (m.advance i m.shared ⟨.errand (.saveRules store rules version), e.mapError .failed⟩
        (next (e.mapError .failed)))
  | cancel {i : ι} {store : Store} {rules : List Rule} {version : Option Text}
      {next : (ServiceAct.errand (.saveRules store rules version)).Reply → Service (Except Stop (List Rule))}
      (rest : (m.tasks i).rest = .ask (.errand (.saveRules store rules version)) next) :
      Step m { m.advance i m.shared ⟨.errand (.saveRules store rules version), .error .cancelled⟩ (next (.error .cancelled))
        with saves := abandon m.saves (m.waitsFor i) }

/-- What tasks and saves can come to. -/
def Reachable (l : Loader) (host : Host) : SavingLoads ι → Prop := Relation.ReflTransGen Step (start l host)

end Step

/-! ### Turns -/

/-- Either no task has its turn, or one has it and is as far in it as its events say. Every other task waits for its turn,
or its turn is over. -/
inductive Turn (l : Loader) (shared : SharedCatalog) (tasks : ι → LoadTask) : Prop where
  | idle (free : shared.taken = false) (others : ∀ j, tasks j = ⟨[], l.loadRules.run⟩ ∨ ∃ e, (tasks j).rest = .done e)
  | busy {i : ι} {before : SharedCatalog} {events : List ServiceEvent} {q : Service (Except Stop (List Rule))}
      (taken : shared.taken = true) (task : tasks i = ⟨⟨.enterLoad, .ok ()⟩ :: events, Loads.untilLeft q⟩)
      (reaches : Reaches SharedCatalog.Meets l.loadInTurn.run before events q shared)
      (others : ∀ j ≠ i, tasks j = ⟨[], l.loadRules.run⟩ ∨ ∃ e, (tasks j).rest = .done e)

variable {shared shared' : SharedCatalog} {tasks : ι → LoadTask}

/-- What a task asks that has its turn does not end the turn. -/
theorem taken_of_meets {act : ServiceAct} {reply : act.Reply} (h : Loads.IsInTurn act)
    (meets : SharedCatalog.Meets act shared reply shared') : shared'.taken = shared.taken := by
  cases act with
  | enterLoad => cases h
  | leaveLoad => cases h
  | rules => rw [meets.1]
  | putRules rules => rw [show shared' = _ from meets]
  | _ => rw [show shared' = shared from meets]

/-- A task that waits for its turn only asks for it; one whose turn is over asks nothing. -/
theorem eq_of_others {t : LoadTask} {act : ServiceAct} {next : act.Reply → Service (Except Stop (List Rule))}
    (h : t = ⟨[], l.loadRules.run⟩ ∨ ∃ e, t.rest = .done e) (hrest : t.rest = .ask act next) :
    t.events = [] ∧ Program.ask act next = Program.ask .enterLoad fun
      | .ok () => Loads.untilLeft l.loadInTurn.run
      | .error stop => .done (.error stop) := by
  rcases h with rfl | ⟨e, he⟩
  · exact ⟨rfl, hrest.symm.trans (Loads.run_loadRules l)⟩
  · rw [he] at hrest
    cases hrest

/-- Whatever a task does next, either no task has its turn then, or one has it. -/
theorem Turn.step [DecidableEq ι] (h : Turn l shared tasks) {i : ι} {act : ServiceAct}
    {next : act.Reply → Service (Except Stop (List Rule))} {reply : act.Reply}
    (hrest : (tasks i).rest = .ask act next) (meets : SharedCatalog.Meets act shared reply shared') :
    Turn l shared' (Function.update tasks i ⟨(tasks i).events ++ [⟨act, reply⟩], next reply⟩) := by
  have hothers : ∀ t : LoadTask, ∀ j, (j ≠ i → tasks j = ⟨[], l.loadRules.run⟩ ∨ ∃ e, (tasks j).rest = .done e) →
      (j = i → ∃ e, t.rest = .done e) →
      Function.update tasks i t j = ⟨[], l.loadRules.run⟩ ∨ ∃ e, (Function.update tasks i t j).rest = .done e := by
    intro t j hne heq
    by_cases hj : j = i
    · subst hj
      rw [Function.update_self]
      exact .inr (heq rfl)
    · rw [Function.update_of_ne hj]
      exact hne hj
  cases h with
  | idle free others =>
    obtain ⟨hevents, heq⟩ := eq_of_others (others i) hrest
    cases heq
    rcases meets with ⟨rfl, -, rfl⟩ | ⟨rfl, rfl⟩
    · refine .busy (i := i) rfl ?_ (.here _ _) fun j hj => ?_
      · rw [Function.update_self, hevents]
        rfl
      · rw [Function.update_of_ne hj]
        exact others j
    · exact .idle free fun j => hothers _ j (fun _ => others j) fun _ => ⟨_, rfl⟩
  | @busy k before events q taken task reaches others =>
    by_cases hi : i = k
    · subst hi
      rw [task] at hrest ⊢
      cases q with
      | done e =>
        -- The turn is over.
        cases hrest
        obtain rfl := meets
        exact .idle rfl fun j => hothers _ j (others j) fun _ => ⟨_, rfl⟩
      | ask act' next' =>
        cases hrest
        have hact := (Loads.onlyAsks_loadInTurn l).of_reaches reaches
        refine .busy (i := i) ((taken_of_meets hact meets).trans taken) ?_ (reaches.snoc meets) fun j hj => ?_
        · rw [Function.update_self]
          rfl
        · rw [Function.update_of_ne hj]
          exact others j hj
    · obtain ⟨hevents, heq⟩ := eq_of_others (others i hi) hrest
      cases heq
      rcases meets with ⟨-, hfree, -⟩ | ⟨rfl, rfl⟩
      · rw [taken] at hfree
        cases hfree
      · refine .busy (i := k) taken ?_ reaches fun j hj => hothers _ j (fun _ => others j hj) fun _ => ⟨_, rfl⟩
        rw [Function.update_of_ne (Ne.symm hi)]
        exact task

/-- Only the task that has its turn asks for an errand, and rules that it wants saved are those that it has put into the
catalog. -/
theorem Turn.of_save (h : Turn l shared tasks) {i : ι} {store : Store} {rules : List Rule} {version : Option Text}
    {next : (ServiceAct.errand (.saveRules store rules version)).Reply → Service (Except Stop (List Rule))}
    (hrest : (tasks i).rest = .ask (.errand (.saveRules store rules version)) next) :
    store = l.store ∧ l.Puts (tasks i).events rules version ∧
      ∀ j work next', (tasks j).rest = .ask (.errand work) next' → j = i := by
  have hnot : ∀ j, (tasks j = ⟨[], l.loadRules.run⟩ ∨ ∃ e, (tasks j).rest = .done e) → ∀ work next',
      (tasks j).rest ≠ .ask (.errand work) next' := by
    intro j hj work next' hask
    have heq := (eq_of_others hj hask).2
    cases heq
  cases h with
  | idle free others => exact absurd hrest (hnot i (others i) _ _)
  | @busy k before events q taken task reaches others =>
    have hk : ∀ j work next', (tasks j).rest = .ask (.errand work) next' → j = k := by
      intro j work next' hj
      by_contra hne
      exact hnot j (others j hne) work next' hj
    obtain rfl := hk i _ _ hrest
    have hsave : store = l.store ∧ l.Puts (⟨.enterLoad, .ok ()⟩ :: events) rules version := by
      rw [task] at hrest
      cases q with
      | done e => cases hrest
      | ask act' next' =>
        cases hrest
        exact Loader.reaches_save reaches
    refine ⟨hsave.1, ?_, hk⟩
    rw [task]
    exact hsave.2

/-! ### Who waits for which save -/

/-- The saves are the same, but some of them may be abandoned. -/
structure Abandons (saves saves' : List Save) : Prop where
  length : saves'.length = saves.length
  same : ∀ (k : ℕ) (save : Save), saves[k]? = some save →
    ∃ abandoned : Bool, saves'[k]? = some { save with abandoned } ∧ (save.abandoned = true → abandoned = true)

theorem Abandons.refl (saves : List Save) : Abandons saves saves :=
  ⟨rfl, fun _ save hsave => ⟨save.abandoned, hsave, id⟩⟩

theorem abandons_abandon (saves : List Save) (k : Option ℕ) : Abandons saves (abandon saves k) := by
  cases k with
  | none => exact .refl saves
  | some k =>
    refine ⟨List.length_modify .., fun j save hsave => ?_⟩
    rw [abandon, List.getElem?_modify, hsave]
    by_cases hj : k = j
    · exact ⟨true, by simp [hj], fun _ => rfl⟩
    · exact ⟨save.abandoned, by simp [hj], id⟩

theorem abandon_getElem? {saves : List Save} {k : ℕ} {save : Save} (h : (abandon saves (some k))[k]? = some save) :
    save.abandoned = true := by
  rw [abandon, List.getElem?_modify] at h
  obtain ⟨before, -, rfl⟩ := Option.map_eq_some_iff.mp h
  rw [if_pos rfl]

theorem Abandons.exists_before {saves saves' : List Save} (h : Abandons saves saves') {k : ℕ} {save' : Save}
    (hsave : saves'[k]? = some save') : ∃ save, saves[k]? = some save ∧ save'.rules = save.rules ∧
      save'.version = save.version ∧ save'.rest = save.rest ∧ (save.abandoned = true → save'.abandoned = true) := by
  have hlt : k < saves.length := h.length ▸ (List.getElem?_eq_some_iff.mp hsave).1
  obtain ⟨abandoned, hsame, habandoned⟩ := h.same k saves[k] (List.getElem?_eq_getElem hlt)
  rw [hsave] at hsame
  cases hsame
  exact ⟨saves[k], List.getElem?_eq_getElem hlt, rfl, rfl, rfl, habandoned⟩

/-- The task that has its turn may wait for a save, which is the one that was started last. A save that no task waits for
has ended or is abandoned. -/
structure Sound (l : Loader) (m : SavingLoads ι) : Prop where
  turn : Turn l m.shared m.tasks
  waits : ∀ i k, m.waitsFor i = some k → k + 1 = m.saves.length ∧ ∃ store rules version next,
    (m.tasks i).rest = .ask (.errand (.saveRules store rules version)) next
  pending : ∀ (k : ℕ) (save : Save), m.saves[k]? = some save → save.abandoned = false →
    (∃ e, save.rest = .done e) ∨ ∃ i, m.waitsFor i = some k
  puts : ∀ save ∈ m.saves, ∃ i, l.Puts (m.tasks i).events save.rules save.version

theorem sound_start (l : Loader) (host : Host) : (start l host : SavingLoads ι).Sound l :=
  ⟨.idle rfl fun _ => .inl rfl, nofun, nofun, nofun⟩

/-- A save that is on its way and not abandoned is the one that was started last. -/
theorem Sound.eq_last (h : m.Sound l) {k : ℕ} {save : Save} (hsave : m.saves[k]? = some save)
    (hrest : ∀ e, save.rest ≠ .done e) : save.abandoned = true ∨ k + 1 = m.saves.length := by
  cases habandoned : save.abandoned with
  | true => exact .inl rfl
  | false =>
    rcases h.pending k save hsave habandoned with ⟨e, he⟩ | ⟨i, hi⟩
    · exact absurd he (hrest e)
    · exact .inr (h.waits i k hi).1

/-- A save does an act. -/
theorem Sound.work {k : ℕ} {save : Save} {rest : Disk (Except Failure Snapshot)} {host : Host} (h : m.Sound l)
    (hfound : m.saves[k]? = some save) (hrest : ∀ e, save.rest ≠ .done e) :
    Sound l { m with host, saves := m.saves.set k { save with rest } } := by
  have hlt := (List.getElem?_eq_some_iff.mp hfound).1
  refine ⟨h.turn, fun j k' hj => ?_, fun k' save' hsave habandoned => ?_, fun save' hsave => ?_⟩
  · rw [List.length_set]
    exact h.waits j k' hj
  · by_cases hk : k' = k
    · subst hk
      rw [List.getElem?_set_self hlt] at hsave
      cases hsave
      exact .inr ((h.pending k' save hfound habandoned).resolve_left fun ⟨e, he⟩ => hrest e he)
    · rw [List.getElem?_set_ne (Ne.symm hk)] at hsave
      exact h.pending k' save' hsave habandoned
  · rcases List.mem_or_eq_of_mem_set hsave with hsave | rfl
    · exact h.puts save' hsave
    · exact h.puts save (List.mem_of_getElem? hfound)

section Steps

variable [DecidableEq ι] {i : ι} {act : ServiceAct} {next : act.Reply → Service (Except Stop (List Rule))}
  {reply : act.Reply} {saves : List Save}

/-- One more act of a task, which waits for no save then: the one that it did wait for has ended or is abandoned. -/
theorem Sound.advance (h : m.Sound l) (hrest : (m.tasks i).rest = .ask act next)
    (meets : SharedCatalog.Meets act m.shared reply shared) (habandons : Abandons m.saves saves)
    (hleft : ∀ k, m.waitsFor i = some k → ∀ save, saves[k]? = some save →
      save.abandoned = true ∨ ∃ e, save.rest = .done e) :
    Sound l { m.advance i shared ⟨act, reply⟩ (next reply) with saves } := by
  have htasks : ∀ j, j ≠ i → Function.update m.tasks i ⟨(m.tasks i).events ++ [⟨act, reply⟩], next reply⟩ j = m.tasks j :=
    fun j hj => Function.update_of_ne hj ..
  have hwaits : ∀ j k, Function.update m.waitsFor i none j = some k → j ≠ i ∧ m.waitsFor j = some k := by
    intro j k hj
    by_cases hji : j = i
    · rw [hji, Function.update_self] at hj
      cases hj
    · rw [Function.update_of_ne hji] at hj
      exact ⟨hji, hj⟩
  refine ⟨h.turn.step hrest meets, ?_, ?_, ?_⟩
  · intro j k hj
    obtain ⟨hji, hj⟩ := hwaits j k hj
    obtain ⟨hlast, store, rules, version, next', hask⟩ := h.waits j k hj
    exact ⟨by rw [habandons.length, hlast], store, rules, version, next', by rw [← hask, ← htasks j hji]; rfl⟩
  · intro k save hsave habandoned
    obtain ⟨before, hbefore, -, -, hsame, hkept⟩ := habandons.exists_before hsave
    have hbefore' : before.abandoned = false := by
      cases hb : before.abandoned with
      | false => rfl
      | true => exact absurd (habandoned.symm.trans (hkept hb)) Bool.false_ne_true
    rw [hsame]
    rcases h.pending k before hbefore hbefore' with hended | ⟨j, hj⟩
    · exact .inl hended
    · by_cases hji : j = i
      · rcases hleft k (hji ▸ hj) save hsave with habandoned' | hended
        · rw [habandoned] at habandoned'
          cases habandoned'
        · exact .inl (hsame ▸ hended)
      · exact .inr ⟨j, (Function.update_of_ne hji ..).trans hj⟩
  · intro save hsave
    obtain ⟨k, hk⟩ := List.getElem?_of_mem hsave
    obtain ⟨before, hbefore, hrules, hversion, -, -⟩ := habandons.exists_before hk
    obtain ⟨j, hj⟩ := h.puts before (List.mem_of_getElem? hbefore)
    refine ⟨j, ?_⟩
    rw [hrules, hversion]
    by_cases hji : j = i
    · subst hji
      refine hj.mono ?_
      show _ <+: (Function.update m.tasks j _ j).events
      rw [Function.update_self]
      exact List.prefix_append _ _
    · exact (congrArg LoadTask.events (htasks j hji)).symm ▸ hj

/-- A save that is started is the only one that is not abandoned and has not ended. -/
theorem Sound.start {store : Store} {rules : List Rule} {version : Option Text}
    {next : (ServiceAct.errand (.saveRules store rules version)).Reply → Service (Except Stop (List Rule))}
    (h : m.Sound l) (hrest : (m.tasks i).rest = .ask (.errand (.saveRules store rules version)) next)
    (hfree : m.waitsFor i = none) :
    Sound l { m with
      waitsFor := Function.update m.waitsFor i (some m.saves.length)
      saves := m.saves ++ [{ rules, version, rest := store.save rules version }] } := by
  obtain ⟨-, hputs, honly⟩ := h.turn.of_save hrest
  have hnone : ∀ j k, m.waitsFor j ≠ some k := by
    intro j k hj
    obtain ⟨-, store', rules', version', next', hask⟩ := h.waits j k hj
    rw [honly j _ _ hask, hfree] at hj
    cases hj
  refine ⟨h.turn, fun j k hj => ?_, fun k save hsave habandoned => ?_, fun save hsave => ?_⟩
  · by_cases hji : j = i
    · subst hji
      have hk : some m.saves.length = some k := (Function.update_self j _ m.waitsFor).symm.trans hj
      cases hk
      exact ⟨by rw [List.length_append]; rfl, store, rules, version, next, hrest⟩
    · exact absurd ((Function.update_of_ne hji ..).symm.trans hj) (hnone j k)
  · rcases lt_trichotomy k m.saves.length with hlt | rfl | hgt
    · rw [List.getElem?_append_left hlt] at hsave
      rcases h.pending k save hsave habandoned with hended | ⟨j, hj⟩
      · exact .inl hended
      · exact absurd hj (hnone j k)
    · exact .inr ⟨i, Function.update_self ..⟩
    · rw [List.getElem?_eq_none (by simp; omega)] at hsave
      cases hsave
  · rcases List.mem_append.mp hsave with hsave | hsave
    · exact h.puts save hsave
    · obtain rfl := List.mem_singleton.mp hsave
      exact ⟨i, hputs⟩

/-- Whatever happens next, only the save that was started last is waited for. -/
theorem Sound.step (h : m.Sound l) (hstep : m.Step m') : m'.Sound l := by
  cases hstep with
  | @act i act next reply shared rest other meets =>
    refine h.advance rest meets (.refl _) fun k hk => ?_
    obtain ⟨-, store, rules, version, next', hask⟩ := h.waits i k hk
    rw [rest] at hask
    cases hask
    exact absurd rfl (other store rules version)
  | start rest free => exact h.start rest free
  | work found rest answers => exact h.work found fun e he => by rw [rest] at he; cases he
  | @finish i k save e store rules version next rest waits found ended =>
    refine h.advance rest rfl (.refl _) fun k' hk' save' hsave' => ?_
    rw [waits] at hk'
    cases hk'
    rw [found] at hsave'
    cases hsave'
    exact .inr ⟨e, ended⟩
  | @cancel i store rules version next rest =>
    refine h.advance rest rfl (abandons_abandon _ _) fun k hk save hsave => ?_
    rw [hk] at hsave
    exact .inl (abandon_getElem? hsave)

end Steps

end SavingLoads

end LintPreview
