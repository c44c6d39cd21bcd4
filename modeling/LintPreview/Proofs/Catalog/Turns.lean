import LintPreview.Proofs.Catalog.History
import LintPreview.Proofs.Catalog.Turn
import LintPreview.Proofs.Catalog.Views
import Mathlib.Logic.Function.Basic
import Mathlib.Logic.Relation

/-!
# Loads that share a catalog

Any number of tasks load one catalog. They take turns at single acts in any order, and each can be cancelled wherever it
waits.

* `Loads.Step`, `Loads.Reachable`: what one task does, and what all of them can come to.
* `Loads.Sound`: either no task has its turn, or one has it and is as far in it as its events say.
* `Loads.Sound.step`, `Loads.Reachable.sound`: every step keeps this, so it holds of all that can be reached.
* `Loads.Reachable.orderly`: what readers see of the catalog at any time.
-/

namespace LintPreview

open Program (Reaches)
open ServiceAct (KeepsCatalog)

/-- A task that loads the catalog: what it has done, and what is left of it. -/
structure LoadTask where
  events : List ServiceEvent := []
  rest : Service (Except Stop (List Rule))

/-- The task has got its turn and has not given it back. -/
def LoadTask.InTurn (t : LoadTask) : Prop := ⟨.enterLoad, .ok ()⟩ ∈ t.events ∧ ⟨.leaveLoad, ()⟩ ∉ t.events

/-- Tasks that load one catalog. -/
structure Loads (ι : Type) where
  shared : SharedCatalog := {}
  tasks : ι → LoadTask

namespace Loads

variable {ι : Type} {l : Loader} {m m' : Loads ι}

/-- Nothing has been loaded, and no task has begun. -/
def start (l : Loader) : Loads ι := { tasks := fun _ => { rest := l.loadRules.run } }

/-- The catalog holds no rules yet, or those that one of the tasks has fetched. -/
def IsFilled (l : Loader) (m : Loads ι) (c : Catalog) : Prop :=
  ∃ rules, c = { Loader.catalogOf rules with isLoading := c.isLoading } ∧ (rules.map Rule.id).Nodup ∧
    (rules = [] ∨ ∃ i, l.Brings (m.tasks i).events rules)

/-- Whether a load goes on is nothing that a catalog is filled with. -/
theorem IsFilled.of_isLoading {c : Catalog} (h : m.IsFilled l c) (isLoading : Bool) :
    m.IsFilled l { c with isLoading } := by
  obtain ⟨rules, hc, hids, hfilled⟩ := h
  exact ⟨rules, by rw [hc], hids, hfilled⟩

section Advance

variable [DecidableEq ι] {i j : ι} {shared : SharedCatalog} {event : ServiceEvent}
  {rest : Service (Except Stop (List Rule))}

/-- The tasks after one more act of one of them. -/
def advance (m : Loads ι) (i : ι) (shared : SharedCatalog) (event : ServiceEvent)
    (rest : Service (Except Stop (List Rule))) : Loads ι :=
  ⟨shared, Function.update m.tasks i ⟨(m.tasks i).events ++ [event], rest⟩⟩

@[simp] theorem advance_shared : (m.advance i shared event rest).shared = shared := rfl

@[simp] theorem advance_tasks_self :
    (m.advance i shared event rest).tasks i = ⟨(m.tasks i).events ++ [event], rest⟩ := Function.update_self ..

theorem advance_tasks_of_ne (h : j ≠ i) : (m.advance i shared event rest).tasks j = m.tasks j :=
  Function.update_of_ne h ..

/-- What holds of every task holds after one more act of one of them, if it holds of that one then. -/
theorem forall_advance {P : ι → LoadTask → Prop} (self : P i ⟨(m.tasks i).events ++ [event], rest⟩)
    (others : ∀ j ≠ i, P j (m.tasks j)) (j : ι) : P j ((m.advance i shared event rest).tasks j) := by
  by_cases hj : j = i
  · subst hj
    rwa [advance_tasks_self]
  · rw [advance_tasks_of_ne hj]
    exact others j hj

/-- What a task has fetched it has fetched also after one more act of any task. -/
theorem brings_advance {rules : List Rule} (h : l.Brings (m.tasks j).events rules) :
    l.Brings ((m.advance i shared event rest).tasks j).events rules := by
  by_cases hj : j = i
  · subst hj
    rw [advance_tasks_self]
    exact h.mono (List.prefix_append _ _)
  · rwa [advance_tasks_of_ne hj]

theorem IsFilled.advance {c : Catalog} (h : m.IsFilled l c) : (m.advance i shared event rest).IsFilled l c := by
  obtain ⟨rules, hc, hids, hfilled⟩ := h
  exact ⟨rules, hc, hids, hfilled.imp_right fun ⟨j, hj⟩ => ⟨j, brings_advance hj⟩⟩

end Advance

/-- One task does its next act. -/
inductive Step [DecidableEq ι] (m : Loads ι) : Loads ι → Prop where
  | act {i : ι} {act : ServiceAct} {next : act.Reply → Service (Except Stop (List Rule))} {reply : act.Reply}
      {shared : SharedCatalog} (rest : (m.tasks i).rest = .ask act next)
      (answers : SharedCatalog.Answers act m.shared reply shared) :
      Step m (m.advance i shared ⟨act, reply⟩ (next reply))

/-- What tasks can come to that load a catalog. -/
def Reachable [DecidableEq ι] (l : Loader) : Loads ι → Prop := Relation.ReflTransGen Step (start l)

/-! ### The invariant -/

/-- What is left of a load that has its turn, when `q` is left of the turn. -/
def untilLeft (q : Service (Except Stop (List Rule))) : Service (Except Stop (List Rule)) :=
  q >>= fun e => .ask .leaveLoad fun _ => .done e

/-- The task waits for its turn, or its turn is over. In the second case it has returned what it fetched, if it has
returned anything. -/
inductive Rests (l : Loader) : LoadTask → Prop where
  | waiting : Rests l ⟨[], l.loadRules.run⟩
  | ended {events : List ServiceEvent} {e : Except Stop (List Rule)} (out : ¬ (LoadTask.mk events (.done e)).InTurn)
      (brings : ∀ rules, e = .ok rules → l.Brings events rules) : Rests l ⟨events, .done e⟩

/-- Either no task has its turn. Or the task `i` has it since the catalog was as in `before`, and is as far in it as its
events say. -/
inductive Sound (l : Loader) (m : Loads ι) : Prop where
  | idle (free : m.shared.taken = false) (quiet : m.shared.catalog.isLoading = false)
      (filled : m.IsFilled l m.shared.catalog) (rests : ∀ j, Rests l (m.tasks j))
  | busy {i : ι} {before : SharedCatalog} {events : List ServiceEvent} {q : Service (Except Stop (List Rule))}
      (taken : before.taken = true) (loading : before.catalog.isLoading = true) (filled : m.IsFilled l before.catalog)
      (task : m.tasks i = ⟨⟨.enterLoad, .ok ()⟩ :: events, untilLeft q⟩)
      (reaches : Reaches SharedCatalog.Answers l.loadInTurn.run before events q m.shared)
      (others : ∀ j ≠ i, Rests l (m.tasks j))

theorem Rests.not_inTurn {t : LoadTask} (h : Rests l t) : ¬ t.InTurn := by
  cases h with
  | waiting => exact fun h => List.not_mem_nil h.1
  | ended out brings => exact out

theorem sound_start (l : Loader) : (start l : Loads ι).Sound l :=
  .idle rfl rfl ⟨[], rfl, List.nodup_nil, .inl rfl⟩ fun _ => .waiting

/-- What a task asks that has its turn. -/
def IsInTurn : ServiceAct → Prop
  | .enterLoad | .leaveLoad => False
  | _ => True

theorem onlyAsks_loadInTurn (l : Loader) : l.loadInTurn.OnlyAsks IsInTurn := by
  have hkeeps : ∀ act : ServiceAct, KeepsCatalog act → IsInTurn act := by
    rintro (_ | _ | _) hact <;> trivial
  have hrules : Job.rules.OnlyAsks IsInTurn := Job.onlyAsks_ask trivial
  have hput : ∀ rules, (Job.putRules rules).OnlyAsks IsInTurn := fun _ => Job.onlyAsks_ask trivial
  have hfetch := (onlyAsks_fetchRules l.tool).mono fun act hact => hkeeps act (ServiceAct.keepsCatalog_of_isFetching hact)
  refine hfetch.outcome.bind fun e => ?_
  rcases e with (live | -) | ⟨rules, version⟩
  · have hback : (l.fallBack live).OnlyAsks IsInTurn := by
      refine (Loader.onlyAsks_fallBack l live).mono ?_
      rintro act rfl
      trivial
    exact hback.bind fun rules => (hput rules).bind fun _ => hrules
  · exact Job.onlyAsks_throw _
  · exact (hput rules).bind fun _ => Loader.keepsCatalog_afterPut.mono hkeeps

/-! ### The steps -/

section Steps

variable {i : ι} {act : ServiceAct} {next : act.Reply → Service (Except Stop (List Rule))} {reply : act.Reply}
  {shared : SharedCatalog}

theorem run_loadRules (l : Loader) :
    l.loadRules.run = .ask .enterLoad fun
      | .ok () => untilLeft l.loadInTurn.run
      | .error stop => .done (.error stop) := by
  unfold Loader.loadRules
  rw [Program.run_stoppable_bind]
  show Program.ask ServiceAct.enterLoad (fun e => Program.done e >>= _) = _
  congr
  funext e
  cases e with
  | ok _ => exact Job.run_ensuring_eq l.loadInTurn .leaveLoad
  | error stop => rfl

/-- A task that waits for its turn gets it, when the turn is free, or stops. -/
theorem Rests.ask {t : LoadTask} (h : Rests l t) (hrest : t.rest = .ask act next) {s s' : SharedCatalog}
    (answers : SharedCatalog.Answers act s reply s') :
    t.events = [] ∧
      ((s.taken = false ∧ s' = ⟨{ s.catalog with isLoading := true }, true⟩ ∧
        LoadTask.mk [⟨act, reply⟩] (next reply) = ⟨[⟨.enterLoad, .ok ()⟩], untilLeft l.loadInTurn.run⟩) ∨
      (s' = s ∧ Rests l ⟨[⟨act, reply⟩], next reply⟩)) := by
  cases h with
  | waiting =>
    rw [run_loadRules] at hrest
    cases hrest
    rcases answers with ⟨rfl, hfree, rfl⟩ | ⟨rfl, rfl⟩
    · exact ⟨rfl, .inl ⟨hfree, rfl, rfl⟩⟩
    · refine ⟨rfl, .inr ⟨rfl, .ended ?_ nofun⟩⟩
      intro hturn
      cases List.mem_singleton.mp hturn.1
  | ended out brings => cases hrest

/-- While a task has its turn, the catalog is what it was before, or holds what the task has fetched. -/
theorem IsFilled.of_reaches {before : SharedCatalog} {events : List ServiceEvent} {q : Service (Except Stop (List Rule))}
    (filled : m.IsFilled l before.catalog) (hevents : (m.tasks i).events = ⟨.enterLoad, .ok ()⟩ :: events)
    (reaches : Reaches SharedCatalog.Answers l.loadInTurn.run before events q shared) : m.IsFilled l shared.catalog := by
  rcases Loader.reaches_loadInTurn reaches with ⟨rfl, -⟩ | ⟨rules, hbrings, hids, rfl, -⟩
  · exact filled
  · exact ⟨rules, rfl, hids, .inr ⟨i, hevents ▸ hbrings⟩⟩

/-- A task does not end its turn while it is in it. -/
theorem taken_of_reaches {before : SharedCatalog} {events : List ServiceEvent} {q : Service (Except Stop (List Rule))}
    (reaches : Reaches SharedCatalog.Answers l.loadInTurn.run before events q shared) :
    shared.taken = before.taken ∧ shared.catalog.isLoading = before.catalog.isLoading := by
  rcases Loader.reaches_loadInTurn reaches with ⟨rfl, -⟩ | ⟨rules, -, -, rfl, -⟩
  · exact ⟨rfl, rfl⟩
  · exact ⟨rfl, rfl⟩

/-- A task whose turn is over rests. -/
theorem rests_of_reaches {before : SharedCatalog} {events : List ServiceEvent} {e : Except Stop (List Rule)}
    (reaches : Reaches SharedCatalog.Answers l.loadInTurn.run before events (.done e) shared) :
    Rests l ⟨⟨.enterLoad, .ok ()⟩ :: events ++ [⟨.leaveLoad, ()⟩], .done e⟩ := by
  refine .ended (fun hturn => hturn.2 (List.mem_append_right _ (List.mem_singleton_self _))) ?_
  rintro rules rfl
  rcases Loader.reaches_loadInTurn reaches with ⟨-, hne⟩ | ⟨rules', hbrings, -, -, hrules⟩
  · exact absurd rfl (hne rules)
  · rw [hrules rules rfl]
    exact hbrings.mono (List.prefix_append _ _)

/-- Whatever a task does next, either no task has its turn then, or one has it. -/
theorem Sound.step [DecidableEq ι] (h : m.Sound l) (hstep : m.Step m') : m'.Sound l := by
  obtain @⟨i, act, next, reply, shared, hrest, answers⟩ := hstep
  cases h with
  | idle free quiet filled rests =>
    obtain ⟨hevents, ⟨-, rfl, htask⟩ | ⟨rfl, hrests⟩⟩ := (rests i).ask hrest answers
    · refine .busy rfl rfl (filled.of_isLoading true).advance (i := i) ?_ (.here _ _) fun j hj => ?_
      · rw [advance_tasks_self, hevents]
        exact htask
      · rw [advance_tasks_of_ne hj]
        exact rests j
    · refine .idle free quiet filled.advance (forall_advance (P := fun _ => Rests l) ?_ fun j _ => rests j)
      rwa [hevents]
  | @busy k before events q taken loading filled task reaches others =>
    by_cases hi : i = k
    · subst hi
      have hfilled := filled.of_reaches (congrArg LoadTask.events task) reaches
      rw [task] at hrest
      cases q with
      | done e =>
        -- The turn is over.
        cases hrest
        obtain rfl := answers
        refine .idle rfl rfl (hfilled.of_isLoading false).advance (forall_advance (P := fun _ => Rests l) ?_ others)
        rw [task]
        exact rests_of_reaches reaches
      | ask act' next' =>
        cases hrest
        refine .busy taken loading filled.advance (i := i) ?_ (reaches.snoc answers) fun j hj => ?_
        · rw [advance_tasks_self, task]
          rfl
        · rw [advance_tasks_of_ne hj]
          exact others j hj
    · obtain ⟨hevents, ⟨hfree, -⟩ | ⟨rfl, hrests⟩⟩ := (others i hi).ask hrest answers
      · rw [(taken_of_reaches reaches).1, taken] at hfree
        cases hfree
      · refine .busy taken loading filled.advance (i := k) ?_ reaches
          (forall_advance (P := fun j t => j ≠ k → Rests l t) ?_ fun j _ => others j)
        · rw [advance_tasks_of_ne (Ne.symm hi)]
          exact task
        · rw [hevents]
          exact fun _ => hrests

end Steps

/-- At any time no task has its turn, or one has it. -/
theorem Reachable.sound [DecidableEq ι] (h : Reachable l m) : m.Sound l := by
  induction h with
  | refl => exact sound_start l
  | tail _ hstep ih => exact ih.step hstep

/-! ### What readers see -/

/-- What readers see of a catalog that tasks load, and what the tasks return. -/
structure Orderly (l : Loader) (m : Loads ι) : Prop where
  oneInTurn : ∀ i j, (m.tasks i).InTurn → (m.tasks j).InTurn → i = j
  isLoading : m.shared.catalog.isLoading = true ↔ ∃ i, (m.tasks i).InTurn
  ids : (m.shared.catalog.rules.map Rule.id).Nodup
  get? : ∀ id, m.shared.catalog.get? id = m.shared.catalog.rules.find? fun r => r.id = id
  groups : Catalog.Groups m.shared.catalog.rules m.shared.catalog.byCategory
  rules : m.shared.catalog.rules = [] ∨ ∃ i, l.Brings (m.tasks i).events m.shared.catalog.rules
  returned : ∀ i rules, (m.tasks i).rest = .done (.ok rules) → l.Brings (m.tasks i).events rules

/-- The tasks that have their turn: none, or just one. -/
theorem Sound.inTurn (h : m.Sound l) :
    (m.shared.catalog.isLoading = false ∧ ∀ j, ¬ (m.tasks j).InTurn) ∨
    (m.shared.catalog.isLoading = true ∧ ∃ i, ∀ j, (m.tasks j).InTurn ↔ j = i) := by
  cases h with
  | idle free quiet filled rests => exact .inl ⟨quiet, fun j => (rests j).not_inTurn⟩
  | @busy i before events q taken loading filled task reaches others =>
    refine .inr ⟨(taken_of_reaches reaches).2.trans loading, i, fun j => ⟨?_, ?_⟩⟩
    · intro hj
      by_contra hne
      exact (others j hne).not_inTurn hj
    · rintro rfl
      rw [task]
      refine ⟨List.mem_cons_self, ?_⟩
      intro hleft
      rcases List.mem_cons.mp hleft with hleft | hleft
      · cases hleft
      · exact (onlyAsks_loadInTurn l).program.of_mem_reaches reaches _ hleft

theorem Sound.isFilled (h : m.Sound l) : m.IsFilled l m.shared.catalog := by
  cases h with
  | idle free quiet filled rests => exact filled
  | busy taken loading filled task reaches others => exact filled.of_reaches (congrArg LoadTask.events task) reaches

/-- A task that returns rules has fetched them itself. -/
theorem Sound.brings {i : ι} {rules : List Rule} (h : m.Sound l) (hrest : (m.tasks i).rest = .done (.ok rules)) :
    l.Brings (m.tasks i).events rules := by
  have hrests : Rests l (m.tasks i) := by
    cases h with
    | idle free quiet filled rests => exact rests i
    | @busy k before events q taken loading filled task reaches others =>
      refine others i ?_
      rintro rfl
      rw [task] at hrest
      cases q <;> cases hrest
  generalize m.tasks i = t at hrest hrests
  cases hrests with
  | waiting =>
    rw [run_loadRules] at hrest
    cases hrest
  | ended out brings =>
    cases hrest
    exact brings rules rfl

/-- Whatever order tasks take turns in and whichever are cancelled, at most one of them has its turn, and readers see
that one has. The catalog has each id once, finds each rule by its id, groups all its rules, and holds what one single
load has fetched, if anything has been loaded. -/
theorem Reachable.orderly [DecidableEq ι] (h : Reachable l m) : m.Orderly l := by
  have hsound := h.sound
  obtain ⟨rules, hcatalog, hids, hfilled⟩ := hsound.isFilled
  have hrules : m.shared.catalog.rules = rules := congrArg Catalog.rules hcatalog
  refine ⟨?_, ?_, hrules ▸ hids, ?_, Catalog.groups_byCategory _, hrules ▸ hfilled, fun i rules => hsound.brings⟩
  · intro i j hi hj
    rcases hsound.inTurn with ⟨-, hnone⟩ | ⟨-, k, hone⟩
    · exact absurd hi (hnone i)
    · rw [(hone i).mp hi, (hone j).mp hj]
  · rcases hsound.inTurn with ⟨hquiet, hnone⟩ | ⟨hloading, k, hone⟩
    · rw [hquiet]
      refine ⟨fun hloading => absurd hloading Bool.false_ne_true, ?_⟩
      rintro ⟨i, hi⟩
      exact absurd hi (hnone i)
    · exact ⟨fun _ => ⟨k, (hone k).mpr rfl⟩, fun _ => hloading⟩
  · intro id
    rw [hrules, hcatalog]
    exact Catalog.get?_catalogOf rules _ id

/-! ### Two tasks -/

/-- A task goes on as far as it can. -/
theorem Reachable.of_reaches [DecidableEq ι] {i : ι} {events : List ServiceEvent} {shared : SharedCatalog}
    {q : Service (Except Stop (List Rule))} (h : Reachable l m)
    (hreaches : Reaches SharedCatalog.Answers (m.tasks i).rest m.shared events q shared) :
    Reachable l ⟨shared, Function.update m.tasks i ⟨(m.tasks i).events ++ events, q⟩⟩ := by
  generalize hp : (m.tasks i).rest = p at hreaches
  generalize hs : m.shared = s at hreaches
  induction hreaches generalizing m with
  | here p s =>
    subst hp hs
    rwa [List.append_nil, Function.update_eq_self]
  | ask answers goesOn ih =>
    subst hs
    have hnext := ih (h.tail (.act hp answers)) (by rw [advance_tasks_self]) rfl
    rw [advance_tasks_self, List.append_assoc] at hnext
    rwa [advance, Function.update_idem] at hnext

/-- A turn that nobody disturbs is one beside other loads. -/
theorem runs_of_undisturbed {α : Type} {p : Service α} {w w' : Workplace} {events : List ServiceEvent} {a : α}
    (hp : p.OnlyAsks IsInTurn) (taken : Bool)
    (h : Program.Runs (Workplace.Answers (Host.Answers true)) p w events a w') :
    Program.Runs SharedCatalog.Answers p ⟨w.catalog, taken⟩ events a ⟨w'.catalog, taken⟩ := by
  induction h with
  | done a w => exact .done a _
  | @ask act next w w₁ w' reply events a answers goesOn ih =>
    refine .ask ?_ (ih (hp.2 _))
    have hact := hp.1
    cases act with
    | enterLoad => cases hact
    | leaveLoad => cases hact
    | errand work =>
      obtain ⟨diskEvents, result, hruns, hreply, hcatalog⟩ := answers
      exact ⟨by rw [hcatalog], .inr ⟨_, _, result, _, hruns, hreply⟩⟩
    | makeScratch label =>
      rcases answers with ⟨path, host, -, -, rfl⟩ | ⟨-, rfl⟩ <;> rfl
    | rules =>
      obtain ⟨rfl, rfl⟩ := answers
      exact ⟨rfl, rfl⟩
    | isDirectory | listRules | version | lint | awaitDetails | send | receive | drain =>
      obtain ⟨-, rfl⟩ := answers
      rfl
    | clock | now | log | report | startDetails | removeTree | putRules =>
      obtain rfl := answers
      rfl

/-- A load gets its turn when that is free. -/
theorem reaches_enterLoad (l : Loader) (c : Catalog) :
    Reaches SharedCatalog.Answers l.loadRules.run ⟨c, false⟩ [⟨.enterLoad, .ok ()⟩] (untilLeft l.loadInTurn.run)
      ⟨{ c with isLoading := true }, true⟩ := by
  rw [run_loadRules]
  exact .ask (.inl ⟨rfl, rfl, rfl⟩) (.here _ _)

/-- A load that nobody disturbs is one that begins when the turn is free. The catalog holds what it returns then. -/
theorem reaches_of_undisturbed {w w' : Workplace} {events : List ServiceEvent} {rules : List Rule}
    (h : Job.Runs (Workplace.Answers (Host.Answers true)) l.loadRules w events (.ok rules) w') :
    Reaches SharedCatalog.Answers l.loadRules.run ⟨w.catalog, false⟩ events (.done (.ok rules)) ⟨w'.catalog, false⟩ ∧
      w'.catalog.rules = rules := by
  unfold Job.Runs at h
  rw [run_loadRules] at h ⊢
  obtain ⟨reply, w₁, events₁, ⟨rfl, rfl⟩, hrest, rfl⟩ := Program.runs_ask_iff.mp h
  obtain ⟨e, w₂, events₂, events₃, hturn, hleave, rfl⟩ := Program.runs_bind_iff.mp hrest
  obtain ⟨reply, w₃, events₄, rfl, hend, rfl⟩ := Program.runs_ask_iff.mp hleave
  obtain ⟨rfl, rfl, rfl⟩ := Program.runs_done_iff.mp hend
  have hreaches := (runs_of_undisturbed (onlyAsks_loadInTurn l).program true hturn).reaches
  constructor
  · refine .ask (.inl ⟨rfl, rfl, rfl⟩) ?_
    exact (hreaches.bind fun e => .ask .leaveLoad fun _ => .done e).snoc rfl
  · rcases Loader.reaches_loadInTurn hreaches with ⟨-, hne⟩ | ⟨rules', -, -, hcatalog, hrules⟩
    · exact absurd rfl (hne rules)
    · rw [hrules rules rfl]
      exact congrArg (fun s : SharedCatalog => s.catalog.rules) hcatalog

/-- Of two tasks one has loaded the one rule of a lint tool, and the other one has just got its turn. -/
theorem Reachable.orderly_oneRule : ∃ m : Loads (Fin 2), Reachable Loader.ofRoot m ∧
    (∃ rules, (m.tasks 0).rest = .done (.ok rules) ∧ m.shared.catalog.rules = rules ∧ rules.length = 1) ∧
    (m.tasks 1).InTurn ∧ m.Orderly Loader.ofRoot := by
  have hchecked := Store.run_loadRules_listingTool
  rw [Bool.and_eq_true] at hchecked
  obtain ⟨hpasses, hrun⟩ := hchecked
  obtain ⟨events, hruns⟩ := Rehearsal.runs_of_passes true hpasses
  split at hrun
  · rename_i rules r heq
    simp only [Bool.and_eq_true, decide_eq_true_eq] at hrun
    rw [heq] at hruns
    obtain ⟨hreaches, hrules⟩ := reaches_of_undisturbed hruns
    have hstart : Reachable Loader.ofRoot (start Loader.ofRoot : Loads (Fin 2)) := .refl
    have hfirst := hstart.of_reaches (i := 0) hreaches
    have hboth := hfirst.of_reaches (i := 1) (reaches_enterLoad Loader.ofRoot r.catalog)
    refine ⟨_, hboth, ⟨rules, rfl, hrules, hrun.1.1⟩, ⟨List.mem_singleton_self _, ?_⟩, Reachable.orderly hboth⟩
    intro hleft
    cases List.mem_singleton.mp hleft
  · cases hrun

end Loads

end LintPreview
