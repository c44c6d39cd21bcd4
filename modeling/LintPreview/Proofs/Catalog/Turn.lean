import LintPreview.Proofs.Catalog.Load
import LintPreview.Proofs.Run.Partway

/-!
# A load on its way

* `SharedCatalog.Answers`: what a load can meet that shares the catalog with others and can be cancelled whenever it
  waits.
* `Loader.Brings`: the rules that a load has fetched, by its events.
* `Loader.reaches_loadInTurn`: in its turn a load leaves the catalog as it is until it puts all rules there that it has
  fetched. If it returns, it returns these.
-/

namespace LintPreview

open Program (World Reaches)

/-- A catalog that is shared by loads, and whether the turn to load it is taken. -/
structure SharedCatalog where
  catalog : Catalog := {}
  taken : Bool := false

/-- The answers to a load that shares the catalog with others. It gets its turn only when the turn is free. The lint tool
replies whatever it likes, an errand is some run of its program, and waiting for any of them can be cancelled. -/
def SharedCatalog.Answers : World ServiceAct ServiceAct.Reply SharedCatalog
  | .enterLoad, s, reply, s' =>
    (reply = .ok () ∧ s.taken = false ∧ s' = ⟨{ s.catalog with isLoading := true }, true⟩) ∨
    (reply = .error .cancelled ∧ s' = s)
  | .leaveLoad, s, _, s' => s' = ⟨{ s.catalog with isLoading := false }, false⟩
  | .putRules rules, s, _, s' => s' = { s with catalog := s.catalog.replace rules }
  | .rules, s, reply, s' => s' = s ∧ reply = s.catalog.rules
  | .errand work, s, reply, s' => s' = s ∧ (reply = .error .cancelled ∨
      ∃ host events result host', Program.Runs (Host.Answers true) work.program host events result host' ∧
        reply = result.mapError .failed)
  | _, s, _, s' => s' = s

/-- The act leaves a shared catalog as it is. -/
def ServiceAct.KeepsCatalog : ServiceAct → Prop
  | .enterLoad | .leaveLoad | .putRules _ => False
  | _ => True

/-- The act asks the lint tool for rules. -/
def ServiceAct.IsFetching : ServiceAct → Prop
  | .listRules | .version | .startDetails _ _ | .awaitDetails => True
  | _ => False

theorem ServiceAct.keepsCatalog_of_isFetching {act : ServiceAct} (h : act.IsFetching) : act.KeepsCatalog := by
  cases act <;> trivial

namespace Job

variable {α : Type} {s s' : SharedCatalog} {events : List ServiceEvent}

theorem OnlyAsks.stays_of_keepsCatalog {job : Job α} (h : job.OnlyAsks ServiceAct.KeepsCatalog) (s : SharedCatalog) :
    job.run.Stays SharedCatalog.Answers (· = s) (fun _ => (· = s)) s := by
  refine h.program.stays ?_ rfl
  rintro act s₁ reply s₂ hact rfl answers
  cases act with
  | enterLoad => cases hact
  | leaveLoad => cases hact
  | putRules rules => cases hact
  | rules => exact answers.1
  | errand work => exact answers.1
  | _ => exact answers

end Job

/-! ### Jobs that leave the catalog as it is -/

open Job (OnlyAsks)
open ServiceAct (KeepsCatalog IsFetching)

theorem onlyAsks_detailed (r : Rule) (answer : Except Failure Text) : (detailed r answer).OnlyAsks IsFetching := by
  cases answer with
  | ok output => exact Job.onlyAsks_pure _
  | error f =>
    by_cases hf : f.isOfTool = true
    · rw [detailed, if_pos hf]
      exact (Job.onlyAsks_announce _).bind fun _ => Job.onlyAsks_pure r
    · rw [detailed, if_neg hf]
      exact Job.onlyAsks_fail f

theorem onlyAsks_fetchDetailsFrom (capacity fuel : ℕ) (waiting inFlight : List PlacedRule) (rules : List Rule) :
    (fetchDetailsFrom capacity fuel waiting inFlight rules).OnlyAsks IsFetching := by
  induction fuel generalizing waiting inFlight rules with
  | zero => exact Job.onlyAsks_pure rules
  | succ fuel ih =>
    unfold fetchDetailsFrom
    split
    · exact (Job.onlyAsks_ask trivial).bind fun _ => ih _ _ _
    · split
      · exact Job.onlyAsks_pure rules
      · refine OnlyAsks.bind ⟨trivial, fun _ => trivial⟩ fun reply => ?_
        obtain ⟨place, answer⟩ := reply
        dsimp only
        split
        · exact Job.onlyAsks_pure rules
        · exact (onlyAsks_detailed _ _).bind fun _ => ih _ _ _

theorem onlyAsks_fetchVersion : fetchVersion.OnlyAsks IsFetching := by
  refine OnlyAsks.bind (OnlyAsks.outcome ⟨trivial, fun _ => trivial⟩) fun e => ?_
  rcases e with (f | -) | text
  · dsimp only
    split
    · exact (Job.onlyAsks_announce _).bind fun _ => Job.onlyAsks_pure none
    · exact Job.onlyAsks_fail f
  · exact Job.onlyAsks_throw _
  · exact Job.onlyAsks_pure _

theorem onlyAsks_fetchRules (tool : ToolSettings) : (fetchRules tool).OnlyAsks IsFetching := by
  refine OnlyAsks.bind ⟨trivial, fun _ => trivial⟩ fun output => ?_
  refine (Job.onlyAsks_ofResult _).bind fun rules => ?_
  refine (onlyAsks_fetchDetailsFrom _ _ _ _ _).bind fun rules => ?_
  exact onlyAsks_fetchVersion.bind fun version => Job.onlyAsks_pure _

theorem onlyAsks_errand (work : Errand) : (Job.errand work).OnlyAsks (· = .errand work) := ⟨rfl, fun _ => trivial⟩

theorem onlyAsks_rules : Job.rules.OnlyAsks (· = .rules) := Job.onlyAsks_ask rfl

theorem onlyAsks_keepSnapshot (store : Store) (rules : List Rule) (version : Option Text) :
    (keepSnapshot store rules version).OnlyAsks (· = .errand (.saveRules store rules version)) := by
  refine (onlyAsks_errand _).outcome.bind fun e => ?_
  rcases e with (f | -) | snapshot
  · exact Job.onlyAsks_announce _
  · exact Job.onlyAsks_throw _
  · exact Job.onlyAsks_pure _

namespace Loader

variable {l : Loader} {s s' : SharedCatalog} {events events' : List ServiceEvent} {rules : List Rule}

theorem onlyAsks_fallBack (l : Loader) (live : Failure) :
    (l.fallBack live).OnlyAsks (· = .errand (.loadRules l.store)) := by
  refine (Job.onlyAsks_announce _).bind fun _ => ?_
  split
  · exact Job.onlyAsks_fail _
  · refine (onlyAsks_errand _).outcome.bind fun e => ?_
    rcases e with (f | -) | rules
    · exact (Job.onlyAsks_announce _).bind fun _ => Job.onlyAsks_fail _
    · exact Job.onlyAsks_throw _
    · exact Job.onlyAsks_pure _

/-- What follows when the rules of the lint tool are in the catalog. -/
theorem onlyAsks_afterPut (l : Loader) (rules : List Rule) (version : Option Text) :
    OnlyAsks (fun act => act = .errand (.saveRules l.store rules version) ∨ act = .rules) (do
      Job.announce (.loaded rules.length version)
      if l.useCache then keepSnapshot l.store rules version
      Job.rules) := by
  have hrules : Job.rules.OnlyAsks (fun act => act = .errand (.saveRules l.store rules version) ∨ act = .rules) :=
    onlyAsks_rules.mono fun _ => .inr
  refine (Job.onlyAsks_announce _).bind fun _ => ?_
  split
  · exact ((onlyAsks_keepSnapshot _ _ _).mono fun _ => .inl).bind fun _ => hrules
  · exact OnlyAsks.bind (Job.onlyAsks_pure ()) fun _ => hrules

theorem keepsCatalog_afterPut {version : Option Text} :
    OnlyAsks KeepsCatalog (do
      Job.announce (.loaded rules.length version)
      if l.useCache then keepSnapshot l.store rules version
      Job.rules) := by
  refine (onlyAsks_afterPut l rules version).mono ?_
  rintro act (rfl | rfl) <;> trivial

/-! ### What a load brings -/

/-- The rules that a load has fetched, by its events: those that the lint tool gave after the load got its turn, or, when
it gave none, those of the last snapshot. -/
inductive Brings (l : Loader) (events : List ServiceEvent) (rules : List Rule) : Prop where
  | fetched {toolEvents : List ServiceEvent} {version : Option Text} {s : SharedCatalog}
      (start : ⟨.enterLoad, .ok ()⟩ :: toolEvents <+: events)
      (fetch : Job.Runs SharedCatalog.Answers (fetchRules l.tool) s toolEvents (.ok (rules, version)) s)
  | recalled {toolEvents : List ServiceEvent} {live : Failure} {s : SharedCatalog}
      (start : ⟨.enterLoad, .ok ()⟩ :: toolEvents <+: events)
      (fetch : Job.Runs SharedCatalog.Answers (fetchRules l.tool) s toolEvents (.error (.failed live)) s)
      (errand : ⟨.errand (.loadRules l.store), .ok rules⟩ ∈ events)

theorem Brings.mono (h : l.Brings events rules) (hevents : events <+: events') : l.Brings events' rules := by
  cases h with
  | fetched start fetch => exact .fetched (start.trans hevents) fetch
  | recalled start fetch errand => exact .recalled (start.trans hevents) fetch (hevents.subset errand)

/-- Falling back brings the rules of the last snapshot, if it brings any. -/
theorem recalled_of_fallBack {live : Failure}
    (h : Job.Runs SharedCatalog.Answers (l.fallBack live) s events (.ok rules) s') :
    ⟨.errand (.loadRules l.store), .ok rules⟩ ∈ events ∧ (rules.map Rule.id).Nodup := by
  rcases Job.runs_announce_bind_iff.mp h with ⟨-, h⟩ | ⟨run, -, -, he, -⟩
  · split at h
    · obtain ⟨-, he, -⟩ := Job.runs_fail_iff.mp h
      cases he
    · obtain ⟨e, s₁, events₁, events₂, herrand, hrest, rfl⟩ := Job.runs_outcome_bind_iff.mp h
      obtain ⟨reply, s₂, events₃, answers, hdone, rfl⟩ := Program.runs_ask_iff.mp herrand
      obtain ⟨rfl, rfl, rfl⟩ := Program.runs_done_iff.mp hdone
      rcases e with (f | -) | rules'
      · rcases Job.runs_announce_bind_iff.mp hrest with ⟨-, hfail⟩ | ⟨run, -, -, he, -⟩
        · obtain ⟨-, he, -⟩ := Job.runs_fail_iff.mp hfail
          cases he
        · cases he
      · obtain ⟨-, he, -⟩ := Program.runs_done_iff.mp hrest
        cases he
      · obtain ⟨-, he, -⟩ := Job.runs_pure_iff.mp hrest
        cases he
        refine ⟨List.mem_cons_self, ?_⟩
        rcases answers.2 with hcancelled | ⟨host, diskEvents, result, host', hload, hresult⟩
        · cases hcancelled
        · cases result with
          | ok rules' =>
            cases hresult
            exact Store.ids_nodup_of_load hload
          | error f => cases hresult
  · cases he

/-- What is left of a load when rules go to the catalog: nothing else changes there, and the rules that are returned at
the end are those in the catalog. -/
theorem reaches_put {job : Job (List Rule)} {q : Program ServiceAct ServiceAct.Reply (Except Stop (List Rule))}
    (hjob : job.OnlyAsks KeepsCatalog)
    (hend : ∀ s events rules' s', Job.Runs SharedCatalog.Answers job s events (.ok rules') s' → rules' = s'.catalog.rules)
    (h : Reaches SharedCatalog.Answers (Job.putRules rules >>= fun _ => job).run s events q s') :
    (s' = s ∧ ∀ e, q ≠ .done e) ∨
    (s' = { s with catalog := s.catalog.replace rules } ∧ ∀ rules', q = .done (.ok rules') → rules' = s'.catalog.rules) := by
  rcases Job.reaches_bind h with ⟨act, next, next', hput, rfl⟩ | ⟨_, s₁, events₁, events₂, hput, hreaches, rfl⟩ | ⟨stop, hput, -⟩
  · cases hput with
    | here => exact .inl ⟨rfl, nofun⟩
    | ask answers goesOn => cases goesOn
  · obtain ⟨_, s₂, events₃, hs₂, hdone, -⟩ := Program.runs_ask_iff.mp hput
    obtain ⟨-, -, rfl⟩ := Program.runs_done_iff.mp hdone
    have hs' := (hjob.stays_of_keepsCatalog _).of_reaches hreaches
    refine .inr ⟨hs'.trans hs₂, ?_⟩
    rintro rules' rfl
    exact hend _ _ _ _ hreaches.runs
  · obtain ⟨_, s₂, events₃, -, hdone, -⟩ := Program.runs_ask_iff.mp hput
    obtain ⟨-, he, -⟩ := Program.runs_done_iff.mp hdone
    cases he

theorem eq_of_runs_rules {rules' : List Rule} (h : Job.Runs SharedCatalog.Answers Job.rules s events (.ok rules') s') :
    rules' = s'.catalog.rules := by
  obtain ⟨reply, s₁, events₁, ⟨rfl, rfl⟩, hdone, -⟩ := Program.runs_ask_iff.mp h
  obtain ⟨-, he, rfl⟩ := Program.runs_done_iff.mp hdone
  cases he
  rfl

theorem eq_of_runs_afterPut {version : Option Text} {rules' : List Rule}
    (h : Job.Runs SharedCatalog.Answers (do
      Job.announce (.loaded rules.length version)
      if l.useCache then keepSnapshot l.store rules version
      Job.rules) s events (.ok rules') s') : rules' = s'.catalog.rules := by
  rcases Job.runs_bind_iff.mp h with ⟨_, s₁, events₁, events₂, -, h, -⟩ | ⟨stop, -, he⟩
  · split at h
    · rcases Job.runs_bind_iff.mp h with ⟨_, s₂, events₃, events₄, -, h, -⟩ | ⟨stop, -, he⟩
      · exact eq_of_runs_rules h
      · cases he
    · exact eq_of_runs_rules h
  · cases he

/-- Until it puts the rules into the catalog that it has fetched, a load in its turn leaves the catalog as it is. If it
returns, it returns these rules. -/
theorem reaches_loadInTurn {q : Program ServiceAct ServiceAct.Reply (Except Stop (List Rule))}
    (h : Reaches SharedCatalog.Answers l.loadInTurn.run s events q s') :
    (s' = s ∧ ∀ rules, q ≠ .done (.ok rules)) ∨
    ∃ rules, l.Brings (⟨.enterLoad, .ok ()⟩ :: events) rules ∧ (rules.map Rule.id).Nodup ∧
      s' = { s with catalog := { catalogOf rules with isLoading := s.catalog.isLoading } } ∧
      ∀ rules', q = .done (.ok rules') → rules' = rules := by
  -- Putting rules with different ids makes them the catalog.
  have hput : ∀ {rules : List Rule} {s' : SharedCatalog} {q : Program ServiceAct ServiceAct.Reply (Except Stop (List Rule))},
      l.Brings (⟨.enterLoad, .ok ()⟩ :: events) rules → (rules.map Rule.id).Nodup →
      (s' = s ∧ ∀ e, q ≠ .done e) ∨ (s' = { s with catalog := s.catalog.replace rules } ∧
        ∀ rules', q = .done (.ok rules') → rules' = s'.catalog.rules) →
      (s' = s ∧ ∀ rules, q ≠ .done (.ok rules)) ∨
      ∃ rules, l.Brings (⟨.enterLoad, .ok ()⟩ :: events) rules ∧ (rules.map Rule.id).Nodup ∧
        s' = { s with catalog := { catalogOf rules with isLoading := s.catalog.isLoading } } ∧
        ∀ rules', q = .done (.ok rules') → rules' = rules := by
    rintro rules s' q hbrings hids (⟨rfl, hne⟩ | ⟨rfl, hend⟩)
    · exact .inl ⟨rfl, fun rules => hne _⟩
    · rw [replace_eq_catalogOf hids] at hend ⊢
      exact .inr ⟨rules, hbrings, hids, rfl, hend⟩
  have hfetching := ((onlyAsks_fetchRules l.tool).mono fun _ => ServiceAct.keepsCatalog_of_isFetching).stays_of_keepsCatalog s
  rcases Job.reaches_outcome_bind h with ⟨act, next, next', hfetch, rfl⟩ | ⟨e, s₁, events₁, events₂, hfetch, hrest, rfl⟩
  · exact .inl ⟨hfetching.of_reaches hfetch, nofun⟩
  · obtain rfl : s₁ = s := hfetching.of_runs hfetch
    rcases e with (live | -) | ⟨rules, version⟩
    · have hkeeps : ∀ act : ServiceAct, act = .errand (.loadRules l.store) → act.KeepsCatalog := by
        rintro act rfl
        trivial
      have hbacking := ((onlyAsks_fallBack l live).mono hkeeps).stays_of_keepsCatalog s₁
      rcases Job.reaches_bind hrest with ⟨act, next, next', hback, rfl⟩ | ⟨rules, s₂, events₃, events₄, hback, hputs, rfl⟩ |
        ⟨stop, hback, rfl⟩
      · exact .inl ⟨hbacking.of_reaches hback, nofun⟩
      · obtain rfl : s₂ = s₁ := hbacking.of_runs hback
        obtain ⟨hmem, hids⟩ := recalled_of_fallBack hback
        have hstart : ⟨.enterLoad, .ok ()⟩ :: events₁ <+: ⟨.enterLoad, .ok ()⟩ :: (events₁ ++ (events₃ ++ events₄)) :=
          List.prefix_append (⟨.enterLoad, .ok ()⟩ :: events₁) (events₃ ++ events₄)
        refine hput (.recalled hstart hfetch ?_) hids (reaches_put ?_ (fun _ _ _ _ => eq_of_runs_rules) hputs)
        · exact List.mem_cons_of_mem _ (List.mem_append_right _ (List.mem_append_left _ hmem))
        · refine onlyAsks_rules.mono ?_
          rintro act rfl
          trivial
      · exact .inl ⟨hbacking.of_runs hback, nofun⟩
    · cases hrest
      exact .inl ⟨rfl, nofun⟩
    · refine hput (.fetched ?_ hfetch) (ids_nodup_of_fetchRules hfetch)
        (reaches_put keepsCatalog_afterPut (fun _ _ _ _ => eq_of_runs_afterPut) hrest)
      exact List.prefix_append (⟨.enterLoad, .ok ()⟩ :: events₁) events₂

end Loader

end LintPreview
