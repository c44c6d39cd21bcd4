import LintPreview.Proofs.Catalog.Fetch
import LintPreview.Proofs.Catalog.Store
import LintPreview.Rehearsal

/-!
# How a load of the catalog ends

* `announcing`: an end behind notices. A notice that cannot be shown takes the place of the end.
* `Loader.Fetches`, `Loader.Keeps`, `Loader.Recalls`: how asking the lint tool, writing the snapshot and reading the
  last one can end. The events of a load tell how the first two did end (`Loader.Fetches.unique`,
  `Loader.Keeps.unique`).
* `Loader.LoadEnds`: how a load can end, in four cases, with its errands and the catalog and the files behind it.
* `Loader.runs_loadRules`: every load ends in one of them. The fourth one, where a failure cannot be shown, does occur
  (`Loader.run_loadRules_unshownTool`).
-/

namespace LintPreview

open Program (World)

/-! ### Notices -/

/-- An end behind notices: the first notice that cannot be shown takes its place. -/
def announcing {α : Type} (notices : List Notice) (e : Except Stop α) : Except Stop α :=
  match notices.findSome? Notice.lost? with
  | some run => .error (.failed (.unencodable run.message))
  | none => e

section

variable {α β σ : Type} {w : World ServiceAct ServiceAct.Reply σ} {s s' : σ} {events : List ServiceEvent}

theorem announcing_cons_of_shown {n : Notice} (h : n.lost? = none) (notices : List Notice) (e : Except Stop α) :
    announcing (n :: notices) e = announcing notices e := by
  simp [announcing, h]

theorem announcing_of_shown {notices : List Notice} (h : ∀ n ∈ notices, n.lost? = none) (e : Except Stop α) :
    announcing notices e = e := by
  rw [announcing, List.findSome?_eq_none_iff.mpr h]

/-- Notices that let one end through let every end through. -/
theorem announcing_of_ok {notices : List Notice} {a b : α} (h : announcing notices (.ok a) = .ok b)
    (e : Except Stop β) : announcing notices e = e := by
  unfold announcing at h ⊢
  cases hn : notices.findSome? Notice.lost? with
  | none => rfl
  | some run =>
    rw [hn] at h
    cases h

/-- Notices that stop one end that is no failure stop every end, and in the same way. -/
theorem announcing_of_error {notices : List Notice} {a : α} {stop : Stop}
    (h : announcing notices (.ok a) = .error stop) (e : Except Stop β) : announcing notices e = .error stop := by
  unfold announcing at h ⊢
  cases hn : notices.findSome? Notice.lost? with
  | none =>
    rw [hn] at h
    cases h
  | some run =>
    rw [hn] at h
    cases h
    rfl

theorem Job.runs_announce_iff {n : Notice} {e : Except Stop Unit} :
    Job.Runs w (Job.announce n) s events e s' ↔ events = [] ∧ e = announcing [n] (.ok ()) ∧ s' = s := by
  unfold Job.announce announcing
  cases hn : n.lost? with
  | none => simpa [hn] using Job.runs_pure_iff
  | some run => simpa [hn] using Job.runs_fail_iff

theorem Job.runs_announce_bind_iff {n : Notice} {f : Unit → Job α} {e : Except Stop α} :
    Job.Runs w (Job.announce n >>= f) s events e s' ↔
      (n.lost? = none ∧ Job.Runs w (f ()) s events e s') ∨
      (∃ run, n.lost? = some run ∧ events = [] ∧ e = .error (.failed (.unencodable run.message)) ∧ s' = s) := by
  unfold Job.announce
  cases n.lost? with
  | none =>
    rw [Job.runs_bind_iff]
    constructor
    · rintro (⟨_, s₁, events₁, events₂, h₁, h₂, rfl⟩ | ⟨stop, h, -⟩)
      · obtain ⟨rfl, -, rfl⟩ := Job.runs_pure_iff.mp h₁
        exact .inl ⟨rfl, h₂⟩
      · obtain ⟨-, he, -⟩ := Job.runs_pure_iff.mp h
        cases he
    · rintro (⟨-, h⟩ | ⟨run, hrun, -⟩)
      · exact .inl ⟨(), s, [], events, Job.runs_pure_iff.mpr ⟨rfl, rfl, rfl⟩, h, rfl⟩
      · cases hrun
  | some run =>
    rw [Job.runs_bind_iff]
    constructor
    · rintro (⟨_, s₁, events₁, events₂, h₁, -, rfl⟩ | ⟨stop, h, rfl⟩)
      · obtain ⟨-, he, -⟩ := Job.runs_fail_iff.mp h₁
        cases he
      · obtain ⟨rfl, he, rfl⟩ := Job.runs_fail_iff.mp h
        cases he
        exact .inr ⟨run, rfl, rfl, rfl, rfl⟩
    · rintro (⟨hnone, -⟩ | ⟨run', hrun, rfl, rfl, rfl⟩)
      · cases hnone
      · cases hrun
        exact .inr ⟨_, Job.runs_fail_iff.mpr ⟨rfl, rfl, rfl⟩, rfl⟩

end

/-! ### The parts of a load -/

namespace Loader

/-- The errands among events. -/
def errandsOf (events : List ServiceEvent) : List ServiceEvent := events.filter fun event => event.1 matches .errand _

/-- When the turn of a load has come, its first events are those of asking the lint tool, which ends with `live` and
leaves the workplace as it is. -/
def Fetches (l : Loader) (flaky : Bool) (p : Workplace) (events : List ServiceEvent)
    (live : Except Failure (List Rule × Option Text)) : Prop :=
  ∃ toolEvents, ⟨.enterLoad, .ok ()⟩ :: toolEvents <+: events ∧
    Job.Runs (Workplace.Answers (Host.Answers flaky)) (fetchRules l.tool) (p.loading true) toolEvents
      (live.mapError .failed) (p.loading true)

/-- Reading the last snapshot can end with `cached`. -/
def Recalls (l : Loader) (flaky : Bool) (host : Host) (cached : Except Failure (List Rule)) : Prop :=
  ∃ events host', Program.Runs (Host.Answers flaky) l.store.load host events cached host'

/-- Keeping rules can change the machine from `host` to `host'`, by an errand or by none. Without a cache nothing is
written, nor if it cannot be shown that the rules have come; otherwise a snapshot is, as far as that succeeds. -/
inductive Keeps (l : Loader) (flaky : Bool) (rules : List Rule) (version : Option Text) (host host' : Host) :
    Option (Except Failure Snapshot) → List ServiceEvent → Prop where
  | untried (why : l.useCache = false ∨ (Notice.loaded rules.length version).lost? ≠ none) (unchanged : host' = host) :
      Keeps l flaky rules version host host' none []
  | tried {saved : Except Failure Snapshot} {events : List DiskEvent} (on : l.useCache = true)
      (saves : Program.Runs (Host.Answers flaky) (l.store.save rules version) host events saved host') :
      Keeps l flaky rules version host host' (some saved)
        [⟨.errand (.saveRules l.store rules version), saved.mapError .failed⟩]

/-- What is announced after a snapshot has been written, or has not. -/
def savedNotices (store : Store) : Except Failure Snapshot → List Notice
  | .ok _ => []
  | .error f => [.snapshotFailed store.file.toString f.message]

/-- What is announced after rules have come from the lint tool. -/
def keptNotices (l : Loader) (rules : List Rule) (version : Option Text) (kept : Option (Except Failure Snapshot)) :
    List Notice :=
  .loaded rules.length version :: kept.elim [] (savedNotices l.store)

/-- The failures of the sources that are tried, in order, with the errands for it: the lint tool's failure, and with a
cache that of the snapshot. -/
inductive Tries (l : Loader) (flaky : Bool) (host : Host) (live : Failure) :
    List (Text × Failure) → List ServiceEvent → Prop where
  | live (off : l.useCache = false) : Tries l flaky host live [("live", live)] []
  | both {cache : Failure} (on : l.useCache = true) (cached : l.Recalls flaky host (.error cache)) :
      Tries l flaky host live [("live", live), ("cache", cache)]
        [⟨.errand (.loadRules l.store), .error (.failed cache)⟩]

/-- What is announced when sources fail. -/
def failureNotices (failures : List (Text × Failure)) : List Notice :=
  failures.map fun f => .sourceFailed f.1 f.2.message

/-- A catalog of rules that have different ids, when no load is going on. -/
def catalogOf (rules : List Rule) : Catalog := ⟨rules, rules.map fun r => (r.id, r), false⟩

/-- How a load at the workplace `p` can end after `events`: how asking the lint tool ended, what became of the snapshot
if one was to be written, the end of the load, and the workplace behind it. -/
inductive LoadEnds (l : Loader) (flaky : Bool) (p : Workplace) (events : List ServiceEvent) :
    Except Failure (List Rule × Option Text) → Option (Except Failure Snapshot) → Except Stop (List Rule) →
    Workplace → Prop where
  /-- The lint tool gives rules. They are the catalog and the result, whatever becomes of the snapshot. Writing it is
  the only errand, so the last snapshot is not read. -/
  | fetched {rules : List Rule} {version : Option Text} {kept : Option (Except Failure Snapshot)} {p' : Workplace}
      (fetches : l.Fetches flaky p events (.ok (rules, version)))
      (keeps : l.Keeps flaky rules version p.host p'.host kept (errandsOf events))
      (catalog : p'.catalog = catalogOf rules) :
      LoadEnds l flaky p events (.ok (rules, version)) kept (announcing (l.keptNotices rules version kept) (.ok rules)) p'
  /-- The lint tool fails, and the last snapshot can be read: its rules are the catalog and the result. Reading it is
  the only errand, so nothing is written. -/
  | recalled {live : Failure} {rules : List Rule} {p' : Workplace}
      (fetches : l.Fetches flaky p events (.error live))
      (shown : ∀ n ∈ failureNotices [("live", live)], n.lost? = none)
      (on : l.useCache = true) (cached : l.Recalls flaky p.host (.ok rules))
      (errand : errandsOf events = [⟨.errand (.loadRules l.store), .ok rules⟩])
      (catalog : p'.catalog = catalogOf rules) (files : p'.host.files = p.host.files) :
      LoadEnds l flaky p events (.error live) none (.ok rules) p'
  /-- Every source that is tried fails: the failures are those of the sources in the order of the trials, and catalog
  and files are as before. -/
  | unavailable {live : Failure} {failures : List (Text × Failure)} {p' : Workplace}
      (fetches : l.Fetches flaky p events (.error live))
      (tried : l.Tries flaky p.host live failures (errandsOf events))
      (shown : ∀ n ∈ failureNotices failures, n.lost? = none)
      (catalog : p'.catalog = { p.catalog with isLoading := false }) (files : p'.host.files = p.host.files) :
      LoadEnds l flaky p events (.error live) none (.error (.failed (.catalogUnavailable failures))) p'
  /-- The failure of a source cannot be shown, and this is what the load fails for. -/
  | unannounced {live : Failure} {run : Text.LoneHalves} {p' : Workplace}
      (fetches : l.Fetches flaky p events (.error live))
      (lost : errandsOf events = [] ∧ (Notice.sourceFailed "live" live.message).lost? = some run ∨
        (Notice.sourceFailed "live" live.message).lost? = none ∧
          ∃ cache, l.useCache = true ∧ l.Recalls flaky p.host (.error cache) ∧
            errandsOf events = [⟨.errand (.loadRules l.store), .error (.failed cache)⟩] ∧
            (Notice.sourceFailed "cache" cache.message).lost? = some run)
      (catalog : p'.catalog = { p.catalog with isLoading := false }) (files : p'.host.files = p.host.files) :
      LoadEnds l flaky p events (.error live) none (.error (.failed (.unencodable run.message))) p'

/-- The events of a load decide how asking the lint tool ends in it. -/
theorem Fetches.unique {l : Loader} {flaky : Bool} {p : Workplace} {events : List ServiceEvent}
    {live live' : Except Failure (List Rule × Option Text)} (h : l.Fetches flaky p events live)
    (h' : l.Fetches flaky p events live') : live = live' := by
  obtain ⟨toolEvents, ⟨rest, hrest⟩, hfetch⟩ := h
  obtain ⟨toolEvents', ⟨rest', hrest'⟩, hfetch'⟩ := h'
  have heq : toolEvents ++ rest = toolEvents' ++ rest' := (List.cons.inj (hrest.trans hrest'.symm)).2
  have hend := (hfetch.end_unique hfetch' heq).1
  cases live with
  | ok fetched => cases live' <;> cases hend; rfl
  | error f => cases live' <;> cases hend; rfl

/-- The errands of a load decide what becomes of the snapshot. -/
theorem Keeps.unique {l : Loader} {flaky : Bool} {rules rules' : List Rule} {version version' : Option Text}
    {host host₁ host₂ : Host} {kept kept' : Option (Except Failure Snapshot)} {errands : List ServiceEvent}
    (h : l.Keeps flaky rules version host host₁ kept errands)
    (h' : l.Keeps flaky rules' version' host host₂ kept' errands) : kept = kept' := by
  cases h with
  | untried why unchanged => cases h'; rfl
  | @tried saved events on saves =>
    generalize herrands : [(⟨.errand (.saveRules l.store rules version), saved.mapError .failed⟩ : ServiceEvent)] =
      errands at h'
    cases h' with
    | untried why unchanged => cases herrands
    | @tried saved' events' on' saves' =>
      cases saved <;> cases saved' <;> cases herrands <;> rfl

/-! ### The load -/

variable {l : Loader} {flaky : Bool} {p p' : Workplace} {events : List ServiceEvent}

/-- A load waits for its turn, and ends it however the load itself ends. -/
theorem runs_loadRules_iff {e : Except Stop (List Rule)} :
    Job.Runs (Workplace.Answers (Host.Answers flaky)) l.loadRules p events e p' ↔
      ∃ events' p₁, Job.Runs (Workplace.Answers (Host.Answers flaky)) l.loadInTurn (p.loading true) events' e p₁ ∧
        events = ⟨.enterLoad, .ok ()⟩ :: (events' ++ [⟨.leaveLoad, ()⟩]) ∧ p' = p₁.loading false := by
  constructor
  · intro h
    obtain ⟨reply, p₁, events₁, ⟨rfl, rfl⟩, hrest, rfl⟩ := Program.runs_ask_iff.mp h
    obtain ⟨e', p₂, events₂, events₃, hturn, hleave, rfl⟩ := Job.runs_outcome_bind_iff.mp hrest
    obtain ⟨_, p₃, events₄, rfl, hend, rfl⟩ := (Job.runs_ask_bind_iff .leaveLoad _).mp hleave
    obtain ⟨rfl, rfl, rfl⟩ := Job.runs_ofEnd_iff.mp hend
    exact ⟨events₂, p₂, hturn, rfl, rfl⟩
  · rintro ⟨events', p₁, hturn, rfl, rfl⟩
    refine .ask ⟨rfl, rfl⟩ ?_
    refine Job.runs_outcome_bind_iff.mpr ⟨e, p₁, events', [⟨.leaveLoad, ()⟩], hturn, ?_, rfl⟩
    exact (Job.runs_ask_bind_iff .leaveLoad _).mpr ⟨(), _, [], rfl, .done e _, rfl⟩

/-- The rules of an errand for the last snapshot, or why there are none. -/
theorem runs_errand_outcome_bind {α : Type} {work : Errand} {f : Except Stop work.Result → Job α} {e : Except Stop α}
    (h : Job.Runs (Workplace.Answers (Host.Answers flaky)) ((Job.errand work).outcome >>= f) p events e p') :
    ∃ diskEvents result host events', Program.Runs (Host.Answers flaky) work.program p.host diskEvents result host ∧
      Job.Runs (Workplace.Answers (Host.Answers flaky)) (f (result.mapError .failed)) { p with host } events' e p' ∧
      events = ⟨.errand work, result.mapError .failed⟩ :: events' := by
  obtain ⟨end₁, p₁, events₁, events₂, hask, hrest, rfl⟩ := Job.runs_outcome_bind_iff.mp h
  obtain ⟨reply, p₂, events₃, ⟨diskEvents, result, hwork, rfl, hcatalog⟩, hdone, rfl⟩ := Program.runs_ask_iff.mp hask
  obtain ⟨rfl, rfl, rfl⟩ := Program.runs_done_iff.mp hdone
  refine ⟨diskEvents, result, p₁.host, events₂, hwork, ?_, rfl⟩
  rw [← hcatalog]
  exact hrest

theorem runs_rules_iff {e : Except Stop (List Rule)} :
    Job.Runs (Workplace.Answers (Host.Answers flaky)) Job.rules p events e p' ↔
      events = [⟨.rules, p.catalog.rules⟩] ∧ e = .ok p.catalog.rules ∧ p' = p := by
  constructor
  · intro h
    obtain ⟨reply, p₁, events', ⟨rfl, rfl⟩, hdone, rfl⟩ := Program.runs_ask_iff.mp h
    obtain ⟨rfl, rfl, rfl⟩ := Program.runs_done_iff.mp hdone
    exact ⟨rfl, rfl, rfl⟩
  · rintro ⟨rfl, rfl, rfl⟩
    exact .ask ⟨rfl, rfl⟩ (.done _ _)

/-- A failure to write the snapshot is only announced. -/
theorem runs_keepSnapshot {rules : List Rule} {version : Option Text} {e : Except Stop Unit}
    (h : Job.Runs (Workplace.Answers (Host.Answers flaky)) (keepSnapshot l.store rules version) p events e p') :
    ∃ diskEvents saved, Program.Runs (Host.Answers flaky) (l.store.save rules version) p.host diskEvents saved p'.host ∧
      e = announcing (savedNotices l.store saved) (.ok ()) ∧ p'.catalog = p.catalog ∧
      events = [⟨.errand (.saveRules l.store rules version), saved.mapError .failed⟩] := by
  obtain ⟨diskEvents, saved, host, events', hsave, hrest, rfl⟩ := runs_errand_outcome_bind h
  refine ⟨diskEvents, saved, ?_⟩
  cases saved with
  | ok snapshot =>
    obtain ⟨rfl, rfl, rfl⟩ := Job.runs_pure_iff.mp hrest
    exact ⟨hsave, rfl, rfl, rfl⟩
  | error f =>
    obtain ⟨rfl, rfl, rfl⟩ := Job.runs_announce_iff.mp hrest
    exact ⟨hsave, rfl, rfl, rfl⟩

theorem replace_eq_catalogOf {c : Catalog} {rules : List Rule} (h : (rules.map Rule.id).Nodup) :
    c.replace rules = { catalogOf rules with isLoading := c.isLoading } := by
  have hindex : Catalog.indexOf rules = rules.map fun r => (r.id, r) := by
    rw [Catalog.indexOf, dropRepeatedIds_of_nodup h]
  simp [Catalog.replace, catalogOf, hindex, Function.comp_def]

/-- What follows when the lint tool has given rules. -/
theorem runs_install {rules : List Rule} {version : Option Text} {e : Except Stop (List Rule)}
    (hids : (rules.map Rule.id).Nodup)
    (h : Job.Runs (Workplace.Answers (Host.Answers flaky))
      (do
        Job.putRules rules
        Job.announce (.loaded rules.length version)
        if l.useCache then keepSnapshot l.store rules version
        Job.rules) p events e p') :
    ∃ kept, l.Keeps flaky rules version p.host p'.host kept (errandsOf events) ∧
      e = announcing (l.keptNotices rules version kept) (.ok rules) ∧
      p'.catalog = { catalogOf rules with isLoading := p.catalog.isLoading } := by
  obtain ⟨_, p₁, events₁, hput, h₁, rfl⟩ := (Job.runs_ask_bind_iff (.putRules rules) _).mp h
  have hp₁ : p₁ = { p with catalog := { catalogOf rules with isLoading := p.catalog.isLoading } } := by
    rw [← replace_eq_catalogOf hids]
    exact hput
  subst hp₁
  rcases Job.runs_announce_bind_iff.mp h₁ with ⟨hshown, h₂⟩ | ⟨run, hrun, rfl, rfl, rfl⟩
  · cases hcache : l.useCache with
    | false =>
      simp only [hcache] at h₂
      obtain ⟨rfl, rfl, rfl⟩ := runs_rules_iff.mp h₂
      refine ⟨none, .untried (.inl hcache) rfl, ?_, rfl⟩
      rw [keptNotices, announcing_cons_of_shown hshown]
      rfl
    | true =>
      simp only [hcache] at h₂
      rcases Job.runs_bind_iff.mp h₂ with ⟨_, p₂, events₂, events₃, hkeep, hrest, rfl⟩ | ⟨stop, hkeep, rfl⟩
      · obtain ⟨diskEvents, saved, hsave, he, hcatalog, rfl⟩ := runs_keepSnapshot hkeep
        obtain ⟨rfl, rfl, rfl⟩ := runs_rules_iff.mp hrest
        refine ⟨some saved, .tried hcache hsave, ?_, hcatalog⟩
        rw [keptNotices, announcing_cons_of_shown hshown, hcatalog]
        exact (announcing_of_ok he.symm _).symm
      · obtain ⟨diskEvents, saved, hsave, he, hcatalog, rfl⟩ := runs_keepSnapshot hkeep
        refine ⟨some saved, .tried hcache hsave, ?_, hcatalog⟩
        rw [keptNotices, announcing_cons_of_shown hshown]
        exact (announcing_of_error he.symm _).symm
  · refine ⟨none, .untried (.inr (by simp [hrun])) rfl, ?_, rfl⟩
    simp [keptNotices, announcing, hrun]

/-- What follows when the lint tool has failed: the files and the catalog stay as they are. -/
theorem runs_fallBack {live : Failure} {e : Except Stop (List Rule)}
    (h : Job.Runs (Workplace.Answers (Host.Answers flaky)) (l.fallBack live) p events e p') :
    p'.catalog = p.catalog ∧ p'.host.files = p.host.files ∧
    ((∃ rules, e = .ok rules ∧ (∀ n ∈ failureNotices [("live", live)], n.lost? = none) ∧ l.useCache = true ∧
        l.Recalls flaky p.host (.ok rules) ∧ errandsOf events = [⟨.errand (.loadRules l.store), .ok rules⟩]) ∨
      (∃ failures, e = .error (.failed (.catalogUnavailable failures)) ∧
        l.Tries flaky p.host live failures (errandsOf events) ∧ ∀ n ∈ failureNotices failures, n.lost? = none) ∨
      (∃ run, e = .error (.failed (.unencodable run.message)) ∧
        (errandsOf events = [] ∧ (Notice.sourceFailed "live" live.message).lost? = some run ∨
          (Notice.sourceFailed "live" live.message).lost? = none ∧
            ∃ cache, l.useCache = true ∧ l.Recalls flaky p.host (.error cache) ∧
              errandsOf events = [⟨.errand (.loadRules l.store), .error (.failed cache)⟩] ∧
              (Notice.sourceFailed "cache" cache.message).lost? = some run))) := by
  unfold fallBack at h
  rcases Job.runs_announce_bind_iff.mp h with ⟨hlive, h⟩ | ⟨run, hrun, rfl, rfl, rfl⟩
  · cases hcache : l.useCache with
    | false =>
      simp only [hcache] at h
      obtain ⟨rfl, rfl, rfl⟩ := Job.runs_fail_iff.mp h
      refine ⟨rfl, rfl, .inr (.inl ⟨_, rfl, .live hcache, ?_⟩)⟩
      simpa [failureNotices] using hlive
    | true =>
      simp only [hcache] at h
      obtain ⟨diskEvents, cached, host, events', hload, hrest, rfl⟩ := runs_errand_outcome_bind h
      have hfiles : host.files = p.host.files := (Store.runs_load hload).1
      have hrecalls : l.Recalls flaky p.host cached := ⟨diskEvents, host, hload⟩
      cases cached with
      | ok rules =>
        obtain ⟨rfl, rfl, rfl⟩ := Job.runs_pure_iff.mp hrest
        refine ⟨rfl, hfiles, .inl ⟨rules, rfl, ?_, rfl, hrecalls, rfl⟩⟩
        simpa [failureNotices] using hlive
      | error cache =>
        rcases Job.runs_announce_bind_iff.mp hrest with ⟨hshown, hrest⟩ | ⟨run, hrun, rfl, rfl, rfl⟩
        · obtain ⟨rfl, rfl, rfl⟩ := Job.runs_fail_iff.mp hrest
          refine ⟨rfl, hfiles, .inr (.inl ⟨_, rfl, .both hcache hrecalls, ?_⟩)⟩
          simpa [failureNotices] using ⟨hlive, hshown⟩
        · exact ⟨rfl, hfiles, .inr (.inr ⟨run, rfl, .inr ⟨hlive, cache, rfl, hrecalls, rfl, hrun⟩⟩)⟩
  · exact ⟨rfl, rfl, .inr (.inr ⟨run, rfl, .inl ⟨rfl, hrun⟩⟩)⟩

/-! ### Events -/

theorem errandsOf_append (events₁ events₂ : List ServiceEvent) :
    errandsOf (events₁ ++ events₂) = errandsOf events₁ ++ errandsOf events₂ :=
  List.filter_append _ _

/-- Asking the lint tool is no errand. -/
theorem errandsOf_of_isOfTool {events : List ServiceEvent} (h : ∀ event ∈ events, event.1.isOfTool = true) :
    errandsOf events = [] := by
  rw [errandsOf, List.filter_eq_nil_iff]
  rintro ⟨act, reply⟩ hevent herrand
  have htool := h _ hevent
  cases act with
  | errand work => cases htool
  | _ => cases herrand

/-- The errands of a load are those behind asking the lint tool. -/
theorem errandsOf_load {toolEvents : List ServiceEvent} (h : ∀ event ∈ toolEvents, event.1.isOfTool = true)
    (events : List ServiceEvent) :
    errandsOf (⟨.enterLoad, .ok ()⟩ :: (toolEvents ++ events ++ [⟨.leaveLoad, ()⟩])) = errandsOf events := by
  show errandsOf (toolEvents ++ events ++ [⟨.leaveLoad, ()⟩]) = _
  rw [errandsOf_append, errandsOf_append, errandsOf_of_isOfTool h, List.nil_append]
  exact List.append_nil _

/-- Every run of a load is one of the four cases. -/
theorem loadEnds_of_runs {e : Except Stop (List Rule)}
    (h : Job.Runs (Workplace.Answers (Host.Answers flaky)) l.loadRules p events e p') :
    ∃ live kept, l.LoadEnds flaky p events live kept e p' := by
  obtain ⟨events', p₁, hturn, rfl, rfl⟩ := runs_loadRules_iff.mp h
  obtain ⟨live, p₂, events₁, events₂, hfetch, hrest, rfl⟩ := Job.runs_outcome_bind_iff.mp hturn
  obtain ⟨rfl, hne, htool⟩ := onlyAsksTool_fetchRules l.tool _ _ _ _ hfetch
  have herrands := errandsOf_load htool events₂
  have hprefix : ⟨.enterLoad, .ok ()⟩ :: events₁ <+:
      (⟨.enterLoad, .ok ()⟩ :: (events₁ ++ events₂ ++ [⟨.leaveLoad, ()⟩]) : List ServiceEvent) := by
    rw [List.append_assoc]
    exact List.prefix_append (⟨.enterLoad, .ok ()⟩ :: events₁) _
  -- The end of the lint tool's part decides: only its failure leads to the last snapshot.
  cases live with
  | ok fetched =>
    obtain ⟨rules, version⟩ := fetched
    obtain ⟨kept, hkeeps, rfl, hcatalog⟩ := runs_install (ids_nodup_of_fetchRules hfetch) hrest
    refine ⟨.ok (rules, version), kept, .fetched ⟨events₁, hprefix, hfetch⟩ (herrands ▸ hkeeps) ?_⟩
    simp [Workplace.loading, hcatalog, catalogOf]
  | error stop =>
    cases stop with
    | cancelled => exact absurd rfl hne
    | failed live =>
      refine ⟨.error live, none, ?_⟩
      have hfetches : l.Fetches flaky p _ (.error live) := ⟨events₁, hprefix, hfetch⟩
      rcases Job.runs_bind_iff.mp hrest with ⟨rules, p₃, events₃, events₄, hback, hput, rfl⟩ | ⟨stop, hback, rfl⟩
      · obtain ⟨hcatalog, hfiles, ⟨rules', he, hshown, hon, hcached, herrand⟩ | ⟨_, he, -⟩ | ⟨_, he, -⟩⟩ :=
          runs_fallBack hback
        · cases he
          obtain ⟨_, p₄, events₅, hreplaced, hrules, rfl⟩ := (Job.runs_ask_bind_iff (.putRules rules) _).mp hput
          obtain ⟨rfl, rfl, rfl⟩ := runs_rules_iff.mp hrules
          obtain ⟨diskEvents, host, hload⟩ := hcached
          have hp₁ : p₁ = { p₃ with catalog := { catalogOf rules with isLoading := p₃.catalog.isLoading } } := by
            rw [← replace_eq_catalogOf (Store.ids_nodup_of_load hload)]
            exact hreplaced
          subst hp₁
          refine .recalled hfetches hshown hon ⟨diskEvents, host, hload⟩ ?_ rfl hfiles
          rw [herrands, errandsOf_append, herrand]
          rfl
        · cases he
        · cases he
      · obtain ⟨hcatalog, hfiles, ⟨_, he, -⟩ | ⟨failures, he, htries, hshown⟩ | ⟨run, he, hlost⟩⟩ :=
          runs_fallBack hback
        · cases he
        · cases he
          refine .unavailable hfetches (herrands ▸ htries) hshown ?_ hfiles
          simp [Workplace.loading, hcatalog]
        · cases he
          refine .unannounced hfetches (herrands ▸ hlost) ?_ hfiles
          simp [Workplace.loading, hcatalog]

/-- Every load comes to an end, and each of its ends is one of the four cases. In all of them no load is going on
afterwards. -/
theorem runs_loadRules (l : Loader) (flaky : Bool) (p : Workplace) :
    (∃ events e p', Job.Runs (Workplace.Answers (Host.Answers flaky)) l.loadRules p events e p') ∧
    ∀ events e p', Job.Runs (Workplace.Answers (Host.Answers flaky)) l.loadRules p events e p' →
      (∃ live kept, l.LoadEnds flaky p events live kept e p') ∧ p'.catalog.isLoading = false := by
  refine ⟨Program.exists_runs (Workplace.isTotal_answers (Host.isTotal_answers flaky)) _ p, ?_⟩
  intro events e p' h
  obtain ⟨live, kept, hends⟩ := loadEnds_of_runs h
  refine ⟨⟨live, kept, hends⟩, ?_⟩
  cases hends with
  | fetched _ _ catalog => rw [catalog]; rfl
  | recalled _ _ _ _ _ catalog _ => rw [catalog]; rfl
  | unavailable _ _ _ catalog _ => rw [catalog]
  | unannounced _ _ catalog _ => rw [catalog]

/-- A lint tool that cannot list its rules and gives a reason that cannot be shown. -/
def unshownTool : Rehearsal where
  tool := .scripted { listRules := .fails (.toolFailed (Text.ofList [.half 0]) none "") }

/-- A loader with a snapshot below the root. -/
def ofRoot : Loader where
  store := ⟨Path.ofString "/", Path.ofString "/rules.json"⟩

/-- Neither the lint tool nor the snapshot gives rules, and yet the load does not end with their failures. -/
theorem run_loadRules_unshownTool :
    ((Rehearsal.run ofRoot.loadRules unshownTool).1 matches .error (.failed (.unencodable _))) = true := by
  decide +kernel

end Loader

end LintPreview
