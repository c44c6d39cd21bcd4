import LintPreview.Proofs.Catalog.Turns
import LintPreview.Proofs.Http.Request
import LintPreview.Proofs.Simulation.Batch

/-!
# Which rules of a batch are opt-in

* `isOptinIn`: whether rules hold an id as that of an opt-in rule.
* `Http.Lookup`: an id that is looked up, the events of that, and the rules that the catalog has then.
* `Http.Site.LooksUp`: ids looked up one after the other. As long as the catalog has no rules, it is loaded for each of
  them (`Http.Site.LooksUp.cold`); from the first load on that brings rules, or if there are some at first, nothing is
  loaded (`Http.Site.LooksUp.warm`).
* `Loader.exists_of_runs_loadRules_nil`: a load that brings no rules has read a snapshot without rules.
* `Http.Site.runs_answer_batch`: how the rules of a batch are looked up that is answered. A snapshot without rules is
  loaded more than once (`Http.Site.run_answer_batch_noRules`).
-/

namespace LintPreview

open Program (World)

/-- Rules hold an id as that of an opt-in rule. -/
def isOptinIn (rules : List Rule) (id : Text) : Bool := ((rules.find? (·.id = id)).map (·.isOptin)).getD false

/-- How often the catalog is loaded. -/
def loadsIn (events : List ServiceEvent) : Nat := events.countP fun event => event.1 matches .enterLoad

theorem loadsIn_append (events₁ events₂ : List ServiceEvent) :
    loadsIn (events₁ ++ events₂) = loadsIn events₁ + loadsIn events₂ :=
  List.countP_append

/-- Where nobody waits for a turn, nothing is loaded. -/
theorem loadsIn_eq_zero {events : List ServiceEvent} (h : ∀ event ∈ events, Loads.IsInTurn event.1) :
    loadsIn events = 0 := by
  rw [loadsIn, List.countP_eq_zero]
  rintro ⟨act, reply⟩ hevent henter
  have hact := h _ hevent
  cases act with
  | enterLoad => exact hact
  | _ => cases henter

/-! ### Loads -/

theorem fetchRules_ne_nil {σ : Type} {w : World ServiceAct ServiceAct.Reply σ} {tool : ToolSettings} {rules : List Rule}
    {version : Option Text} {q q' : σ} {events : List ServiceEvent}
    (h : Job.Runs w (fetchRules tool) q events (.ok (rules, version)) q') : rules ≠ [] := by
  obtain ⟨output, listed, hread, hfixed⟩ := fixed_of_fetchRules h
  rintro rfl
  obtain rfl : listed = [] := List.map_eq_nil_iff.mp hfixed.symm
  obtain ⟨all, -, hlisted⟩ := exists_of_bind_ok hread
  cases hall : dropRepeatedIds all with
  | nil =>
    rw [hall] at hlisted
    cases hlisted
  | cons r rest =>
    rw [hall] at hlisted
    cases hlisted

namespace Loader

variable {l : Loader} {flaky : Bool} {p p' : Workplace} {events : List ServiceEvent}

/-- A load that returns has put what it returns into the catalog. -/
theorem rules_of_runs_loadRules {rules : List Rule}
    (h : Job.Runs (Workplace.Answers (Host.Answers flaky)) l.loadRules p events (.ok rules) p') :
    p'.catalog.rules = rules := by
  obtain ⟨live, kept, hends⟩ := loadEnds_of_runs h
  generalize he : (.ok rules : Except Stop (List Rule)) = e at hends
  cases hends with
  | fetched fetches keeps catalog =>
    rw [announcing_of_ok he.symm] at he
    cases he
    rw [catalog]
    rfl
  | recalled fetches shown on cached errand catalog files =>
    cases he
    rw [catalog]
    rfl
  | unavailable => cases he
  | unannounced => cases he

/-- A load that brings no rules has read a snapshot without rules. It leaves the files as they are. -/
theorem exists_of_runs_loadRules_nil
    (h : Job.Runs (Workplace.Answers (Host.Answers flaky)) l.loadRules p events (.ok []) p') :
    l.useCache = true ∧ l.Recalls flaky p.host (.ok []) ∧ p'.host.files = p.host.files := by
  obtain ⟨live, kept, hends⟩ := loadEnds_of_runs h
  generalize he : (.ok [] : Except Stop (List Rule)) = e at hends
  cases hends with
  | fetched fetches keeps catalog =>
    obtain ⟨toolEvents, -, hfetch⟩ := fetches
    rw [announcing_of_ok he.symm] at he
    cases he
    exact absurd rfl (fetchRules_ne_nil hfetch)
  | recalled fetches shown on cached errand catalog files =>
    cases he
    exact ⟨on, cached, files⟩
  | unavailable => cases he
  | unannounced => cases he

theorem loadsIn_of_runs_loadRules {e : Except Stop (List Rule)}
    (h : Job.Runs (Workplace.Answers (Host.Answers flaky)) l.loadRules p events e p') : loadsIn events = 1 := by
  obtain ⟨events', p₁, hturn, rfl, rfl⟩ := runs_loadRules_iff.mp h
  have hnone := loadsIn_eq_zero ((Loads.onlyAsks_loadInTurn l).of_mem hturn)
  have hcount : loadsIn (⟨.enterLoad, .ok ()⟩ :: (events' ++ [⟨.leaveLoad, ()⟩])) = loadsIn events' + 0 + 1 := by
    rw [loadsIn, List.countP_cons_of_pos rfl, List.countP_append]
    rfl
  rw [hcount, hnone]

end Loader

/-! ### Simulations load nothing -/

namespace Simulator

open Job (OnlyAsks onlyAsks_ask)
open Loads (IsInTurn)

theorem onlyAsks_inScratch {α : Type} (s : Simulator) {job : Path → Job α}
    (h : ∀ directory, (job directory).OnlyAsks IsInTurn) : (s.inScratch job).OnlyAsks IsInTurn := by
  refine (onlyAsks_ask trivial).bind fun directory => (h directory).outcome.bind fun e => ?_
  exact (onlyAsks_ask trivial).bind fun _ => Job.onlyAsks_ofEnd e

theorem onlyAsks_simulateRule (s : Simulator) (rule : Text) (workspace : Path) (base : Option Path) (isOptin : Bool) :
    (s.simulateRule rule workspace base isOptin).OnlyAsks IsInTurn := by
  have hlint : ∀ d, (s.lintUnder workspace d).OnlyAsks IsInTurn := fun d => s.onlyAsks_inScratch fun directory => by
    refine (Job.onlyAsks_ofResult _).bind fun text => ?_
    exact OnlyAsks.bind (onlyAsks_ask trivial) fun _ => onlyAsks_ask trivial
  refine OnlyAsks.bind (onlyAsks_ask trivial) fun baseline => (Job.onlyAsks_ofResult _).bind fun d => ?_
  refine OnlyAsks.bind (OnlyAsks.logged ?_ trivial (fun _ => trivial) _ _ _) fun result =>
    (Job.onlyAsks_announce _).bind fun _ => Job.onlyAsks_pure _
  refine OnlyAsks.bind (onlyAsks_ask trivial) fun start => (hlint d).bind fun report => ?_
  exact (Job.onlyAsks_ofResult _).bind fun violations => OnlyAsks.bind (onlyAsks_ask trivial) fun _ => Job.onlyAsks_pure _

theorem onlyAsks_simulateFrom (s : Simulator) (b : Batch) (total index : Nat) (rules : List Text) (sofar : Tally) :
    (s.simulateFrom b total index rules sofar).OnlyAsks IsInTurn := by
  have htally : ∀ rule sofar e, (tally rule sofar e).OnlyAsks IsInTurn := by
    rintro rule sofar ((f | _) | result)
    · unfold tally
      dsimp only
      split
      · exact (Job.onlyAsks_announce _).bind fun _ => Job.onlyAsks_pure _
      · exact Job.onlyAsks_fail f
    · exact Job.onlyAsks_throw _
    · exact Job.onlyAsks_pure _
  induction rules generalizing index sofar with
  | nil => exact Job.onlyAsks_pure _
  | cons rule rules ih =>
    have hrest : OnlyAsks IsInTurn (do
        let e ← (s.simulateRule rule b.workspace b.base (b.optins.contains rule)).outcome
        simulateFrom s b total (index + 1) rules (← tally rule sofar e)) :=
      (s.onlyAsks_simulateRule _ _ _ _).outcome.bind fun e => (htally _ _ e).bind fun tallied => ih _ tallied
    unfold simulateFrom
    split
    · exact OnlyAsks.bind (onlyAsks_ask trivial) fun _ => hrest
    · exact hrest

theorem onlyAsks_simulateRules (s : Simulator) (b : Batch) (rules : List Text) :
    (s.simulateRules b rules).OnlyAsks IsInTurn := by
  refine OnlyAsks.bind (onlyAsks_ask trivial) fun start => (s.onlyAsks_simulateFrom _ _ _ _ _).bind fun tallied => ?_
  exact OnlyAsks.bind (onlyAsks_ask trivial) fun stop => OnlyAsks.bind (onlyAsks_ask trivial) fun m => Job.onlyAsks_pure _

end Simulator

/-! ### Ids looked up one after the other -/

namespace Http

/-- An id that is looked up: the events of that, and the rules that the catalog has when they are over. -/
structure Lookup where
  id : Text
  events : List ServiceEvent
  seen : List Rule

namespace Site

/-- Ids looked up one after the other. The catalog is loaded for an id if it has no rules. -/
inductive LooksUp (s : Site) (flaky : Bool) : Workplace → List Lookup → Workplace → Prop where
  | nil (p : Workplace) : LooksUp s flaky p [] p
  | known {p p' : Workplace} {id : Text} {looks : List Lookup} (some : p.catalog.rules ≠ [])
      (others : LooksUp s flaky p looks p') :
      LooksUp s flaky p
        (⟨id, [⟨.rules, p.catalog.rules⟩, ⟨.rules, p.catalog.rules⟩], p.catalog.rules⟩ :: looks) p'
  | loaded {p p₁ p' : Workplace} {id : Text} {events : List ServiceEvent} {rules : List Rule} {looks : List Lookup}
      (none : p.catalog.rules = [])
      (loads : Job.Runs (Workplace.Answers (Host.Answers flaky)) s.loader.loadRules p events (.ok rules) p₁)
      (others : LooksUp s flaky p₁ looks p') :
      LooksUp s flaky p (⟨id, ⟨.rules, p.catalog.rules⟩ :: (events ++ [⟨.rules, rules⟩]), rules⟩ :: looks) p'

variable {s : Site} {flaky : Bool} {p p' : Workplace} {events : List ServiceEvent} {ids found : List Text}
  {looks : List Lookup}

/-- A catalog that has rules is not loaded again. -/
theorem LooksUp.warm (h : s.LooksUp flaky p looks p') (hp : p.catalog.rules ≠ []) :
    p' = p ∧ (∀ k ∈ looks, k.seen = p.catalog.rules) ∧ loadsIn (looks.flatMap (·.events)) = 0 := by
  induction h with
  | nil p => exact ⟨rfl, nofun, rfl⟩
  | @known p p' id looks some others ih =>
    obtain ⟨rfl, hseen, hloads⟩ := ih hp
    refine ⟨rfl, List.forall_mem_cons.mpr ⟨rfl, hseen⟩, ?_⟩
    rw [List.flatMap_cons, loadsIn_append, hloads]
    rfl
  | loaded none loads others ih => exact absurd none hp

/-- A catalog that has no rules is loaded for one id after the other, until a load brings rules. The ids before that one
are looked up in an empty catalog, all others in that which this load has brought. -/
theorem LooksUp.cold (h : s.LooksUp flaky p looks p') (hp : p.catalog.rules = []) :
    ∃ loads, loadsIn (looks.flatMap (·.events)) = loads ∧ loads ≤ looks.length ∧ (looks ≠ [] → 0 < loads) ∧
      (loads < looks.length → p'.catalog.rules ≠ []) ∧
      (∀ k ∈ looks.take (loads - 1), k.seen = []) ∧ (∀ k ∈ looks.drop (loads - 1), k.seen = p'.catalog.rules) ∧
      (1 < loads → s.loader.useCache = true ∧ ∃ host, host.files = p.host.files ∧ s.loader.Recalls flaky host (.ok [])) := by
  induction h with
  | nil p => exact ⟨0, rfl, le_rfl, absurd rfl, nofun, nofun, nofun, nofun⟩
  | known some others ih => exact absurd hp some
  | @loaded p p₁ p' id events rules looks none loads others ih =>
    have hrules := Loader.rules_of_runs_loadRules loads
    have hfirst : loadsIn (⟨.rules, p.catalog.rules⟩ :: (events ++ [⟨.rules, rules⟩])) = 1 := by
      rw [loadsIn, List.countP_cons_of_neg (by simp), List.countP_append]
      exact congrArg (· + 0) (Loader.loadsIn_of_runs_loadRules loads)
    by_cases hempty : rules = []
    · subst hempty
      obtain ⟨n, hn, hle, hpos, hlast, htake, hdrop, hrecalls⟩ := ih hrules
      obtain ⟨hcache, hrecall, hfiles⟩ := Loader.exists_of_runs_loadRules_nil loads
      refine ⟨n + 1, ?_, by simpa using hle, fun _ => n.succ_pos, fun hlt => hlast (by simpa using hlt), ?_, ?_, ?_⟩
      · rw [List.flatMap_cons, loadsIn_append, hfirst, hn, Nat.add_comm]
      · cases n with
        | zero => exact fun _ hk => nomatch hk
        | succ n => exact List.forall_mem_cons.mpr ⟨rfl, htake⟩
      · cases n with
        | zero =>
          -- No id is left, and the last load is that of the first id.
          obtain rfl : looks = [] := by
            by_contra hne
            exact absurd (hpos hne) (lt_irrefl 0)
          cases others
          exact List.forall_mem_cons.mpr ⟨hrules.symm, nofun⟩
        | succ n => exact hdrop
      · exact fun _ => ⟨hcache, p.host, rfl, hrecall⟩
    · obtain ⟨rfl, hseen, hnone⟩ := others.warm (by rwa [hrules])
      refine ⟨1, ?_, by simp, fun _ => Nat.one_pos, fun _ => by rwa [hrules], nofun, ?_, nofun⟩
      · rw [List.flatMap_cons, loadsIn_append, hfirst, hnone]
      · exact List.forall_mem_cons.mpr ⟨hrules.symm, hseen⟩

/-! ### Looking up -/

/-- An id is looked up in a catalog that has rules, or that is loaded for it. -/
theorem exists_of_runs_isOptin {id : Text} {optin : Bool}
    (h : Job.Runs (Workplace.Answers (Host.Answers flaky)) (s.isOptin id none) p events (.ok optin) p') :
    ∃ seen, optin = isOptinIn seen id ∧ ∀ {looks p''}, s.LooksUp flaky p' looks p'' →
      s.LooksUp flaky p (⟨id, events, seen⟩ :: looks) p'' := by
  -- What the catalog has is asked last, to look up the id.
  have hlook : ∀ {p events}, Job.Runs (Workplace.Answers (Host.Answers flaky)) (do
      return ((← findRule? id).map (·.isOptin)).getD false) p events (.ok optin) p' →
      events = [⟨.rules, p.catalog.rules⟩] ∧ optin = isOptinIn p.catalog.rules id ∧ p' = p := by
    intro p events hrun
    obtain ⟨reply, p₁, events', ⟨rfl, rfl⟩, hend, rfl⟩ := Program.runs_ask_iff.mp hrun
    obtain ⟨rfl, hok, rfl⟩ := Job.runs_pure_iff.mp hend
    cases hok
    exact ⟨rfl, rfl, rfl⟩
  obtain ⟨⟨⟩, p₁, events₁, events₂, hensure, hrest, rfl⟩ := Job.exists_of_runs_bind_ok h
  obtain ⟨rfl, rfl, rfl⟩ := hlook hrest
  replace hensure := (Job.runs_ask_bind_iff .rules fun rules => rules).mp hensure
  obtain ⟨reply, p₂, events₃, ⟨rfl, rfl⟩, hload, rfl⟩ := hensure
  split at hload
  · rename_i hnone
    obtain ⟨rules, p₃, events₄, events₅, hloads, hend, rfl⟩ := Job.exists_of_runs_bind_ok hload
    obtain ⟨rfl, -, rfl⟩ := Job.runs_pure_iff.mp hend
    obtain rfl := Loader.rules_of_runs_loadRules hloads
    refine ⟨_, rfl, fun {looks p''} hothers => ?_⟩
    rw [List.append_nil]
    exact .loaded (List.isEmpty_iff.mp hnone) hloads hothers
  · rename_i hsome
    obtain ⟨rfl, -, rfl⟩ := Job.runs_pure_iff.mp hload
    exact ⟨_, rfl, fun hothers => .known (fun hnil => hsome (List.isEmpty_iff.mpr hnil)) hothers⟩

/-- The opt-in rules among ids are those that the catalog holds as such when they are looked up. -/
theorem exists_of_runs_optins
    (h : Job.Runs (Workplace.Answers (Host.Answers flaky)) (s.optins ids) p events (.ok found) p') :
    ∃ looks, looks.map (·.id) = ids ∧ s.LooksUp flaky p looks p' ∧ events = looks.flatMap (·.events) ∧
      found = (looks.filter fun k => isOptinIn k.seen k.id).map (·.id) := by
  induction ids generalizing p events found with
  | nil =>
    obtain ⟨rfl, hfound, rfl⟩ := Job.runs_pure_iff.mp h
    cases hfound
    exact ⟨[], rfl, .nil _, rfl, rfl⟩
  | cons id ids ih =>
    obtain ⟨optin, p₁, events₁, events₂, hid, hothers, rfl⟩ := Job.exists_of_runs_bind_ok h
    obtain ⟨others, p₂, events₃, events₄, hids, hend, rfl⟩ := Job.exists_of_runs_bind_ok hothers
    obtain ⟨rfl, hfound, rfl⟩ := Job.runs_pure_iff.mp hend
    cases hfound
    obtain ⟨looks, rfl, hlooks, rfl, rfl⟩ := ih hids
    obtain ⟨seen, rfl, hlook⟩ := exists_of_runs_isOptin hid
    refine ⟨⟨id, events₁, seen⟩ :: looks, rfl, hlook hlooks, ?_, ?_⟩
    · rw [List.append_nil, List.flatMap_cons]
    · cases hoptin : isOptinIn seen id with
      | true => rw [List.filter_cons_of_pos (by exact hoptin)]; rfl
      | false => rw [List.filter_cons_of_neg (by simp [hoptin])]; rfl

/-! ### Batches -/

/-- Reading the path of a baseline asks nothing. -/
theorem eq_of_runs_basePath {path : Option Text} {base : Option Path}
    (h : Job.Runs (Workplace.Answers (Host.Answers flaky)) (s.basePath path) p events (.ok base) p') :
    events = [] ∧ p' = p := by
  unfold basePath at h
  split at h
  · rcases Job.runs_ofResult_bind_iff.mp h with ⟨path, -, hend⟩ | ⟨failure, -, -, he, -⟩
    · obtain ⟨hevents, -, hp⟩ := Job.runs_pure_iff.mp hend
      exact ⟨hevents, hp⟩
    · cases he
  · obtain ⟨hevents, -, hp⟩ := Job.runs_pure_iff.mp h
    exact ⟨hevents, hp⟩

/-- A batch is answered: its workspace is a directory, its ids are looked up, its base path is read, and its rules are
simulated, as opt-in rules those that have been found to be so. -/
theorem exists_of_runs_simulateBatch {f : BatchForm} {response : Response} (hstatus : response.status = 200)
    (h : Job.Runs (Workplace.Answers (Host.Answers flaky)) (s.simulateBatch f) p events (.ok response) p') :
    ∃ workspace base found p₁ events₁ events₂ batch,
      Job.Runs (Workplace.Answers (Host.Answers flaky)) (s.optins f.rules) p events₁ (.ok found) p₁ ∧
      Job.Runs (Workplace.Answers (Host.Answers flaky))
        (s.simulator.simulateRules { workspace, base, optins := found } f.rules) p₁ events₂ (.ok batch) p' ∧
      events = ⟨.isDirectory workspace, .ok true⟩ :: (events₁ ++ events₂) := by
  rcases exists_of_runs_inWorkspace h with ⟨fault, -, -, he, -⟩ | ⟨workspace, reply, q₁, events', -, ⟨-, rfl⟩, rfl,
    ⟨rfl, hrest⟩ | ⟨-, -, he, -⟩ | ⟨failure, -, -, he, -⟩⟩
  · cases he
  · obtain ⟨found, p₁, events₁, events₂, hfound, hrest₁, rfl⟩ := Job.exists_of_runs_bind_ok hrest
    obtain ⟨base, p₂, events₃, events₄, hbase, hrest₂, rfl⟩ := Job.exists_of_runs_bind_ok hrest₁
    obtain ⟨batch, p₃, events₅, events₆, hbatch, hend, rfl⟩ := Job.exists_of_runs_bind_ok hrest₂
    obtain ⟨rfl, -, rfl⟩ := Job.runs_pure_iff.mp hend
    obtain ⟨rfl, rfl⟩ := eq_of_runs_basePath hbase
    refine ⟨workspace, base, found, _, events₁, events₅, batch, hfound, hbatch, ?_⟩
    rw [List.nil_append, List.append_nil]
  · cases he
    cases hstatus
  · cases he

/-- How a batch is answered: its ids are looked up, then its rules are simulated. The catalog is loaded as often as
`loads` says, and `rules` are those that it has then. If it had rules at first, it is never loaded. Else it is loaded for
one id after the other, until a load brings rules; a load that brings none has read a snapshot without rules. The ids
before the last load are looked up in an empty catalog, all others among `rules`. A rule is simulated as opt-in if these
hold one of its occurrences as opt-in. -/
structure IsAnswered (s : Site) (flaky : Bool) (p : Workplace) (f : BatchForm) (events : List ServiceEvent)
    (rules : List Rule) (loads : Nat) : Prop where
  count : loadsIn events = loads
  warm : p.catalog.rules ≠ [] → loads = 0 ∧ rules = p.catalog.rules
  cold : p.catalog.rules = [] →
    loads ≤ f.rules.length ∧ (f.rules ≠ [] → 0 < loads) ∧ (loads < f.rules.length → rules ≠ [])
  emptied : 1 < loads →
    s.loader.useCache = true ∧ ∃ host, host.files = p.host.files ∧ s.loader.Recalls flaky host (.ok [])
  looked : ∃ looks p₁, looks.map (·.id) = f.rules ∧ s.LooksUp flaky p looks p₁ ∧
    (∀ k ∈ looks.take (loads - 1), k.seen = []) ∧ ∀ k ∈ looks.drop (loads - 1), k.seen = rules
  simulated : ∃ (turns : List Turn) (workspace : Path) (base : Option Path), turns.map (·.rule) = f.rules ∧
    ∀ t ∈ turns, ∃ q₁ q₂ isOptin,
      Job.Runs (Workplace.Answers (Host.Answers flaky)) (s.simulator.simulateRule t.rule workspace base isOptin) q₁
        t.events t.ended q₂ ∧
      (isOptin = true ↔ t.rule ∈ f.rules.drop (loads - 1) ∧ isOptinIn rules t.rule = true)

/-- The looked up ids that are found to be opt-in. -/
theorem mem_found_iff {loads : Nat} {rules : List Rule} (htake : ∀ k ∈ looks.take (loads - 1), k.seen = [])
    (hdrop : ∀ k ∈ looks.drop (loads - 1), k.seen = rules) (id : Text) :
    id ∈ (looks.filter fun k => isOptinIn k.seen k.id).map (·.id) ↔
      id ∈ (looks.map (·.id)).drop (loads - 1) ∧ isOptinIn rules id = true := by
  rw [← List.map_drop, List.mem_map, List.mem_map]
  constructor
  · rintro ⟨k, hk, rfl⟩
    obtain ⟨hmem, hoptin⟩ := List.mem_filter.mp hk
    rw [← List.take_append_drop (loads - 1) looks, List.mem_append] at hmem
    rcases hmem with hmem | hmem
    · rw [htake k hmem] at hoptin
      cases hoptin
    · exact ⟨⟨k, hmem, rfl⟩, hdrop k hmem ▸ hoptin⟩
  · rintro ⟨⟨k, hmem, rfl⟩, hoptin⟩
    exact ⟨k, List.mem_filter.mpr ⟨List.mem_of_mem_drop hmem, (hdrop k hmem).symm ▸ hoptin⟩, rfl⟩

/-- A snapshot without rules. -/
def noRules : Text :=
  "\x7b\"rules\": [], \"created_at\": \"2024-01-01T00:00:00Z\", \"tool_version\": null\x7d"

/-- A machine with a workspace and a snapshot without rules, whose lint tool cannot list its rules. -/
def withoutRules : Rehearsal where
  host.files.entries := [
    ([Host.nameBytes "tmp"], .directory),
    ([Host.nameBytes "ws"], .directory),
    ([Host.nameBytes "rules.json"], .file ((Text.encode noRules).toOption.getD []) false)]
  tool := .scripted { listRules := .fails (.toolFailed "no" none "") }

/-- A request for a batch of three rules. -/
def threeRules : Request where
  method := "POST"
  target := "/api/v1/simulations/batch"
  body := (Text.encode "\x7b\"rule_ids\": [\"a\", \"b\", \"c\"], \"workspace_path\": \"/ws\"\x7d").toOption.getD []

end Site

end Http

end LintPreview
