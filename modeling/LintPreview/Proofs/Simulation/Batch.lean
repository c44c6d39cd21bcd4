import LintPreview.Proofs.Simulation.Report
import LintPreview.Proofs.Simulation.Traceless

/-!
# Simulations one after the other

* `Turn`: the turn of a rule in a batch. `Turn.stop?`: why a batch stops after a turn. A failure of the services' own is
  noted and stops nothing, if its notice can be shown.
* `Simulator.TakesTurns`: turns one after the other; `Simulator.exists_of_runs_simulateFrom` cuts every run into them.
* `Simulator.TakesTurns.alone`: each simulation goes as it would go by itself.
* `BatchResult.Sums`: a batch result tells how the turns have ended. `BatchEnds`: how a batch ends for its turns.
* `Simulator.runs_simulateRules`: every batch goes so. A failure that cannot be shown does stop one
  (`Simulator.run_simulateRules_unshown`).
-/

namespace LintPreview

open Program (World)

/-! ### Entries put over each other -/

theorem valueUnder?_foldl_putEntry {α : Type} (key : Text) (entries acc : List (Text × α)) :
    valueUnder? key (entries.foldl (fun acc e => putEntry e.1 e.2 acc) acc) =
      (((entries.filter fun e => e.1 = key).getLast?).map (·.2)).or (valueUnder? key acc) := by
  induction entries generalizing acc with
  | nil => rfl
  | cons e entries ih =>
    rw [List.foldl_cons, ih]
    by_cases he : e.1 = key
    · rw [List.filter_cons_of_pos (by simpa using he), List.getLast?_cons, ← he, valueUnder?_putEntry_self]
      cases (entries.filter fun e' => e'.1 = e.1).getLast? <;> rfl
    · rw [List.filter_cons_of_neg (by simpa using he), valueUnder?_putEntry_of_ne _ _ (Ne.symm he)]

/-- The value under a key is the one that was put there last. -/
theorem valueUnder?_collectEntries {α : Type} (key : Text) (entries : List (Text × α)) :
    valueUnder? key (collectEntries entries) = ((entries.filter fun e => e.1 = key).getLast?).map (·.2) := by
  rw [collectEntries, valueUnder?_foldl_putEntry]
  exact Option.or_none

/-! ### Turns -/

/-- The turn of a rule in a batch: the events of its simulation, and how that ended. -/
structure Turn where
  rule : Text
  events : List ServiceEvent
  ended : Except Stop SimulationResult

namespace Turn

/-- The result of a turn, if there is one. -/
def result? (t : Turn) : Option SimulationResult :=
  match t.ended with
  | .ok result => some result
  | .error _ => none

/-- What is noted of a turn that has failed. -/
def failure? (t : Turn) : Option (Text × Text) :=
  match t.ended with
  | .error (.failed f) => some (t.rule, f.message)
  | _ => none

/-- Why a batch stops after a turn, if it does: a failure is not one of the services' own, or it cannot be shown, or the
simulation is cancelled. -/
def stop? (t : Turn) : Option Stop :=
  match t.ended with
  | .ok _ => none
  | .error (.failed f) =>
    if f.isOwn then
      (Notice.simulationFailed t.rule f.message).lost?.map fun run => .failed (.unencodable run.message)
    else some (.failed f)
  | .error .cancelled => some .cancelled

/-- What a turn adds to a tally. -/
def addTo (t : Turn) (sofar : Simulator.Tally) : Simulator.Tally :=
  (sofar.1 ++ t.result?.toList, t.failure?.toList.foldl (fun acc e => putEntry e.1 e.2 acc) sofar.2)

theorem ne_cancelled {t : Turn} (h : t.stop? = none) : t.ended ≠ .error .cancelled := by
  intro he
  rw [stop?, he] at h
  cases h

end Turn

/-- A rule for each turn, and no turn stops the batch. -/
structure Completes (rules : List Text) (turns : List Turn) : Prop where
  rules : turns.map (·.rule) = rules
  noted : ∀ t ∈ turns, t.stop? = none

/-- The last turn stops the batch, and no turn before it. -/
inductive Stops : List Text → List Turn → Stop → Prop where
  | here {t : Turn} {rest : List Text} {stop : Stop} (stops : t.stop? = some stop) : Stops (t.rule :: rest) [t] stop
  | later {t : Turn} {rules : List Text} {turns : List Turn} {stop : Stop} (noted : t.stop? = none)
      (others : Stops rules turns stop) : Stops (t.rule :: rules) (t :: turns) stop

theorem Completes.cons {t : Turn} {rules : List Text} {turns : List Turn} (ht : t.stop? = none)
    (h : Completes rules turns) : Completes (t.rule :: rules) (t :: turns) :=
  ⟨by rw [List.map_cons, h.rules], List.forall_mem_cons.mpr ⟨ht, h.noted⟩⟩

theorem Stops.noted {rules : List Text} {turns : List Turn} {stop : Stop} (h : Stops rules turns stop) :
    ∀ t ∈ turns.dropLast, t.stop? = none := by
  induction h with
  | here stops => exact fun _ ht => nomatch ht
  | @later t rules turns stop noted others ih =>
    have hne : turns ≠ [] := by cases others <;> exact List.cons_ne_nil _ _
    rw [List.dropLast_cons_of_ne_nil hne]
    exact List.forall_mem_cons.mpr ⟨noted, ih⟩

/-- One of the turns stops the batch, and it is that of one of the rules. -/
theorem Stops.exists_mem {rules : List Text} {turns : List Turn} {stop : Stop} (h : Stops rules turns stop) :
    ∃ t ∈ turns, t.rule ∈ rules ∧ t.stop? = some stop := by
  induction h with
  | here stops => exact ⟨_, List.mem_cons_self, List.mem_cons_self, stops⟩
  | later noted others ih =>
    obtain ⟨t, ht, hrule, hstop⟩ := ih
    exact ⟨t, List.mem_cons_of_mem _ ht, List.mem_cons_of_mem _ hrule, hstop⟩

namespace Simulator

/-- The events of turns from the place `index` on. Each rule is reported just before its simulation, if that is wanted. -/
def Batch.eventsOf (b : Batch) (total : Nat) : (index : Nat) → List Turn → List ServiceEvent
  | _, [] => []
  | index, t :: turns =>
    (if b.reports then [⟨.report index total t.rule, ()⟩] else []) ++ t.events ++ b.eventsOf total (index + 1) turns

theorem Batch.mem_eventsOf (b : Batch) {total index : Nat} {turns : List Turn} {t : Turn} (ht : t ∈ turns)
    {event : ServiceEvent} (hevent : event ∈ t.events) : event ∈ b.eventsOf total index turns := by
  induction turns generalizing index with
  | nil => cases ht
  | cons first turns ih =>
    rw [eventsOf]
    rcases List.mem_cons.mp ht with rfl | ht
    · exact List.mem_append_left _ (List.mem_append_right _ hevent)
    · exact List.mem_append_right _ (ih ht)

variable {σ : Type} {w : World ServiceAct ServiceAct.Reply σ} {q q' : σ} {events : List ServiceEvent}

/-- Turns one after the other, from the place `index` on. -/
inductive TakesTurns (w : World ServiceAct ServiceAct.Reply σ) (s : Simulator) (b : Batch) (total : Nat) :
    Nat → σ → List Turn → σ → Prop where
  | nil (index : Nat) (q : σ) : TakesTurns w s b total index q [] q
  | cons {index : Nat} {q q₁ q₂ q' : σ} {t : Turn} {turns : List Turn}
      (reported : if b.reports = true then w (.report index total t.rule) q () q₁ else q₁ = q)
      (runs : Job.Runs w (s.simulateRule t.rule b.workspace b.base (b.optins.contains t.rule)) q₁ t.events t.ended q₂)
      (others : TakesTurns w s b total (index + 1) q₂ turns q') : TakesTurns w s b total index q (t :: turns) q'

variable {s : Simulator} {b : Batch} {total index : Nat} {turns : List Turn}

/-- Each turn is the simulation of its rule. -/
theorem TakesTurns.exists_runs (h : s.TakesTurns w b total index q turns q') : ∀ t ∈ turns, ∃ q₁ q₂,
    Job.Runs w (s.simulateRule t.rule b.workspace b.base (b.optins.contains t.rule)) q₁ t.events t.ended q₂ := by
  induction h with
  | nil index q => exact fun _ ht => nomatch ht
  | cons reported runs others ih => exact List.forall_mem_cons.mpr ⟨⟨_, _, runs⟩, ih⟩

/-- A turn is noted in the tally, or it stops the batch. -/
theorem runs_tally_iff {t : Turn} {sofar : Tally} {e : Except Stop Tally} :
    Job.Runs w (tally t.rule sofar t.ended) q events e q' ↔
      events = [] ∧ e = (match t.stop? with
        | none => .ok (t.addTo sofar)
        | some stop => .error stop) ∧ q' = q := by
  obtain ⟨rule, turnEvents, ended⟩ := t
  rcases ended with (f | _) | result
  · unfold tally Turn.stop? Turn.addTo Turn.failure? Turn.result?
    dsimp only
    cases hown : f.isOwn with
    | false => exact Job.runs_fail_iff
    | true =>
      simp only [if_true, Job.runs_announce_bind_iff, Job.runs_pure_iff, List.append_nil, Option.toList_none]
      cases (Notice.simulationFailed rule f.message).lost? <;> simp
  · exact Program.runs_done_iff
  · exact Job.runs_pure_iff

/-- The first turn of a batch: its rule is reported, if that is wanted, and simulated. Then the others take their turns, or
the batch stops. -/
theorem exists_turn_of_runs {rule : Text} {rules : List Text} {sofar : Tally} {e : Except Stop Tally}
    (h : Job.Runs w (s.simulateFrom b total index (rule :: rules) sofar) q events e q') :
    ∃ (t : Turn) (q₁ q₂ : σ) (events' : List ServiceEvent), t.rule = rule ∧
      (if b.reports = true then w (.report index total t.rule) q () q₁ else q₁ = q) ∧
      Job.Runs w (s.simulateRule t.rule b.workspace b.base (b.optins.contains t.rule)) q₁ t.events t.ended q₂ ∧
      events = (if b.reports then [⟨.report index total t.rule, ()⟩] else []) ++ t.events ++ events' ∧
      ((t.stop? = none ∧ Job.Runs w (s.simulateFrom b total (index + 1) rules (t.addTo sofar)) q₂ events' e q') ∨
        ∃ stop, t.stop? = some stop ∧ events' = [] ∧ e = .error stop ∧ q' = q₂) := by
  obtain ⟨q₁, events₀, hreported, hrest, rfl⟩ : ∃ q₁ events',
      (if b.reports = true then w (.report index total rule) q () q₁ else q₁ = q) ∧
      Job.Runs w (do
        let e ← (s.simulateRule rule b.workspace b.base (b.optins.contains rule)).outcome
        simulateFrom s b total (index + 1) rules (← tally rule sofar e)) q₁ events' e q' ∧
      events = (if b.reports then [⟨.report index total rule, ()⟩] else []) ++ events' := by
    unfold simulateFrom at h
    cases hreports : b.reports with
    | false =>
      simp only [hreports, Bool.false_eq_true, if_false] at h ⊢
      exact ⟨q, events, rfl, h, rfl⟩
    | true =>
      simp only [hreports, if_true] at h ⊢
      obtain ⟨⟨⟩, q₁, events', hreport, hrest, rfl⟩ := (Job.runs_ask_bind_iff _ fun _ => ()).mp h
      exact ⟨q₁, events', hreport, hrest, rfl⟩
  obtain ⟨end₁, q₂, events₁, events₂, hsimulate, htallied, rfl⟩ := Job.runs_outcome_bind_iff.mp hrest
  refine ⟨⟨rule, events₁, end₁⟩, q₁, q₂, events₂, rfl, hreported, hsimulate, (List.append_assoc ..).symm, ?_⟩
  rcases Job.runs_bind_iff.mp htallied with ⟨tallied, q₃, events₃, events₄, htally, hothers, rfl⟩ | ⟨stop, htally, rfl⟩
  · obtain ⟨rfl, he, rfl⟩ := (runs_tally_iff (t := ⟨rule, events₁, end₁⟩)).mp htally
    split at he
    · rename_i hstop
      cases he
      exact .inl ⟨hstop, hothers⟩
    · cases he
  · obtain ⟨rfl, he, rfl⟩ := (runs_tally_iff (t := ⟨rule, events₁, end₁⟩)).mp htally
    split at he
    · cases he
    · rename_i hstop
      cases he
      exact .inr ⟨_, hstop, rfl, rfl, rfl⟩

/-- Every run of a batch is cut into turns, up to one that stops it. -/
theorem exists_of_runs_simulateFrom {rules : List Text} {sofar : Tally} {e : Except Stop Tally}
    (h : Job.Runs w (s.simulateFrom b total index rules sofar) q events e q') :
    ∃ turns, s.TakesTurns w b total index q turns q' ∧ events = b.eventsOf total index turns ∧
      ((Completes rules turns ∧ e = .ok (turns.foldl (fun sofar t => t.addTo sofar) sofar)) ∨
        ∃ stop, Stops rules turns stop ∧ e = .error stop) := by
  induction rules generalizing index sofar q events with
  | nil =>
    obtain ⟨rfl, rfl, rfl⟩ := Job.runs_pure_iff.mp h
    exact ⟨[], .nil index _, rfl, .inl ⟨⟨rfl, fun _ ht => nomatch ht⟩, rfl⟩⟩
  | cons rule rules ih =>
    obtain ⟨t, q₁, q₂, events', rfl, hreported, hsimulate, rfl, ⟨hstop, hothers⟩ | ⟨stop, hstop, rfl, rfl, rfl⟩⟩ :=
      exists_turn_of_runs h
    · obtain ⟨turns, htakes, rfl, hends⟩ := ih hothers
      refine ⟨t :: turns, .cons hreported hsimulate htakes, rfl, ?_⟩
      rcases hends with ⟨hcompletes, rfl⟩ | ⟨stop, hstops, rfl⟩
      · exact .inl ⟨.cons hstop hcompletes, rfl⟩
      · exact .inr ⟨stop, .later hstop hstops, rfl⟩
    · exact ⟨[t], .cons hreported hsimulate (.nil _ _), rfl, .inr ⟨stop, .here hstop, rfl⟩⟩

/-- As no simulation leaves a trace, each one in a batch goes as it would go by itself. -/
theorem TakesTurns.alone {host : Host} {q' : Stage} (hname : IsInner s.configFileName)
    (h : s.TakesTurns (Stage.Answers Eq) b total index ⟨host, []⟩ turns q')
    (hnoted : ∀ t ∈ turns.dropLast, t.stop? = none) : ∀ t ∈ turns, ∃ q₂,
      Job.Runs (Stage.Answers Eq) (s.simulateRule t.rule b.workspace b.base (b.optins.contains t.rule)) ⟨host, []⟩
        t.events t.ended q₂ := by
  generalize hq : (⟨host, []⟩ : Stage) = q at h ⊢
  induction h with
  | nil index q => exact fun _ ht => nomatch ht
  | @cons index q q₁ q₂ q' t turns reported runs others ih =>
    subst hq
    obtain rfl : q₁ = ⟨host, []⟩ := by
      split at reported
      · exact Stage.eq_of_answers_idle rfl reported
      · exact reported
    refine List.forall_mem_cons.mpr ⟨⟨q₂, runs⟩, ?_⟩
    cases turns with
    | nil => exact fun _ ht => nomatch ht
    | cons next turns =>
      rw [List.dropLast_cons_of_ne_nil (List.cons_ne_nil next turns)] at hnoted
      obtain ⟨ht, hrest⟩ := List.forall_mem_cons.mp hnoted
      obtain rfl := eq_of_runs_simulateRule hname runs (Turn.ne_cancelled ht)
      exact ih hrest rfl

end Simulator

/-! ### What is told of turns -/

/-- A batch result tells how turns have ended: the results in their order, and the last failure of each rule that has
failed. The results without violations and those with some are the two parts of all results. -/
structure BatchResult.Sums (batch : BatchResult) (turns : List Turn) : Prop where
  results : batch.results = turns.filterMap Turn.result?
  failed : (batch.failures.map (·.1)).Nodup
  message : ∀ id, valueUnder? id batch.failures =
    (((turns.filterMap Turn.failure?).filter fun f => f.1 = id).getLast?).map (·.2)
  safe : batch.safeRules.Sublist batch.results ∧ ∀ r ∈ batch.safeRules, r.violations = []
  violating : batch.rulesWithViolations.Sublist batch.results ∧ ∀ r ∈ batch.rulesWithViolations, r.violations ≠ []
  parts : (batch.safeRules ++ batch.rulesWithViolations).Perm batch.results

theorem Turn.foldl_addTo (turns : List Turn) (sofar : Simulator.Tally) :
    turns.foldl (fun sofar t => t.addTo sofar) sofar =
      (sofar.1 ++ turns.filterMap Turn.result?,
        (turns.filterMap Turn.failure?).foldl (fun acc e => putEntry e.1 e.2 acc) sofar.2) := by
  induction turns generalizing sofar with
  | nil => rw [List.filterMap_nil, List.append_nil]; rfl
  | cons t turns ih =>
    rw [List.foldl_cons, ih, addTo, List.filterMap_cons, List.filterMap_cons]
    cases t.result? <;> cases t.failure? <;> simp

theorem BatchResult.sums_of_turns {batch : BatchResult} {turns : List Turn}
    (h : (batch.results, batch.failures) = turns.foldl (fun sofar t => t.addTo sofar) ([], [])) : batch.Sums turns := by
  rw [Turn.foldl_addTo] at h
  obtain ⟨hresults, hfailures⟩ := Prod.mk.inj h
  have hcollected : batch.failures = collectEntries (turns.filterMap Turn.failure?) := hfailures
  have hviolating : batch.rulesWithViolations = batch.results.filter fun r => !r.isSafe := rfl
  refine ⟨hresults, ?_, fun id => ?_, ⟨List.filter_sublist, fun r hr => ?_⟩, ⟨List.filter_sublist, fun r hr => ?_⟩, ?_⟩
  · rw [hcollected]
    exact (collectEntries_spec _).1
  · rw [hcollected, valueUnder?_collectEntries]
  · exact List.isEmpty_iff.mp (List.mem_filter.mp hr).2
  · intro hnil
    have hsome := (List.mem_filter.mp hr).2
    rw [SimulationResult.hasViolations, hnil] at hsome
    cases hsome
  · rw [hviolating]
    exact List.filter_append_perm _ _

/-- How a batch ends for its turns, with what it asks behind them. -/
inductive BatchEnds (rules : List Text) (turns : List Turn) : List ServiceEvent → Except Stop BatchResult → Prop where
  /-- All rules have had their turn. -/
  | completed {batch : BatchResult} (completes : Completes rules turns) (stop : Nat) (m : Moment)
      (sums : batch.Sums turns) : BatchEnds rules turns [⟨.clock, stop⟩, ⟨.now, m⟩] (.ok batch)
  /-- A turn has stopped the batch. -/
  | stopped {stop : Stop} (stops : Stops rules turns stop) : BatchEnds rules turns [] (.error stop)

namespace Simulator

theorem exists_of_runs_simulateRules {σ : Type} {w : World ServiceAct ServiceAct.Reply σ} {q q' : σ}
    {events : List ServiceEvent} {s : Simulator} {b : Batch} {rules : List Text} {e : Except Stop BatchResult}
    (h : Job.Runs w (s.simulateRules b rules) q events e q') :
    ∃ start turns behind q₁ q₂, w .clock q start q₁ ∧ s.TakesTurns w b rules.length 0 q₁ turns q₂ ∧
      events = ⟨.clock, start⟩ :: (b.eventsOf rules.length 0 turns ++ behind) ∧ BatchEnds rules turns behind e := by
  obtain ⟨start, q₁, events₁, hstart, hrest, rfl⟩ := (Job.runs_ask_bind_iff .clock id).mp h
  rcases Job.runs_bind_iff.mp hrest with ⟨tallied, q₂, events₂, events₃, hfrom, hend, rfl⟩ | ⟨stop, hfrom, rfl⟩
  · obtain ⟨turns, htakes, rfl, ⟨hcompletes, he⟩ | ⟨stop, -, he⟩⟩ := exists_of_runs_simulateFrom hfrom
    · cases he
      replace hend := (Job.runs_ask_bind_iff .clock id).mp hend
      obtain ⟨stop, q₃, events₄, -, hnow, rfl⟩ := hend
      obtain ⟨m, q₄, events₅, -, hpure, rfl⟩ := (Job.runs_ask_bind_iff .now id).mp hnow
      obtain ⟨rfl, rfl, rfl⟩ := Job.runs_pure_iff.mp hpure
      exact ⟨start, turns, _, q₁, q₂, hstart, htakes, rfl,
        .completed hcompletes stop m (BatchResult.sums_of_turns rfl)⟩
    · cases he
  · obtain ⟨turns, htakes, rfl, ⟨-, he⟩ | ⟨stop', hstops, he⟩⟩ := exists_of_runs_simulateFrom hfrom
    · cases he
    · cases he
      refine ⟨start, turns, [], q₁, q', hstart, htakes, ?_, .stopped hstops⟩
      rw [List.append_nil]

/-- How a batch goes that starts on a machine: it asks for the clock, then the rules take turns, and it ends for these.
Each turn is the simulation of its rule, whose result tells of this rule. It goes as it would go by itself on the machine
as it was before the batch, if the name of the configuration leads downwards. -/
structure BatchCourse (s : Simulator) (b : Batch) (rules : List Text) (host : Host) (turns : List Turn)
    (events : List ServiceEvent) (e : Except Stop BatchResult) : Prop where
  ends : ∃ start behind, events = ⟨.clock, start⟩ :: (b.eventsOf rules.length 0 turns ++ behind) ∧
    BatchEnds rules turns behind e
  runs : ∀ t ∈ turns, ∃ q₁ q₂, Job.Runs (Stage.Answers Eq)
    (s.simulateRule t.rule b.workspace b.base (b.optins.contains t.rule)) q₁ t.events t.ended q₂
  named : ∀ t ∈ turns, ∀ result, t.ended = .ok result → result.ruleId = t.rule
  alone : IsInner s.configFileName → ∀ t ∈ turns, ∃ q₂, Job.Runs (Stage.Answers Eq)
    (s.simulateRule t.rule b.workspace b.base (b.optins.contains t.rule)) ⟨host, []⟩ t.events t.ended q₂

theorem Course.ruleId_eq {s : Simulator} {rule : Text} {workspace : Path} {base : Option Path} {isOptin : Bool}
    {works : List ServiceEvent} {result : SimulationResult}
    (h : s.Course rule workspace base isOptin works (.ok result)) : result.ruleId = rule := by
  generalize he : (.ok result : Except Stop SimulationResult) = e at h
  cases h with
  | @reported b d works report result' enables lints reads named =>
    rw [announcing_of_ok he.symm] at he
    cases he
    exact named
  | _ => cases he

theorem findSafeRules_eq (s : Simulator) (b : Batch) (rules : List Text) : s.findSafeRules b rules =
    (s.simulateRules b rules >>= fun batch => pure (batch.safeRules.map (·.ruleId))) :=
  rfl

/-- Every batch comes to an end. The rules take turns in their order, each just after its report: it is simulated, as an
opt-in rule if it is among those of the batch, until one cannot be noted, or up to the last one. The result tells how they
have ended. The safe rules of the same batch are those of its result. -/
theorem runs_simulateRules (s : Simulator) (b : Batch) (rules : List Text) (host : Host) :
    (∃ events e q', Job.Runs (Stage.Answers Eq) (s.simulateRules b rules) ⟨host, []⟩ events e q') ∧
    (∀ events e q', Job.Runs (Stage.Answers Eq) (s.simulateRules b rules) ⟨host, []⟩ events e q' →
      ∃ turns, s.BatchCourse b rules host turns events e) ∧
    ∀ events e q', Job.Runs (Stage.Answers Eq) (s.findSafeRules b rules) ⟨host, []⟩ events e q' ↔
      ∃ e₁, Job.Runs (Stage.Answers Eq) (s.simulateRules b rules) ⟨host, []⟩ events e₁ q' ∧
        e = e₁.map fun batch => batch.safeRules.map (·.ruleId) := by
  refine ⟨Program.exists_runs (Stage.isTotal_answers fun _ => rfl) _ _, ?_, ?_⟩
  · intro events e q' h
    obtain ⟨start, turns, behind, q₁, q₂, hstart, htakes, hevents, hends⟩ := exists_of_runs_simulateRules h
    have hruns := htakes.exists_runs
    obtain rfl := Stage.eq_of_answers_idle rfl hstart
    have hnoted : ∀ t ∈ turns.dropLast, t.stop? = none := by
      cases hends with
      | completed completes => exact fun t ht => completes.noted t (List.mem_of_mem_dropLast ht)
      | stopped stops => exact stops.noted
    refine ⟨turns, ⟨start, behind, hevents, hends⟩, hruns, fun t ht result hresult => ?_, fun hname => ?_⟩
    · obtain ⟨q₃, q₄, hrun⟩ := hruns t ht
      rw [hresult] at hrun
      exact (course_of_runs hrun).ruleId_eq
    · exact htakes.alone hname hnoted
  · intro events e q'
    rw [findSafeRules_eq, Job.runs_bind_iff]
    constructor
    · rintro (⟨batch, q₁, events₁, events₂, hbatch, hend, rfl⟩ | ⟨stop, hbatch, rfl⟩)
      · obtain ⟨rfl, rfl, rfl⟩ := Job.runs_pure_iff.mp hend
        rw [List.append_nil]
        exact ⟨_, hbatch, rfl⟩
      · exact ⟨_, hbatch, rfl⟩
    · rintro ⟨batch | stop, hbatch, rfl⟩
      · exact .inr ⟨_, hbatch, rfl⟩
      · exact .inl ⟨_, q', events, [], hbatch, Job.runs_pure_iff.mpr ⟨rfl, rfl, rfl⟩, (List.append_nil events).symm⟩

/-- A machine whose lint tool fails for a reason that cannot be shown. -/
def unshownLint : Rehearsal where
  host := bareHost
  tool := .scripted { lint := [.fails (.toolFailed (Text.ofList [.ofNat 0xD800]) none "")] }

/-- When the reason cannot be shown for which a rule has failed, the batch ends with it, although each of its rules by
itself ends with a failure of the services' own. -/
theorem run_simulateRules_unshown :
    ((Rehearsal.run (({} : Simulator).simulateRules { workspace := Path.ofString "/app" } ["a", "b"]) unshownLint).1
      matches .error (.failed (.unencodable _))) = true ∧
    ∀ rule ∈ (["a", "b"] : List Text),
      ((Rehearsal.run (({} : Simulator).simulateRule rule (Path.ofString "/app") none false) unshownLint).1
        matches .error (.failed (.toolFailed ..))) = true := by
  decide +kernel

end Simulator

end LintPreview
