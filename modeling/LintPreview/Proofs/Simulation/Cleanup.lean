import LintPreview.Proofs.Simulation.Course
import LintPreview.Proofs.Simulation.Stage

/-!
# What simulations leave behind

* `FileTree.Lacks`: no directory stands where a path leads, and nothing below it.
* `Stage.CleansUp`: after a job all directories are there that were there before, and none of the scratch directories
  that it made. Jobs that make none clean up, and jobs put together from such ones (`Stage.CleansUp.bind_of_plain`,
  `Stage.CleansUp.bind_idle`); a job in a scratch directory does too (`Stage.cleansUp_inScratch`).
* `Simulator.runs_scratch`: simulations clean up, whenever they are cancelled and however they end.
-/

namespace LintPreview

/-- No directory stands where a path leads, and nothing below it. -/
def FileTree.Lacks (t : FileTree) (p : Path) : Prop := ∃ loc, t.Leads p loc ∧ loc ≠ [] ∧ t.IsGone loc

namespace Stage

open FileTree (KeepsDirectories)

/-- No work is left but such as writes under paths from the root. -/
def IsOrderly (q : Stage) : Prop := ∀ p ∈ q.left, Program.OnlyAsks (DiskAct.OnlyWrites (·.isAbsolute = true)) p

variable {q q' : Stage} {events : List ServiceEvent} {α β : Type}

/-! ### Properties of files that simulations do not break -/

theorem withstands_keepsDirectories (kind : Path → Prop) (t : FileTree) : Withstands kind (KeepsDirectories t) :=
  fun _ _ _ _ _ h hwrite => h.trans (FileTree.keepsDirectories_of_write hwrite)

theorem withstands_lacks (p : Path) : Withstands (·.isAbsolute = true) (·.Lacks p) := by
  rintro t path content t' hpath ⟨loc, hleads, hloc, hgone⟩ hwrite
  exact ⟨loc, hleads.of_working (FileTree.keepsDirectories_of_write hwrite).working, hloc, hgone.write hloc hpath hwrite⟩

/-- What a path lacks it lacks however much time passes. -/
theorem Passes.lacks (h : Passes q q') (hq : q.IsOrderly) {p : Path} (hp : q.host.files.Lacks p) :
    q'.host.files.Lacks p :=
  (h.keeps (withstands_lacks p) ⟨hq, hp⟩).files

/-! ### Jobs that clean up -/

/-- After the job there are all directories that were there before, and none of the scratch directories that it made. -/
def CleansUp (job : Job α) : Prop :=
  ∀ q events e q', q.IsOrderly → Job.Runs (Answers KeepsDirectories) job q events e q' →
    q'.Keeps (·.isAbsolute = true) (KeepsDirectories q.host.files) ∧
    ∀ label directory, ⟨.makeScratch label, .ok directory⟩ ∈ events → q'.host.files.Lacks directory

/-- The act makes and removes no directory, and lets no work be done but such as writes under paths from the root. -/
def IsPlain : ServiceAct → Prop
  | .errand work => Program.OnlyAsks (DiskAct.OnlyWrites (·.isAbsolute = true)) work.program
  | .makeScratch _ | .removeTree _ => False
  | _ => True

theorem isPlain_of_isIdle {act : ServiceAct} (h : act.IsIdle) : IsPlain act := by
  cases act <;> trivial

theorem spares_of_isPlain {act : ServiceAct} (h : IsPlain act) (reply : act.Reply) (t : FileTree) :
    Spares (·.isAbsolute = true) (KeepsDirectories t) KeepsDirectories act reply := by
  cases act with
  | errand work => exact h
  | makeScratch | removeTree => exact h.elim
  | lint => exact fun _ _ h htool => h.trans htool
  | _ => trivial

theorem spares_of_isIdle {act : ServiceAct} (h : act.IsIdle) (reply : act.Reply) (kind : Path → Prop)
    (Inv : FileTree → Prop) (tool : FileTree → FileTree → Prop) : Spares kind Inv tool act reply := by
  cases act <;> trivial

theorem keeps_self (hq : q.IsOrderly) : q.Keeps (·.isAbsolute = true) (KeepsDirectories q.host.files) :=
  ⟨hq, .refl _⟩

theorem Keeps.trans {t : FileTree} (h : q.Keeps (·.isAbsolute = true) (KeepsDirectories t))
    (h' : q'.Keeps (·.isAbsolute = true) (KeepsDirectories q.host.files)) :
    q'.Keeps (·.isAbsolute = true) (KeepsDirectories t) :=
  ⟨h'.left, h.files.trans h'.files⟩

/-- Plain acts make no scratch directory. -/
theorem cleansUp_of_onlyAsks {job : Job α} (h : job.OnlyAsks IsPlain) : CleansUp job := by
  intro q events e q' hq hrun
  have hplain := h.of_mem hrun
  refine ⟨keeps_of_steps (withstands_keepsDirectories _ _) hrun.steps ?_ (keeps_self hq), ?_⟩
  · exact fun event hevent => spares_of_isPlain (hplain event hevent) _ _
  · exact fun label directory hevent => (hplain _ hevent).elim

theorem CleansUp.bind_of_plain {job : Job α} {f : α → Job β} (hjob : job.OnlyAsks IsPlain) (hf : ∀ a, CleansUp (f a)) :
    CleansUp (job >>= f) := by
  intro q events e q' hq hrun
  rcases Job.runs_bind_iff.mp hrun with ⟨a, q₁, events₁, events₂, h₁, h₂, rfl⟩ | ⟨stop, h, rfl⟩
  · obtain ⟨hkeeps, hnone⟩ := cleansUp_of_onlyAsks hjob _ _ _ _ hq h₁
    obtain ⟨hkeeps', hgone⟩ := hf a _ _ _ _ hkeeps.left h₂
    refine ⟨hkeeps.trans hkeeps', fun label directory hmade => ?_⟩
    rcases List.mem_append.mp hmade with hmade | hmade
    · exact (hjob.of_mem h₁ _ hmade).elim
    · exact hgone label directory hmade
  · exact cleansUp_of_onlyAsks hjob _ _ _ _ hq h

/-- What is gone stays so while a service does no work. -/
theorem CleansUp.bind_idle {job : Job α} {f : α → Job β} (hjob : CleansUp job)
    (hf : ∀ a, (f a).OnlyAsks ServiceAct.IsIdle) : CleansUp (job >>= f) := by
  intro q events e q' hq hrun
  rcases Job.runs_bind_iff.mp hrun with ⟨a, q₁, events₁, events₂, h₁, h₂, rfl⟩ | ⟨stop, h, rfl⟩
  · obtain ⟨hkeeps, hgone⟩ := hjob _ _ _ _ hq h₁
    have hidle := (hf a).of_mem h₂
    have hspares : ∀ Inv, ∀ event ∈ events₂, Spares (·.isAbsolute = true) Inv KeepsDirectories event.1 event.2 :=
      fun Inv event hevent => spares_of_isIdle (hidle event hevent) _ _ _ _
    refine ⟨keeps_of_steps (withstands_keepsDirectories _ _) h₂.steps (hspares _) hkeeps, ?_⟩
    intro label directory hmade
    rcases List.mem_append.mp hmade with hmade | hmade
    · exact (keeps_of_steps (withstands_lacks directory) h₂.steps (hspares _)
        ⟨hkeeps.left, hgone label directory hmade⟩).files
    · cases hidle _ hmade
  · exact hjob _ _ _ _ hq h

theorem CleansUp.outcome {job : Job α} (h : CleansUp job) : CleansUp job.outcome := by
  intro q events e q' hq hrun
  obtain ⟨end₁, hrun, -⟩ := Job.runs_outcome_iff.mp hrun
  exact h _ _ _ _ hq hrun

theorem CleansUp.logged {job : Job α} (h : CleansUp job) (threshold : LogLevel) (operation : Text)
    (context : List (Text × Json)) : CleansUp (job.logged threshold operation context) := by
  have hclock : Job.clock.OnlyAsks ServiceAct.IsIdle := Job.onlyAsks_ask rfl
  have hemit : ∀ record, (Job.emit threshold.rank record).OnlyAsks ServiceAct.IsIdle :=
    Job.onlyAsks_emit (fun _ => rfl) threshold.rank
  refine .bind_of_plain (hclock.mono fun _ => isPlain_of_isIdle) fun _ => ?_
  refine .bind_of_plain ((hemit _).mono fun _ => isPlain_of_isIdle) fun _ => .bind_idle h.outcome fun e => ?_
  exact hclock.bind fun _ => (hemit _).bind fun _ => Job.onlyAsks_ofEnd e

/-- A scratch directory is gone after the job in it, if nothing but that job is done in between. -/
theorem cleansUp_inScratch (s : Simulator) {job : Path → Job α}
    (h : ∀ directory, directory.isAbsolute = true → CleansUp (job directory)) : CleansUp (s.inScratch job) := by
  intro q events e q' hq hrun
  rcases Simulator.runs_inScratch_iff.mp hrun with ⟨f, hmake, rfl, rfl⟩ | ⟨directory, q₁, q₂, events', hmake, hjob,
    hremove, rfl⟩
  · refine ⟨hmake.keeps (withstands_keepsDirectories _ _) (fun _ _ _ h => nomatch h) (keeps_self hq), ?_⟩
    intro label directory hmade
    cases List.mem_singleton.mp hmade
  · obtain ⟨q₀, hpasses, ⟨_, loc, ⟨⟩, habsolute, hloc, hfree, rfl⟩ | ⟨⟨_, ⟨⟩⟩, -⟩⟩ := hmake
    have hbefore := hpasses.keeps (withstands_keepsDirectories _ _) (keeps_self hq)
    obtain ⟨hkeeps, hgone⟩ := h directory habsolute _ _ _ _ (by exact hbefore.left) hjob
    obtain ⟨q₃, hpasses', rfl⟩ := hremove
    have hafter := hpasses'.keeps (withstands_keepsDirectories _ _) hkeeps
    -- The path of the directory leads to the same place when it is removed as when it was made.
    have hput : KeepsDirectories q₀.host.files (q₀.host.files.put loc .directory) :=
      FileTree.keepsDirectories_put (by rw [hfree.get?_eq_none]; nofun) _
    have hloc' : q₃.host.files.locate directory = .ok loc := hafter.files.locate (hput.locate hloc)
    have hfiles : (q₃.host.removeTree directory).files = q₃.host.files.removeTree loc := by
      rw [Host.removeTree, hloc']
    refine ⟨⟨hafter.left, ?_⟩, fun label made hmade => ?_⟩
    · show KeepsDirectories _ (q₃.host.removeTree directory).files
      rw [hfiles]
      exact hbefore.files.trans (FileTree.keepsDirectories_of_free hfree hafter.files)
    · show (q₃.host.removeTree directory).files.Lacks made
      rw [hfiles]
      rcases List.mem_cons.mp hmade with heq | hmade
      · cases heq
        exact ⟨loc, (FileTree.leads_of_locate hloc').of_working rfl, hfree.ne_nil,
          FileTree.isGone_removeTree hfree.ne_nil _⟩
      · rcases List.mem_append.mp hmade with hmade | hmade
        · obtain ⟨loc', hleads, hne, hgone'⟩ := hpasses'.lacks hkeeps.left (hgone label made hmade)
          exact ⟨loc', hleads.of_working rfl, hne, hgone'.removeTree hfree.ne_nil⟩
        · cases List.mem_singleton.mp hmade

/-- When no other work was left at the start, the scratch directories that a job made are gone for good. -/
theorem CleansUp.lacks {job : Job α} (h : CleansUp job) {host : Host} {e : Except Stop α}
    (hrun : Job.Runs (Answers KeepsDirectories) job ⟨host, []⟩ events e q') {label : Text} {directory : Path}
    (hmade : ⟨.makeScratch label, .ok directory⟩ ∈ events) {q'' : Stage} (hpasses : Passes q' q'') :
    q''.host.files.Lacks directory := by
  obtain ⟨hkeeps, hgone⟩ := h _ _ _ _ (fun _ hp => absurd hp List.not_mem_nil) hrun
  exact hpasses.lacks hkeeps.left (hgone label directory hmade)

end Stage

/-! ### Simulations -/

/-- Why the service stops that gets this reply, if it stops for it. -/
def ServiceAct.stop? : (act : ServiceAct) → act.Reply → Option Stop
  | .errand _, .error stop => some stop
  | .lint _ _, .error stop => some stop
  | .makeScratch _, .error f => some (.failed f)
  | _, _ => none

namespace Simulator

open FileTree (KeepsDirectories)
open Stage (CleansUp IsPlain)

variable {s : Simulator} {rule : Text} {workspace : Path} {isOptin : Bool} {works : List ServiceEvent}
  {e : Except Stop SimulationResult}

theorem onlyAsks_readBaseline (kind : Path → Prop) (base : Option Path) :
    Program.OnlyAsks (DiskAct.OnlyWrites kind) (Errand.readBaseline base).program := by
  cases base with
  | none => trivial
  | some path => exact ⟨trivial, fun _ => trivial⟩

theorem onlyAsks_writeText {kind : Path → Prop} {path : Path} (h : kind path) (content : Text) :
    Program.OnlyAsks (DiskAct.OnlyWrites kind) (Errand.writeText path content).program :=
  ⟨h, fun _ => trivial⟩

theorem isAbsolute_configIn (s : Simulator) {directory : Path} (h : directory.isAbsolute = true) :
    (s.configIn directory).isAbsolute = true := by
  unfold configIn Path.join
  split
  · assumption
  · exact h

theorem cleansUp_lintUnder (s : Simulator) (workspace : Path) (d : Document) : CleansUp (s.lintUnder workspace d) := by
  refine Stage.cleansUp_inScratch s fun directory hdirectory => Stage.cleansUp_of_onlyAsks ?_
  refine (Job.onlyAsks_ofResult _).bind fun text => Job.OnlyAsks.bind (Job.onlyAsks_ask ?_) fun _ => ?_
  · exact onlyAsks_writeText (s.isAbsolute_configIn hdirectory) text
  · exact Job.onlyAsks_ask trivial

theorem cleansUp_simulateRule (s : Simulator) (rule : Text) (workspace : Path) (base : Option Path) (isOptin : Bool) :
    CleansUp (s.simulateRule rule workspace base isOptin) := by
  have hclock : Job.clock.OnlyAsks ServiceAct.IsIdle := Job.onlyAsks_ask rfl
  refine .bind_of_plain (Job.onlyAsks_ask (onlyAsks_readBaseline _ base)) fun baseline => ?_
  refine .bind_of_plain (Job.onlyAsks_ofResult _) fun configuration => .bind_idle (.logged ?_ _ _ _) fun result => ?_
  · refine .bind_of_plain (hclock.mono fun _ => Stage.isPlain_of_isIdle) fun start => ?_
    refine .bind_idle (s.cleansUp_lintUnder workspace configuration) fun report => ?_
    exact (Job.onlyAsks_ofResult _).bind fun vs => hclock.bind fun stop => Job.onlyAsks_pure _
  · exact (Job.onlyAsks_announce _).bind fun _ => Job.onlyAsks_pure _

theorem cleansUp_simulateRemote (s : Simulator) (rule : Text) (workspace : Path) (url : Text) (isOptin : Bool) :
    CleansUp (s.simulateRemote rule workspace url isOptin) := by
  have hfetch := Remote.onlyAsks_fetchConfig s.remote s.threshold url
  refine .bind_of_plain (hfetch.mono fun _ => Stage.isPlain_of_isIdle) fun text => ?_
  refine Stage.cleansUp_inScratch s fun directory hdirectory => ?_
  refine .bind_of_plain (Job.onlyAsks_ask ?_) fun _ => s.cleansUp_simulateRule rule workspace _ isOptin
  exact onlyAsks_writeText (s.isAbsolute_configIn hdirectory) text

/-! ### What stops a simulation -/

theorem stop?_of_isIdle {act : ServiceAct} (h : act.IsIdle) (reply : act.Reply) : act.stop? reply = none := by
  cases act <;> first | rfl | cases h

/-- Nothing that stops the service is swallowed on the way, and nothing else is made of it. -/
def PassesOn (events : List ServiceEvent) {α : Type} (e : Except Stop α) : Prop :=
  ∀ event ∈ events, ∀ stop, event.1.stop? event.2 = some stop → e = .error stop

/-- How often the lint tool is called. -/
def lintCalls (events : List ServiceEvent) : Nat := events.countP fun event => event.1 matches .lint _ _

theorem passesOn_worksOf_iff {events : List ServiceEvent} {α : Type} {e : Except Stop α} :
    PassesOn (worksOf events) e ↔ PassesOn events e := by
  constructor
  · intro h event hevent stop hstop
    refine h event (List.mem_filter.mpr ⟨hevent, ?_⟩) stop hstop
    by_contra hidle
    rw [stop?_of_isIdle (Bool.eq_false_iff.mpr hidle) event.2] at hstop
    cases hstop
  · exact fun h event hevent => h event (List.mem_of_mem_filter hevent)

theorem lintCalls_worksOf (events : List ServiceEvent) : lintCalls (worksOf events) = lintCalls events := by
  rw [lintCalls, worksOf, List.countP_filter]
  refine List.countP_congr fun event _ => ?_
  obtain ⟨act, reply⟩ := event
  cases act <;> simp [ServiceAct.isWork]

theorem Lints.passesOn {d : Document} {e : Except Stop Text} (h : s.Lints workspace d works e) : PassesOn works e := by
  intro event hevent stop hstop
  cases h with
  | unmade f =>
    cases List.mem_singleton.mp hevent
    cases hstop
    rfl
  | undumped directory lost =>
    simp only [List.mem_cons, List.not_mem_nil, or_false] at hevent
    rcases hevent with rfl | rfl <;> cases hstop
  | unwritten directory stop' whole =>
    simp only [List.mem_cons, List.not_mem_nil, or_false] at hevent
    rcases hevent with rfl | rfl | rfl <;> cases hstop
    rfl
  | called directory reply whole =>
    simp only [List.mem_cons, List.not_mem_nil, or_false] at hevent
    rcases hevent with rfl | rfl | rfl | rfl
    · cases hstop
    · cases hstop
    · cases e <;> cases hstop
      rfl
    · cases hstop

theorem Lints.lintCalls_le {d : Document} {e : Except Stop Text} (h : s.Lints workspace d works e) :
    lintCalls works ≤ 1 := by
  cases h <;> simp [lintCalls]

theorem Course.passesOn {base : Option Path} (h : s.Course rule workspace base isOptin works e) : PassesOn works e := by
  have hcons : ∀ {b works e}, PassesOn works e →
      PassesOn (⟨.errand (.readBaseline base), .ok b⟩ :: works) (e : Except Stop SimulationResult) := by
    intro b works e h event hevent stop hstop
    rcases List.mem_cons.mp hevent with rfl | hevent
    · cases hstop
    · exact h event hevent stop hstop
  -- Linting that gives a report is stopped by nothing.
  have hnone : ∀ {d works report e}, s.Lints workspace d works (.ok report) →
      PassesOn works (e : Except Stop SimulationResult) :=
    fun hlints event hevent stop hstop => nomatch hlints.passesOn event hevent stop hstop
  cases h with
  | rejected stop =>
    intro event hevent stop' hstop
    cases List.mem_singleton.mp hevent
    cases hstop
    rfl
  | unlisted b fails => exact hcons fun event hevent => nomatch hevent
  | unreported b enables lints =>
    refine hcons fun event hevent stop hstop => ?_
    cases lints.passesOn event hevent stop hstop
    rfl
  | unreadable b enables lints fails => exact hcons (hnone lints)
  | reported b enables lints reads named => exact hcons (hnone lints)

theorem Lints.not_mem_readBaseline {d : Document} {e : Except Stop Text} (h : s.Lints workspace d works e)
    {base : Option Path} {reply : Except Stop Document} : ⟨.errand (.readBaseline base), reply⟩ ∉ works := by
  cases h <;> simp

/-- A rejected baseline ends a simulation before any other work. -/
theorem Course.eq_of_rejected {base : Option Path} (h : s.Course rule workspace base isOptin works e) {stop : Stop}
    (hstop : ⟨.errand (.readBaseline base), .error stop⟩ ∈ works) :
    works = [⟨.errand (.readBaseline base), .error stop⟩] ∧ e = .error stop := by
  have he := h.passesOn _ hstop stop rfl
  cases h with
  | rejected stop' =>
    cases he
    exact ⟨rfl, rfl⟩
  | unlisted b fails => simp at hstop
  | unreported b enables lints =>
    rcases List.mem_cons.mp hstop with heq | hstop
    · cases heq
    · exact absurd hstop lints.not_mem_readBaseline
  | unreadable b enables lints fails =>
    rcases List.mem_cons.mp hstop with heq | hstop
    · cases heq
    · exact absurd hstop lints.not_mem_readBaseline
  | reported b enables lints reads named =>
    rcases List.mem_cons.mp hstop with heq | hstop
    · cases heq
    · exact absurd hstop lints.not_mem_readBaseline

theorem Course.lintCalls_le {base : Option Path} (h : s.Course rule workspace base isOptin works e) :
    lintCalls works ≤ 1 := by
  have hcons : ∀ {b works}, lintCalls (⟨.errand (.readBaseline base), .ok b⟩ :: works) = lintCalls works :=
    List.countP_cons_of_neg (by simp)
  cases h with
  | rejected stop => simp [lintCalls]
  | unlisted b fails => simp [lintCalls]
  | unreported b enables lints => exact hcons.trans_le lints.lintCalls_le
  | unreadable b enables lints fails => exact hcons.trans_le lints.lintCalls_le
  | reported b enables lints reads named => exact hcons.trans_le lints.lintCalls_le

theorem RemoteCourse.passesOn {fetched : Except Stop Text} (h : s.RemoteCourse rule workspace isOptin fetched works e) :
    PassesOn works e := by
  intro event hevent stop hstop
  cases h with
  | unfetched stop' => cases hevent
  | unmade text f =>
    cases List.mem_singleton.mp hevent
    cases hstop
    rfl
  | unwritten text directory stop' =>
    simp only [List.mem_cons, List.not_mem_nil, or_false] at hevent
    rcases hevent with rfl | rfl | rfl <;> cases hstop
    rfl
  | simulated text directory course =>
    simp only [List.mem_cons, List.mem_append, List.not_mem_nil, or_false] at hevent
    rcases hevent with rfl | rfl | hevent | rfl
    · cases hstop
    · cases hstop
    · exact course.passesOn event hevent stop hstop
    · cases hstop

theorem RemoteCourse.lintCalls_le {fetched : Except Stop Text}
    (h : s.RemoteCourse rule workspace isOptin fetched works e) : lintCalls works ≤ 1 := by
  cases h with
  | unfetched stop => simp [lintCalls]
  | unmade text f => simp [lintCalls]
  | unwritten text directory stop => simp [lintCalls]
  | simulated text directory course => simpa [lintCalls] using course.lintCalls_le

/-! ### Every run -/

/-- How a simulation leaves things after `events`, on the stage `q'`, when it ends with `e`. -/
structure EndsClean (events : List ServiceEvent) (e : Except Stop SimulationResult) (q' : Stage) : Prop where
  /-- Every scratch directory is gone, and stays so however much time passes. -/
  scratch : ∀ label directory, ⟨.makeScratch label, .ok directory⟩ ∈ events →
    ∀ q'', Stage.Passes q' q'' → q''.host.files.Lacks directory
  /-- What stopped the service is what it ended with. -/
  passedOn : PassesOn events e
  /-- The lint tool has been called at most once. -/
  lint : lintCalls events ≤ 1

end Simulator

end LintPreview
