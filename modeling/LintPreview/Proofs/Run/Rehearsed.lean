import LintPreview.Proofs.Files.Tree
import LintPreview.Proofs.Schema.Time
import LintPreview.Rehearsal

/-!
# What is rehearsed can happen

* `Program.passes`: every answer along a run passes a check. If the check lets only answers of a world through, the run
  is one in this world (`Program.runs_of_passes`).
* `Rehearsal.runs_of_passes`: what a rehearsal does can happen to a service that nobody cancels.
-/

namespace LintPreview

namespace Program

variable {A : Type} {R : A → Type} {α σ τ : Type} {w : World A R τ}

/-- Whether every act along the run of a program passes a check in the state in which it is asked. -/
def passes (answer : (act : A) → σ → R act × σ) (check : A → σ → Bool) : Program A R α → σ → Bool
  | .done _, _ => true
  | .ask act next, s => check act s && (next (answer act s).1).passes answer check (answer act s).2

/-- If only answers of a world pass the check, then what passes is a run in this world. -/
theorem runs_of_passes {answer : (act : A) → σ → R act × σ} {check : A → σ → Bool} {view : σ → τ}
    (hcheck : ∀ act s, check act s = true → w act (view s) (answer act s).1 (view (answer act s).2))
    {p : Program A R α} {s : σ} (h : p.passes answer check s = true) :
    ∃ events, Runs w p (view s) events (p.run answer s).1 (view (p.run answer s).2) := by
  induction p generalizing s with
  | done a => exact ⟨[], .done a (view s)⟩
  | ask act next ih =>
    rw [passes, Bool.and_eq_true] at h
    obtain ⟨events, goesOn⟩ := ih _ h.2
    exact ⟨⟨act, _⟩ :: events, .ask (hcheck act s h.1) goesOn⟩

end Program

/-! ### Disks -/

namespace Host

/-- Whether the moment is one on a day of the calendar in universal time. -/
def isUniversalMoment : Moment → Bool
  | .time d c (some 0) =>
    decide (1 ≤ d.year ∧ d.year ≤ 9999) && decide (1 ≤ d.month ∧ d.month ≤ 12) &&
      decide (1 ≤ d.day ∧ d.day ≤ Day.monthLength d.year d.month) && decide (c.hour < 24) && decide (c.minute < 60) &&
      decide (c.second < 60) && decide (c.micro < 1000000)
  | _ => false

/-- Whether a file is made for a while under a path where nothing was. -/
def isFree (t : FileTree) : Except PathFault (Text × FileTree) → Bool
  | .ok (path, _) =>
    match t.locate (Path.ofString path) with
    | .ok loc => (t.get? loc).isNone
    | .error _ => false
  | .error _ => true

/-- Whether the answer of a host to an act is one of a disk. -/
def passes : DiskAct → Host → Bool
  | .now, h => isUniversalMoment h.moment
  | .makeTemporary directory, h => isFree h.files (makeTemporary h.files directory)
  | _, _ => true

theorem isUniversal_of_isUniversalMoment {m : Moment} (h : isUniversalMoment m = true) : m.IsUniversal := by
  unfold isUniversalMoment at h
  split at h
  · simp only [Bool.and_eq_true, decide_eq_true_eq] at h
    obtain ⟨⟨⟨⟨⟨⟨year, month⟩, day⟩, hour⟩, minute⟩, second⟩, micro⟩ := h
    exact .time year month day hour minute second micro
  · cases h

theorem answers_of_passes (flaky : Bool) {act : DiskAct} {h : Host} (hpasses : passes act h = true) :
    Answers flaky act h (answerDisk act h).1 (answerDisk act h).2 := by
  cases act with
  | now => exact ⟨isUniversal_of_isUniversalMoment hpasses, rfl⟩
  | read path => exact ⟨rfl, .inl rfl⟩
  | makeDirectories path => exact .inl rfl
  | makeTemporary directory =>
    rw [answerDisk]
    rw [passes] at hpasses
    cases hmake : makeTemporary h.files directory with
    | error fault => exact .inr ⟨⟨fault, rfl⟩, rfl⟩
    | ok made =>
      obtain ⟨path, files⟩ := made
      rw [hmake, isFree] at hpasses
      cases hloc : h.files.locate (Path.ofString path) with
      | error fault =>
        rw [hloc] at hpasses
        cases hpasses
      | ok loc =>
        simp only [hloc, Option.isNone_iff_eq_none] at hpasses
        obtain ⟨directoryLoc, -, hwrite⟩ := exists_of_bind_ok hmake
        obtain ⟨files', hwrite, hend⟩ := exists_of_bind_ok hwrite
        cases hend
        have hput : files = h.files.put loc (.file [] false) := by
          rw [FileTree.write] at hwrite
          simp only [hloc, bind, Except.bind, hpasses] at hwrite
          cases hwrite
          rfl
        subst hput
        exact .inl ⟨Moment.pad 8 _, loc, Moment.not_mem_pad (by decide) 8 _, rfl, hloc, hpasses, rfl⟩
  | write path content => exact .inl rfl
  | replace source target => exact .inl rfl
  | remove path => exact .inl rfl

end Host

namespace Rehearsal

/-- The workplace of a rehearsal. -/
def place (r : Rehearsal) : Workplace := ⟨r.catalog, r.host⟩

/-- Whether a reply cancels the job that waits for it. -/
def isCancelled {α : Type} : Except Stop α → Bool
  | .error .cancelled => true
  | _ => false

/-- Whether a reply of the network cancels the job that waits for it. -/
def isBrokenOff {α : Type} : Except TransportStop α → Bool
  | .error (.stopped .cancelled) => true
  | _ => false

/-- Whether a reply cancels no job that waits for it. -/
def isUncancelled : (act : ServiceAct) → act.Reply → Bool
  | .listRules, reply => !isCancelled reply
  | .version, reply => !isCancelled reply
  | .lint _ _, reply => !isCancelled reply
  | .awaitDetails, reply => !isCancelled reply
  | .send _, reply => !isBrokenOff reply
  | .receive _, reply => !isBrokenOff reply
  | .drain _, reply => !isBrokenOff reply
  | _, _ => true

/-- Whether the answer of a rehearsal to an act is one to a service that nobody cancels. -/
def passes : ServiceAct → Rehearsal → Bool
  | .errand work, r => work.program.passes Host.answerDisk Host.passes r.host
  | act, r => isUncancelled act (answer act r).1

theorem place_scriptedReply (r : Rehearsal) (script : ToolScript) (c : ToolCommand) :
    (r.scriptedReply script c).2.place = r.place := by
  cases c <;> rfl

theorem place_commandReply (r : Rehearsal) (c : ToolCommand) : (r.commandReply c).2.place = r.place := by
  unfold commandReply
  split
  · exact place_scriptedReply r _ c
  · rfl

theorem place_detailsReply (r : Rehearsal) : r.detailsReply.2.place = r.place := by
  unfold detailsReply
  split
  · rfl
  · rfl
  · rename_i place id rest htool hflight
    have hplace := r.place_commandReply (.details id)
    split
    all_goals
      rename_i hreply
      rw [hreply] at hplace
      exact hplace

theorem ne_cancelled {α : Type} {e : Except Stop α} (h : (!isCancelled e) = true) : e ≠ .error .cancelled := by
  rintro rfl
  cases h

theorem ne_stopped {α : Type} {e : Except TransportStop α} (h : (!isBrokenOff e) = true) :
    e ≠ .error (.stopped .cancelled) := by
  rintro rfl
  cases h

theorem place_answer_awaitDetails (r : Rehearsal) : (answer .awaitDetails r).2.place = r.place := by
  have hplace := r.place_detailsReply
  rw [answer]
  split
  all_goals
    rename_i hreply
    rw [hreply] at hplace
    exact hplace

theorem place_answer_send (r : Rehearsal) (url : Text) : (answer (.send url) r).2.place = r.place := by
  rw [answer]
  split
  rename_i response left hnext
  cases response <;> rfl

theorem answers_of_passes (flaky : Bool) {act : ServiceAct} {r : Rehearsal} (h : passes act r = true) :
    Workplace.Answers (Host.Answers flaky) act r.place (answer act r).1 (answer act r).2.place := by
  cases act with
  | errand work =>
    have hdisk : ∀ act host, Host.passes act host = true →
        Host.Answers flaky act (id host) (Host.answerDisk act host).1 (id (Host.answerDisk act host).2) :=
      fun _ _ => Host.answers_of_passes flaky
    obtain ⟨events, hruns⟩ := Program.runs_of_passes hdisk h
    exact ⟨events, _, hruns, rfl, rfl⟩
  | listRules => exact ⟨ne_cancelled h, r.place_commandReply .listRules⟩
  | version => exact ⟨ne_cancelled h, r.place_commandReply .version⟩
  | lint workspace config => exact ⟨ne_cancelled h, r.place_commandReply (.lint workspace config)⟩
  | awaitDetails => exact ⟨ne_cancelled h, r.place_answer_awaitDetails⟩
  | send url => exact ⟨ne_stopped h, r.place_answer_send url⟩
  | receive decoding => exact ⟨ne_stopped h, rfl⟩
  | drain decoding => exact ⟨ne_stopped h, rfl⟩
  | makeScratch label =>
    have hplace : r.place.host = r.host := rfl
    rw [Workplace.Answers, answer]
    cases hmake : r.host.makeScratch label with
    | ok made => exact .inl ⟨made.1, made.2, by rw [hplace, hmake], rfl, rfl⟩
    | error fault => exact .inr ⟨⟨_, rfl⟩, rfl⟩
  | isDirectory path => exact ⟨rfl, rfl⟩
  | enterLoad => exact ⟨rfl, rfl⟩
  | rules => exact ⟨rfl, rfl⟩
  | _ => rfl

/-- What a rehearsal does can happen to a service that nobody cancels. -/
theorem runs_of_passes {α : Type} {job : Job α} {r : Rehearsal} (flaky : Bool)
    (h : Program.passes answer passes job r = true) :
    ∃ events, Job.Runs (Workplace.Answers (Host.Answers flaky)) job r.place events (run job r).1 (run job r).2.place := by
  have hanswers : ∀ act r, passes act r = true →
      Workplace.Answers (Host.Answers flaky) act r.place (answer act r).1 (answer act r).2.place :=
    fun _ _ => answers_of_passes flaky
  exact Program.runs_of_passes hanswers h

end Rehearsal

end LintPreview
