import LintPreview.Proofs.Run.Basic
import LintPreview.Tool.Call

/-!
# How calls of the lint tool end

* `ProcessLife`: the process of a call, and what has happened to it since it was started: it exits, its time is over,
  the caller is cancelled, it is killed.
* `ToolAct.Answers`: the replies to a call. Before each of them anything may happen to the process, so it may exit
  between any two steps.
* `ToolJob.isOver_of_runs_terminate`: a process that is put an end to has exited, or kill has been sent to it.
* `ToolCommand.CallEnd`: how a call can end, by what came first for its process; `ToolCommand.ends_call` says what that
  means for output, exit codes, the time limit and cancellations.
-/

namespace LintPreview

open Program (World)

/-! ### What happens to a process -/

/-- What can happen while a process is waited for. -/
inductive Happening where
  | exited (code : Int) (output errors : List UInt8)
  | expired
  | cancelled
  | killed

/-- How waiting for the process ends when this happens. -/
def Happening.end? : Happening → Option ProcessEnd
  | .exited code output errors => some (.exited code output errors)
  | .expired => some .timedOut
  | .cancelled => some .cancelled
  | .killed => none

/-- The process of a call: whether it is started, and what has happened since. -/
structure ProcessLife where
  isStarted : Bool := false
  happened : List Happening := []

namespace ProcessLife

variable {life : ProcessLife} {new : List Happening} {e : ProcessEnd}

/-- The life in which more has happened. -/
def andThen (life : ProcessLife) (new : List Happening) : ProcessLife := { life with happened := life.happened ++ new }

/-- How waiting for the process ends: by what comes first. -/
def ending? (life : ProcessLife) : Option ProcessEnd := life.happened.findSome? Happening.end?

/-- The process has ended by itself. -/
def HasExited (life : ProcessLife) : Prop := ∃ code output errors, Happening.exited code output errors ∈ life.happened

/-- The process has exited, or kill has been sent to it. -/
def IsOver (life : ProcessLife) : Prop := life.HasExited ∨ Happening.killed ∈ life.happened

theorem andThen_andThen (life : ProcessLife) (new new' : List Happening) :
    (life.andThen new).andThen new' = life.andThen (new ++ new') := by
  simp only [andThen, List.append_assoc]

/-- What came first stays what came first. -/
theorem ending?_andThen (h : life.ending? = some e) (new : List Happening) : (life.andThen new).ending? = some e := by
  unfold ending? at h ⊢
  rw [andThen, List.findSome?_append, h, Option.some_or]

theorem HasExited.andThen (h : life.HasExited) (new : List Happening) : (life.andThen new).HasExited := by
  obtain ⟨code, output, errors, hmem⟩ := h
  exact ⟨code, output, errors, List.mem_append_left new hmem⟩

theorem IsOver.andThen (h : life.IsOver) (new : List Happening) : (life.andThen new).IsOver :=
  h.imp (·.andThen new) (List.mem_append_left new)

/-- Where an exit came first, the process has exited. -/
theorem hasExited_of_ending? {code : Int} {output errors : List UInt8}
    (h : life.ending? = some (.exited code output errors)) : life.HasExited := by
  obtain ⟨happening, hmem, hend⟩ := List.exists_of_findSome?_eq_some h
  cases happening with
  | exited code' output' errors' => exact ⟨code', output', errors', hmem⟩
  | expired => cases hend
  | cancelled => cases hend
  | killed => cases hend

end ProcessLife

/-- The replies to a call. Who is cancelled while a process is being started leaves none behind that runs. A process is
known to have exited, and cannot be killed, only if it has. -/
def ToolAct.Answers : World ToolAct ToolAct.Reply ProcessLife
  | .locate _, life, _, life' => life' = life
  | .start _ _, life, reply, life' =>
    reply = .ok () ∧ life' = ⟨true, []⟩ ∨
    (∃ stop, reply = .error stop) ∧ life' = life ∨
    reply = .error (.stopped .cancelled) ∧ life'.IsOver ∧ ∃ rest, life' = ⟨true, .cancelled :: rest⟩
  | .finish _, life, reply, life' => ∃ new, life' = life.andThen new ∧ life'.ending? = some reply
  | .hasExited, life, reply, life' => ∃ new, life' = life.andThen new ∧ (reply = true → life'.HasExited)
  | .kill, life, reply, life' =>
    ∃ new, life' = life.andThen new ∧ (reply = true ∧ Happening.killed ∈ new ∨ reply = false ∧ life'.HasExited)
  | .await, life, reply, life' =>
    ∃ new, life' = life.andThen new ∧
      (reply = .ok () ∧ life'.HasExited ∨ reply = .error .cancelled ∧ Happening.cancelled ∈ new)

/-- Every act of a call gets a reply. -/
theorem ToolAct.isTotal_answers : Answers.IsTotal := by
  intro act life
  cases act with
  | locate settings => exact ⟨.error (.general ""), life, rfl⟩
  | start command directory => exact ⟨.ok (), ⟨true, []⟩, .inl ⟨rfl, rfl⟩⟩
  | finish seconds =>
    cases h : (life.andThen [.expired]).ending? with
    | some reply => exact ⟨reply, _, _, rfl, h⟩
    | none =>
      have hexpired := List.findSome?_eq_none_iff.mp h .expired (List.mem_append_right _ (List.mem_singleton_self _))
      cases hexpired
  | hasExited => exact ⟨false, _, [], rfl, nofun⟩
  | kill => exact ⟨true, _, [.killed], rfl, .inl ⟨rfl, List.mem_singleton_self _⟩⟩
  | await => exact ⟨.error .cancelled, _, [.cancelled], rfl, .inr ⟨rfl, List.mem_singleton_self _⟩⟩

namespace ToolJob

open Program (Runs)

variable {life life' : ProcessLife} {events : List (Program.Event ToolAct ToolAct.Reply)}

/-- A process that is put an end to has exited, or kill has been sent to it. Who waits for it can be cancelled. -/
theorem isOver_of_runs_terminate {e : Except Stop Unit} (h : Runs ToolAct.Answers terminate.run life events e life') :
    ∃ new, life' = life.andThen new ∧ life'.IsOver ∧ (e = .ok () ∨ e = .error .cancelled ∧ Happening.cancelled ∈ new) := by
  unfold terminate hasExited at h
  obtain ⟨exited, life₁, events₁, ⟨new₁, rfl, hexited⟩, rfl, ⟨_, ⟨⟩, hrest⟩ | ⟨_, ⟨⟩, -⟩⟩ :=
    Program.runs_stoppable_reply_bind_iff.mp h
  cases exited with
  | true =>
    obtain ⟨rfl, rfl, rfl⟩ := Program.runs_done_iff.mp hrest
    exact ⟨new₁, rfl, .inl (hexited rfl), .inl rfl⟩
  | false =>
    obtain ⟨_, life₂, events₂, ⟨new₂, rfl, ⟨rfl, hkilled⟩ | ⟨rfl, hgone⟩⟩, rfl, ⟨_, ⟨⟩, hlast⟩ | ⟨_, ⟨⟩, -⟩⟩ :=
      Program.runs_stoppable_reply_bind_iff.mp hrest
    · obtain ⟨reply, life₃, events₃, ⟨new₃, rfl, hawait⟩, hend, rfl⟩ := Program.runs_ask_iff.mp hlast
      obtain ⟨rfl, rfl, rfl⟩ := Program.runs_done_iff.mp hend
      rw [ProcessLife.andThen_andThen, ProcessLife.andThen_andThen] at hawait ⊢
      refine ⟨_, rfl, .inr ?_, ?_⟩
      · simp only [ProcessLife.andThen, List.mem_append, hkilled, true_or, or_true]
      · refine hawait.imp And.left fun hcancelled => ⟨hcancelled.1, ?_⟩
        exact List.mem_append_right _ (List.mem_append_right _ hcancelled.2)
    · obtain ⟨rfl, rfl, rfl⟩ := Program.runs_done_iff.mp hlast
      rw [ProcessLife.andThen_andThen] at hgone ⊢
      exact ⟨_, rfl, .inl hgone, .inl rfl⟩

/-- Who puts an end to a process and then stops has put an end to it, and stops for this reason or for a cancellation. -/
theorem isOver_of_runs_terminate_throw {stop : Stop} {e : Except Stop Text}
    (h : Runs ToolAct.Answers (terminate >>= fun _ => (throw stop : ToolJob Text)).run life events e life') :
    ∃ new, life' = life.andThen new ∧ life'.IsOver ∧
      (e = .error stop ∨ e = .error .cancelled ∧ Happening.cancelled ∈ new) := by
  rcases Program.runs_stoppable_bind_iff.mp h with ⟨_, life₁, events₁, events₂, hend, hrest, -⟩ | ⟨stop', hend, rfl⟩
  · obtain ⟨new, rfl, hover, -⟩ := isOver_of_runs_terminate hend
    obtain ⟨-, rfl, rfl⟩ := Program.runs_done_iff.mp hrest
    exact ⟨new, rfl, hover, .inl rfl⟩
  · obtain ⟨new, rfl, hover, hstop⟩ := isOver_of_runs_terminate hend
    obtain ⟨⟨⟩, hcancelled⟩ := hstop.resolve_left nofun
    exact ⟨new, rfl, hover, .inr ⟨rfl, hcancelled⟩⟩

end ToolJob

namespace ToolCommand

open Program (Runs)

variable {settings : ToolSettings} {c : ToolCommand} {life life' : ProcessLife}
  {events : List (Program.Event ToolAct ToolAct.Reply)} {e : Except Stop Text}

/-- How a call can end, by what came first for its process. -/
inductive CallEnd (settings : ToolSettings) (c : ToolCommand) (life : ProcessLife) : Except Stop Text → Prop where
  /-- There is no process: the tool is not found, or it cannot be started. -/
  | unstarted {stop : Stop} (isIdle : life = {}) : CallEnd settings c life (.error stop)
  /-- The process ended in time. -/
  | ended {code : Int} {output errors : List UInt8} (isStarted : life.isStarted = true)
      (first : life.ending? = some (.exited code output errors)) : CallEnd settings c life (c.outcomeOf code output errors)
  /-- Its time was over, and it was put an end to. -/
  | expired (isStarted : life.isStarted = true) (first : life.ending? = some .timedOut) (isOver : life.IsOver) :
      CallEnd settings c life (.error (.failed (.toolTimedOut settings.timeout)))
  /-- Its time was over, and the caller was cancelled before the process was gone. -/
  | abandoned (isStarted : life.isStarted = true) (first : life.ending? = some .timedOut) (isOver : life.IsOver)
      (isCancelled : Happening.cancelled ∈ life.happened) : CallEnd settings c life (.error .cancelled)
  /-- The caller was cancelled. -/
  | cancelled (isStarted : life.isStarted = true) (first : life.ending? = some .cancelled) (isOver : life.IsOver) :
      CallEnd settings c life (.error .cancelled)

/-- What is done behind the wait for the process. -/
def concluded (settings : ToolSettings) (c : ToolCommand) : ProcessEnd → ToolJob Text
  | .exited code output errors => ExceptT.mk (.done (c.outcomeOf code output errors))
  | .timedOut => do
    ToolJob.terminate
    throw (.failed (.toolTimedOut settings.timeout))
  | .cancelled => do
    ToolJob.terminate
    throw .cancelled

/-- Whatever ended the wait, the call ends in one of the ways for it. -/
theorem callEnd_of_runs_concluded {ending : ProcessEnd} (hstarted : life.isStarted = true)
    (hfirst : life.ending? = some ending)
    (h : Runs ToolAct.Answers (concluded settings c ending).run life events e life') : CallEnd settings c life' e := by
  cases ending with
  | exited code output errors =>
    obtain ⟨rfl, rfl, rfl⟩ := Program.runs_done_iff.mp h
    exact .ended hstarted hfirst
  | timedOut =>
    obtain ⟨new, rfl, hover, rfl | ⟨rfl, hcancelled⟩⟩ := ToolJob.isOver_of_runs_terminate_throw h
    · exact .expired hstarted (ProcessLife.ending?_andThen hfirst new) hover
    · exact .abandoned hstarted (ProcessLife.ending?_andThen hfirst new) hover (List.mem_append_right _ hcancelled)
  | cancelled =>
    obtain ⟨new, rfl, hover, rfl | ⟨rfl, -⟩⟩ := ToolJob.isOver_of_runs_terminate_throw h
    · exact .cancelled hstarted (ProcessLife.ending?_andThen hfirst new) hover
    · exact .cancelled hstarted (ProcessLife.ending?_andThen hfirst new) hover

/-- A call as it is put together. -/
theorem call_eq (settings : ToolSettings) (c : ToolCommand) : c.call settings = (do
    let program ← ToolJob.locate settings
    ToolJob.start (program :: c.name :: c.options) c.directory
    let ending ← ToolJob.finish settings.timeout
    concluded settings c ending) :=
  rfl

/-- Every call ends in one of the ways. -/
theorem callEnd_of_runs (h : Runs ToolAct.Answers (c.call settings).run {} events e life') :
    CallEnd settings c life' e := by
  rw [call_eq] at h
  unfold ToolJob.locate at h
  obtain ⟨located, life₁, events₁, rfl, rfl, ⟨program, -, hrest⟩ | ⟨stop, -, rfl, rfl, rfl⟩⟩ :=
    Program.runs_stoppable_reply_bind_iff.mp h
  · unfold ToolJob.start at hrest
    obtain ⟨begun, life₂, events₂, hstart, rfl, ⟨_, hok, hwait⟩ | ⟨stop, hstop, rfl, rfl, rfl⟩⟩ :=
      Program.runs_stoppable_reply_bind_iff.mp hrest
    · rcases hstart with ⟨rfl, rfl⟩ | ⟨⟨stop, rfl⟩, -⟩ | ⟨rfl, -⟩
      · unfold ToolJob.finish at hwait
        obtain ⟨ending, life₃, events₃, ⟨new, rfl, hfirst⟩, rfl, ⟨_, ⟨⟩, hlast⟩ | ⟨_, ⟨⟩, -⟩⟩ :=
          Program.runs_stoppable_reply_bind_iff.mp hwait
        exact callEnd_of_runs_concluded rfl hfirst hlast
      · cases hok
      · cases hok
    · rcases hstart with ⟨rfl, -⟩ | ⟨-, rfl⟩ | ⟨rfl, hover, rest, rfl⟩
      · cases hstop
      · exact .unstarted rfl
      · cases hstop
        exact .cancelled rfl rfl hover
  · exact .unstarted rfl

/-- The exit codes that count as success: zero, and for a lint run the one for violations. -/
theorem accepts_iff {code : Int} :
    c.accepts code = true ↔ code = 0 ∨ (∃ workspace config, c = .lint workspace config) ∧ code = 2 := by
  cases c <;> simp [accepts, violationsFound]

theorem outcomeOf_eq_ok_iff {code : Int} {output errors : List UInt8} {text : Text} :
    c.outcomeOf code output errors = .ok text ↔
      c.accepts code = true ∧ text = c.resultOf (Text.ofList (Text.decodeLossy output)) := by
  unfold outcomeOf
  split <;> simp [*, eq_comm]

/-- How a call ends for what came first for its process. -/
def EndsBy (settings : ToolSettings) (c : ToolCommand) (life : ProcessLife) (e : Except Stop Text) :
    Option ProcessEnd → Prop
  | none => life.isStarted = false ∧ ∃ stop, e = .error stop
  | some (.exited code output errors) => e = c.outcomeOf code output errors
  | some .timedOut => e = .error (.failed (.toolTimedOut settings.timeout)) ∨
      e = .error .cancelled ∧ Happening.cancelled ∈ life.happened
  | some .cancelled => e = .error .cancelled

/-- Only a process that exited first gives output. -/
theorem EndsBy.exists_of_ok {text : Text} {first : Option ProcessEnd} (h : EndsBy settings c life (.ok text) first) :
    ∃ code output errors, first = some (.exited code output errors) := by
  rcases first with _ | ending
  · obtain ⟨-, stop, ⟨⟩⟩ := h
  · cases ending with
    | exited code output errors => exact ⟨code, output, errors, rfl⟩
    | cancelled => cases h
    | timedOut => rcases h with ⟨⟨⟩⟩ | ⟨⟨⟩, -⟩

namespace CallEnd

/-- No process is left behind that runs. -/
theorem isOver (h : CallEnd settings c life e) (hstarted : life.isStarted = true) : life.IsOver := by
  cases h with
  | unstarted isIdle =>
    rw [isIdle] at hstarted
    cases hstarted
  | ended _ first => exact .inl (ProcessLife.hasExited_of_ending? first)
  | expired _ _ isOver => exact isOver
  | abandoned _ _ isOver _ => exact isOver
  | cancelled _ _ isOver => exact isOver

/-- What came first decides how the call ends. -/
theorem endsBy (h : CallEnd settings c life e) {first : Option ProcessEnd} (hfirst : life.ending? = first) :
    EndsBy settings c life e first := by
  subst hfirst
  cases h with
  | unstarted isIdle =>
    rw [isIdle]
    exact ⟨rfl, _, rfl⟩
  | ended _ first =>
    rw [first]
    rfl
  | expired _ first _ =>
    rw [first]
    exact .inl rfl
  | abandoned _ first _ isCancelled =>
    rw [first]
    exact .inr ⟨rfl, isCancelled⟩
  | cancelled _ first _ =>
    rw [first]
    rfl

end CallEnd

end ToolCommand

end LintPreview
