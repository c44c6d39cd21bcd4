import LintPreview.Proofs.Run.Basic
import LintPreview.Service.Notice

/-!
# The moments of a run

* `Program.World.Steps`: the states that a world goes through by events; `Program.Runs.steps` takes them from a run, and
  `Program.Runs.of_steps` takes a run to where its events can happen too.
* `Program.World.Steps.invariant`: what every event of a list keeps is kept by all of them.
* `Program.OnlyAsks`: a program that asks no act but those of a kind; `Job.OnlyAsks` is the same for jobs, with a lemma
  for each way to put jobs together.
* `Program.Ends`: a program that ends in no way but those of a kind.
-/

namespace LintPreview

namespace Program

variable {A : Type} {R : A → Type} {α β σ : Type}

/-! ### States -/

/-- `w.Steps s events s'`: the world can go from the state `s` to the state `s'` by `events`, one after the other. -/
inductive World.Steps (w : World A R σ) : σ → List (Event A R) → σ → Prop where
  | nil (s : σ) : Steps w s [] s
  | cons {act : A} {reply : R act} {s s₁ s' : σ} {events : List (Event A R)} (answers : w act s reply s₁)
      (goesOn : Steps w s₁ events s') : Steps w s (⟨act, reply⟩ :: events) s'

variable {w : World A R σ} {s s' : σ} {events : List (Event A R)}

/-- A run goes through the states of its events. -/
theorem Runs.steps {p : Program A R α} {a : α} (h : Runs w p s events a s') : w.Steps s events s' := by
  induction h with
  | done a s => exact .nil s
  | ask answers goesOn ih => exact .cons answers ih

/-- A program that has run can run by the same events wherever they can happen. -/
theorem Runs.of_steps {τ : Type} {w' : World A R τ} {t t' : τ} {p : Program A R α} {a : α} (h : Runs w p s events a s')
    (hsteps : w'.Steps t events t') : Runs w' p t events a t' := by
  induction h generalizing t with
  | done a s =>
    cases hsteps
    exact .done a _
  | ask answers goesOn ih =>
    cases hsteps with
    | cons answers' goesOn' => exact .ask answers' (ih goesOn')

/-- What every event keeps is kept by all of them. -/
theorem World.Steps.invariant {Inv : σ → Prop} (h : w.Steps s events s')
    (hkeeps : ∀ event ∈ events, ∀ s₁ s₂, Inv s₁ → w event.1 s₁ event.2 s₂ → Inv s₂) (hs : Inv s) : Inv s' := by
  induction h with
  | nil s => exact hs
  | cons answers goesOn ih =>
    refine ih (fun event hevent => hkeeps event (List.mem_cons_of_mem _ hevent)) ?_
    exact hkeeps ⟨_, _⟩ List.mem_cons_self _ _ hs answers

/-! ### Acts -/

/-- The program asks no act but those of a kind. -/
def OnlyAsks (kind : A → Prop) : Program A R α → Prop
  | .done _ => True
  | .ask act next => kind act ∧ ∀ reply, (next reply).OnlyAsks kind

variable {kind : A → Prop}

theorem OnlyAsks.bind {p : Program A R α} {f : α → Program A R β} (hp : p.OnlyAsks kind)
    (hf : ∀ a, (f a).OnlyAsks kind) : (p >>= f).OnlyAsks kind := by
  induction p with
  | done a => exact hf a
  | ask act next ih => exact ⟨hp.1, fun reply => ih reply (hp.2 reply)⟩

theorem OnlyAsks.mono {kind' : A → Prop} {p : Program A R α} (hp : p.OnlyAsks kind)
    (hkind : ∀ act, kind act → kind' act) : p.OnlyAsks kind' := by
  induction p with
  | done a => trivial
  | ask act next ih => exact ⟨hkind act hp.1, fun reply => ih reply (hp.2 reply)⟩

/-- The events of a run are of the kind that its program asks. -/
theorem OnlyAsks.of_mem {p : Program A R α} {a : α} (hp : p.OnlyAsks kind) (h : Runs w p s events a s') :
    ∀ event ∈ events, kind event.1 := by
  induction h with
  | done a s => exact fun _ hevent => nomatch hevent
  | ask answers goesOn ih =>
    intro event hevent
    rcases List.mem_cons.mp hevent with rfl | hevent
    · exact hp.1
    · exact ih (hp.2 _) event hevent

/-! ### Ends -/

/-- The program ends in no way but those of a kind. -/
def Ends (kind : α → Prop) : Program A R α → Prop
  | .done a => kind a
  | .ask _ next => ∀ reply, (next reply).Ends kind

theorem Ends.of_runs {kind : α → Prop} {p : Program A R α} {a : α} (hp : p.Ends kind) (h : Runs w p s events a s') :
    kind a := by
  induction h with
  | done a s => exact hp
  | ask answers goesOn ih => exact ih (hp _)

end Program

namespace Job

variable {α β : Type} {kind : ServiceAct → Prop}

/-- The job asks no act but those of a kind. -/
structure OnlyAsks (kind : ServiceAct → Prop) (job : Job α) : Prop where
  program : Program.OnlyAsks kind job.run

theorem OnlyAsks.mono {kind' : ServiceAct → Prop} {job : Job α} (hjob : job.OnlyAsks kind)
    (hkind : ∀ act, kind act → kind' act) : job.OnlyAsks kind' :=
  ⟨hjob.program.mono hkind⟩

theorem onlyAsks_ofEnd (e : Except Stop α) : (ofEnd e).OnlyAsks kind := ⟨trivial⟩

theorem onlyAsks_pure (a : α) : OnlyAsks kind (pure a : Job α) := ⟨trivial⟩

theorem onlyAsks_fail (f : Failure) : OnlyAsks kind (fail f : Job α) := ⟨trivial⟩

theorem onlyAsks_throw (stop : Stop) : OnlyAsks kind (throw stop : Job α) := ⟨trivial⟩

theorem onlyAsks_ofResult (e : Except Failure α) : (ofResult e).OnlyAsks kind := by
  cases e with
  | ok a => exact onlyAsks_pure a
  | error f => exact onlyAsks_fail f

theorem onlyAsks_ask {act : ServiceAct} {toEnd : act.Reply → Except Stop α} (h : kind act) :
    OnlyAsks kind (ExceptT.mk (.ask act fun reply => .done (toEnd reply)) : Job α) :=
  ⟨h, fun _ => trivial⟩

theorem OnlyAsks.bind {job : Job α} {f : α → Job β} (hjob : job.OnlyAsks kind) (hf : ∀ a, (f a).OnlyAsks kind) :
    OnlyAsks kind (job >>= f) := by
  refine ⟨hjob.program.bind fun e => ?_⟩
  cases e with
  | ok a => exact (hf a).program
  | error stop => trivial

theorem OnlyAsks.outcome {job : Job α} (h : job.OnlyAsks kind) : job.outcome.OnlyAsks kind :=
  ⟨h.program.bind fun _ => trivial⟩

/-- The events of a run are of the kind that its job asks. -/
theorem OnlyAsks.of_mem {σ : Type} {w : Program.World ServiceAct ServiceAct.Reply σ} {s s' : σ}
    {events : List ServiceEvent} {job : Job α} {e : Except Stop α} (hjob : job.OnlyAsks kind)
    (h : Runs w job s events e s') : ∀ event ∈ events, kind event.1 :=
  hjob.program.of_mem h

theorem onlyAsks_announce (n : Notice) : (announce n).OnlyAsks kind := by
  unfold announce
  split
  · exact onlyAsks_fail _
  · exact onlyAsks_pure ()

theorem onlyAsks_emit (hlog : ∀ record, kind (.log record)) (limit : Int) (record : LogRecord) :
    (emit limit record).OnlyAsks kind := by
  unfold emit
  split
  · exact onlyAsks_pure ()
  · split
    · exact onlyAsks_fail _
    · exact onlyAsks_ask (hlog record)

/-- Logging an operation asks for the time and writes records. -/
theorem OnlyAsks.logged {job : Job α} (h : job.OnlyAsks kind) (hclock : kind .clock)
    (hlog : ∀ record, kind (.log record)) (threshold : LogLevel) (operation : Text) (context : List (Text × Json)) :
    (job.logged threshold operation context).OnlyAsks kind := by
  refine (onlyAsks_ask hclock).bind fun _ => (onlyAsks_emit hlog _ _).bind fun _ => h.outcome.bind fun e => ?_
  exact (onlyAsks_ask hclock).bind fun _ => (onlyAsks_emit hlog _ _).bind fun _ => onlyAsks_ofEnd e

end Job

end LintPreview
