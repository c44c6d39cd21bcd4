import LintPreview.Service.Act

/-!
# Runs of programs in surroundings that may answer in several ways

* `Program.World`: which replies an act can get in a state, and which state comes after.
* `Program.Runs`: a run of a program in a world, with the acts that it asks and the replies that it gets;
  `Program.runs_bind_iff` cuts a run at a bind, `Program.exists_runs` says that a program comes to an end where every act
  gets some reply, and `Program.Runs.end_unique` that the replies decide how it ends.
* `Program.runs_stoppable_bind_iff`, `Program.runs_stoppable_reply_bind_iff`: the same for programs that can stop on the
  way; `Job.runs_bind_iff` is the case of jobs.
-/

namespace LintPreview

namespace Program

variable {A : Type} {R : A → Type} {α β σ : Type}

/-- Surroundings: `w act s reply s'` says that `act` can get `reply` in the state `s`, and that the state is `s'` then. -/
abbrev World (A : Type) (R : A → Type) (σ : Type) : Type := (act : A) → σ → R act → σ → Prop

/-- An act with the reply that it gets. -/
abbrev Event (A : Type) (R : A → Type) : Type := (act : A) × R act

/-- `Runs w p s events a s'`: the program `p` can go from the state `s` to the state `s'` by `events`, one after the
other, and end with `a`. -/
inductive Runs (w : World A R σ) : Program A R α → σ → List (Event A R) → α → σ → Prop where
  | done (a : α) (s : σ) : Runs w (.done a) s [] a s
  | ask {act : A} {next : R act → Program A R α} {s s₁ s' : σ} {reply : R act} {events : List (Event A R)} {a : α}
      (answers : w act s reply s₁) (goesOn : Runs w (next reply) s₁ events a s') :
      Runs w (.ask act next) s (⟨act, reply⟩ :: events) a s'

variable {w : World A R σ} {s s' : σ} {events : List (Event A R)}

theorem runs_done_iff {a b : α} : Runs w (.done a) s events b s' ↔ events = [] ∧ b = a ∧ s' = s := by
  constructor
  · rintro ⟨⟩
    exact ⟨rfl, rfl, rfl⟩
  · rintro ⟨rfl, rfl, rfl⟩
    exact .done _ _

theorem runs_ask_iff {act : A} {next : R act → Program A R α} {a : α} : Runs w (.ask act next) s events a s' ↔
    ∃ reply s₁ events', w act s reply s₁ ∧ Runs w (next reply) s₁ events' a s' ∧ events = ⟨act, reply⟩ :: events' := by
  constructor
  · intro h
    cases h with
    | ask answers goesOn => exact ⟨_, _, _, answers, goesOn, rfl⟩
  · rintro ⟨reply, s₁, events', answers, goesOn, rfl⟩
    exact .ask answers goesOn

/-- A run of two programs one after the other is a run of the first and one of the second. -/
theorem runs_bind_iff {p : Program A R α} {f : α → Program A R β} {b : β} : Runs w (p >>= f) s events b s' ↔
    ∃ a s₁ events₁ events₂, Runs w p s events₁ a s₁ ∧ Runs w (f a) s₁ events₂ b s' ∧ events = events₁ ++ events₂ := by
  induction p generalizing s events with
  | done a =>
    rw [bind_done]
    constructor
    · intro h
      exact ⟨a, s, [], events, .done a s, h, rfl⟩
    · rintro ⟨a', s₁, events₁, events₂, h₁, h₂, rfl⟩
      obtain ⟨rfl, rfl, rfl⟩ := runs_done_iff.mp h₁
      exact h₂
  | ask act next ih =>
    rw [bind_ask, runs_ask_iff]
    constructor
    · rintro ⟨reply, s₁, events', answers, goesOn, rfl⟩
      obtain ⟨a, s₂, events₁, events₂, h₁, h₂, rfl⟩ := (ih reply).mp goesOn
      exact ⟨a, s₂, ⟨act, reply⟩ :: events₁, events₂, .ask answers h₁, h₂, rfl⟩
    · rintro ⟨a, s₂, events₁, events₂, h₁, h₂, rfl⟩
      obtain ⟨reply, s₁, events', answers, goesOn, rfl⟩ := runs_ask_iff.mp h₁
      exact ⟨reply, s₁, events' ++ events₂, answers, (ih reply).mpr ⟨a, s₂, events', events₂, goesOn, h₂, rfl⟩, rfl⟩

/-- A program that asks one act and goes on with its reply. -/
theorem runs_perform_bind_iff {act : A} {f : R act → Program A R β} {b : β} :
    Runs w (Program.ask act .done >>= f) s events b s' ↔
      ∃ reply s₁ events', w act s reply s₁ ∧ Runs w (f reply) s₁ events' b s' ∧ events = ⟨act, reply⟩ :: events' :=
  runs_ask_iff

/-- The replies decide how a program ends, and when. -/
theorem Runs.end_unique {τ : Type} {w' : World A R τ} {p : Program A R α} {t t' : τ}
    {events' rest rest' : List (Event A R)} {a b : α} (h : Runs w p s events a s') (h' : Runs w' p t events' b t')
    (heq : events ++ rest = events' ++ rest') : a = b ∧ rest = rest' := by
  induction h generalizing events' t with
  | done a s =>
    obtain ⟨rfl, rfl, -⟩ := runs_done_iff.mp h'
    exact ⟨rfl, heq⟩
  | ask answers goesOn ih =>
    obtain ⟨reply', t₁, events₁, -, goesOn', rfl⟩ := runs_ask_iff.mp h'
    rw [List.cons_append, List.cons_append, List.cons.injEq] at heq
    obtain ⟨hevent, htail⟩ := heq
    cases hevent
    exact ih goesOn' htail

/-- Every act gets some reply in every state. -/
def World.IsTotal (w : World A R σ) : Prop := ∀ act s, ∃ reply s', w act s reply s'

/-- Where every act gets a reply, every program comes to an end. -/
theorem exists_runs (hw : w.IsTotal) (p : Program A R α) (s : σ) : ∃ events a s', Runs w p s events a s' := by
  induction p generalizing s with
  | done a => exact ⟨[], a, s, .done a s⟩
  | ask act next ih =>
    obtain ⟨reply, s₁, answers⟩ := hw act s
    obtain ⟨events, a, s', goesOn⟩ := ih reply s₁
    exact ⟨⟨act, reply⟩ :: events, a, s', .ask answers goesOn⟩

/-! ### Programs that can stop on the way -/

section Stoppable

variable {ε : Type} {job : ExceptT ε (Program A R) α} {f : α → ExceptT ε (Program A R) β} {e : Except ε β}

/-- A program that goes on with the result of one that can stop. -/
theorem run_stoppable_bind (job : ExceptT ε (Program A R) α) (f : α → ExceptT ε (Program A R) β) :
    (job >>= f).run = job.run >>= fun
      | .ok a => (f a).run
      | .error stop => .done (.error stop) := by
  show ExceptT.bind job f = _
  unfold ExceptT.bind ExceptT.bindCont ExceptT.mk
  congr
  funext e
  cases e <;> rfl

/-- A program that goes on with the result of another one stops where that one stops. -/
theorem runs_stoppable_bind_iff : Runs w (job >>= f).run s events e s' ↔
    (∃ a s₁ events₁ events₂, Runs w job.run s events₁ (.ok a) s₁ ∧ Runs w (f a).run s₁ events₂ e s' ∧
      events = events₁ ++ events₂) ∨
    (∃ stop, Runs w job.run s events (.error stop) s' ∧ e = .error stop) := by
  rw [run_stoppable_bind, runs_bind_iff]
  constructor
  · rintro ⟨end₁, s₁, events₁, events₂, h₁, h₂, rfl⟩
    cases end₁ with
    | ok a => exact .inl ⟨a, s₁, events₁, events₂, h₁, h₂, rfl⟩
    | error stop =>
      obtain ⟨rfl, rfl, rfl⟩ := runs_done_iff.mp h₂
      rw [List.append_nil]
      exact .inr ⟨stop, h₁, rfl⟩
  · rintro (⟨a, s₁, events₁, events₂, h₁, h₂, rfl⟩ | ⟨stop, h, rfl⟩)
    · exact ⟨.ok a, s₁, events₁, events₂, h₁, h₂, rfl⟩
    · exact ⟨.error stop, s', events, [], h, .done _ _, (List.append_nil events).symm⟩

/-- An act whose reply is the end of a program, where another one goes on with it. -/
theorem runs_stoppable_reply_bind_iff {act : A} {toEnd : R act → Except ε α} :
    Runs w (ExceptT.mk (Program.ask act fun reply => .done (toEnd reply)) >>= f).run s events e s' ↔
      ∃ reply s₁ events', w act s reply s₁ ∧ events = ⟨act, reply⟩ :: events' ∧
        ((∃ a, toEnd reply = .ok a ∧ Runs w (f a).run s₁ events' e s') ∨
          (∃ stop, toEnd reply = .error stop ∧ events' = [] ∧ e = .error stop ∧ s' = s₁)) := by
  rw [runs_stoppable_bind_iff]
  constructor
  · rintro (⟨a, s₁, events₁, events₂, hask, hrest, rfl⟩ | ⟨stop, hask, rfl⟩)
    · obtain ⟨reply, s₂, events₃, hact, hend, rfl⟩ := runs_ask_iff.mp hask
      obtain ⟨rfl, hreply, rfl⟩ := runs_done_iff.mp hend
      exact ⟨reply, s₁, events₂, hact, rfl, .inl ⟨a, hreply.symm, hrest⟩⟩
    · obtain ⟨reply, s₂, events₃, hact, hend, rfl⟩ := runs_ask_iff.mp hask
      obtain ⟨rfl, hreply, rfl⟩ := runs_done_iff.mp hend
      exact ⟨reply, s', [], hact, rfl, .inr ⟨stop, hreply.symm, rfl, rfl, rfl⟩⟩
  · rintro ⟨reply, s₁, events', hact, rfl, ⟨a, hreply, hrest⟩ | ⟨stop, hreply, rfl, rfl, rfl⟩⟩
    · refine .inl ⟨a, s₁, [⟨act, reply⟩], events', ?_, hrest, rfl⟩
      exact .ask hact (runs_done_iff.mpr ⟨rfl, hreply.symm, rfl⟩)
    · exact .inr ⟨stop, .ask hact (runs_done_iff.mpr ⟨rfl, hreply.symm, rfl⟩), rfl⟩

end Stoppable

end Program

/-- An act of a service with the reply that it gets. -/
abbrev ServiceEvent : Type := Program.Event ServiceAct ServiceAct.Reply

/-- An act on a disk with the reply that it gets. -/
abbrev DiskEvent : Type := Program.Event DiskAct DiskAct.Reply

namespace Job

open Program (World Runs)

variable {α β σ : Type} {w : World ServiceAct ServiceAct.Reply σ} {s s' : σ} {events : List ServiceEvent}

/-- `Runs w job s events e s'`: a run of a job, as one of its program. -/
abbrev Runs (w : World ServiceAct ServiceAct.Reply σ) (job : Job α) (s : σ) (events : List ServiceEvent)
    (e : Except Stop α) (s' : σ) : Prop :=
  Program.Runs w job.run s events e s'

theorem runs_ofEnd_iff {e e' : Except Stop α} : Runs w (ofEnd e) s events e' s' ↔ events = [] ∧ e' = e ∧ s' = s :=
  Program.runs_done_iff

theorem runs_pure_iff {a : α} {e : Except Stop α} :
    Runs w (pure a : Job α) s events e s' ↔ events = [] ∧ e = .ok a ∧ s' = s :=
  Program.runs_done_iff

theorem runs_fail_iff {f : Failure} {e : Except Stop α} :
    Runs w (fail f : Job α) s events e s' ↔ events = [] ∧ e = .error (.failed f) ∧ s' = s :=
  Program.runs_done_iff

/-- A job with one more act behind it, as a program. -/
theorem run_ensuring_eq (job : Job α) (act : ServiceAct) :
    (job.ensuring (ExceptT.mk (.ask act fun _ => .done (.ok ())))).run =
      job.run >>= fun e => .ask act fun _ => .done e := by
  unfold ensuring
  rw [Program.run_stoppable_bind]
  show (job.run >>= fun e => Program.done (Except.ok e)) >>= _ = _
  rw [Program.bind_assoc]
  rfl

/-- A job that goes on with the result of another one stops where that one stops. -/
theorem runs_bind_iff {job : Job α} {f : α → Job β} {e : Except Stop β} : Runs w (job >>= f) s events e s' ↔
    (∃ a s₁ events₁ events₂, Runs w job s events₁ (.ok a) s₁ ∧ Runs w (f a) s₁ events₂ e s' ∧ events = events₁ ++ events₂) ∨
    (∃ stop, Runs w job s events (.error stop) s' ∧ e = .error stop) :=
  Program.runs_stoppable_bind_iff

/-- A job that gives a result, and one that goes on with it. -/
theorem runs_bind {job : Job α} {f : α → Job β} {a : α} {s₁ : σ} {events' : List ServiceEvent} {e : Except Stop β}
    (h : Runs w job s events (.ok a) s₁) (hf : Runs w (f a) s₁ events' e s') :
    Runs w (job >>= f) s (events ++ events') e s' :=
  runs_bind_iff.mpr (.inl ⟨a, s₁, events, events', h, hf, rfl⟩)

/-- A job that asks one act and goes on with its reply. -/
theorem runs_ask_bind_iff (act : ServiceAct) (result : act.Reply → α) {f : α → Job β} {e : Except Stop β} :
    Runs w (ExceptT.mk (.ask act fun reply => .done (.ok (result reply))) >>= f) s events e s' ↔
      ∃ reply s₁ events', w act s reply s₁ ∧ Runs w (f (result reply)) s₁ events' e s' ∧
        events = ⟨act, reply⟩ :: events' :=
  Program.runs_ask_iff

theorem runs_outcome_iff {job : Job α} {e : Except Stop (Except Stop α)} : Runs w job.outcome s events e s' ↔
    ∃ end₁, Runs w job s events end₁ s' ∧ e = .ok end₁ := by
  rw [Runs, outcome, ExceptT.run_mk, Program.runs_bind_iff]
  constructor
  · rintro ⟨end₁, s₁, events₁, events₂, h₁, h₂, rfl⟩
    obtain ⟨rfl, rfl, rfl⟩ := Program.runs_done_iff.mp h₂
    rw [List.append_nil]
    exact ⟨end₁, h₁, rfl⟩
  · rintro ⟨end₁, h, rfl⟩
    exact ⟨end₁, s', events, [], h, .done _ _, (List.append_nil events).symm⟩

/-- A job that looks at how another one ends is a run of that one and a run of what follows from its end. -/
theorem runs_outcome_bind_iff {job : Job α} {f : Except Stop α → Job β} {e : Except Stop β} :
    Runs w (job.outcome >>= f) s events e s' ↔
      ∃ end₁ s₁ events₁ events₂, Runs w job s events₁ end₁ s₁ ∧ Runs w (f end₁) s₁ events₂ e s' ∧ events = events₁ ++ events₂ := by
  rw [runs_bind_iff]
  constructor
  · rintro (⟨end₁, s₁, events₁, events₂, h₁, h₂, rfl⟩ | ⟨stop, h, -⟩)
    · obtain ⟨end₂, h₁, he⟩ := runs_outcome_iff.mp h₁
      cases he
      exact ⟨end₁, s₁, events₁, events₂, h₁, h₂, rfl⟩
    · obtain ⟨end₂, -, he⟩ := runs_outcome_iff.mp h
      cases he
  · rintro ⟨end₁, s₁, events₁, events₂, h₁, h₂, rfl⟩
    exact .inl ⟨end₁, s₁, events₁, events₂, runs_outcome_iff.mpr ⟨end₁, h₁, rfl⟩, h₂, rfl⟩

end Job

end LintPreview
