import LintPreview.Proofs.Run.Moments

/-!
# Programs on their way

* `Program.Reaches`: how far a program can come, with what is left of it then.
* `Program.reaches_bind`: a program of two parts is on its way in the first one, or the first one is over.
  `Job.reaches_bind` is the same for jobs.
* `Program.Stays`: at every moment of a program something holds, and something else at its end.
* `Program.Stays.of_reaches`, `Program.Stays.of_runs`: so it does in every run, also in one that is cut short.
* `Program.Lives`: the same, and at no moment the program is stuck (`Program.Lives.exists_runs`).
* `Program.OnlyAsks.stays`: what every act of a kind keeps holds throughout a program that asks no other acts.
-/

namespace LintPreview.Program

variable {A : Type} {R : A → Type} {α β σ : Type} {w : World A R σ} {s s' : σ} {events : List (Event A R)}

/-! ### Partial runs -/

/-- `Reaches w p s events q s'`: the program `p` can go from the state `s` to the state `s'` by `events`, and the program
`q` is left of it then. -/
inductive Reaches (w : World A R σ) : Program A R α → σ → List (Event A R) → Program A R α → σ → Prop where
  | here (p : Program A R α) (s : σ) : Reaches w p s [] p s
  | ask {act : A} {next : R act → Program A R α} {s s₁ s' : σ} {reply : R act} {events : List (Event A R)}
      {q : Program A R α} (answers : w act s reply s₁) (goesOn : Reaches w (next reply) s₁ events q s') :
      Reaches w (.ask act next) s (⟨act, reply⟩ :: events) q s'

theorem Runs.reaches {p : Program A R α} {a : α} (h : Runs w p s events a s') : Reaches w p s events (.done a) s' := by
  induction h with
  | done a s => exact .here _ s
  | ask answers goesOn ih => exact .ask answers ih

/-- A program that has come to an end has run. -/
theorem Reaches.runs {p : Program A R α} {a : α} (h : Reaches w p s events (.done a) s') : Runs w p s events a s' := by
  generalize hq : (Program.done a : Program A R α) = q at h
  induction h with
  | here p s =>
    subst hq
    exact .done a s
  | ask answers goesOn ih => exact .ask answers (ih hq)

theorem Reaches.trans {p q r : Program A R α} {s₁ : σ} {events₁ events₂ : List (Event A R)}
    (h : Reaches w p s events₁ q s₁) (h' : Reaches w q s₁ events₂ r s') : Reaches w p s (events₁ ++ events₂) r s' := by
  induction h with
  | here p s => exact h'
  | ask answers goesOn ih => exact .ask answers (ih h')

/-- One more act. -/
theorem Reaches.snoc {p : Program A R α} {act : A} {next : R act → Program A R α} {s₁ : σ} {reply : R act}
    (h : Reaches w p s events (.ask act next) s₁) (answers : w act s₁ reply s') :
    Reaches w p s (events ++ [⟨act, reply⟩]) (next reply) s' := by
  generalize hq : Program.ask act next = q at h
  induction h with
  | here p s =>
    subst hq
    exact .ask answers (.here _ _)
  | ask answers' goesOn ih => exact .ask answers' (ih answers hq)

/-- A program of two parts is on its way in the first one, or in the second one after the end of the first. -/
theorem reaches_bind {p : Program A R α} {f : α → Program A R β} {q : Program A R β}
    (h : Reaches w (p >>= f) s events q s') :
    (∃ act next, Reaches w p s events (.ask act next) s' ∧ q = (.ask act next >>= f)) ∨
    (∃ a s₁ events₁ events₂, Runs w p s events₁ a s₁ ∧ Reaches w (f a) s₁ events₂ q s' ∧ events = events₁ ++ events₂) := by
  induction p generalizing s events with
  | done a => exact .inr ⟨a, s, [], events, .done a s, h, rfl⟩
  | ask act next ih =>
    rw [bind_ask] at h
    cases h with
    | here => exact .inl ⟨act, next, .here _ _, rfl⟩
    | ask answers goesOn =>
      rcases ih _ goesOn with ⟨act', next', hq, rfl⟩ | ⟨a, s₁, events₁, events₂, hruns, hreaches, rfl⟩
      · exact .inl ⟨act', next', .ask answers hq, rfl⟩
      · exact .inr ⟨a, s₁, _ :: events₁, events₂, .ask answers hruns, hreaches, rfl⟩

/-- A program on its way in the first of two parts. -/
theorem Reaches.bind {p q : Program A R α} (h : Reaches w p s events q s') (f : α → Program A R β) :
    Reaches w (p >>= f) s events (q >>= f) s' := by
  induction h with
  | here p s => exact .here _ s
  | ask answers goesOn ih => exact .ask answers ih

/-! ### Every moment of a program -/

variable {inv : σ → Prop} {post : α → σ → Prop}

/-- At every moment of the program from a state on `inv` holds, and at its end `post`. -/
def Stays (w : World A R σ) (inv : σ → Prop) (post : α → σ → Prop) : Program A R α → σ → Prop
  | .done a, s => inv s ∧ post a s
  | .ask act next, s => inv s ∧ ∀ reply s₁, w act s reply s₁ → (next reply).Stays w inv post s₁

theorem Stays.of_reaches {p q : Program A R α} (hp : p.Stays w inv post s) (h : Reaches w p s events q s') :
    inv s' := by
  induction h with
  | here p s => cases p <;> exact hp.1
  | ask answers goesOn ih => exact ih (hp.2 _ _ answers)

theorem Stays.of_runs {p : Program A R α} {a : α} (hp : p.Stays w inv post s) (h : Runs w p s events a s') :
    post a s' := by
  induction h with
  | done a s => exact hp.2
  | ask answers goesOn ih => exact ih (hp.2 _ _ answers)

/-- A program of two parts. -/
theorem Stays.bind {mid : α → σ → Prop} {post : β → σ → Prop} {p : Program A R α} {f : α → Program A R β}
    (hp : p.Stays w inv mid s) (hf : ∀ a s', inv s' → mid a s' → (f a).Stays w inv post s') :
    (p >>= f).Stays w inv post s := by
  induction p generalizing s with
  | done a => exact hf a s hp.1 hp.2
  | ask act next ih => exact ⟨hp.1, fun reply s₁ h => ih reply (hp.2 reply s₁ h)⟩

theorem Stays.mono {inv' : σ → Prop} {post' : α → σ → Prop} {p : Program A R α} (hp : p.Stays w inv post s)
    (hinv : ∀ s, inv s → inv' s) (hpost : ∀ a s, inv s → post a s → post' a s) : p.Stays w inv' post' s := by
  induction p generalizing s with
  | done a => exact ⟨hinv s hp.1, hpost a s hp.1 hp.2⟩
  | ask act next ih => exact ⟨hinv s hp.1, fun reply s₁ h => ih reply (hp.2 reply s₁ h)⟩

/-- What every act of a kind keeps holds throughout a program that asks no other acts. -/
theorem OnlyAsks.stays {kind : A → Prop} {p : Program A R α} (hp : p.OnlyAsks kind)
    (hkeeps : ∀ act s reply s₁, kind act → inv s → w act s reply s₁ → inv s₁) (hs : inv s) :
    p.Stays w inv (fun _ => inv) s := by
  induction p generalizing s with
  | done a => exact ⟨hs, hs⟩
  | ask act next ih => exact ⟨hs, fun reply s₁ h => ih reply (hp.2 reply) (hkeeps act s reply s₁ hp.1 hs h)⟩

/-- At every moment of the program from a state on `inv` holds and the act that is asked gets some reply, and at its end
`post` holds. -/
def Lives (w : World A R σ) (inv : σ → Prop) (post : α → σ → Prop) : Program A R α → σ → Prop
  | .done a, s => inv s ∧ post a s
  | .ask act next, s =>
    inv s ∧ (∃ reply s₁, w act s reply s₁) ∧ ∀ reply s₁, w act s reply s₁ → (next reply).Lives w inv post s₁

theorem Lives.stays {p : Program A R α} (hp : p.Lives w inv post s) : p.Stays w inv post s := by
  induction p generalizing s with
  | done a => exact hp
  | ask act next ih => exact ⟨hp.1, fun reply s₁ h => ih reply (hp.2.2 reply s₁ h)⟩

theorem Lives.of_reaches {p q : Program A R α} (hp : p.Lives w inv post s) (h : Reaches w p s events q s') :
    q.Lives w inv post s' := by
  induction h with
  | here p s => exact hp
  | ask answers goesOn ih => exact ih (hp.2.2 _ _ answers)

/-- It makes no difference what acts get that the program never asks. Those that it asks get some reply. -/
theorem Lives.congr {w' : World A R σ} {p : Program A R α} (hp : p.Lives w inv post s)
    (hw : ∀ act s, (∃ reply s', w act s reply s') → ∀ reply s', w' act s reply s' ↔ w act s reply s') :
    p.Lives w' inv post s := by
  induction p generalizing s with
  | done a => exact hp
  | ask act next ih =>
    obtain ⟨hinv, hreply, hnext⟩ := hp
    have hiff := hw act s hreply
    obtain ⟨reply, s₁, answers⟩ := hreply
    refine ⟨hinv, ⟨reply, s₁, (hiff _ _).mpr answers⟩, ?_⟩
    intro reply s₁ answers
    exact ih reply (hnext reply s₁ ((hiff _ _).mp answers))

/-- A program that always gets a reply comes to an end. -/
theorem Lives.exists_runs {p : Program A R α} (hp : p.Lives w inv post s) : ∃ events a s', Runs w p s events a s' := by
  induction p generalizing s with
  | done a => exact ⟨[], a, s, .done a s⟩
  | ask act next ih =>
    obtain ⟨-, ⟨reply, s₁, answers⟩, hnext⟩ := hp
    obtain ⟨events, a, s', goesOn⟩ := ih reply (hnext reply s₁ answers)
    exact ⟨⟨act, reply⟩ :: events, a, s', .ask answers goesOn⟩

/-- What is left of a program asks no other acts. -/
theorem OnlyAsks.of_reaches {kind : A → Prop} {p q : Program A R α} (hp : p.OnlyAsks kind)
    (h : Reaches w p s events q s') : q.OnlyAsks kind := by
  induction h with
  | here p s => exact hp
  | ask answers goesOn ih => exact ih (hp.2 _)

/-- On its way too a program asks no other acts. -/
theorem OnlyAsks.of_mem_reaches {kind : A → Prop} {p q : Program A R α} (hp : p.OnlyAsks kind)
    (h : Reaches w p s events q s') : ∀ event ∈ events, kind event.1 := by
  induction h with
  | here p s => exact nofun
  | ask answers goesOn ih => exact List.forall_mem_cons.mpr ⟨hp.1, ih (hp.2 _)⟩

end LintPreview.Program

namespace LintPreview.Job

open Program (Reaches World)

variable {α β σ : Type} {w : World ServiceAct ServiceAct.Reply σ} {s s' : σ} {events : List ServiceEvent}
  {q : Program ServiceAct ServiceAct.Reply (Except Stop β)}

/-- What a job asks on its way is of the kind that it only asks. -/
theorem OnlyAsks.of_reaches {kind : ServiceAct → Prop} {job : Job α} {act : ServiceAct}
    {next : act.Reply → Program ServiceAct ServiceAct.Reply (Except Stop α)} (hjob : job.OnlyAsks kind)
    (h : Reaches w job.run s events (.ask act next) s') : kind act :=
  (hjob.program.of_reaches h).1

/-- A job that goes on with the result of another one is on its way in that one, or behind it, or has stopped with it. -/
theorem reaches_bind {job : Job α} {f : α → Job β} (h : Reaches w (job >>= f).run s events q s') :
    (∃ act next next', Reaches w job.run s events (.ask act next) s' ∧ q = .ask act next') ∨
    (∃ a s₁ events₁ events₂, Runs w job s events₁ (.ok a) s₁ ∧ Reaches w (f a).run s₁ events₂ q s' ∧
      events = events₁ ++ events₂) ∨
    (∃ stop, Runs w job s events (.error stop) s' ∧ q = .done (.error stop)) := by
  rw [Program.run_stoppable_bind] at h
  rcases Program.reaches_bind h with ⟨act, next, hq, rfl⟩ | ⟨e, s₁, events₁, events₂, hruns, hreaches, rfl⟩
  · exact .inl ⟨act, next, _, hq, rfl⟩
  · cases e with
    | ok a => exact .inr (.inl ⟨a, s₁, events₁, events₂, hruns, hreaches, rfl⟩)
    | error stop =>
      cases hreaches
      rw [List.append_nil]
      exact .inr (.inr ⟨stop, hruns, rfl⟩)

/-- A job that looks at how another one ends is on its way in that one, or behind it. -/
theorem reaches_outcome_bind {job : Job α} {f : Except Stop α → Job β}
    (h : Reaches w (job.outcome >>= f).run s events q s') :
    (∃ act next next', Reaches w job.run s events (.ask act next) s' ∧ q = .ask act next') ∨
    (∃ e s₁ events₁ events₂, Runs w job s events₁ e s₁ ∧ Reaches w (f e).run s₁ events₂ q s' ∧
      events = events₁ ++ events₂) := by
  rcases reaches_bind h with ⟨act, next, next', hq, rfl⟩ | ⟨e, s₁, events₁, events₂, hruns, hreaches, rfl⟩ |
    ⟨stop, hruns, -⟩
  · rcases Program.reaches_bind hq with ⟨act', next₁, hq', heq⟩ | ⟨e, s₁, events₁, events₂, -, hdone, -⟩
    · cases heq
      exact .inl ⟨act, next₁, next', hq', rfl⟩
    · cases hdone
  · obtain ⟨e', hruns, he⟩ := runs_outcome_iff.mp hruns
    cases he
    exact .inr ⟨e, s₁, events₁, events₂, hruns, hreaches, rfl⟩
  · obtain ⟨e', -, he⟩ := runs_outcome_iff.mp hruns
    cases he

/-- A job that goes on with the result of another one, as far as something holds at every moment. -/
theorem stays_bind {inv : σ → Prop} (mid : Except Stop α → σ → Prop) {post : Except Stop β → σ → Prop} {job : Job α}
    {f : α → Job β} (hjob : job.run.Stays w inv mid s)
    (hok : ∀ a s', inv s' → mid (.ok a) s' → (f a).run.Stays w inv post s')
    (herror : ∀ stop s', inv s' → mid (.error stop) s' → post (.error stop) s') :
    (job >>= f).run.Stays w inv post s := by
  rw [Program.run_stoppable_bind]
  refine hjob.bind ?_
  rintro (stop | a) s' hinv hmid
  · exact ⟨hinv, herror stop s' hinv hmid⟩
  · exact hok a s' hinv hmid

/-- Looking at how a job ends. -/
theorem stays_outcome {inv : σ → Prop} {post : Except Stop α → σ → Prop} {job : Job α}
    (h : job.run.Stays w inv post s) : job.outcome.run.Stays w inv (fun e s' => ∃ e', e = .ok e' ∧ post e' s') s :=
  Program.Stays.bind h fun e _ hinv hpost => ⟨hinv, e, rfl, hpost⟩

theorem stays_ofResult_bind {inv : σ → Prop} {post : Except Stop β → σ → Prop} {e : Except Failure α} {f : α → Job β}
    (hok : ∀ a, e = .ok a → (f a).run.Stays w inv post s)
    (herror : ∀ why, e = .error why → inv s ∧ post (.error (.failed why)) s) :
    (ofResult e >>= f).run.Stays w inv post s := by
  cases e with
  | ok a => exact hok a rfl
  | error why => exact herror why rfl

end LintPreview.Job
