import LintPreview.Proofs.Files.Places
import LintPreview.Proofs.Run.Moments
import LintPreview.Proofs.Run.Surroundings
import Mathlib.Logic.Relation

/-!
# Where simulations take place

* `Stage`: a machine, and the work on its files that goes on although nobody waits for it any longer.
* `Stage.Passes`: time passes, in which such work goes on. `Stage.Does`: work that is waited for, beside it.
* `Stage.Answers`: the answers to a service that can be cancelled whenever it waits. `Stage.isTotal_answers`: every act
  gets some reply.
* `Stage.Keeps`: a property of the files that no write under certain paths breaks, while nothing else is going on than
  such writes. Work keeps it (`Stage.Passes.keeps`, `Stage.Does.keeps`), and so does an event that spares it
  (`Stage.Answers.keeps`), and a list of such events (`Stage.keeps_of_steps`).
-/

namespace LintPreview

open Program (World)

/-- A machine, and what is left to do of work that nobody waits for. -/
structure Stage where
  host : Host
  left : List (Disk Unit) := []

/-- The act changes nothing but by writing under a path of a kind. -/
def DiskAct.OnlyWrites (kind : Path → Prop) : DiskAct → Prop
  | .now | .read _ => True
  | .write path _ => kind path
  | _ => False

namespace Stage

/-! ### Work -/

/-- Some work that nobody waits for goes on by one act. -/
inductive Proceeds : Stage → Stage → Prop where
  | act {host host' : Host} {act : DiskAct} {next : act.Reply → Disk Unit} {reply : act.Reply}
      (before after : List (Disk Unit)) (answers : Host.Answers true act host reply host') :
      Proceeds ⟨host, before ++ .ask act next :: after⟩ ⟨host', before ++ next reply :: after⟩

/-- Some time passes. -/
abbrev Passes : Stage → Stage → Prop := Relation.ReflTransGen Proceeds

/-- `Does p q p' q'`: the work `p` goes on, beside the work that nobody waits for, until `p'` is left of it. -/
inductive Does {α : Type} : Disk α → Stage → Disk α → Stage → Prop where
  | rest (p : Disk α) (q : Stage) : Does p q p q
  | own {act : DiskAct} {next : act.Reply → Disk α} {reply : act.Reply} {p' : Disk α} {q q' : Stage} {host : Host}
      (answers : Host.Answers true act q.host reply host) (goesOn : Does (next reply) { q with host } p' q') :
      Does (.ask act next) q p' q'
  | other {p p' : Disk α} {q q₁ q' : Stage} (proceeds : Proceeds q q₁) (goesOn : Does p q₁ p' q') : Does p q p' q'

/-- Whatever a disk does, work can be done to its end. -/
theorem exists_does {α : Type} (p : Disk α) (q : Stage) : ∃ a q', Does p q (.done a) q' := by
  induction p generalizing q with
  | done a => exact ⟨a, q, .rest _ q⟩
  | ask act next ih =>
    obtain ⟨reply, host, answers⟩ := Host.isTotal_answers true act q.host
    obtain ⟨a, q', goesOn⟩ := ih reply { q with host }
    exact ⟨a, q', .own answers goesOn⟩

/-! ### Answers -/

/-- The answers to a service on a stage where no time passes, given what calls of the lint tool can do to the files. An
errand is work that is waited for. If the service is cancelled meanwhile, what is left of it goes on, and nobody waits
for it. A scratch directory is made at any free place that a path from the root names, or not at all. A directory is
removed in one step: what other work writes there, it writes before or after. Whatever else is asked gets any reply. -/
def Serves (tool : FileTree → FileTree → Prop) : World ServiceAct ServiceAct.Reply Stage
  | .errand work, q, reply, q' =>
    (∃ result, Does work.program q (.done result) q' ∧ reply = result.mapError .failed) ∨
    (∃ p q₁, Does work.program q p q₁ ∧ reply = .error .cancelled ∧
      q' = { q₁ with left := (p >>= fun _ => .done ()) :: q₁.left })
  | .makeScratch _, q, reply, q' =>
    (∃ path loc, reply = .ok path ∧ path.isAbsolute = true ∧ q.host.files.locate path = .ok loc ∧
      q.host.files.IsFree loc ∧ q' = { q with host.files := q.host.files.put loc .directory }) ∨
    (∃ f, reply = .error f) ∧ q' = q
  | .removeTree path, q, _, q' => q' = { q with host := q.host.removeTree path }
  | .lint _ _, q, _, q' => ∃ files, tool q.host.files files ∧ q' = { q with host.files := files }
  | _, q, _, q' => q' = q

/-- The answers to a service that can be cancelled whenever it waits: some time passes before each of them. -/
def Answers (tool : FileTree → FileTree → Prop) : World ServiceAct ServiceAct.Reply Stage :=
  fun act q reply q' => ∃ q₁, Passes q q₁ ∧ Serves tool act q₁ reply q'

theorem isTotal_answers {tool : FileTree → FileTree → Prop} (htool : ∀ t, tool t t) : (Answers tool).IsTotal := by
  intro act q
  suffices hserves : ∃ reply q', Serves tool act q reply q' by
    obtain ⟨reply, q', hserves⟩ := hserves
    exact ⟨reply, q', q, .refl, hserves⟩
  cases act
  case errand work =>
    obtain ⟨result, q', hdoes⟩ := exists_does work.program q
    exact ⟨_, q', .inl ⟨result, hdoes, rfl⟩⟩
  case makeScratch label => exact ⟨.error (.general ""), q, .inr ⟨⟨_, rfl⟩, rfl⟩⟩
  case removeTree path => exact ⟨(), _, rfl⟩
  case lint workspace config => exact ⟨.ok "", _, q.host.files, htool _, rfl⟩
  case clock => exact ⟨(0 : Nat), q, rfl⟩
  case now => exact ⟨q.host.moment, q, rfl⟩
  case isDirectory => exact ⟨.ok false, q, rfl⟩
  case listRules => exact ⟨.ok "", q, rfl⟩
  case version => exact ⟨.ok "", q, rfl⟩
  case awaitDetails => exact ⟨.ok (0, .ok ""), q, rfl⟩
  case send => exact ⟨.error .timedOut, q, rfl⟩
  case receive => exact ⟨.error .timedOut, q, rfl⟩
  case drain => exact ⟨.error .timedOut, q, rfl⟩
  case enterLoad => exact ⟨.ok (), q, rfl⟩
  case rules => exact ⟨([] : List Rule), q, rfl⟩
  all_goals exact ⟨(), q, rfl⟩

/-! ### What no work breaks -/

/-- The files have a property, and no work is left but such as writes under paths of a kind. -/
structure Keeps (kind : Path → Prop) (Inv : FileTree → Prop) (q : Stage) : Prop where
  left : ∀ p ∈ q.left, Program.OnlyAsks (DiskAct.OnlyWrites kind) p
  files : Inv q.host.files

/-- No write under a path of a kind breaks a property of the files. -/
def Withstands (kind : Path → Prop) (Inv : FileTree → Prop) : Prop :=
  ∀ t path content t', kind path → Inv t → t.write path content = .ok t' → Inv t'

variable {kind : Path → Prop} {Inv : FileTree → Prop} {tool : FileTree → FileTree → Prop} {q q' : Stage} {α : Type}

theorem Withstands.files_of_write (h : Withstands kind Inv) {path : Path} (hpath : kind path) (host : Host)
    (content : List UInt8) (hInv : Inv host.files) : Inv (host.changed (host.files.write path content)).2.files := by
  cases hwrite : host.files.write path content with
  | ok t => exact h _ _ _ _ hpath hInv hwrite
  | error fault => exact hInv

theorem Withstands.files_of_answers (h : Withstands kind Inv) {act : DiskAct} (hact : act.OnlyWrites kind)
    {host host' : Host} {reply : act.Reply} (answers : Host.Answers true act host reply host') (hInv : Inv host.files) :
    Inv host'.files := by
  cases act with
  | now =>
    obtain ⟨-, rfl⟩ := answers
    exact hInv
  | read path =>
    obtain ⟨rfl, -⟩ := answers
    exact hInv
  | write path content =>
    rcases answers with heq | ⟨-, bytes, rfl⟩
    · rw [Host.answerDisk] at heq
      split at heq
      · rw [(Prod.mk.inj heq).2]
        exact h.files_of_write hact host _ hInv
      · rw [(Prod.mk.inj heq).2]
        exact h.files_of_write hact host _ hInv
    · exact h.files_of_write hact host bytes hInv
  | makeDirectories | makeTemporary | replace | remove => exact hact.elim

theorem Proceeds.keeps (hInv : Withstands kind Inv) (h : Proceeds q q') (hq : q.Keeps kind Inv) : q'.Keeps kind Inv := by
  obtain ⟨before, after, answers⟩ := h
  have hwork := hq.left _ (List.mem_append_right before List.mem_cons_self)
  refine ⟨fun p hp => ?_, hInv.files_of_answers hwork.1 answers hq.files⟩
  rcases List.mem_append.mp hp with hp | hp
  · exact hq.left p (List.mem_append_left _ hp)
  · rcases List.mem_cons.mp hp with rfl | hp
    · exact hwork.2 _
    · exact hq.left p (List.mem_append_right before (List.mem_cons_of_mem _ hp))

theorem Passes.keeps (hInv : Withstands kind Inv) (h : Passes q q') (hq : q.Keeps kind Inv) : q'.Keeps kind Inv := by
  induction h with
  | refl => exact hq
  | tail _ hproceeds ih => exact hproceeds.keeps hInv ih

theorem Does.keeps (hInv : Withstands kind Inv) {p p' : Disk α} (h : Does p q p' q')
    (hp : Program.OnlyAsks (DiskAct.OnlyWrites kind) p) (hq : q.Keeps kind Inv) :
    Program.OnlyAsks (DiskAct.OnlyWrites kind) p' ∧ q'.Keeps kind Inv := by
  induction h with
  | rest p q => exact ⟨hp, hq⟩
  | own answers goesOn ih => exact ih (hp.2 _) ⟨hq.left, hInv.files_of_answers hp.1 answers hq.files⟩
  | other proceeds goesOn ih => exact ih hp (proceeds.keeps hInv hq)

/-- The event breaks no property of the files that writes under paths of a kind do not break. -/
def Spares (kind : Path → Prop) (Inv : FileTree → Prop) (tool : FileTree → FileTree → Prop) :
    (act : ServiceAct) → act.Reply → Prop
  | .errand work, _ => Program.OnlyAsks (DiskAct.OnlyWrites kind) work.program
  | .makeScratch _, reply => ∀ t path loc, reply = .ok path → path.isAbsolute = true → t.locate path = .ok loc →
      t.IsFree loc → Inv t → Inv (t.put loc .directory)
  | .removeTree path, _ => ∀ t loc, t.locate path = .ok loc → Inv t → Inv (t.removeTree loc)
  | .lint _ _, _ => ∀ t t', Inv t → tool t t' → Inv t'
  | _, _ => True

theorem Answers.keeps (hInv : Withstands kind Inv) {act : ServiceAct} {reply : act.Reply}
    (h : Answers tool act q reply q') (hact : Spares kind Inv tool act reply) (hq : q.Keeps kind Inv) :
    q'.Keeps kind Inv := by
  obtain ⟨q₁, hpasses, hserves⟩ := h
  replace hq := hpasses.keeps hInv hq
  cases act with
  | errand work =>
    rcases hserves with ⟨result, hdoes, -⟩ | ⟨p, q₂, hdoes, -, rfl⟩
    · exact (hdoes.keeps hInv hact hq).2
    · obtain ⟨hp, hq⟩ := hdoes.keeps hInv hact hq
      refine ⟨fun p' hp' => ?_, hq.files⟩
      rcases List.mem_cons.mp hp' with rfl | hp'
      · exact hp.bind fun _ => trivial
      · exact hq.left p' hp'
  | makeScratch label =>
    rcases hserves with ⟨path, loc, hreply, habsolute, hloc, hfree, rfl⟩ | ⟨-, rfl⟩
    · exact ⟨hq.left, hact _ path loc hreply habsolute hloc hfree hq.files⟩
    · exact hq
  | removeTree path =>
    subst hserves
    refine ⟨hq.left, ?_⟩
    cases hloc : q₁.host.files.locate path with
    | ok loc =>
      rw [Host.removeTree, hloc]
      exact hact _ loc hloc hq.files
    | error fault =>
      rw [Host.removeTree, hloc]
      exact hq.files
  | lint workspace config =>
    obtain ⟨files, htool, rfl⟩ := hserves
    exact ⟨hq.left, hact _ _ hq.files htool⟩
  | _ =>
    cases hserves
    exact hq

/-- Events that spare a property of the files keep it, one after the other. -/
theorem keeps_of_steps (hInv : Withstands kind Inv) {events : List ServiceEvent}
    (h : (Answers tool).Steps q events q') (hevents : ∀ event ∈ events, Spares kind Inv tool event.1 event.2)
    (hq : q.Keeps kind Inv) : q'.Keeps kind Inv :=
  h.invariant (fun event hevent _ _ hq hact => hact.keeps hInv (hevents event hevent) hq) hq

end Stage

end LintPreview
