import LintPreview.Proofs.Run.Partway
import LintPreview.Proofs.Simulation.Course
import LintPreview.Proofs.Simulation.Stage

/-!
# Simulations side by side

Several calls simulate rules on one machine at the same time. Each of them reads its baseline, makes a scratch directory,
writes its configuration, has the workspace linted and removes the directory, and any steps of the others can come between.

* `Workshop`: a machine with its scratch directories; `Workshop.Serves`: the replies to what is not done beside a call.
* `RunningCall.Step`: what a call can do next. Errands are done act by act. When a call is cancelled meanwhile, what is
  left of its errand goes on.
* `SideBySide.Step`, `SideBySide.Reachable`: what calls can do side by side, and what all of them can come to.
* `SimulationCall.Comes`: what a call does next, after these works of its own (`SimulationCall.comes_of_reaches`).
-/

namespace LintPreview

open Program (World Reaches)

/-- A simulation that is called for: the rule to switch on, the workspace, and the path of the baseline. -/
structure SimulationCall where
  rule : Text
  workspace : Path
  base : Option Path := none
  isOptin : Bool := false

/-- What a call does. -/
def SimulationCall.program (s : Simulator) (c : SimulationCall) : Service (Except Stop SimulationResult) :=
  (s.simulateRule c.rule c.workspace c.base c.isOptin).run

/-! ### The machine -/

/-- A directory has been removed with what is in it, as far as that went. -/
structure FileTree.Clears (t : FileTree) (path : Path) (t' : FileTree) : Prop where
  working : t'.working = t.working
  entry : ∀ l, t'.get? l = t.get? l ∨ t'.get? l = none ∧ ∃ loc, t.locate path = .ok loc ∧ loc <+: l

/-- Nothing need be left. -/
theorem Host.clears_removeTree (h : Host) (path : Path) (hroot : h.files.locate path ≠ .ok []) :
    h.files.Clears path (h.removeTree path).files := by
  unfold Host.removeTree
  cases hloc : h.files.locate path with
  | error fault => exact ⟨rfl, fun _ => .inl rfl⟩
  | ok loc =>
    refine ⟨rfl, fun l => ?_⟩
    have hne : loc ≠ [] := by
      rintro rfl
      exact hroot hloc
    rw [FileTree.get?_removeTree hne]
    split
    · rename_i hbelow
      exact .inr ⟨rfl, loc, hloc, hbelow⟩
    · exact .inl rfl

/-- A lint tool: which replies it can give about a workspace, going by what stands outside the scratch directories and by
what it finds under the path of its configuration. -/
abbrev LintTool : Type :=
  Path → (Location → Option FileEntry) → Except PathFault (List UInt8) → Except Failure Text → Prop

/-- The directory in which scratch directories are made: a path from the root, without two dots. -/
structure ScratchPlace where
  path : Path
  isAbsolute : path.isAbsolute = true
  noDots : (".." : Text) ∉ path.parts

/-- A directory in the place. -/
def ScratchPlace.child (place : ScratchPlace) (name : Text) : Path := ⟨place.path.root, place.path.parts ++ [name]⟩

/-- A machine, and the locations of all scratch directories that have been made on it. -/
structure Workshop where
  host : Host
  made : List Location := []

namespace Workshop

/-- What stands outside the scratch directories. -/
def around (w : Workshop) (l : Location) : Option FileEntry :=
  if ∃ loc ∈ w.made, loc <+: l then none else w.host.files.get? l

/-- The replies to what a call asks, errands apart. A scratch directory is made where nothing is and where none has been
made before, or not at all. A directory is removed in one step, as far as that goes. A lint call gets a reply of the tool,
which changes nothing, or it is cancelled. Whatever else is asked gets any reply. -/
def Serves (tool : LintTool) (place : ScratchPlace) : World ServiceAct ServiceAct.Reply Workshop
  | .errand _, _, _, _ => False
  | .makeScratch _, w, reply, w' =>
    (∃ (name : Text) (loc : Location), name ≠ ".." ∧ reply = .ok (place.child name) ∧
      w.host.files.locate (place.child name) = .ok loc ∧ w.host.files.IsFree loc ∧ loc ∉ w.made ∧
      w' = ⟨{ w.host with files := w.host.files.put loc .directory }, loc :: w.made⟩) ∨
    (∃ f, reply = .error f) ∧ w' = w
  | .removeTree path, w, _, w' =>
    ∃ files, w.host.files.Clears path files ∧ w' = { w with host := { w.host with files } }
  | .lint workspace config, w, reply, w' =>
    (reply = .error .cancelled ∨ ∃ result, tool workspace w.around (w.host.files.readBytes config) result ∧
      reply = result.mapError .failed) ∧ w' = w
  | _, w, _, w' => w' = w

/-- The replies to a call that nothing comes between: its errands are done to their end. -/
inductive Answers (tool : LintTool) (place : ScratchPlace) : World ServiceAct ServiceAct.Reply Workshop where
  | other {w w' : Workshop} {act : ServiceAct} {reply : act.Reply} (serves : Serves tool place act w reply w') :
      Answers tool place act w reply w'
  | errand {w : Workshop} {work : Errand} {acts : List DiskEvent} {result : Except Failure work.Result} {host : Host}
      (runs : Program.Runs (Host.Answers true) work.program w.host acts result host) :
      Answers tool place (.errand work) w (result.mapError .failed) { w with host }

end Workshop

/-! ### Calls -/

/-- What a call is at: it goes on by itself, or it waits for an errand, of which some is left to do. -/
inductive Stance where
  | goes (rest : Service (Except Stop SimulationResult))
  | waits (work : Errand) (worker : Disk (Except Failure work.Result))
      (next : Except Stop work.Result → Service (Except Stop SimulationResult))

/-- What is left of a call. -/
def Stance.rest : Stance → Service (Except Stop SimulationResult)
  | .goes rest => rest
  | .waits work _ next => .ask (.errand work) next

/-- A call that is going on: what it has met, what it is at, and what is left to do of errands that it no longer waits
for. -/
structure RunningCall where
  events : List ServiceEvent := []
  stance : Stance
  left : List (Disk Unit) := []

namespace RunningCall

/-- A call that has not done anything yet. -/
def begin (s : Simulator) (c : SimulationCall) : RunningCall := { stance := .goes (c.program s) }

/-- What a call can do next on a machine. -/
inductive Step (tool : LintTool) (place : ScratchPlace) : Workshop → RunningCall → Workshop → RunningCall → Prop where
  /-- It gets the reply to something else than an errand. -/
  | act {w w' : Workshop} {events : List ServiceEvent} {left : List (Disk Unit)} {act : ServiceAct} {reply : act.Reply}
      {next : act.Reply → Service (Except Stop SimulationResult)} (serves : Workshop.Serves tool place act w reply w') :
      Step tool place w ⟨events, .goes (.ask act next), left⟩ w' ⟨events ++ [⟨act, reply⟩], .goes (next reply), left⟩
  /-- It has an errand done, and waits for it. -/
  | start {w : Workshop} {events : List ServiceEvent} {left : List (Disk Unit)} {work : Errand}
      {next : Except Stop work.Result → Service (Except Stop SimulationResult)} :
      Step tool place w ⟨events, .goes (.ask (.errand work) next), left⟩ w
        ⟨events, .waits work work.program next, left⟩
  /-- The errand goes on by one act. -/
  | work {w : Workshop} {events : List ServiceEvent} {left : List (Disk Unit)} {work : Errand} {act : DiskAct}
      {reply : act.Reply} {host : Host} {worker : act.Reply → Disk (Except Failure work.Result)}
      {next : Except Stop work.Result → Service (Except Stop SimulationResult)}
      (answers : Host.Answers true act w.host reply host) :
      Step tool place w ⟨events, .waits work (.ask act worker) next, left⟩ { w with host }
        ⟨events, .waits work (worker reply) next, left⟩
  /-- The errand has been done. -/
  | finish {w : Workshop} {events : List ServiceEvent} {left : List (Disk Unit)} {work : Errand}
      {result : Except Failure work.Result} {next : Except Stop work.Result → Service (Except Stop SimulationResult)} :
      Step tool place w ⟨events, .waits work (.done result) next, left⟩ w
        ⟨events ++ [⟨.errand work, result.mapError .failed⟩], .goes (next (result.mapError .failed)), left⟩
  /-- It is cancelled before its errand is begun. -/
  | refuse {w : Workshop} {events : List ServiceEvent} {left : List (Disk Unit)} {work : Errand}
      {next : Except Stop work.Result → Service (Except Stop SimulationResult)} :
      Step tool place w ⟨events, .goes (.ask (.errand work) next), left⟩ w
        ⟨events ++ [⟨.errand work, .error .cancelled⟩], .goes (next (.error .cancelled)), left⟩
  /-- It is cancelled while it waits for its errand. -/
  | cancel {w : Workshop} {events : List ServiceEvent} {left : List (Disk Unit)} {work : Errand}
      {worker : Disk (Except Failure work.Result)}
      {next : Except Stop work.Result → Service (Except Stop SimulationResult)} :
      Step tool place w ⟨events, .waits work worker next, left⟩ w
        ⟨events ++ [⟨.errand work, .error .cancelled⟩], .goes (next (.error .cancelled)),
          (worker >>= fun _ => .done ()) :: left⟩
  /-- An errand that it no longer waits for goes on by one act. -/
  | leftover {w : Workshop} {events : List ServiceEvent} {stance : Stance} {act : DiskAct} {reply : act.Reply}
      {host : Host} {next : act.Reply → Disk Unit} (before after : List (Disk Unit))
      (answers : Host.Answers true act w.host reply host) :
      Step tool place w ⟨events, stance, before ++ .ask act next :: after⟩ { w with host }
        ⟨events, stance, before ++ next reply :: after⟩

/-- A call does some steps. -/
abbrev Passes (tool : LintTool) (place : ScratchPlace) : Workshop × RunningCall → Workshop × RunningCall → Prop :=
  Relation.ReflTransGen fun a b => Step tool place a.1 a.2 b.1 b.2

/-- What a call can come to that is alone on a machine. -/
def Alone (tool : LintTool) (place : ScratchPlace) (s : Simulator) (call : SimulationCall) (w : Workshop) :
    Workshop × RunningCall → Prop :=
  Passes tool place (w, begin s call)

variable {tool : LintTool} {place : ScratchPlace} {w w' : Workshop}

/-- An errand that nothing comes between is done to its end. -/
theorem passes_of_runs {work : Errand} {worker : Disk (Except Failure work.Result)} {host host' : Host}
    {acts : List DiskEvent} {result : Except Failure work.Result}
    (h : Program.Runs (Host.Answers true) worker host acts result host') (made : List Location)
    (events : List ServiceEvent) (next : Except Stop work.Result → Service (Except Stop SimulationResult))
    (left : List (Disk Unit)) :
    Passes tool place (⟨host, made⟩, ⟨events, .waits work worker next, left⟩)
      (⟨host', made⟩, ⟨events, .waits work (.done result) next, left⟩) := by
  induction h with
  | done result host => exact .refl
  | ask answers goesOn ih => exact .head (.work answers) ih

/-- A call that nothing comes between does what its program does. -/
theorem passes_of_reaches {p q : Service (Except Stop SimulationResult)} {events : List ServiceEvent}
    (h : Reaches (Workshop.Answers tool place) p w events q w') (before : List ServiceEvent) (left : List (Disk Unit)) :
    Passes tool place (w, ⟨before, .goes p, left⟩) (w', ⟨before ++ events, .goes q, left⟩) := by
  induction h generalizing before with
  | here p w => rw [List.append_nil]
  | @ask act next w w₁ w' reply events q answers goesOn ih =>
    have hrest := ih (before ++ [⟨act, reply⟩])
    rw [List.append_assoc, List.singleton_append] at hrest
    cases answers with
    | other serves => exact .head (.act serves) hrest
    | errand runs => exact .head .start ((passes_of_runs runs w.made before next left).trans (.head .finish hrest))

end RunningCall

/-- A machine, and the calls that are going on side by side. -/
structure SideBySide (ι : Type) where
  shop : Workshop
  calls : ι → RunningCall

namespace SideBySide

variable {ι : Type}

/-- No call has begun. -/
def start (s : Simulator) (host : Host) (calls : ι → SimulationCall) : SideBySide ι :=
  ⟨{ host }, fun i => .begin s (calls i)⟩

variable [DecidableEq ι]

/-- The machine and one of the calls have changed. -/
def advance (m : SideBySide ι) (i : ι) (w : Workshop) (c : RunningCall) : SideBySide ι :=
  ⟨w, Function.update m.calls i c⟩

@[simp] theorem advance_calls_self (m : SideBySide ι) (i : ι) (w : Workshop) (c : RunningCall) :
    (m.advance i w c).calls i = c :=
  Function.update_self ..

@[simp] theorem advance_calls_of_ne (m : SideBySide ι) {i j : ι} (h : j ≠ i) (w : Workshop) (c : RunningCall) :
    (m.advance i w c).calls j = m.calls j :=
  Function.update_of_ne h ..

/-- One of the calls does a step. -/
def Step (tool : LintTool) (place : ScratchPlace) (i : ι) (m m' : SideBySide ι) : Prop :=
  ∃ w c, RunningCall.Step tool place m.shop (m.calls i) w c ∧ m' = m.advance i w c

/-- Some time passes. -/
abbrev Passes (tool : LintTool) (place : ScratchPlace) : SideBySide ι → SideBySide ι → Prop :=
  Relation.ReflTransGen fun m m' => ∃ i, Step tool place i m m'

/-- Steps of one of the calls are steps of all. -/
theorem Passes.of_call {tool : LintTool} {place : ScratchPlace} {m : SideBySide ι} {i : ι} {a : Workshop × RunningCall}
    (h : RunningCall.Passes tool place (m.shop, m.calls i) a) : Passes tool place m (m.advance i a.1 a.2) := by
  induction h with
  | refl => rw [advance, Function.update_eq_self]
  | @tail a b _ hstep ih =>
    refine ih.tail ⟨i, b.1, b.2, ?_, ?_⟩
    · rw [advance_calls_self]
      exact hstep
    · rw [advance, advance, advance, Function.update_idem]

/-- What calls can come to that begin on a machine without scratch directories. -/
def Reachable (tool : LintTool) (place : ScratchPlace) (s : Simulator) (host : Host) (calls : ι → SimulationCall) :
    SideBySide ι → Prop :=
  Passes tool place (start s host calls)

end SideBySide

/-! ### The order of works -/

/-- Every act gets any reply. -/
def anyReply : World ServiceAct ServiceAct.Reply Unit := fun _ _ _ _ => True

theorem isTotal_anyReply : anyReply.IsTotal := by
  intro act s
  obtain ⟨reply, -⟩ := @Stage.isTotal_answers Eq (fun _ => rfl) act ⟨{}, []⟩
  exact ⟨reply, s, trivial⟩

/-- Works are among the events. -/
theorem Simulator.mem_of_worksOf {events works : List ServiceEvent} {event : ServiceEvent}
    (hworks : worksOf events = works) (h : event ∈ works) : event ∈ events :=
  List.mem_of_mem_filter (hworks ▸ h)

theorem Simulator.mem_of_worksOf_second {events rest : List ServiceEvent} {first event : ServiceEvent}
    (hworks : worksOf events = first :: event :: rest) : event ∈ events :=
  mem_of_worksOf hworks (List.mem_cons_of_mem _ List.mem_cons_self)

namespace SimulationCall

open Simulator (worksOf Lints)

variable {s : Simulator} {c : SimulationCall} {works before : List ServiceEvent} {act : ServiceAct}

/-- `c.Comes s works act`: after these works of the call `c` the work `act` comes next. -/
inductive Comes (s : Simulator) (c : SimulationCall) : List ServiceEvent → ServiceAct → Prop where
  | read : Comes s c [] (.errand (.readBaseline c.base))
  | make {b d : Document}
      (enables : b.enable c.rule c.isOptin (some c.workspace.toString) s.settings.applyDefaultExclusions = .ok d) :
      Comes s c [⟨.errand (.readBaseline c.base), .ok b⟩] (.makeScratch s.settings.scratchPrefix)
  | write {b d : Document} (directory : Path)
      (enables : b.enable c.rule c.isOptin (some c.workspace.toString) s.settings.applyDefaultExclusions = .ok d) :
      Comes s c [⟨.errand (.readBaseline c.base), .ok b⟩, ⟨.makeScratch s.settings.scratchPrefix, .ok directory⟩]
        (.errand (.writeText (s.configIn directory) d.toYaml))
  | lint {b d : Document} (directory : Path)
      (enables : b.enable c.rule c.isOptin (some c.workspace.toString) s.settings.applyDefaultExclusions = .ok d)
      (whole : d.dumpFault? = none) :
      Comes s c [⟨.errand (.readBaseline c.base), .ok b⟩, ⟨.makeScratch s.settings.scratchPrefix, .ok directory⟩,
        ⟨.errand (.writeText (s.configIn directory) d.toYaml), .ok ()⟩] (.lint c.workspace (s.configIn directory))
  | remove {first : ServiceEvent} (directory : Path) (rest : List ServiceEvent) :
      Comes s c (first :: ⟨.makeScratch s.settings.scratchPrefix, .ok directory⟩ :: rest) (.removeTree directory)

theorem comes_of_lints {b d : Document} {e : Except Stop Text} {reply : act.Reply} {after : List ServiceEvent}
    (enables : b.enable c.rule c.isOptin (some c.workspace.toString) s.settings.applyDefaultExclusions = .ok d)
    (h : s.Lints c.workspace d works e) (hworks : before ++ ⟨act, reply⟩ :: after = works) :
    c.Comes s (⟨.errand (.readBaseline c.base), .ok b⟩ :: before) act := by
  cases h with
  | unmade f =>
    rcases before with _ | ⟨e₁, _ | ⟨e₂, before⟩⟩ <;> cases hworks
    exact .make enables
  | undumped directory lost =>
    rcases before with _ | ⟨e₁, _ | ⟨e₂, _ | ⟨e₃, before⟩⟩⟩ <;> cases hworks
    · exact .make enables
    · exact .remove directory []
  | unwritten directory stop whole =>
    rcases before with _ | ⟨e₁, _ | ⟨e₂, _ | ⟨e₃, _ | ⟨e₄, before⟩⟩⟩⟩ <;> cases hworks
    · exact .make enables
    · exact .write directory enables
    · exact .remove directory _
  | called directory reply' whole =>
    rcases before with _ | ⟨e₁, _ | ⟨e₂, _ | ⟨e₃, _ | ⟨e₄, _ | ⟨e₅, before⟩⟩⟩⟩⟩ <;> cases hworks
    · exact .make enables
    · exact .write directory enables
    · exact .lint directory enables whole
    · exact .remove directory _

theorem comes_of_course {e : Except Stop SimulationResult} {reply : act.Reply} {after : List ServiceEvent}
    (h : s.Course c.rule c.workspace c.base c.isOptin works e) (hworks : before ++ ⟨act, reply⟩ :: after = works) :
    c.Comes s before act := by
  rcases before with _ | ⟨first, before⟩
  · cases h <;> cases hworks <;> exact .read
  · cases h with
    | rejected stop =>
      rcases before with _ | ⟨e₁, before⟩ <;> cases hworks
    | unlisted b fails =>
      rcases before with _ | ⟨e₁, before⟩ <;> cases hworks
    | unreported b enables lints | unreadable b enables lints | reported b enables lints =>
      obtain ⟨rfl, hrest⟩ := List.cons.inj hworks
      exact comes_of_lints enables lints hrest

/-- What a call does next, whatever replies it has got. -/
theorem comes_of_reaches {events : List ServiceEvent} {next : act.Reply → Service (Except Stop SimulationResult)}
    (h : Reaches anyReply (c.program s) () events (.ask act next) ()) (hact : act.isWork = true) :
    c.Comes s (worksOf events) act := by
  obtain ⟨reply, -⟩ := isTotal_anyReply act ()
  obtain ⟨events', e, ⟨⟩, hruns⟩ := Program.exists_runs isTotal_anyReply (next reply) ()
  have hsnoc := h.snoc (show anyReply act () reply () from trivial)
  have hcourse := Simulator.course_of_runs (hsnoc.trans hruns.reaches).runs
  have hworks : worksOf (events ++ [⟨act, reply⟩] ++ events') = worksOf events ++ ⟨act, reply⟩ :: worksOf events' := by
    rw [Simulator.worksOf_append, Simulator.worksOf_append, Simulator.worksOf_cons_of_isWork (by exact hact),
      List.append_assoc]
    rfl
  exact comes_of_course hcourse hworks.symm

end SimulationCall

end LintPreview
