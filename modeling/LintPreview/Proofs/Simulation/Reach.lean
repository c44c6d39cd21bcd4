import LintPreview.Proofs.Simulation.Course
import LintPreview.Proofs.Simulation.Stage
import LintPreview.Rehearsal

/-!
# What simulations change

* `Simulator.InReach`: the locations below the scratch directory of a simulation, and the one where the path of its
  configuration leads.
* `Simulator.Course.isOwn`: the works of a simulation are about its own scratch directory and its configuration.
* `Simulator.runs_reach`: whatever is changed at any moment of a simulation is in its reach. If the name of the
  configuration leads downwards, this is below the scratch directory.
* `Simulator.simulateRule_overwrites`: a name that starts at the root leads to a file of the user.
-/

namespace LintPreview

namespace Simulator

open FileTree (Leads)

/-- A location is in reach of a simulation with these events: it is at or below its scratch directory, or the path of its
configuration leads there. -/
inductive InReach (s : Simulator) (t : FileTree) (events : List ServiceEvent) : Location → Prop where
  | scratch {label : Text} {directory : Path} {loc l : Location}
      (made : ⟨.makeScratch label, .ok directory⟩ ∈ events) (leads : t.Leads directory loc) (below : loc <+: l) :
      InReach s t events l
  | configuration {label : Text} {directory : Path} {l : Location}
      (made : ⟨.makeScratch label, .ok directory⟩ ∈ events) (leads : t.Leads (s.configIn directory) l) :
      InReach s t events l

variable {s : Simulator} {rule : Text} {workspace : Path} {isOptin : Bool} {events works : List ServiceEvent}

/-! ### Works -/

/-- The act is about a scratch directory that was made among these works, or about the configuration in it. -/
def IsOwn (s : Simulator) (works : List ServiceEvent) : ServiceAct → Prop
  | .errand (.writeText path _) => ∃ label directory, ⟨.makeScratch label, .ok directory⟩ ∈ works ∧ path = s.configIn directory
  | .removeTree path => ∃ label, ⟨.makeScratch label, .ok path⟩ ∈ works
  | .errand (.loadRules _) | .errand (.saveRules ..) => False
  | _ => True

theorem IsOwn.mono {works' : List ServiceEvent} (h : works ⊆ works') {act : ServiceAct} (hact : s.IsOwn works act) :
    s.IsOwn works' act := by
  cases act with
  | errand work =>
    cases work with
    | writeText path content =>
      obtain ⟨label, directory, hmade, hpath⟩ := hact
      exact ⟨label, directory, h hmade, hpath⟩
    | readBaseline => trivial
    | loadRules | saveRules => exact hact.elim
  | removeTree path =>
    obtain ⟨label, hmade⟩ := hact
    exact ⟨label, h hmade⟩
  | _ => trivial

theorem Lints.isOwn {d : Document} {e : Except Stop Text} (h : s.Lints workspace d works e) :
    ∀ event ∈ works, s.IsOwn works event.1 := by
  cases h <;> simp [IsOwn]

theorem Course.isOwn {base : Option Path} {e : Except Stop SimulationResult}
    (h : s.Course rule workspace base isOptin works e) : ∀ event ∈ works, s.IsOwn works event.1 := by
  have hcons : ∀ {d works} {e : Except Stop Text} {first : ServiceEvent}, s.IsOwn (first :: works) first.1 →
      s.Lints workspace d works e → ∀ event ∈ first :: works, s.IsOwn (first :: works) event.1 := by
    intro d works e first hfirst hlints event hevent
    rcases List.mem_cons.mp hevent with rfl | hevent
    · exact hfirst
    · exact (hlints.isOwn event hevent).mono (List.subset_cons_self first works)
  cases h with
  | rejected stop => simp [IsOwn]
  | unlisted b fails => simp [IsOwn]
  | unreported b enables lints => exact hcons trivial lints
  | unreadable b enables lints fails => exact hcons trivial lints
  | reported b enables lints reads named => exact hcons trivial lints

/-! ### Changes -/

/-- Nothing is changed but what is in reach. -/
structure SameBeyond (s : Simulator) (t : FileTree) (events : List ServiceEvent) (t' : FileTree) : Prop where
  working : t'.working = t.working
  entry : ∀ l, ¬ s.InReach t events l → t'.get? l = t.get? l

/-- The path is that of the configuration in a scratch directory. -/
def IsConfiguration (s : Simulator) (events : List ServiceEvent) (path : Path) : Prop :=
  ∃ label directory, ⟨.makeScratch label, .ok directory⟩ ∈ events ∧ path = s.configIn directory

theorem withstands_sameBeyond (s : Simulator) (t : FileTree) (events : List ServiceEvent) :
    Stage.Withstands (s.IsConfiguration events) (s.SameBeyond t events) := by
  rintro t₁ path content t₂ ⟨label, directory, hmade, rfl⟩ hsame hwrite
  obtain ⟨loc, executable, hloc, hdirectory, rfl⟩ := FileTree.exists_of_write hwrite
  refine ⟨hsame.working, fun l hl => ?_⟩
  rw [FileTree.get?_put (FileTree.ne_nil_of_get? hdirectory), if_neg]
  · exact hsame.entry l hl
  · rintro rfl
    exact hl (.configuration hmade ((FileTree.leads_of_locate hloc).of_working hsame.working.symm))

/-- An act of a simulation's own changes nothing beyond its reach. -/
theorem spares_of_isOwn {t : FileTree} {event : ServiceEvent} (hevent : event ∈ events) (hown : s.IsOwn events event.1) :
    Stage.Spares (s.IsConfiguration events) (s.SameBeyond t events) Eq event.1 event.2 := by
  obtain ⟨act, reply⟩ := event
  cases act with
  | errand work =>
    cases work with
    | readBaseline base =>
      cases base with
      | none => trivial
      | some path => exact ⟨trivial, fun _ => trivial⟩
    | writeText path content => exact ⟨hown, fun _ => trivial⟩
    | loadRules | saveRules => exact hown.elim
  | makeScratch label =>
    rintro t₁ directory loc rfl - hloc hfree hsame
    refine ⟨hsame.working, fun l hl => ?_⟩
    rw [FileTree.get?_put hfree.ne_nil, if_neg]
    · exact hsame.entry l hl
    · rintro rfl
      exact hl (.scratch hevent ((FileTree.leads_of_locate hloc).of_working hsame.working.symm) (List.prefix_refl _))
  | removeTree directory =>
    intro t₁ loc hloc hsame
    obtain ⟨label, hmade⟩ := hown
    refine ⟨hsame.working, fun l hl => ?_⟩
    have hout : ¬ loc <+: l :=
      fun hbelow => hl (.scratch hmade ((FileTree.leads_of_locate hloc).of_working hsame.working.symm) hbelow)
    have hne : loc ≠ [] := by
      rintro rfl
      exact hout List.nil_prefix
    rw [FileTree.get?_removeTree hne, if_neg hout]
    exact hsame.entry l hl
  | lint =>
    rintro t₁ t₂ hsame rfl
    exact hsame
  | _ => trivial

/-- A name that leads downwards from any directory. -/
def IsInner (name : Text) : Prop :=
  (Path.ofString name).isAbsolute = false ∧ (".." : Text) ∉ (Path.ofString name).parts

instance (name : Text) : Decidable (IsInner name) := inferInstanceAs (Decidable (_ ∧ _))

/-- The configuration of a name that leads downwards is in the scratch directory. -/
theorem InReach.below {t : FileTree} {l : Location} (h : s.InReach t events l) (hname : IsInner s.configFileName) :
    ∃ label directory loc, ⟨.makeScratch label, .ok directory⟩ ∈ events ∧ t.Leads directory loc ∧ loc <+: l := by
  cases h with
  | scratch made leads below => exact ⟨_, _, _, made, leads, below⟩
  | configuration made leads =>
    obtain ⟨loc, hleads, hbelow⟩ := FileTree.exists_leads_of_join leads hname.1 hname.2
    exact ⟨_, _, loc, made, hleads, hbelow⟩

/-- Whatever differs at any moment of a simulation, or at any time after it, from what was there when it began is in its
reach; the lint tool is taken to change nothing itself. If the name of the configuration leads downwards, it is in the
scratch directory that the simulation made. -/
theorem runs_reach (s : Simulator) (rule : Text) (workspace : Path) (base : Option Path) (isOptin : Bool) (host : Host) :
    (∃ events e q', Job.Runs (Stage.Answers Eq) (s.simulateRule rule workspace base isOptin) ⟨host, []⟩
      events e q') ∧
    ∀ events e q', Job.Runs (Stage.Answers Eq) (s.simulateRule rule workspace base isOptin) ⟨host, []⟩
        events e q' →
      ∀ before q₁ q₂, before <+: events → (Stage.Answers Eq).Steps ⟨host, []⟩ before q₁ →
        Stage.Passes q₁ q₂ → ∀ l, q₂.host.files.get? l ≠ host.files.get? l →
          s.InReach host.files events l ∧
          (IsInner s.configFileName → ∃ label directory loc, ⟨.makeScratch label, .ok directory⟩ ∈ events ∧
            host.files.Leads directory loc ∧ loc <+: l) := by
  refine ⟨Program.exists_runs (Stage.isTotal_answers fun _ => rfl) _ _, ?_⟩
  intro events e q' hrun before q₁ q₂ hbefore hsteps hpasses l hl
  have hspares : ∀ event ∈ events, Stage.Spares (s.IsConfiguration events) (s.SameBeyond host.files events)
      Eq event.1 event.2 := by
    intro event hevent
    refine spares_of_isOwn hevent ?_
    by_cases hwork : event.1.isWork = true
    · have hown := (course_of_runs hrun).isOwn event (List.mem_filter.mpr ⟨hevent, hwork⟩)
      exact hown.mono (List.filter_subset_self events)
    · obtain ⟨act, reply⟩ := event
      cases act <;> trivial
  have hstart : Stage.Keeps (s.IsConfiguration events) (s.SameBeyond host.files events) ⟨host, []⟩ :=
    ⟨fun _ hp => absurd hp List.not_mem_nil, rfl, fun _ _ => rfl⟩
  have hwithstands := s.withstands_sameBeyond host.files events
  have hkeeps := Stage.keeps_of_steps hwithstands hsteps (fun event hevent => hspares event (hbefore.subset hevent)) hstart
  have hreach : s.InReach host.files events l := by
    by_contra hout
    exact hl ((hpasses.keeps hwithstands hkeeps).files.entry l hout)
  exact ⟨hreach, fun hname => hreach.below hname⟩

/-- A file of the user below the root, and room for scratch directories. -/
def userFiles : FileTree :=
  (FileTree.plant {} (Path.ofString "/tmp") .directory).plant (Path.ofString "/own.yml") (.file [] false)

/-- Simulations whose configuration has the path of that file for its name. -/
def ofUserFile : Simulator where
  settings := { applyDefaultExclusions := false }
  configFileName := "/own.yml"

/-- The simulation of a rule replaces the content of the user's file, which is empty before. -/
theorem simulateRule_overwrites :
    userFiles.readBytes (Path.ofString "/own.yml") = .ok [] ∧
    (Rehearsal.run (ofUserFile.simulateRule "force_cast" (Path.ofString "/app") (some (Path.ofString "/own.yml")) false)
      { host := { files := userFiles } }).2.host.files.readBytes (Path.ofString "/own.yml") = .ok [0x7B, 0x7D, 0x0A] := by
  decide +kernel

end Simulator

end LintPreview
