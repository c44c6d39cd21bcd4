import LintPreview.Proofs.Simulation.Cleanup
import LintPreview.Proofs.Simulation.Reach

/-!
# Simulations that leave no trace

* `FileTree.IsFree.removeTree_eq`, `FileTree.removeTree_put`: a directory that was made at a free place, removed with all
  that was put into it, leaves the tree as it was.
* `Stage.Does.runs`: beside no other work, work that is waited for is a run of its program.
* `Simulator.eq_of_runs_simulateRule`: a simulation that is not cancelled leaves the machine as it was, if the name of the
  configuration leads downwards. So the next one finds the machine as if it were the first.
-/

namespace LintPreview

/-! ### Trees -/

namespace FileTree

variable {t : FileTree} {loc l : Location}

theorem ne_of_get?_eq_none (hl : l ≠ []) (h : t.get? l = none) : ∀ x ∈ t.entries, x.1 ≠ l := by
  rw [get?, if_neg hl] at h
  intro x hx heq
  suffices hfound : find l t.entries ≠ none from hfound h
  clear h
  generalize t.entries = entries at hx
  induction entries with
  | nil => cases hx
  | cons y entries ih =>
    rw [find]
    split
    · exact Option.some_ne_none _
    · rename_i hy
      rcases List.mem_cons.mp hx with rfl | hx
      · exact absurd heq hy
      · exact ih hx

/-- Removing what is not there changes nothing. -/
theorem IsFree.removeTree_eq (h : t.IsFree loc) : t.removeTree loc = t := by
  have hall : ∀ x ∈ t.entries, (!loc.isPrefixOf x.1) = true := by
    intro x hx
    rw [Bool.not_eq_true', ← Bool.not_eq_true, List.isPrefixOf_iff_prefix]
    intro hbelow
    have hne : x.1 ≠ [] := fun hnil => h.ne_nil (List.prefix_nil.mp (hnil ▸ hbelow))
    exact ne_of_get?_eq_none hne (h x.1 hbelow) x hx rfl
  rw [removeTree, List.filter_eq_self.mpr hall]

/-- What was put at a location or below it is removed with it. -/
theorem removeTree_put (h : loc <+: l) (t : FileTree) (e : FileEntry) : (t.put l e).removeTree loc = t.removeTree loc := by
  have hkeep : ∀ x : Location × FileEntry, (!loc.isPrefixOf x.1) = true → x.1 ≠ l := by
    rintro x hx rfl
    rw [List.isPrefixOf_iff_prefix.mpr h] at hx
    cases hx
  have hentries : (t.entries.filter fun x => x.1 ≠ l).filter (fun x => !loc.isPrefixOf x.1) =
      t.entries.filter fun x => !loc.isPrefixOf x.1 := by
    rw [List.filter_filter]
    refine List.filter_congr fun x _ => ?_
    cases hx : !loc.isPrefixOf x.1 with
    | false => rfl
    | true => simpa using hkeep x hx
  have hfirst : (!loc.isPrefixOf l) = false := by rw [List.isPrefixOf_iff_prefix.mpr h, Bool.not_true]
  rw [removeTree, removeTree, put, List.filter_cons_of_neg (by rw [hfirst]; decide), hentries]

theorem Leads.unique {p : Path} (h : t.Leads p loc) (h' : t.Leads p l) : loc = l := by
  obtain ⟨names, hnames, rfl⟩ := h
  obtain ⟨names', hnames', rfl⟩ := h'
  cases hnames.symm.trans hnames'
  rfl

end FileTree

/-! ### Work beside no other work -/

namespace Stage

variable {q q' : Stage} {host : Host} {α : Type}

theorem not_proceeds_nil : ¬ Proceeds ⟨host, []⟩ q := by
  intro h
  generalize hstage : (⟨host, []⟩ : Stage) = q₀ at h
  obtain ⟨before, after, -⟩ := h
  have hleft := congrArg Stage.left hstage
  simp at hleft

theorem Passes.eq_of_left_nil (h : Passes ⟨host, []⟩ q) : q = ⟨host, []⟩ := by
  induction h with
  | refl => rfl
  | tail _ hproceeds ih =>
    subst ih
    exact absurd hproceeds not_proceeds_nil

/-- Beside no other work, work that is waited for is a run of its program. -/
theorem Does.runs {p : Disk α} {a : α} (h : Does p ⟨host, []⟩ (.done a) q') :
    ∃ events, Program.Runs (Host.Answers true) p host events a q'.host ∧ q'.left = [] := by
  generalize hq : (⟨host, []⟩ : Stage) = q at h
  generalize hdone : (Program.done a : Disk α) = p' at h
  induction h generalizing host with
  | rest p q =>
    subst hq hdone
    exact ⟨[], .done a host, rfl⟩
  | own answers goesOn ih =>
    subst hq
    obtain ⟨events, hruns, hleft⟩ := ih rfl hdone
    exact ⟨_ :: events, .ask answers hruns, hleft⟩
  | other proceeds goesOn ih =>
    subst hq
    exact absurd proceeds not_proceeds_nil

/-- Reading a baseline changes nothing. -/
theorem Does.eq_of_readBaseline {base : Option Path} {result : Except Failure Document}
    (h : Does (Errand.readBaseline base).program ⟨host, []⟩ (.done result) q') : q' = ⟨host, []⟩ := by
  obtain ⟨events, hruns, hleft⟩ := h.runs
  have hhost : q'.host = host := by
    cases base with
    | none => exact (Program.runs_done_iff.mp hruns).2.2
    | some path =>
      obtain ⟨reply, host', events', ⟨rfl, -⟩, hend, -⟩ := Program.runs_ask_iff.mp hruns
      exact (Program.runs_done_iff.mp hend).2.2
  rw [← hhost, ← hleft]

/-- Writing a text puts a file where its path leads, or changes nothing. -/
theorem Does.exists_of_writeText {path : Path} {content : Text} {result : Except Failure Unit}
    (h : Does (Errand.writeText path content).program ⟨host, []⟩ (.done result) q') :
    q' = ⟨host, []⟩ ∨
    ∃ l executable bytes, host.files.locate path = .ok l ∧ host.files.get? l ≠ some .directory ∧
      q' = ⟨{ host with files := host.files.put l (.file bytes executable) }, []⟩ := by
  obtain ⟨events, hruns, hleft⟩ := h.runs
  obtain ⟨reply, host', events', answers, hend, -⟩ := Program.runs_ask_iff.mp hruns
  obtain ⟨-, -, hhost⟩ := Program.runs_done_iff.mp hend
  have hq : q' = ⟨host', []⟩ := by rw [← hhost, ← hleft]
  have hchanged : ∃ bytes, host' = (host.changed (host.files.write path bytes)).2 := by
    rcases answers with heq | ⟨-, bytes, rfl⟩
    · rw [Host.answerDisk] at heq
      split at heq
      · exact ⟨_, (Prod.mk.inj heq).2⟩
      · exact ⟨_, (Prod.mk.inj heq).2⟩
    · exact ⟨bytes, rfl⟩
  obtain ⟨bytes, rfl⟩ := hchanged
  cases hwrite : host.files.write path bytes with
  | error fault =>
    rw [hwrite] at hq
    exact .inl hq
  | ok files =>
    rw [hwrite] at hq
    obtain ⟨l, executable, hl, hdirectory, rfl⟩ := FileTree.exists_of_write hwrite
    exact .inr ⟨l, executable, bytes, hl, hdirectory, hq⟩

/-- No event cancels an errand. -/
def IsUncancelled (events : List ServiceEvent) : Prop :=
  ∀ event ∈ events, event.1.stop? event.2 ≠ some .cancelled

theorem IsUncancelled.of_cons {event : ServiceEvent} {events : List ServiceEvent} (h : IsUncancelled (event :: events)) :
    IsUncancelled events :=
  fun event' hevent => h event' (List.mem_cons_of_mem _ hevent)

/-- An event that cancels nothing leaves no work behind. -/
theorem left_eq_nil_of_answers {act : ServiceAct} {reply : act.Reply} (h : Answers Eq act ⟨host, []⟩ reply q')
    (hevent : act.stop? reply ≠ some .cancelled) : q'.left = [] := by
  obtain ⟨q₁, hpasses, hserves⟩ := h
  obtain rfl := hpasses.eq_of_left_nil
  cases act with
  | errand work =>
    rcases hserves with ⟨result, hdoes, -⟩ | ⟨p, q₂, -, rfl, -⟩
    · obtain ⟨events, -, hleft⟩ := hdoes.runs
      exact hleft
    · exact absurd rfl hevent
  | makeScratch label =>
    rcases hserves with ⟨path, loc, -, -, -, -, rfl⟩ | ⟨-, rfl⟩ <;> rfl
  | lint workspace config =>
    obtain ⟨files, -, rfl⟩ := hserves
    rfl
  | removeTree path =>
    obtain rfl := hserves
    rfl
  | _ =>
    cases hserves
    rfl

/-- What is no work changes nothing. -/
theorem eq_of_answers_idle {act : ServiceAct} (hidle : act.IsIdle) {reply : act.Reply}
    (h : Answers Eq act ⟨host, []⟩ reply q') : q' = ⟨host, []⟩ := by
  obtain ⟨q₁, hpasses, hserves⟩ := h
  obtain rfl := hpasses.eq_of_left_nil
  cases act <;> first | exact hserves | cases hidle

/-- What happens to the machine happens to it by works. -/
theorem steps_worksOf {events : List ServiceEvent} (h : (Answers Eq).Steps ⟨host, []⟩ events q')
    (hevents : IsUncancelled events) : (Answers Eq).Steps ⟨host, []⟩ (Simulator.worksOf events) q' := by
  generalize hq : (⟨host, []⟩ : Stage) = q at h ⊢
  induction h generalizing host with
  | nil q => exact .nil q
  | @cons act reply q q₁ q' events answers goesOn ih =>
    subst hq
    have hleft := left_eq_nil_of_answers answers (hevents _ List.mem_cons_self)
    have hrest := @ih q₁.host hevents.of_cons (by rw [← hleft])
    by_cases hwork : act.isWork = true
    · rw [Simulator.worksOf_cons_of_isWork hwork]
      exact .cons answers hrest
    · have hidle := Bool.eq_false_iff.mpr hwork
      obtain rfl := eq_of_answers_idle hidle answers
      rwa [Simulator.worksOf, List.filter_cons_of_neg (by exact hwork)]

end Stage

/-! ### Simulations -/

namespace Simulator

variable {s : Simulator} {workspace : Path} {host : Host} {q' : Stage} {works : List ServiceEvent}

/-- The configuration of a name that leads downwards is put below the scratch directory. -/
theorem prefix_of_locate_configIn (hname : IsInner s.configFileName) {t : FileTree} {directory : Path} {loc l : Location}
    (hdirectory : t.locate directory = .ok loc) (hl : t.locate (s.configIn directory) = .ok l) : loc <+: l := by
  obtain ⟨loc', hleads, hbelow⟩ := FileTree.exists_leads_of_join (FileTree.leads_of_locate hl) hname.1 hname.2
  rwa [(FileTree.leads_of_locate hdirectory).unique hleads]

/-- A scratch directory with what is written into it. -/
def Holds (host : Host) (directory : Path) (loc : Location) (q : Stage) : Prop :=
  ∃ files, q = ⟨{ host with files }, []⟩ ∧ files.locate directory = .ok loc ∧ files.removeTree loc = host.files

theorem exists_of_make {label : Text} {directory : Path}
    (h : Stage.Answers Eq (.makeScratch label) ⟨host, []⟩ (.ok directory) q') : ∃ loc, Holds host directory loc q' := by
  obtain ⟨q₁, hpasses, hserves⟩ := h
  obtain rfl := hpasses.eq_of_left_nil
  rcases hserves with ⟨_, loc, ⟨⟩, -, hloc, hfree, rfl⟩ | ⟨⟨_, ⟨⟩⟩, -⟩
  refine ⟨loc, _, rfl, ?_, ?_⟩
  · refine (FileTree.keepsDirectories_put ?_ _).locate hloc
    rw [hfree.get?_eq_none]
    nofun
  · exact (FileTree.removeTree_put (List.prefix_refl loc) host.files .directory).trans hfree.removeTree_eq

theorem Holds.write {directory : Path} {loc : Location} {q : Stage} (h : Holds host directory loc q)
    (hname : IsInner s.configFileName) {content : Text} {reply : Except Stop Unit} (hreply : reply ≠ .error .cancelled)
    (hwrite : Stage.Answers Eq (.errand (.writeText (s.configIn directory) content)) q reply q') :
    Holds host directory loc q' := by
  obtain ⟨files, rfl, hloc, hremove⟩ := h
  obtain ⟨q₁, hpasses, hserves⟩ := hwrite
  obtain rfl := hpasses.eq_of_left_nil
  rcases hserves with ⟨result, hdoes, -⟩ | ⟨p, q₂, -, rfl, -⟩
  · rcases hdoes.exists_of_writeText with rfl | ⟨l, executable, bytes, hl, hdirectory, rfl⟩
    · exact ⟨files, rfl, hloc, hremove⟩
    · have hbelow := prefix_of_locate_configIn hname hloc hl
      refine ⟨_, rfl, (FileTree.keepsDirectories_put hdirectory _).locate hloc, ?_⟩
      exact (FileTree.removeTree_put hbelow files _).trans hremove
  · exact absurd rfl hreply

theorem Holds.lint {directory config : Path} {loc : Location} {q : Stage} (h : Holds host directory loc q)
    {reply : Except Stop Text} (hlint : Stage.Answers Eq (.lint workspace config) q reply q') :
    Holds host directory loc q' := by
  obtain ⟨files, rfl, hheld⟩ := h
  obtain ⟨q₁, hpasses, files', hfiles, rfl⟩ := hlint
  obtain rfl := hpasses.eq_of_left_nil
  subst hfiles
  exact ⟨files, rfl, hheld⟩

/-- With its scratch directory all that a simulation has put on the machine is removed. -/
theorem Holds.remove {directory : Path} {loc : Location} {q : Stage} (h : Holds host directory loc q)
    (hremove : Stage.Answers Eq (.removeTree directory) q () q') : q' = ⟨host, []⟩ := by
  obtain ⟨files, rfl, hloc, hfiles⟩ := h
  obtain ⟨q₁, hpasses, rfl⟩ := hremove
  obtain rfl := hpasses.eq_of_left_nil
  rw [Host.removeTree]
  simp only [hloc, hfiles]

/-- Linting leaves the machine as it was. -/
theorem Lints.eq_of_steps {d : Document} {e : Except Stop Text} (h : s.Lints workspace d works e)
    (hname : IsInner s.configFileName) (hworks : Stage.IsUncancelled works)
    (hsteps : (Stage.Answers Eq).Steps ⟨host, []⟩ works q') : q' = ⟨host, []⟩ := by
  cases h with
  | unmade f =>
    obtain ⟨⟩ | ⟨⟨q₁, hpasses, ⟨_, _, ⟨⟩, -⟩ | ⟨-, rfl⟩⟩, ⟨⟩⟩ := hsteps
    exact hpasses.eq_of_left_nil
  | undumped directory lost =>
    obtain ⟨⟩ | ⟨hmake, ⟨⟩ | ⟨hremove, ⟨⟩⟩⟩ := hsteps
    obtain ⟨loc, hholds⟩ := exists_of_make hmake
    exact hholds.remove hremove
  | unwritten directory stop whole =>
    obtain ⟨⟩ | ⟨hmake, ⟨⟩ | ⟨hwrite, ⟨⟩ | ⟨hremove, ⟨⟩⟩⟩⟩ := hsteps
    obtain ⟨loc, hholds⟩ := exists_of_make hmake
    have hstop : (.error stop : Except Stop Unit) ≠ .error .cancelled := by
      rintro ⟨⟩
      exact hworks _ (List.mem_cons_of_mem _ List.mem_cons_self) rfl
    exact (hholds.write hname hstop hwrite).remove hremove
  | called directory reply whole =>
    obtain ⟨⟩ | ⟨hmake, ⟨⟩ | ⟨hwrite, ⟨⟩ | ⟨hlint, ⟨⟩ | ⟨hremove, ⟨⟩⟩⟩⟩⟩ := hsteps
    obtain ⟨loc, hholds⟩ := exists_of_make hmake
    have hwritten : (.ok () : Except Stop Unit) ≠ .error .cancelled := nofun
    exact ((hholds.write hname hwritten hwrite).lint hlint).remove hremove

/-- A simulation that is not cancelled leaves the machine as it was. -/
theorem eq_of_runs_simulateRule (hname : IsInner s.configFileName) {rule : Text} {base : Option Path} {isOptin : Bool}
    {events : List ServiceEvent} {e : Except Stop SimulationResult}
    (h : Job.Runs (Stage.Answers Eq) (s.simulateRule rule workspace base isOptin) ⟨host, []⟩ events e q')
    (he : e ≠ .error .cancelled) : q' = ⟨host, []⟩ := by
  have hcourse := course_of_runs h
  have huncancelled : Stage.IsUncancelled events :=
    fun event hevent hstop => he (passesOn_worksOf_iff.mp hcourse.passesOn event hevent _ hstop)
  have hsteps := Stage.steps_worksOf h.steps huncancelled
  have hworks : Stage.IsUncancelled (worksOf events) :=
    fun event hevent => huncancelled event (List.mem_of_mem_filter hevent)
  generalize worksOf events = works at hcourse hsteps hworks
  -- The baseline is read first, which changes nothing.
  have hread : ∀ {reply q₁}, Stage.Answers Eq (.errand (.readBaseline base)) ⟨host, []⟩ reply q₁ →
      (ServiceAct.errand (.readBaseline base)).stop? reply ≠ some .cancelled → q₁ = ⟨host, []⟩ := by
    rintro reply q₁ ⟨q₂, hpasses, ⟨result, hdoes, -⟩ | ⟨p, q₃, -, rfl, -⟩⟩ hreply
    · obtain rfl := hpasses.eq_of_left_nil
      exact hdoes.eq_of_readBaseline
    · exact absurd rfl hreply
  have hlint : ∀ {reply rest d e}, works = ⟨.errand (.readBaseline base), reply⟩ :: rest →
      s.Lints workspace d rest e → q' = ⟨host, []⟩ := by
    rintro reply rest d e rfl hlints
    obtain ⟨⟩ | ⟨hanswers, hrest⟩ := hsteps
    obtain rfl := hread hanswers (hworks _ List.mem_cons_self)
    exact hlints.eq_of_steps hname hworks.of_cons hrest
  cases hcourse with
  | rejected stop =>
    obtain ⟨⟩ | ⟨hanswers, ⟨⟩⟩ := hsteps
    exact hread hanswers (hworks _ List.mem_cons_self)
  | unlisted b fails =>
    obtain ⟨⟩ | ⟨hanswers, ⟨⟩⟩ := hsteps
    exact hread hanswers (hworks _ List.mem_cons_self)
  | unreported b enables lints => exact hlint rfl lints
  | unreadable b enables lints fails => exact hlint rfl lints
  | reported b enables lints reads named => exact hlint rfl lints

end Simulator

end LintPreview
