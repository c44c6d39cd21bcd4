import LintPreview.Proofs.Simulation.Apart

/-!
# Calls that are alone

* `Workshop.Stands`: a scratch directory stands. Whether a configuration can be written into it does not depend on what
  else is on the machine.
* `RunningCall.HasRead`: a call is past reading its baseline. Before that it can as well begin on any other machine
  (`RunningCall.Sound.exists_alone`).
* `RunningCall.Mirrors`: a call that is alone on another machine has met the same and is at the same.
* `RunningCall.Mirrors.exists_step`: what a call does beside others it can do alone, if its baseline reads the same.
-/

namespace LintPreview

open Program (Reaches)
open Simulator (worksOf mem_of_worksOf_second IsInner)

/-! ### Writing on several machines -/

/-- In a directory without other directories a file can be written or not, whatever else stands there. -/
theorem FileTree.exists_write_of_agree {t t' u : FileTree} {p : Path} {content : List UInt8} {loc : Location}
    (hp : p.isAbsolute = true) (hdots : (".." : Text) ∉ p.parts) (hbelow : ∀ l, t.locate p = .ok l → loc <+: l)
    (hbare : t.IsBareAt loc) (hbare' : t'.IsBareAt loc)
    (habove : ∀ l, l.length < loc.length → t'.get? l = t.get? l) (h : t.write p content = .ok u) :
    ∃ u', t'.write p content = .ok u' := by
  obtain ⟨l, executable, hl, hdirectory, -⟩ := exists_of_write h
  have hloc := hbelow l hl
  have hlocate : t'.locate p = .ok l := by
    refine locate_of_agree hp hdots (fun above hprefix hne hdir => ?_) hl
    by_cases heq : above = loc
    · rw [heq, hbare'.directory]
    · rcases List.prefix_or_prefix_of_prefix hloc hprefix with hin | hout
      · exact absurd hdir (hbare.below above hin heq)
      · rw [habove above (lt_of_le_of_ne hout.length_le fun hlength => heq (hout.eq_of_length hlength)), hdir]
  have hne : l ≠ loc := by
    rintro rfl
    exact hdirectory hbare.directory
  rw [write, hlocate]
  cases hget : t'.get? l with
  | none =>
    simp only [bind, Except.bind, hget]
    exact ⟨_, rfl⟩
  | some e =>
    cases e with
    | directory => exact absurd hget (hbare'.below l hloc hne)
    | file content' executable' =>
      simp only [bind, Except.bind, hget]
      exact ⟨_, rfl⟩

/-- A text whose bytes can be written can be written. -/
theorem Host.answers_write {path : Path} {content : Text} {bytes : List UInt8} {h : Host} {files : FileTree}
    (hbytes : Text.encode content = .ok bytes) (hwrite : h.files.write path bytes = .ok files) :
    Host.Answers true (.write path content) h (.ok ()) { h with files } := by
  refine .inl ?_
  rw [Host.answerDisk, hbytes]
  simp only [hwrite]
  rfl

namespace Workshop

variable {place : ScratchPlace} {s : Simulator} {t₀ : FileTree} {name text : Text} {loc : Location} {u v : Workshop}

/-- Nothing differs from a tree of files but what is in scratch directories, and one of them stands, without directories
in it. -/
structure Stands (place : ScratchPlace) (t₀ : FileTree) (name : Text) (loc : Location) (w : Workshop) : Prop where
  frames : w.Frames place t₀
  noDots : name ≠ ".."
  located : t₀.locate (place.child name) = .ok loc
  made : loc ∈ w.made
  bare : w.host.files.IsBareAt loc

/-- Whether the configuration can be written does not depend on the machine, as long as its scratch directory stands. -/
theorem Stands.exists_answers_write (hu : u.Stands place t₀ name loc) (hv : v.Stands place t₀ name loc)
    (hname : IsInner s.configFileName) {reply : Except PathFault Unit} {host : Host}
    (answers : Host.Answers true (.write (s.configIn (place.child name)) text) u.host reply host) :
    ∃ host', Host.Answers true (.write (s.configIn (place.child name)) text) v.host reply host' := by
  cases reply with
  | error fault => exact ⟨_, .inr ⟨⟨fault, rfl⟩, [], rfl⟩⟩
  | ok =>
    obtain ⟨bytes, hbytes, hwrite⟩ := Host.exists_of_answers_write answers
    obtain ⟨files, hfiles⟩ := FileTree.exists_write_of_agree (s.isAbsolute_configIn (place.isAbsolute_child name))
      (RunningCall.noDots_configIn hname (place.noDots_child hu.noDots))
      (fun l hl => Simulator.prefix_of_locate_configIn hname ((hu.frames.locate_iff hu.noDots).mpr hu.located) hl)
      hu.bare hv.bare
      (fun l hl => by
        rw [ScratchPlace.length_of_locate hu.noDots hu.located] at hl
        rw [hv.frames.above hl, hu.frames.above hl]) hwrite
    exact ⟨_, Host.answers_write hbytes hfiles⟩

end Workshop

namespace RunningCall

variable {tool : LintTool} {place : ScratchPlace} {s : Simulator} {call : SimulationCall} {t₀ : FileTree}
  {w w' : Workshop} {c c' : RunningCall}

/-! ### Reading the baseline -/

/-- A call is past reading its baseline. -/
def HasRead (c : RunningCall) : Prop :=
  c.events ≠ [] ∨ ∃ work result next, c.stance = .waits work (.done result) next

/-- A call has read its baseline, and it is the configuration `b`. -/
inductive Reads (base : Option Path) (c : RunningCall) (b : Document) : Prop where
  | waiting {next : Except Stop Document → Service (Except Stop SimulationResult)}
      (stance : c.stance = .waits (.readBaseline base) (.done (.ok b)) next)
  | noted (read : ⟨.errand (.readBaseline base), .ok b⟩ ∈ c.events)

/-- The first thing that a call does is to read its baseline. -/
theorem exists_program_eq (s : Simulator) (call : SimulationCall) : ∃ next : Except Stop Document → _,
    call.program s = .ask (.errand (.readBaseline call.base)) next :=
  ⟨_, rfl⟩

theorem Sound.events_eq_nil (h : Sound place s call t₀ w c) (hworks : worksOf c.events = []) : c.events = [] := by
  obtain ⟨next, hprogram⟩ := exists_program_eq s call
  have hfollows := h.follows
  rw [hprogram] at hfollows
  generalize c.events = events at hfollows hworks
  generalize c.stance.rest = rest at hfollows
  cases hfollows with
  | here => rfl
  | ask answers goesOn =>
    rw [Simulator.worksOf_cons_of_isWork rfl] at hworks
    cases hworks

/-- A call has not read its baseline while it asks for it. -/
theorem Sound.not_hasRead (h : Sound place s call t₀ w c) {base : Option Path}
    {next : Except Stop Document → Service (Except Stop SimulationResult)}
    (hrest : c.stance.rest = .ask (.errand (.readBaseline base)) next)
    (hstance : ∀ work result next, c.stance ≠ .waits work (.done result) next) : ¬ c.HasRead := by
  rintro (hne | ⟨work, result, next, hdone⟩)
  · have hcomes := h.comes hrest rfl
    generalize hworks : worksOf c.events = works at hcomes
    cases hcomes
    exact hne (h.events_eq_nil hworks)
  · exact hstance work result next hdone

/-- A call that has not read its baseline has not begun, or is about to read it. -/
theorem Sound.unread (h : Sound place s call t₀ w c) (hread : ¬ c.HasRead) : c.events = [] ∧
    (c.stance = .goes (call.program s) ∨
      ∃ work next, call.program s = .ask (.errand work) next ∧ c.stance = .waits work work.program next) := by
  have hevents : c.events = [] := by
    by_contra hevents
    exact hread (.inl hevents)
  refine ⟨hevents, ?_⟩
  have hfollows := h.follows
  rw [hevents] at hfollows
  have hrest : call.program s = c.stance.rest := by
    generalize c.stance.rest = rest at hfollows
    cases hfollows
    rfl
  cases hstance : c.stance with
  | goes rest =>
    rw [hstance] at hrest
    exact .inl (by rw [hrest]; rfl)
  | waits work worker next =>
    rw [hstance] at hrest
    rcases h.worker work worker next hstance with rfl | ⟨result, rfl⟩
    · exact .inr ⟨work, next, hrest, rfl⟩
    · exact absurd (.inr ⟨work, result, next, hstance⟩) hread

/-- What a call does before it reads its baseline it can do on any machine. -/
theorem Sound.exists_alone (h : Sound place s call t₀ w c) (hread : ¬ c.HasRead) (tool : LintTool) (w' : Workshop) :
    ∃ c', Alone tool place s call w' (w', c') ∧ c'.events = c.events ∧ c'.stance = c.stance := by
  obtain ⟨hevents, hstance | ⟨work, next, hprogram, hstance⟩⟩ := h.unread hread
  · exact ⟨begin s call, .refl, hevents.symm, hstance.symm⟩
  · refine ⟨⟨[], .waits work work.program next, []⟩, .single ?_, hevents.symm, hstance.symm⟩
    rw [begin, hprogram]
    exact .start

/-- A baseline that has been read is the one that the machine had when it was read. -/
theorem Sound.reads_step (h : Sound place s call t₀ w c) (hstep : Step tool place w c w' c') {b : Document}
    (hreads : c'.Reads call.base b) :
    c.Reads call.base b ∨ ¬ c.HasRead ∧ readBaseline w.host.files call.base = .ok b := by
  have hadded : ∀ {events : List ServiceEvent} {event : ServiceEvent},
      ⟨.errand (.readBaseline call.base), .ok b⟩ ∈ events ++ [event] →
        ⟨.errand (.readBaseline call.base), .ok b⟩ ∈ events ∨ event = ⟨.errand (.readBaseline call.base), .ok b⟩ :=
    fun hmem => (List.mem_append.mp hmem).imp_right fun hmem => (List.mem_singleton.mp hmem).symm
  cases hstep with
  | act serves =>
    rcases hreads with ⟨⟨⟩⟩ | ⟨hmem⟩
    rcases hadded hmem with hmem | ⟨⟨⟩⟩
    · exact .inl (.noted hmem)
    · exact serves.elim
  | @start events left work next =>
    rcases hreads with ⟨hstance⟩ | ⟨hmem⟩
    · generalize hworker : work.program = worker at hstance
      cases hstance
      refine .inr ⟨h.not_hasRead rfl nofun, ?_⟩
      generalize call.base = base at hworker
      cases base with
      | none =>
        cases hworker
        rfl
      | some path => cases hworker
    · exact .inl (.noted hmem)
  | @work events left work act reply host worker next answers =>
    rcases hreads with ⟨hstance⟩ | ⟨hmem⟩
    · generalize hreply : worker reply = worker' at hstance
      cases hstance
      refine .inr ⟨h.not_hasRead rfl (by rintro _ _ _ ⟨⟩), ?_⟩
      rcases h.worker _ _ _ rfl with hprogram | ⟨result, ⟨⟩⟩
      generalize call.base = base at hprogram hreply
      cases base with
      | none => cases hprogram
      | some path =>
        cases hprogram
        have hend := eq_ok_of_mapError (Program.done.inj hreply)
        obtain ⟨-, rfl | ⟨-, fault, rfl⟩⟩ := answers
        · exact hend
        · cases fault <;> cases hend
    · exact .inl (.noted hmem)
  | @finish events left work result next =>
    rcases hreads with ⟨⟨⟩⟩ | ⟨hmem⟩
    rcases hadded hmem with hmem | hevent
    · exact .inl (.noted hmem)
    · injection hevent with hact hreply
      cases hact
      cases result with
      | error f => cases hreply
      | ok b' =>
        cases hreply
        exact .inl (.waiting rfl)
  | refuse | cancel =>
    rcases hreads with ⟨⟨⟩⟩ | ⟨hmem⟩
    rcases hadded hmem with hmem | hevent
    · exact .inl (.noted hmem)
    · cases hevent
  | leftover before after answers =>
    rcases hreads with ⟨hstance⟩ | ⟨hmem⟩
    · exact .inl (.waiting hstance)
    · exact .inl (.noted hmem)

/-! ### Doing the same alone -/

/-- A call that is alone on another machine has met the same and is at the same. -/
structure Mirrors (place : ScratchPlace) (s : Simulator) (call : SimulationCall) (t₀ : FileTree) (w : Workshop)
    (c : RunningCall) (a : Workshop × RunningCall) : Prop where
  frames : a.1.Frames place t₀
  sound : Sound place s call t₀ a.1 a.2
  events : a.2.events = c.events
  stance : a.2.stance = c.stance
  made : a.1.made ⊆ w.made

/-- No errand has been cancelled if none of the works is one that has. -/
theorem not_mem_of_worksOf {events works : List ServiceEvent} (hworks : worksOf events = works)
    (h : ∀ event ∈ works, ∀ work, event ≠ ⟨.errand work, .error .cancelled⟩) (work : Errand) :
    ⟨.errand work, .error .cancelled⟩ ∉ events := by
  intro hmem
  subst hworks
  exact h _ (List.mem_filter.mpr ⟨hmem, rfl⟩) work rfl

variable {a : Workshop × RunningCall}

/-- Where a call waits for a lint call, its configuration holds the text that it has written. -/
theorem Sound.hasFile (h : Sound place s call t₀ w c) {first : ServiceEvent} {label : Text} {directory : Path} {text : Text}
    (hworks : worksOf c.events = [first, ⟨.makeScratch label, .ok directory⟩,
      ⟨.errand (.writeText (s.configIn directory) text), .ok ()⟩])
    (hfirst : ∀ work, first ≠ ⟨.errand work, .error .cancelled⟩) :
    ∃ bytes, Text.encode text = .ok bytes ∧ w.host.files.HasFile (s.configIn directory) bytes := by
  refine h.written (h.left_eq_nil (not_mem_of_worksOf hworks ?_)) directory text (.noted hworks)
  intro event hevent work
  rcases List.mem_cons.mp hevent with rfl | hevent
  · exact hfirst work
  · rcases List.mem_cons.mp hevent with rfl | hevent
    · nofun
    · cases List.mem_singleton.mp hevent
      nofun

/-- The scratch directory of a call stands while its configuration is to be written. -/
theorem Sound.stands_of_worksOf (h : Sound place s call t₀ w c) (hframes : w.Frames place t₀)
    (hnone : ∀ work, ⟨.errand work, .error .cancelled⟩ ∉ c.events) {first : ServiceEvent} {label name : Text} {loc : Location}
    (hdots : name ≠ "..") (hworks : worksOf c.events = [first, ⟨.makeScratch label, .ok (place.child name)⟩])
    (hlocate : t₀.locate (place.child name) = .ok loc) : w.Stands place t₀ name loc where
  frames := hframes
  noDots := hdots
  located := hlocate
  made := by
    obtain ⟨-, loc', -, -, hlocate', hmade⟩ := h.owned _ _ (mem_of_worksOf_second hworks)
    cases hlocate.symm.trans hlocate'
    exact hmade
  bare := h.stands (h.left_eq_nil hnone) _ _ _ _ hworks hlocate

/-- What a call gets beside others it can get alone. -/
theorem Mirrors.exists_serves (hm : Mirrors place s call t₀ w c a) (hframes : w.Frames place t₀)
    (h : Sound place s call t₀ w c) {act : ServiceAct} {reply : act.Reply}
    {next : act.Reply → Service (Except Stop SimulationResult)} (hstance : c.stance = .goes (.ask act next))
    (hserves : Workshop.Serves tool place act w reply w') :
    ∃ v, Workshop.Serves tool place act a.1 reply v ∧ v.made ⊆ w'.made := by
  cases act with
  | errand work => exact hserves.elim
  | makeScratch label =>
    rcases hserves with ⟨name, loc, hdots, rfl, hlocate, hfree, hnew, rfl⟩ | ⟨hfails, rfl⟩
    · have hlength := ScratchPlace.length_of_locate hdots hlocate
      have hnew' : loc ∉ a.1.made := fun hmem => hnew (hm.made hmem)
      have hlocate' := (hm.frames.locate_iff hdots).mpr ((hframes.locate_iff hdots).mp hlocate)
      have hfree' := (hm.frames.isFree_iff hlength hnew').mpr ((hframes.isFree_iff hlength hnew).mp hfree)
      exact ⟨_, .inl ⟨name, loc, hdots, rfl, hlocate', hfree', hnew', rfl⟩, List.cons_subset_cons loc hm.made⟩
    · exact ⟨a.1, .inr ⟨hfails, rfl⟩, hm.made⟩
  | removeTree path =>
    obtain ⟨files, -, rfl⟩ := hserves
    refine ⟨_, ⟨_, a.1.host.clears_removeTree path fun hroot => ?_, rfl⟩, hm.made⟩
    have hcomes := h.comes (by rw [hstance]; rfl) rfl
    generalize hworks : worksOf c.events = works at hcomes
    cases hcomes with
    | remove directory rest =>
      obtain ⟨name, -, hdots, rfl, -⟩ := h.owned _ _ (mem_of_worksOf_second hworks)
      cases ScratchPlace.length_of_locate hdots hroot
  | lint workspace config =>
    obtain ⟨hreply, rfl⟩ := hserves
    refine ⟨a.1, ⟨hreply.imp_right ?_, rfl⟩, hm.made⟩
    have hcomes := h.comes (by rw [hstance]; rfl) rfl
    generalize hworks : worksOf c.events = works at hcomes
    cases hcomes with
    | lint directory enables whole =>
      obtain ⟨bytes, hbytes, hfile⟩ := h.hasFile hworks (by rintro _ ⟨⟩)
      obtain ⟨bytes', hbytes', hfile'⟩ := hm.sound.hasFile (hm.events ▸ hworks) (by rintro _ ⟨⟩)
      cases hbytes.symm.trans hbytes'
      rw [hframes.around_eq, hm.frames.around_eq, FileTree.readBytes_eq_ok_iff.mpr hfile,
        FileTree.readBytes_eq_ok_iff.mpr hfile']
      exact id
  | _ =>
    subst hserves
    exact ⟨a.1, rfl, hm.made⟩

/-- What an errand gets beside other calls it can get alone, if the baseline reads the same. -/
theorem Mirrors.exists_answers (hm : Mirrors place s call t₀ w c a) (hname : IsInner s.configFileName)
    (hframes : w.Frames place t₀) (h : Sound place s call t₀ w c)
    (hread : ∀ path content, call.base = some path → ¬ c.HasRead → w.host.files.readBytes path = .ok content →
      a.1.host.files.readBytes path = .ok content) {work : Errand} {act : DiskAct}
    {worker : act.Reply → Disk (Except Failure work.Result)} {reply : act.Reply} {host : Host}
    {next : Except Stop work.Result → Service (Except Stop SimulationResult)}
    (hstance : c.stance = .waits work (.ask act worker) next) (answers : Host.Answers true act w.host reply host) :
    ∃ host', Host.Answers true act a.1.host reply host' := by
  rcases h.worker _ _ _ hstance with hprogram | ⟨result, ⟨⟩⟩
  have hcomes := h.comes (by rw [hstance]; rfl) rfl
  generalize hworks : worksOf c.events = works at hcomes
  cases hcomes with
  | read =>
    have hunread : ¬ c.HasRead := by
      refine h.not_hasRead (by rw [hstance]; rfl) ?_
      rw [hstance]
      rintro _ _ _ ⟨⟩
    cases hbase : call.base with
    | none =>
      rw [hbase] at hprogram
      cases hprogram
    | some path =>
      rw [hbase] at hprogram
      cases hprogram
      refine ⟨a.1.host, rfl, ?_⟩
      cases reply with
      | error fault => exact .inr ⟨rfl, fault, rfl⟩
      | ok content =>
        obtain ⟨-, hreply | ⟨-, fault, ⟨⟩⟩⟩ := answers
        exact .inl (hread path content hbase hunread hreply.symm).symm
  | write directory enables =>
    cases hprogram
    have hnone : ∀ work, ⟨.errand work, .error .cancelled⟩ ∉ c.events := by
      refine not_mem_of_worksOf hworks fun event hevent work => ?_
      rcases List.mem_cons.mp hevent with rfl | hevent
      · nofun
      · cases List.mem_singleton.mp hevent
        nofun
    obtain ⟨name, loc, hdots, rfl, hlocate, -⟩ := h.owned _ _ (mem_of_worksOf_second hworks)
    have hu := h.stands_of_worksOf hframes hnone hdots hworks hlocate
    have hv := hm.sound.stands_of_worksOf hm.frames (hm.events ▸ hnone) hdots (hm.events ▸ hworks) hlocate
    exact hu.exists_answers_write hv hname answers

/-- What a call does beside others it can do alone, if its baseline reads the same. -/
theorem Mirrors.exists_step (hm : Mirrors place s call t₀ w c a) (hname : IsInner s.configFileName)
    (hframes : w.Frames place t₀) (h : Sound place s call t₀ w c)
    (hread : ∀ path content, call.base = some path → ¬ c.HasRead → w.host.files.readBytes path = .ok content →
      a.1.host.files.readBytes path = .ok content) (hstep : Step tool place w c w' c') :
    ∃ a', Passes tool place a a' ∧ Mirrors place s call t₀ w' c' a' := by
  suffices hsame : ∃ v d, (Step tool place a.1 a.2 v d ∨ v = a.1 ∧ d = a.2) ∧ d.events = c'.events ∧
      d.stance = c'.stance ∧ v.made ⊆ w'.made by
    obtain ⟨v, d, hown | ⟨rfl, rfl⟩, hevents, hstance, hmade⟩ := hsame
    · exact ⟨(v, d), .single hown, hown.frames hname hm.frames hm.sound, hm.sound.own hm.frames hown, hevents, hstance,
        hmade⟩
    · exact ⟨a, .refl, hm.frames, hm.sound, hevents, hstance, hmade⟩
  obtain ⟨v, events', stance', left'⟩ := a
  obtain ⟨hevents, hstance⟩ : events' = c.events ∧ stance' = c.stance := ⟨hm.events, hm.stance⟩
  subst hevents hstance
  cases hstep with
  | act serves =>
    obtain ⟨v', hserves, hmade⟩ := hm.exists_serves hframes h rfl serves
    exact ⟨v', _, .inl (.act hserves), rfl, rfl, hmade⟩
  | start => exact ⟨v, _, .inl .start, rfl, rfl, hm.made⟩
  | work answers =>
    obtain ⟨host', hanswers⟩ := hm.exists_answers hname hframes h hread rfl answers
    exact ⟨_, _, .inl (.work hanswers), rfl, rfl, hm.made⟩
  | finish => exact ⟨v, _, .inl .finish, rfl, rfl, hm.made⟩
  | refuse => exact ⟨v, _, .inl .refuse, rfl, rfl, hm.made⟩
  | cancel => exact ⟨v, _, .inl .cancel, rfl, rfl, hm.made⟩
  | leftover before after answers => exact ⟨v, _, .inr ⟨rfl, rfl⟩, rfl, rfl, hm.made⟩

end RunningCall

end LintPreview
