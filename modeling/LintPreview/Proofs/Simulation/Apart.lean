import LintPreview.Proofs.Files.Inside
import LintPreview.Proofs.Simulation.Frames

/-!
# Calls that keep apart

* `RunningCall.Step.makes`: how scratch directories come about. `RunningCall.Step.sameBeyond`: a step of a call changes
  nothing beyond its own scratch directory.
* `RunningCall.Sound`: what holds of a call at every moment. Its scratch directory stands while its configuration is to be
  written, and holds it then.
* `RunningCall.Sound.own`, `RunningCall.Sound.beside`: steps of the call itself and of other calls keep this.
* `SideBySide.Reachable.sound`: so it holds of all calls at every moment, and no two of them have one scratch directory.
-/

namespace LintPreview

open Program (Reaches)
open Simulator (worksOf mem_of_worksOf_second IsConfiguration IsInner SameBeyond)

/-! ### Single steps -/

theorem DiskAct.OnlyWrites.mono {kind kind' : Path → Prop} (hkind : ∀ path, kind path → kind' path) :
    ∀ act, DiskAct.OnlyWrites kind act → DiskAct.OnlyWrites kind' act := by
  rintro (_ | _ | _ | _ | _ | _ | _) hact <;> first | exact hkind _ hact | exact hact

/-- A text has been written: its bytes are found under its path. -/
theorem Host.exists_of_answers_write {path : Path} {content : Text} {h h' : Host}
    (answers : Host.Answers true (.write path content) h (.ok ()) h') :
    ∃ bytes, Text.encode content = .ok bytes ∧ h.files.write path bytes = .ok h'.files := by
  rcases answers with heq | ⟨⟨_, ⟨⟩⟩, -⟩
  rw [Host.answerDisk] at heq
  split at heq
  · rename_i bytes hbytes
    refine ⟨bytes, hbytes, ?_⟩
    cases hwrite : h.files.write path bytes with
    | error fault =>
      rw [hwrite] at heq
      cases heq
    | ok files =>
      rw [hwrite] at heq
      cases heq
      rfl
  · cases heq

/-- What is no work changes nothing. -/
theorem Workshop.Serves.eq_of_isIdle {tool : LintTool} {place : ScratchPlace} {w w' : Workshop} {act : ServiceAct}
    {reply : act.Reply} (h : Workshop.Serves tool place act w reply w') (hidle : act.IsIdle) : w' = w := by
  cases act <;> first | exact h | cases hidle

namespace SimulationCall

variable {s : Simulator} {c : SimulationCall} {events : List ServiceEvent} {work : Errand}

/-- The errands of a call write nothing but its configuration. -/
theorem Comes.onlyAsks (h : c.Comes s (worksOf events) (.errand work)) :
    Program.OnlyAsks (DiskAct.OnlyWrites (s.IsConfiguration events)) work.program := by
  generalize hworks : worksOf events = works at h
  cases h with
  | read => exact Simulator.onlyAsks_readBaseline _ _
  | write directory enables =>
    exact Simulator.onlyAsks_writeText ⟨_, directory, mem_of_worksOf_second hworks, rfl⟩ _

/-- The errands of a call are done in one act. -/
theorem Comes.exists_done {works : List ServiceEvent} (h : c.Comes s works (.errand work)) {act : DiskAct}
    {worker : act.Reply → Disk (Except Failure work.Result)} (hprogram : work.program = .ask act worker)
    (reply : act.Reply) : ∃ result, worker reply = .done result := by
  obtain ⟨rule, workspace, base, isOptin⟩ := c
  cases h with
  | read =>
    cases base with
    | none => cases hprogram
    | some path =>
      cases hprogram
      exact ⟨_, rfl⟩
  | write directory enables =>
    cases hprogram
    exact ⟨_, rfl⟩

end SimulationCall

/-! ### What holds of a call -/

namespace RunningCall

variable {tool : LintTool} {place : ScratchPlace} {s : Simulator} {call : SimulationCall} {t₀ : FileTree}
  {w w' : Workshop} {c c' : RunningCall} {loc l : Location}

/-- A call has written a text as its configuration, and does not know yet or has not asked for anything else since. -/
inductive Written (s : Simulator) (c : RunningCall) (directory : Path) (text : Text) : Prop where
  | waiting {first : ServiceEvent} {label : Text} {next : Except Stop Unit → Service (Except Stop SimulationResult)}
      (works : worksOf c.events = [first, ⟨.makeScratch label, .ok directory⟩])
      (stance : c.stance = .waits (.writeText (s.configIn directory) text) (.done (.ok ())) next)
  | noted {first : ServiceEvent} {label : Text}
      (works : worksOf c.events = [first, ⟨.makeScratch label, .ok directory⟩,
        ⟨.errand (.writeText (s.configIn directory) text), .ok ()⟩])

/-- What holds of a call on a machine that differs from a tree of files by the scratch directories on it. -/
structure Sound (place : ScratchPlace) (s : Simulator) (call : SimulationCall) (t₀ : FileTree) (w : Workshop)
    (c : RunningCall) : Prop where
  /-- It is on its way. -/
  follows : Reaches anyReply (call.program s) () c.events c.stance.rest ()
  /-- Its errand is still to do, or done. -/
  worker : ∀ work worker next, c.stance = .waits work worker next →
    worker = work.program ∨ ∃ result, worker = .done result
  /-- Whatever it no longer waits for writes nothing but its configuration. -/
  left : ∀ p ∈ c.left, Program.OnlyAsks (DiskAct.OnlyWrites (s.IsConfiguration c.events)) p
  /-- It waits for its errands unless it is cancelled. -/
  cancelled : c.left ≠ [] → ∃ work, ⟨.errand work, .error .cancelled⟩ ∈ c.events
  /-- Its scratch directory is one that has been made in the place. -/
  owned : ∀ label directory, ⟨.makeScratch label, .ok directory⟩ ∈ c.events → ∃ (name : Text) (loc : Location), name ≠ ".." ∧
    directory = place.child name ∧ t₀.locate directory = .ok loc ∧ loc ∈ w.made
  /-- Its scratch directory stands while its configuration is to be written. -/
  stands : c.left = [] → ∀ first label directory loc, worksOf c.events = [first, ⟨.makeScratch label, .ok directory⟩] →
    t₀.locate directory = .ok loc → w.host.files.IsBareAt loc
  /-- Its configuration holds the text that has been written. -/
  written : c.left = [] → ∀ directory text, c.Written s directory text →
    ∃ bytes, Text.encode text = .ok bytes ∧ w.host.files.HasFile (s.configIn directory) bytes

theorem sound_begin (place : ScratchPlace) (s : Simulator) (call : SimulationCall) (t₀ : FileTree) (w : Workshop) :
    Sound place s call t₀ w (begin s call) where
  follows := .here _ _
  worker _ _ _ := nofun
  left _ := nofun
  cancelled h := absurd rfl h
  owned _ _ := nofun
  stands _ _ _ _ _ := nofun
  written _ _ _ := by rintro (⟨-, ⟨⟩⟩ | ⟨⟨⟩⟩)

theorem Sound.comes (h : Sound place s call t₀ w c) {act : ServiceAct}
    {next : act.Reply → Service (Except Stop SimulationResult)} (hrest : c.stance.rest = .ask act next)
    (hact : act.isWork = true) : call.Comes s (worksOf c.events) act :=
  SimulationCall.comes_of_reaches (hrest ▸ h.follows) hact

/-- A call that lints has not been cancelled. -/
theorem Sound.left_eq_nil (h : Sound place s call t₀ w c) (hevents : ∀ work, ⟨.errand work, .error .cancelled⟩ ∉ c.events) :
    c.left = [] := by
  by_contra hleft
  obtain ⟨work, hwork⟩ := h.cancelled hleft
  exact hevents work hwork

/-! ### What a step does -/

theorem Step.follows (hstep : Step tool place w c w' c') {p : Service (Except Stop SimulationResult)}
    (h : Reaches anyReply p () c.events c.stance.rest ()) : Reaches anyReply p () c'.events c'.stance.rest () := by
  cases hstep with
  | act serves => exact h.snoc trivial
  | start => exact h
  | work answers => exact h
  | finish => exact h.snoc trivial
  | refuse => exact h.snoc trivial
  | cancel => exact h.snoc trivial
  | leftover before after answers => exact h

/-- A scratch directory is made by a step, or none is. -/
theorem Step.makes (hstep : Step tool place w c w' c') :
    (w'.made = w.made ∧ ∀ label directory, ⟨.makeScratch label, .ok directory⟩ ∈ c'.events →
      ⟨.makeScratch label, .ok directory⟩ ∈ c.events) ∨
    ∃ (label name : Text) (loc : Location), name ≠ ".." ∧ w.host.files.locate (place.child name) = .ok loc ∧
      w.host.files.IsFree loc ∧ loc ∉ w.made ∧
      w' = ⟨{ w.host with files := w.host.files.put loc .directory }, loc :: w.made⟩ ∧
      c'.events = c.events ++ [⟨.makeScratch label, .ok (place.child name)⟩] ∧ c'.left = c.left ∧
      ∃ next, c.stance = .goes (.ask (.makeScratch label) next) := by
  have hother : ∀ {events : List ServiceEvent} {event : ServiceEvent},
      (∀ label directory, event ≠ ⟨.makeScratch label, .ok directory⟩) → ∀ label directory,
        ⟨.makeScratch label, .ok directory⟩ ∈ events ++ [event] → ⟨.makeScratch label, .ok directory⟩ ∈ events := by
    intro events event hevent label directory hmem
    rcases List.mem_append.mp hmem with hmem | hmem
    · exact hmem
    · exact absurd (List.mem_singleton.mp hmem).symm (hevent label directory)
  cases hstep with
  | @act _ events left act reply next serves =>
    cases act with
    | makeScratch label =>
      rcases serves with ⟨name, loc, hname, rfl, hloc, hfree, hnew, rfl⟩ | ⟨⟨f, rfl⟩, rfl⟩
      · exact .inr ⟨label, name, loc, hname, hloc, hfree, hnew, rfl, rfl, rfl, next, rfl⟩
      · exact .inl ⟨rfl, hother (by rintro _ _ ⟨⟩)⟩
    | errand work => exact serves.elim
    | lint workspace config => exact .inl ⟨by rw [serves.2], hother (by rintro _ _ ⟨⟩)⟩
    | removeTree path =>
      obtain ⟨files, -, rfl⟩ := serves
      exact .inl ⟨rfl, hother (by rintro _ _ ⟨⟩)⟩
    | _ => exact .inl ⟨by rw [serves], hother (by rintro _ _ ⟨⟩)⟩
  | start => exact .inl ⟨rfl, fun _ _ h => h⟩
  | work answers => exact .inl ⟨rfl, fun _ _ h => h⟩
  | finish => exact .inl ⟨rfl, hother (by rintro _ _ ⟨⟩)⟩
  | refuse => exact .inl ⟨rfl, hother (by rintro _ _ ⟨⟩)⟩
  | cancel => exact .inl ⟨rfl, hother (by rintro _ _ ⟨⟩)⟩
  | leftover before after answers => exact .inl ⟨rfl, fun _ _ h => h⟩

theorem Step.made_subset (hstep : Step tool place w c w' c') : w.made ⊆ w'.made := by
  rcases hstep.makes with ⟨hmade, -⟩ | ⟨_, _, loc, -, -, -, -, rfl, -⟩
  · rw [hmade]
    exact List.Subset.refl _
  · exact List.subset_cons_self loc w.made

theorem Step.events_subset (hstep : Step tool place w c w' c') : c.events ⊆ c'.events := by
  cases hstep <;> first | exact List.Subset.refl _ | exact List.subset_append_left _ _

/-- The errand that a call waits for writes nothing but its configuration. -/
theorem Sound.onlyAsks_worker (h : Sound place s call t₀ w c) {work : Errand} {worker : Disk (Except Failure work.Result)}
    {next : Except Stop work.Result → Service (Except Stop SimulationResult)}
    (hstance : c.stance = .waits work worker next) : Program.OnlyAsks (DiskAct.OnlyWrites (s.IsConfiguration c.events)) worker := by
  rcases h.worker work worker next hstance with rfl | ⟨result, rfl⟩
  · exact (h.comes (by rw [hstance]; rfl) rfl).onlyAsks
  · trivial

/-- A step of a call changes nothing beyond its reach. -/
theorem Step.sameBeyond (hstep : Step tool place w c w' c') (h : Sound place s call t₀ w c) :
    s.SameBeyond w.host.files c'.events w'.host.files := by
  have hrefl : ∀ events, s.SameBeyond w.host.files events w.host.files := fun _ => ⟨rfl, fun _ _ => rfl⟩
  cases hstep with
  | @act _ events left act reply next serves =>
    cases act with
    | errand work => exact serves.elim
    | makeScratch label =>
      rcases serves with ⟨name, loc, -, rfl, hlocate, hfree, -, rfl⟩ | ⟨-, rfl⟩
      · have hevent : (⟨.makeScratch label, .ok (place.child name)⟩ : ServiceEvent) ∈
            events ++ [⟨.makeScratch label, .ok (place.child name)⟩] := List.mem_append_right _ List.mem_cons_self
        exact Simulator.spares_of_isOwn (t := w.host.files) hevent trivial _ _ loc rfl (place.isAbsolute_child name)
          hlocate hfree (hrefl _)
      · exact hrefl _
    | removeTree path =>
      obtain ⟨files, hclears, rfl⟩ := serves
      have hcomes := h.comes rfl rfl
      generalize hworks : worksOf events = works at hcomes
      cases hcomes with
      | remove directory rest =>
        have hmade := List.mem_append_left [⟨.removeTree path, reply⟩] (mem_of_worksOf_second hworks)
        refine ⟨hclears.working, fun l hl => (hclears.entry l).resolve_right ?_⟩
        rintro ⟨-, loc, hlocate, hbelow⟩
        exact hl (.scratch hmade (FileTree.leads_of_locate hlocate) hbelow)
    | lint workspace config =>
      obtain ⟨-, rfl⟩ := serves
      exact hrefl _
    | _ =>
      subst serves
      exact hrefl _
  | work answers =>
    have hact := (h.onlyAsks_worker rfl).1
    exact (s.withstands_sameBeyond w.host.files _).files_of_answers hact answers (hrefl _)
  | leftover before after answers =>
    have hact := (h.left _ (List.mem_append_right before List.mem_cons_self)).1
    exact (s.withstands_sameBeyond w.host.files _).files_of_answers hact answers (hrefl _)
  | start => exact hrefl _
  | finish => exact hrefl _
  | refuse => exact hrefl _
  | cancel => exact hrefl _

/-- A scratch directory that a call has after a step is one that has been made in the place. -/
theorem Step.owned (hstep : Step tool place w c w' c') (hframes : w.Frames place t₀) (h : Sound place s call t₀ w c)
    (label : Text) (directory : Path) (hmade : ⟨.makeScratch label, .ok directory⟩ ∈ c'.events) :
    ∃ (name : Text) (loc : Location), name ≠ ".." ∧ directory = place.child name ∧ t₀.locate directory = .ok loc ∧
      loc ∈ w'.made := by
  have hold : ⟨.makeScratch label, .ok directory⟩ ∈ c.events → ∃ (name : Text) (loc : Location), name ≠ ".." ∧
      directory = place.child name ∧ t₀.locate directory = .ok loc ∧ loc ∈ w'.made := by
    intro hmem
    obtain ⟨name, loc, hname, hdirectory, hlocate, hloc⟩ := h.owned label directory hmem
    exact ⟨name, loc, hname, hdirectory, hlocate, hstep.made_subset hloc⟩
  rcases hstep.makes with ⟨-, hsame⟩ | ⟨label', name, loc, hname, hlocate, -, -, rfl, hevents, -⟩
  · exact hold (hsame label directory hmade)
  · rw [hevents] at hmade
    rcases List.mem_append.mp hmade with hmade | hmade
    · exact hold hmade
    · cases List.mem_singleton.mp hmade
      exact ⟨name, loc, hname, rfl, (hframes.locate_iff hname).mp hlocate, List.mem_cons_self⟩

/-- What is in reach of a call is in its scratch directory. -/
theorem exists_of_inReach (hname : IsInner s.configFileName) {t : FileTree} (hworking : t.working = t₀.working)
    {events : List ServiceEvent} (howned : ∀ label directory, ⟨.makeScratch label, .ok directory⟩ ∈ events →
      ∃ (name : Text) (loc : Location), name ≠ ".." ∧ directory = place.child name ∧ t₀.locate directory = .ok loc ∧
        loc ∈ w.made) (h : s.InReach t events l) :
    ∃ label directory loc, ⟨.makeScratch label, .ok directory⟩ ∈ events ∧ t₀.locate directory = .ok loc ∧
      loc ∈ w.made ∧ loc <+: l := by
  obtain ⟨label, directory, loc, hmade, hleads, hbelow⟩ := h.below hname
  obtain ⟨name, loc', -, -, hlocate, hloc⟩ := howned label directory hmade
  have heq : loc' = loc := (FileTree.leads_of_locate hlocate).unique (hleads.of_working hworking.symm)
  exact ⟨label, directory, loc', hmade, hlocate, hloc, heq ▸ hbelow⟩

theorem Step.frames (hstep : Step tool place w c w' c') (hname : IsInner s.configFileName)
    (hframes : w.Frames place t₀) (h : Sound place s call t₀ w c) : w'.Frames place t₀ := by
  have hsame := hstep.sameBeyond h
  refine ⟨hsame.working.trans hframes.working, fun l hl => ?_, ?_, ?_⟩
  · rw [hsame.entry l]
    · exact hframes.beyond l fun loc hloc => hl loc (hstep.made_subset hloc)
    · intro hreach
      obtain ⟨-, -, loc, -, -, hloc, hbelow⟩ :=
        exists_of_inReach hname hframes.working (hstep.owned hframes h) hreach
      exact hl loc hloc hbelow
  · rcases hstep.makes with ⟨hmade, -⟩ | ⟨_, name, loc, hdots, hlocate, hfree, hnew, rfl, -⟩
    · rw [hmade]
      exact hframes.free
    · have hlength := ScratchPlace.length_of_locate hdots hlocate
      exact List.forall_mem_cons.mpr ⟨(hframes.isFree_iff hlength hnew).mp hfree, hframes.free⟩
  · rcases hstep.makes with ⟨hmade, -⟩ | ⟨_, name, loc, hdots, hlocate, -, -, rfl, -⟩
    · rw [hmade]
      exact hframes.length
    · exact List.forall_mem_cons.mpr ⟨ScratchPlace.length_of_locate hdots hlocate, hframes.length⟩

/-! ### Steps of the call itself -/

theorem append_eq_pair {α : Type} {xs : List α} {x a b : α} (h : xs ++ [x] = [a, b]) : xs = [a] ∧ x = b := by
  have happend : xs ++ [x] = [a] ++ [b] := h
  obtain ⟨hxs, hx⟩ := List.append_inj' happend rfl
  exact ⟨hxs, (List.cons.inj hx).1⟩

theorem append_eq_triple {α : Type} {xs : List α} {x a b c : α} (h : xs ++ [x] = [a, b, c]) : xs = [a, b] ∧ x = c := by
  have happend : xs ++ [x] = [a, b] ++ [c] := h
  obtain ⟨hxs, hx⟩ := List.append_inj' happend rfl
  exact ⟨hxs, (List.cons.inj hx).1⟩

theorem worksOf_snoc_of_isWork {event : ServiceEvent} (h : event.1.isWork = true) (events : List ServiceEvent) :
    worksOf (events ++ [event]) = worksOf events ++ [event] := by
  rw [Simulator.worksOf_append, Simulator.worksOf_cons_of_isWork h]
  rfl

theorem worksOf_snoc_of_isIdle {event : ServiceEvent} (h : event.1.IsIdle) (events : List ServiceEvent) :
    worksOf (events ++ [event]) = worksOf events := by
  rw [Simulator.worksOf_append]
  have hnone : worksOf [event] = [] := List.filter_cons_of_neg (by rw [h]; decide)
  rw [hnone, List.append_nil]

theorem withstands_isBareAt (kind : Path → Prop) (loc : Location) : Stage.Withstands kind fun t => t.IsBareAt loc := by
  intro t path content t' _ hbare hwrite
  obtain ⟨l, executable, -, hdirectory, rfl⟩ := FileTree.exists_of_write hwrite
  exact hbare.put hdirectory executable

/-- The scratch directory of a call stands after a step of it. -/
theorem Sound.stands_step (h : Sound place s call t₀ w c) (hframes : w.Frames place t₀)
    (hstep : Step tool place w c w' c') (hleft : c'.left = []) {first : ServiceEvent} {label : Text} {directory : Path}
    (hworks : worksOf c'.events = [first, ⟨.makeScratch label, .ok directory⟩])
    (hlocate : t₀.locate directory = .ok loc) : w'.host.files.IsBareAt loc := by
  cases hstep with
  | @act _ events left act reply next serves =>
    by_cases hwork : act.isWork = true
    · rw [worksOf_snoc_of_isWork (by exact hwork)] at hworks
      obtain ⟨-, hevent⟩ := append_eq_pair hworks
      cases hevent
      rcases serves with ⟨name, loc', hname, ⟨⟩, hlocate', hfree, -, rfl⟩ | ⟨⟨f, ⟨⟩⟩, -⟩
      rw [hframes.locate_iff hname, hlocate] at hlocate'
      cases hlocate'
      exact hfree.isBareAt_put
    · have hidle := Bool.eq_false_iff.mpr hwork
      rw [worksOf_snoc_of_isIdle (by exact hidle)] at hworks
      rw [serves.eq_of_isIdle hidle]
      exact h.stands hleft first label directory loc hworks hlocate
  | start => exact h.stands hleft first label directory loc hworks hlocate
  | work answers =>
    have hbare := h.stands hleft first label directory loc hworks hlocate
    exact (withstands_isBareAt _ loc).files_of_answers (h.onlyAsks_worker rfl).1 answers hbare
  | finish | refuse | cancel =>
    rw [worksOf_snoc_of_isWork rfl] at hworks
    cases (append_eq_pair hworks).2
  | leftover before after answers => exact absurd hleft (by simp)

/-- A text that has been written as the configuration of a call is found after a step of it. -/
theorem Sound.written_step (h : Sound place s call t₀ w c) (hstep : Step tool place w c w' c') (hleft : c'.left = [])
    {directory : Path} {text : Text} (hwritten : c'.Written s directory text) :
    ∃ bytes, Text.encode text = .ok bytes ∧ w'.host.files.HasFile (s.configIn directory) bytes := by
  cases hstep with
  | @act _ events left act reply next serves =>
    rcases hwritten with ⟨-, ⟨⟩⟩ | ⟨hworks⟩
    by_cases hwork : act.isWork = true
    · rw [worksOf_snoc_of_isWork (by exact hwork)] at hworks
      cases (append_eq_triple hworks).2
      exact serves.elim
    · have hidle := Bool.eq_false_iff.mpr hwork
      rw [worksOf_snoc_of_isIdle (by exact hidle)] at hworks
      rw [serves.eq_of_isIdle hidle]
      exact h.written hleft directory text (.noted hworks)
  | start =>
    rcases hwritten with ⟨-, ⟨⟩⟩ | ⟨hworks⟩
    exact h.written hleft directory text (.noted hworks)
  | @work events left work act reply host worker next answers =>
    rcases hwritten with ⟨hworks, hstance⟩ | ⟨hworks⟩
    · generalize hreply : worker reply = worker' at hstance
      cases hstance
      rcases h.worker _ _ _ rfl with hprogram | ⟨result, ⟨⟩⟩
      cases hprogram
      cases reply with
      | error fault => cases hreply
      | ok value =>
        obtain ⟨bytes, hbytes, hwrite⟩ := Host.exists_of_answers_write answers
        exact ⟨bytes, hbytes, FileTree.readBytes_eq_ok_iff.mp (FileTree.readBytes_of_write hwrite)⟩
    · have hcomes := h.comes rfl rfl
      rw [hworks] at hcomes
      cases hcomes
  | @finish events left work result next =>
    rcases hwritten with ⟨-, ⟨⟩⟩ | ⟨hworks⟩
    rw [worksOf_snoc_of_isWork rfl] at hworks
    obtain ⟨hbefore, hevent⟩ := append_eq_triple hworks
    injection hevent with hact hreply
    cases hact
    cases result with
    | error f => cases hreply
    | ok value => exact h.written hleft directory text (.waiting hbefore rfl)
  | refuse | cancel =>
    rcases hwritten with ⟨-, ⟨⟩⟩ | ⟨hworks⟩
    rw [worksOf_snoc_of_isWork rfl] at hworks
    cases (append_eq_triple hworks).2
  | leftover before after answers => exact absurd hleft (by simp)

theorem Sound.worker_step (h : Sound place s call t₀ w c) (hstep : Step tool place w c w' c') :
    ∀ work worker next, c'.stance = .waits work worker next →
      worker = work.program ∨ ∃ result, worker = .done result := by
  cases hstep with
  | start =>
    rintro work worker next ⟨⟩
    exact .inl rfl
  | @work events left work act reply host worker next answers =>
    rintro work' worker' next' ⟨⟩
    rcases h.worker _ _ _ rfl with hprogram | ⟨result, ⟨⟩⟩
    exact .inr ((h.comes rfl rfl).exists_done hprogram.symm reply)
  | leftover before after answers => exact h.worker
  | act serves => exact nofun
  | finish => exact nofun
  | refuse => exact nofun
  | cancel => exact nofun

theorem Sound.left_step (h : Sound place s call t₀ w c) (hstep : Step tool place w c w' c') :
    ∀ p ∈ c'.left, Program.OnlyAsks (DiskAct.OnlyWrites (s.IsConfiguration c'.events)) p := by
  have hmono : ∀ p : Disk Unit, Program.OnlyAsks (DiskAct.OnlyWrites (s.IsConfiguration c.events)) p →
      Program.OnlyAsks (DiskAct.OnlyWrites (s.IsConfiguration c'.events)) p := by
    refine fun p hp => hp.mono (DiskAct.OnlyWrites.mono ?_)
    rintro path ⟨label, directory, hmade, rfl⟩
    exact ⟨label, directory, hstep.events_subset hmade, rfl⟩
  cases hstep with
  | cancel =>
    refine List.forall_mem_cons.mpr ⟨hmono _ ?_, fun p hp => hmono p (h.left p hp)⟩
    exact (h.onlyAsks_worker rfl).bind fun _ => trivial
  | leftover before after answers =>
    intro p hp
    refine hmono p ?_
    rcases List.mem_append.mp hp with hp | hp
    · exact h.left p (List.mem_append_left _ hp)
    · rcases List.mem_cons.mp hp with rfl | hp
      · exact (h.left _ (List.mem_append_right before List.mem_cons_self)).2 _
      · exact h.left p (List.mem_append_right before (List.mem_cons_of_mem _ hp))
  | act serves => exact fun p hp => hmono p (h.left p hp)
  | start => exact h.left
  | work answers => exact h.left
  | finish => exact fun p hp => hmono p (h.left p hp)
  | refuse => exact fun p hp => hmono p (h.left p hp)

theorem Sound.cancelled_step (h : Sound place s call t₀ w c) (hstep : Step tool place w c w' c') (hleft : c'.left ≠ []) :
    ∃ work, ⟨.errand work, .error .cancelled⟩ ∈ c'.events := by
  have hold : c.left ≠ [] → ∃ work, ⟨.errand work, .error .cancelled⟩ ∈ c'.events := by
    intro hbefore
    obtain ⟨work, hwork⟩ := h.cancelled hbefore
    exact ⟨work, hstep.events_subset hwork⟩
  cases hstep with
  | @cancel events left work worker next => exact ⟨work, List.mem_append_right _ (List.mem_singleton_self _)⟩
  | leftover before after answers => exact hold (by simp)
  | act serves => exact hold hleft
  | start => exact hold hleft
  | work answers => exact hold hleft
  | finish => exact hold hleft
  | refuse => exact hold hleft

/-- What holds of a call holds after a step of it. -/
theorem Sound.own (h : Sound place s call t₀ w c) (hframes : w.Frames place t₀) (hstep : Step tool place w c w' c') :
    Sound place s call t₀ w' c' where
  follows := hstep.follows h.follows
  worker := h.worker_step hstep
  left := h.left_step hstep
  cancelled := h.cancelled_step hstep
  owned := hstep.owned hframes h
  stands hleft _ _ _ _ hworks hlocate := h.stands_step hframes hstep hleft hworks hlocate
  written hleft _ _ hwritten := h.written_step hstep hleft hwritten

/-! ### Steps of other calls -/

theorem Written.made {directory : Path} {text : Text} (h : c.Written s directory text) :
    ∃ label, ⟨.makeScratch label, .ok directory⟩ ∈ c.events := by
  rcases h with ⟨hworks, -⟩ | ⟨hworks⟩ <;> exact ⟨_, mem_of_worksOf_second hworks⟩

theorem noDots_configIn (hname : IsInner s.configFileName) {directory : Path} (h : (".." : Text) ∉ directory.parts) :
    (".." : Text) ∉ (s.configIn directory).parts := by
  rw [Simulator.configIn, Path.join, if_neg (by rw [hname.1]; decide)]
  exact fun hmem => (List.mem_append.mp hmem).elim h hname.2

/-- What holds of a call holds after a step of another one, which leaves its scratch directory alone. -/
theorem Sound.beside (h : Sound place s call t₀ w c) (hname : IsInner s.configFileName) (hframes : w.Frames place t₀)
    (hframes' : w'.Frames place t₀) (hmade : w.made ⊆ w'.made)
    (hsame : ∀ label directory loc, ⟨.makeScratch label, .ok directory⟩ ∈ c.events → t₀.locate directory = .ok loc →
      ∀ l, loc <+: l → w'.host.files.get? l = w.host.files.get? l) : Sound place s call t₀ w' c where
  follows := h.follows
  worker := h.worker
  left := h.left
  cancelled := h.cancelled
  owned label directory hmem := by
    obtain ⟨name, loc, hdots, hdirectory, hlocate, hloc⟩ := h.owned label directory hmem
    exact ⟨name, loc, hdots, hdirectory, hlocate, hmade hloc⟩
  stands hleft first label directory loc hworks hlocate := by
    exact (h.stands hleft first label directory loc hworks hlocate).of_agree
      (hsame label directory loc (mem_of_worksOf_second hworks) hlocate)
  written hleft directory text hwritten := by
    obtain ⟨bytes, hbytes, hfile⟩ := h.written hleft directory text hwritten
    obtain ⟨label, hmem⟩ := hwritten.made
    obtain ⟨name, loc, hdots, rfl, hlocate, -⟩ := h.owned label directory hmem
    refine ⟨bytes, hbytes, FileTree.hasFile_of_agree (s.isAbsolute_configIn (place.isAbsolute_child name))
      (noDots_configIn hname (place.noDots_child hdots)) hfile fun l hl above habove => ?_⟩
    have hbelow : loc <+: l := Simulator.prefix_of_locate_configIn hname ((hframes.locate_iff hdots).mpr hlocate) hl
    -- What stands above the scratch directory is as it was at the beginning.
    rcases List.prefix_or_prefix_of_prefix hbelow habove with hin | hout
    · exact hsame label _ loc hmem hlocate above hin
    · by_cases heq : above = loc
      · exact hsame label _ loc hmem hlocate above (heq ▸ List.prefix_refl _)
      · have hlength : above.length < place.depth := by
          rw [← ScratchPlace.length_of_locate hdots hlocate]
          exact lt_of_le_of_ne hout.length_le fun hlength => heq (hout.eq_of_length hlength)
        rw [hframes'.above hlength, hframes.above hlength]

end RunningCall

/-! ### Calls side by side -/

namespace SideBySide

variable {ι : Type} {tool : LintTool} {place : ScratchPlace} {s : Simulator} {t₀ : FileTree} {calls : ι → SimulationCall}
  {m m' : SideBySide ι} {i : ι}

/-- What holds of calls side by side that began on a machine with certain files. -/
structure Sound (place : ScratchPlace) (s : Simulator) (t₀ : FileTree) (calls : ι → SimulationCall) (m : SideBySide ι) :
    Prop where
  frames : m.shop.Frames place t₀
  each : ∀ i, RunningCall.Sound place s (calls i) t₀ m.shop (m.calls i)
  /-- No two calls have one scratch directory. -/
  apart : ∀ i j, i ≠ j → ∀ label directory label' directory' loc,
    ⟨.makeScratch label, .ok directory⟩ ∈ (m.calls i).events → ⟨.makeScratch label', .ok directory'⟩ ∈ (m.calls j).events →
    t₀.locate directory = .ok loc → t₀.locate directory' ≠ .ok loc

theorem sound_start (place : ScratchPlace) (s : Simulator) (host : Host) (calls : ι → SimulationCall) :
    (start s host calls).Sound place s host.files calls where
  frames := Workshop.frames_start place host
  each i := RunningCall.sound_begin place s (calls i) host.files _
  apart _ _ _ _ _ _ _ _ := nofun

/-- A scratch directory that a call makes is none of those of the others. -/
theorem Sound.apart_step (h : m.Sound place s t₀ calls) {w : Workshop} {c : RunningCall}
    (hstep : RunningCall.Step tool place m.shop (m.calls i) w c) {j : ι} (hne : i ≠ j) {label label' : Text}
    {directory directory' : Path} {loc : Location} (hmade : ⟨.makeScratch label, .ok directory⟩ ∈ c.events)
    (hmade' : ⟨.makeScratch label', .ok directory'⟩ ∈ (m.calls j).events) (hlocate : t₀.locate directory = .ok loc) :
    t₀.locate directory' ≠ .ok loc := by
  rcases hstep.makes with ⟨-, hsame⟩ | ⟨label', name, loc', hdots, hnew, -, hfresh, -, hevents, -⟩
  · exact h.apart i j hne _ _ _ _ _ (hsame _ _ hmade) hmade' hlocate
  · rw [hevents] at hmade
    rcases List.mem_append.mp hmade with hmade | hmade
    · exact h.apart i j hne _ _ _ _ _ hmade hmade' hlocate
    · cases List.mem_singleton.mp hmade
      rw [h.frames.locate_iff hdots, hlocate] at hnew
      cases hnew
      intro hlocate'
      obtain ⟨-, loc', -, -, hloc, hmem⟩ := (h.each j).owned _ _ hmade'
      cases hloc.symm.trans hlocate'
      exact hfresh hmem

/-- A step of a call leaves the scratch directories of the others alone. -/
theorem Sound.spares (h : m.Sound place s t₀ calls) (hname : IsInner s.configFileName) {w : Workshop} {c : RunningCall}
    (hstep : RunningCall.Step tool place m.shop (m.calls i) w c) {j : ι} (hne : i ≠ j) {label : Text} {directory : Path}
    {loc l : Location} (hmade : ⟨.makeScratch label, .ok directory⟩ ∈ (m.calls j).events)
    (hlocate : t₀.locate directory = .ok loc) (hl : loc <+: l) : w.host.files.get? l = m.shop.host.files.get? l := by
  refine (hstep.sameBeyond (h.each i)).entry l fun hreach => ?_
  obtain ⟨label', directory', loc', hmade', hlocate', hloc', hl'⟩ :=
    RunningCall.exists_of_inReach hname h.frames.working (hstep.owned h.frames (h.each i)) hreach
  obtain ⟨-, loc₁, -, -, hlocate₁, hloc⟩ := (h.each j).owned label directory hmade
  cases hlocate₁.symm.trans hlocate
  have hframes := hstep.frames hname h.frames (h.each i)
  have heq : loc' = loc := ScratchPlace.eq_of_prefix (hframes.length loc' hloc') (h.frames.length loc hloc) hl' hl
  exact h.apart_step hstep hne hmade' hmade hlocate' (heq ▸ hlocate)

variable [DecidableEq ι]

theorem Sound.step (h : m.Sound place s t₀ calls) (hname : IsInner s.configFileName) (hstep : Step tool place i m m') :
    m'.Sound place s t₀ calls := by
  obtain ⟨w, c, hstep, rfl⟩ := hstep
  have hframes := hstep.frames hname h.frames (h.each i)
  refine ⟨hframes, fun j => ?_, fun j k hne => ?_⟩
  · by_cases hj : j = i
    · subst hj
      rw [advance_calls_self]
      exact (h.each j).own h.frames hstep
    · rw [advance_calls_of_ne _ hj]
      exact (h.each j).beside hname h.frames hframes hstep.made_subset
        fun _ _ _ hmade hlocate _ => h.spares hname hstep (Ne.symm hj) hmade hlocate
  · intro label directory label' directory' loc hmade hmade' hlocate hlocate'
    by_cases hj : j = i
    · subst hj
      rw [advance_calls_self] at hmade
      rw [advance_calls_of_ne _ (Ne.symm hne)] at hmade'
      exact h.apart_step hstep hne hmade hmade' hlocate hlocate'
    · rw [advance_calls_of_ne _ hj] at hmade
      by_cases hk : k = i
      · subst hk
        rw [advance_calls_self] at hmade'
        exact h.apart_step hstep (Ne.symm hj) hmade' hmade hlocate' hlocate
      · rw [advance_calls_of_ne _ hk] at hmade'
        exact h.apart j k hne _ _ _ _ _ hmade hmade' hlocate hlocate'

/-- Whatever calls come to side by side, it holds of each of them what holds of a call. -/
theorem Reachable.sound {host : Host} (h : Reachable tool place s host calls m) (hname : IsInner s.configFileName) :
    m.Sound place s host.files calls := by
  induction h with
  | refl => exact sound_start place s host calls
  | tail _ hstep ih =>
    obtain ⟨i, hstep⟩ := hstep
    exact ih.step hname hstep

end SideBySide

end LintPreview
