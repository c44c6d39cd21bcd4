import LintPreview.Proofs.Simulation.Report
import LintPreview.Proofs.Simulation.Watched

/-!
# Simulations side by side do not meet

* `SideBySide.Recalls`: whatever a call has met beside others it can meet alone, from the moment on at which it read its
  baseline (`SideBySide.Reachable.exists_recalls`).
* `RunningCall.IsTold`: the reports that a call has got are those of the lint tool under the configuration that it wrote.
  So the lint tool and the baseline decide what a call returns (`RunningCall.Sound.exists_of_result`).
* `SideBySide.Reachable.isolated`: every lint call sees the configuration of its own call, every call returns what it
  would return alone, and no step of a call touches what another one needs.
-/

namespace LintPreview

open Program (Reaches)
open Simulator (worksOf mem_of_worksOf violationsOf bareHost IsInner)

/-! ### What calls are told -/

namespace RunningCall

variable {tool : LintTool} {place : ScratchPlace} {s : Simulator} {call : SimulationCall} {t₀ : FileTree}
  {w w' : Workshop} {c c' : RunningCall}

/-- Every report that a call has got is one that the lint tool gives on what stands around and on the configuration that
the call has written. -/
def IsTold (tool : LintTool) (s : Simulator) (t₀ : FileTree) (c : RunningCall) : Prop :=
  ∀ workspace config report, ⟨.lint workspace config, .ok report⟩ ∈ c.events →
    ∃ directory text bytes, ⟨.errand (.writeText (s.configIn directory) text), .ok ()⟩ ∈ c.events ∧
      Text.encode text = .ok bytes ∧ tool workspace t₀.get? (.ok bytes) (.ok report)

theorem isTold_begin (tool : LintTool) (s : Simulator) (call : SimulationCall) (t₀ : FileTree) :
    (begin s call).IsTold tool s t₀ :=
  fun _ _ _ => nofun

theorem IsTold.step (h : c.IsTold tool s t₀) (hframes : w.Frames place t₀) (hc : Sound place s call t₀ w c)
    (hstep : Step tool place w c w' c') : c'.IsTold tool s t₀ := by
  have hold : ∀ workspace config report, ⟨.lint workspace config, .ok report⟩ ∈ c.events →
      ∃ directory text bytes, ⟨.errand (.writeText (s.configIn directory) text), .ok ()⟩ ∈ c'.events ∧
        Text.encode text = .ok bytes ∧ tool workspace t₀.get? (.ok bytes) (.ok report) := by
    intro workspace config report hmem
    obtain ⟨directory, text, bytes, hwritten, hbytes, htool⟩ := h workspace config report hmem
    exact ⟨directory, text, bytes, hstep.events_subset hwritten, hbytes, htool⟩
  have hadded : ∀ {event : ServiceEvent}, c'.events = c.events ++ [event] →
      (∀ workspace config report, event ≠ ⟨.lint workspace config, .ok report⟩) → c'.IsTold tool s t₀ := by
    intro event hevents hevent workspace config report hmem
    rw [hevents] at hmem
    rcases List.mem_append.mp hmem with hmem | hmem
    · exact hold workspace config report hmem
    · exact absurd (List.mem_singleton.mp hmem).symm (hevent workspace config report)
  cases hstep with
  | @act _ events left act reply next serves =>
    by_cases hlint : ∃ workspace config report, (⟨act, reply⟩ : ServiceEvent) = ⟨.lint workspace config, .ok report⟩
    · obtain ⟨workspace, config, report, ⟨⟩⟩ := hlint
      intro workspace' config' report' hmem
      rcases List.mem_append.mp hmem with hmem | hmem
      · exact hold workspace' config' report' hmem
      · cases List.mem_singleton.mp hmem
        obtain ⟨⟨⟨⟩⟩ | ⟨result, htool, hreply⟩, -⟩ := serves
        have hcomes := hc.comes rfl rfl
        generalize hworks : worksOf events = works at hcomes
        cases hcomes with
        | @lint b d directory enables whole =>
          obtain ⟨bytes, hbytes, hfile⟩ := hc.hasFile hworks (by rintro _ ⟨⟩)
          have hwritten : ⟨.errand (.writeText (s.configIn directory) d.toYaml), .ok ()⟩ ∈ events :=
            mem_of_worksOf hworks (by simp)
          refine ⟨directory, _, bytes, List.mem_append_left _ hwritten, hbytes, ?_⟩
          rw [hframes.around_eq, FileTree.readBytes_eq_ok_iff.mpr hfile, eq_ok_of_mapError hreply.symm] at htool
          exact htool
    · exact hadded rfl fun workspace config report heq => hlint ⟨workspace, config, report, heq⟩
  | start => exact hold
  | work answers => exact hold
  | finish => exact hadded rfl nofun
  | refuse => exact hadded rfl nofun
  | cancel => exact hadded rfl nofun
  | leftover before after answers => exact hold

/-- A result goes back to the baseline and to a report of the lint tool on the configuration that comes of it. -/
theorem Sound.exists_of_result (h : Sound place s call t₀ w c) (htold : c.IsTold tool s t₀) {r : SimulationResult}
    (hend : c.stance = .goes (.done (.ok r))) :
    ∃ b d bytes report, c.Reads call.base b ∧
      b.enable call.rule call.isOptin (some call.workspace.toString) s.settings.applyDefaultExclusions = .ok d ∧
      Text.encode d.toYaml = .ok bytes ∧ tool call.workspace t₀.get? (.ok bytes) (.ok report) ∧
      violationsOf call.rule call.workspace report = .ok r.violations ∧ r.ruleId = call.rule := by
  have hfollows := h.follows
  rw [hend] at hfollows
  have hcourse := Simulator.course_of_runs hfollows.runs
  generalize hresult : (.ok r : Except Stop SimulationResult) = e at hcourse
  generalize hworks : worksOf c.events = works at hcourse
  cases hcourse with
  | rejected stop => cases hresult
  | unlisted b fails => cases hresult
  | unreported b enables lints => cases hresult
  | unreadable b enables lints fails => cases hresult
  | @reported b d works report result enables lints reads named =>
    have heq : result = r := by
      have hok := (announcing_of_ok hresult.symm (.ok result)).symm.trans hresult.symm
      exact Except.ok.inj hok
    subst heq
    generalize hreport : (.ok report : Except Stop Text) = reply at lints
    cases lints with
    | unmade f => cases hreport
    | undumped directory lost => cases hreport
    | unwritten directory stop whole => cases hreport
    | called directory reply' whole =>
      subst hreport
      obtain ⟨directory', text, bytes, hwritten, hbytes, htool⟩ :=
        htold call.workspace (s.configIn directory) report (mem_of_worksOf hworks (by simp))
      have htext : text = d.toYaml := by
        have hin : ⟨.errand (.writeText (s.configIn directory') text), .ok ()⟩ ∈ worksOf c.events :=
          List.mem_filter.mpr ⟨hwritten, rfl⟩
        rw [hworks] at hin
        have hsame : s.configIn directory' = s.configIn directory ∧ text = d.toYaml := by simpa using hin
        exact hsame.2
      subst htext
      have hread : ⟨.errand (.readBaseline call.base), .ok b⟩ ∈ c.events := mem_of_worksOf hworks List.mem_cons_self
      exact ⟨b, d, bytes, report, .noted hread, enables, hbytes, htool, reads, named⟩

/-- Before a call reads its baseline it changes nothing. -/
theorem Sound.eq_of_unread (h : Sound place s call t₀ w c) (hstep : Step tool place w c w' c') (hread : ¬ c'.HasRead) :
    ¬ c.HasRead ∧ w' = w := by
  cases hstep with
  | act serves => exact absurd (.inl (by simp)) hread
  | start =>
    refine ⟨?_, rfl⟩
    rintro (hne | ⟨_, _, _, ⟨⟩⟩)
    exact hread (.inl hne)
  | @work events left work act reply host worker next answers =>
    rcases h.worker _ _ _ rfl with hprogram | ⟨result, ⟨⟩⟩
    obtain ⟨result, hresult⟩ := (h.comes rfl rfl).exists_done hprogram.symm reply
    exact absurd (.inr ⟨work, result, next, by rw [hresult]⟩) hread
  | finish => exact absurd (.inl (by simp)) hread
  | refuse => exact absurd (.inl (by simp)) hread
  | cancel => exact absurd (.inl (by simp)) hread
  | leftover before after answers =>
    obtain ⟨work, hwork⟩ := h.cancelled (by simp)
    exact absurd (.inl (List.ne_nil_of_mem hwork)) hread

/-- What holds of a call that is alone: besides what holds of every call, its baseline is the one of the machine that it
began on. -/
theorem Alone.sound {v : Workshop} (h : Alone tool place s call v (w, c)) (hname : IsInner s.configFileName)
    (hv : v.Frames place t₀) : w.Frames place t₀ ∧ Sound place s call t₀ w c ∧ c.IsTold tool s t₀ ∧
      (¬ c.HasRead → w = v) ∧ ∀ b, c.Reads call.base b → readBaseline v.host.files call.base = .ok b := by
  generalize ha : (w, c) = a at h
  induction h generalizing w c with
  | refl =>
    cases ha
    refine ⟨hv, sound_begin .., isTold_begin tool s call t₀, fun _ => rfl, ?_⟩
    rintro b (⟨⟨⟩⟩ | ⟨⟨⟩⟩)
  | @tail a₁ a₂ _ hstep ih =>
    subst ha
    obtain ⟨hframes, hsound, htold, hunread, hreads⟩ := ih (w := a₁.1) (c := a₁.2) rfl
    refine ⟨hstep.frames hname hframes hsound, hsound.own hframes hstep, htold.step hframes hsound hstep, ?_, ?_⟩
    · intro hread
      obtain ⟨hread, heq⟩ := hsound.eq_of_unread hstep hread
      exact heq.trans (hunread hread)
    · intro b hb
      rcases hsound.reads_step hstep hb with hb | ⟨hread, hb⟩
      · exact hreads b hb
      · rw [← hunread hread]
        exact hb

/-- The lint tool and the baseline decide what a call returns. -/
theorem eq_of_results (htool : ∀ workspace around content reply reply', tool workspace around content reply →
      tool workspace around content reply' → reply = reply')
    (h : Sound place s call t₀ w c) (htold : c.IsTold tool s t₀) {r r' : SimulationResult}
    (hend : c.stance = .goes (.done (.ok r))) (h' : Sound place s call t₀ w' c') (htold' : c'.IsTold tool s t₀)
    (hend' : c'.stance = .goes (.done (.ok r')))
    (hreads : ∀ b b', c.Reads call.base b → c'.Reads call.base b' → b = b') :
    r' = { r with duration := r'.duration } := by
  obtain ⟨b, d, bytes, report, hb, henable, hbytes, hreport, hviolations, hrule⟩ := h.exists_of_result htold hend
  obtain ⟨b', d', bytes', report', hb', henable', hbytes', hreport', hviolations', hrule'⟩ :=
    h'.exists_of_result htold' hend'
  cases hreads b b' hb hb'
  cases henable.symm.trans henable'
  cases hbytes.symm.trans hbytes'
  cases htool _ _ _ _ _ hreport hreport'
  have hsame : r.violations = r'.violations := Except.ok.inj (hviolations.symm.trans hviolations')
  obtain ⟨rule, violations, duration⟩ := r
  obtain ⟨rule', violations', duration'⟩ := r'
  cases hrule
  cases hrule'
  cases hsame
  rfl

end RunningCall

/-! ### Calls side by side -/

namespace SideBySide

variable {ι : Type} [DecidableEq ι] {tool : LintTool} {place : ScratchPlace} {s : Simulator} {host : Host}
  {calls : ι → SimulationCall} {m m' m₁ : SideBySide ι} {i : ι}

/-- A call read its baseline at the moment `m₁`: whatever it has met since it can meet alone on the machine of that moment,
and on any machine on which its baseline reads the same. -/
structure Recalls (tool : LintTool) (place : ScratchPlace) (s : Simulator) (host : Host) (calls : ι → SimulationCall)
    (m : SideBySide ι) (i : ι) (m₁ : SideBySide ι) : Prop where
  reachable : Reachable tool place s host calls m₁
  passes : Passes tool place m₁ m
  baseline : ∀ b, (m.calls i).Reads (calls i).base b → readBaseline m₁.shop.host.files (calls i).base = .ok b
  alone : ∀ v : Workshop, v.Frames place host.files → v.made ⊆ m₁.shop.made →
    (∀ path content, (calls i).base = some path → m₁.shop.host.files.readBytes path = .ok content →
      v.host.files.readBytes path = .ok content) →
    ∃ a, RunningCall.Alone tool place s (calls i) v a ∧
      RunningCall.Mirrors place s (calls i) host.files m.shop (m.calls i) a

/-- A call that has not read its baseline yet reads it now or later. -/
theorem Reachable.recalls_self (h : Reachable tool place s host calls m) (hname : IsInner s.configFileName)
    (hread : ¬ (m.calls i).HasRead) : Recalls tool place s host calls m i m where
  reachable := h
  passes := .refl
  baseline b hb := by
    rcases hb with ⟨hstance⟩ | ⟨hmem⟩
    · exact absurd (.inr ⟨_, _, _, hstance⟩) hread
    · exact absurd (.inl (List.ne_nil_of_mem hmem)) hread
  alone v hv hmade _ := by
    obtain ⟨c, halone, hevents, hstance⟩ := ((h.sound hname).each i).exists_alone hread tool v
    exact ⟨(v, c), halone, hv, (halone.sound hname hv).2.1, hevents, hstance, hmade⟩

/-- What a call can be recalled from stays so by a step of it. -/
theorem Recalls.own (h : Recalls tool place s host calls m i m₁) (hsound : m.Sound place s host.files calls)
    (hname : IsInner s.configFileName) (hm₁ : (m.calls i).HasRead ∨ m₁ = m) {w : Workshop} {c : RunningCall}
    (hstep : RunningCall.Step tool place m.shop (m.calls i) w c) :
    Recalls tool place s host calls (m.advance i w c) i m₁ where
  reachable := h.reachable
  passes := h.passes.tail ⟨i, w, c, hstep, rfl⟩
  baseline b hb := by
    rw [advance_calls_self] at hb
    rcases (hsound.each i).reads_step hstep hb with hb | ⟨hread, hb⟩
    · exact h.baseline b hb
    · rcases hm₁ with hm₁ | rfl
      · exact absurd hm₁ hread
      · exact hb
  alone v hv hmade hsame := by
    obtain ⟨a, halone, hmirrors⟩ := h.alone v hv hmade hsame
    have hread : ∀ path content, (calls i).base = some path → ¬ (m.calls i).HasRead →
        m.shop.host.files.readBytes path = .ok content → a.1.host.files.readBytes path = .ok content := by
      intro path content hbase hunread hcontent
      rcases hm₁ with hm₁ | rfl
      · exact absurd hm₁ hunread
      · have ha : ¬ a.2.HasRead := by rwa [RunningCall.HasRead, hmirrors.events, hmirrors.stance]
        rw [(halone.sound hname hv).2.2.2.1 ha]
        exact hsame path content hbase hcontent
    obtain ⟨a', hpasses, hmirrors'⟩ := hmirrors.exists_step hname hsound.frames (hsound.each i) hread hstep
    rw [advance_calls_self]
    exact ⟨a', halone.trans hpasses, hmirrors'⟩

/-- What a call can be recalled from stays so by a step of another one. -/
theorem Recalls.beside (h : Recalls tool place s host calls m i m₁) {j : ι} (hne : i ≠ j) {w : Workshop} {c : RunningCall}
    (hstep : RunningCall.Step tool place m.shop (m.calls j) w c) :
    Recalls tool place s host calls (m.advance j w c) i m₁ where
  reachable := h.reachable
  passes := h.passes.tail ⟨j, w, c, hstep, rfl⟩
  baseline b hb := by
    rw [advance_calls_of_ne _ hne] at hb
    exact h.baseline b hb
  alone v hv hmade hsame := by
    obtain ⟨a, halone, hframes, hsound, hevents, hstance, hsubset⟩ := h.alone v hv hmade hsame
    rw [advance_calls_of_ne _ hne]
    exact ⟨a, halone, hframes, hsound, hevents, hstance, fun _ hmem => hstep.made_subset (hsubset hmem)⟩

/-- Whatever calls come to side by side, each of them can be recalled from a moment before. -/
theorem Reachable.exists_recalls (h : Reachable tool place s host calls m) (hname : IsInner s.configFileName) (i : ι) :
    ∃ m₁, Recalls tool place s host calls m i m₁ := by
  suffices hrun : (m.calls i).HasRead → ∃ m₁, Recalls tool place s host calls m i m₁ by
    by_cases hread : (m.calls i).HasRead
    · exact hrun hread
    · exact ⟨m, h.recalls_self hname hread⟩
  induction h with
  | refl =>
    rintro (hne | ⟨_, _, _, ⟨⟩⟩)
    exact absurd rfl hne
  | @tail m m' hreach hstep ih =>
    obtain ⟨j, w, c, hstep, rfl⟩ := hstep
    intro hread'
    have hsound : m.Sound place s host.files calls := Reachable.sound hreach hname
    by_cases hj : i = j
    · subst hj
      by_cases hread : (m.calls i).HasRead
      · obtain ⟨m₁, hrecalls⟩ := ih hread
        exact ⟨m₁, hrecalls.own hsound hname (.inl hread) hstep⟩
      · have hrecalls := Reachable.recalls_self hreach hname hread
        exact ⟨m, hrecalls.own hsound hname (.inr rfl) hstep⟩
    · rw [advance_calls_of_ne _ hj] at hread'
      obtain ⟨m₁, hrecalls⟩ := ih hread'
      exact ⟨m₁, hrecalls.beside hj hstep⟩

/-- What calls are told side by side is so as well. -/
theorem Reachable.isTold (h : Reachable tool place s host calls m) (hname : IsInner s.configFileName) (i : ι) :
    (m.calls i).IsTold tool s host.files := by
  induction h with
  | refl => exact RunningCall.isTold_begin tool s (calls i) host.files
  | @tail m m' hreach hstep ih =>
    obtain ⟨j, w, c, hstep, rfl⟩ := hstep
    have hsound : m.Sound place s host.files calls := Reachable.sound hreach hname
    by_cases hj : i = j
    · subst hj
      rw [advance_calls_self]
      exact ih.step hsound.frames (hsound.each i) hstep
    · rw [advance_calls_of_ne _ hj]
      exact ih

/-- Where a file reads the same, its configuration is the same. -/
theorem eq_of_readBaseline {t t' : FileTree} {base : Option Path} {b b' : Document}
    (hsame : ∀ path content, base = some path → t.readBytes path = .ok content → t'.readBytes path = .ok content)
    (hb : readBaseline t base = .ok b) (hb' : readBaseline t' base = .ok b') : b = b' := by
  cases base with
  | none => exact Except.ok.inj (hb.symm.trans hb')
  | some path =>
    cases hread : t.readBytes path with
    | error fault =>
      rw [readBaseline, hread] at hb
      cases fault <;> cases hb
    | ok content =>
      rw [readBaseline, hsame path content rfl hread] at hb'
      rw [readBaseline, hread] at hb
      exact Except.ok.inj (hb.symm.trans hb')

/-- A name that is a single part of a path, and not two dots, leads downwards. -/
theorem isInner_of_ofString {name part : Text} (h : Path.ofString name = ⟨.relative, [part]⟩) (hdots : part ≠ "..") :
    IsInner name := by
  rw [IsInner, h]
  exact ⟨rfl, fun hmem => hdots (List.mem_singleton.mp hmem).symm⟩

/-- What calls side by side do not get to see of each other. -/
structure Isolated (tool : LintTool) (place : ScratchPlace) (s : Simulator) (host : Host) (calls : ι → SimulationCall)
    (m : SideBySide ι) : Prop where
  /-- The configuration that a lint call sees holds the text of what comes of its own baseline, as this was when it was
  read, when its own rule is switched on in its own workspace. -/
  configured : ∀ i workspace config next, (m.calls i).stance = .goes (.ask (.lint workspace config) next) →
    workspace = (calls i).workspace ∧ ∃ m₁ b d bytes, Reachable tool place s host calls m₁ ∧ Passes tool place m₁ m ∧
      readBaseline m₁.shop.host.files (calls i).base = .ok b ∧
      b.enable (calls i).rule (calls i).isOptin (some (calls i).workspace.toString)
        s.settings.applyDefaultExclusions = .ok d ∧
      d.dumpFault? = none ∧ Text.encode d.toYaml = .ok bytes ∧ m.shop.host.files.readBytes config = .ok bytes
  /-- Whatever a call meets, up to its end, it can meet alone: on the machine that it read its baseline from, and on the
  machine as it was at the beginning unless its baseline could not be read there. If the lint tool always gives the same
  report on the same things, a call that returns a result alone returns the same one, apart from how long it took. -/
  alone : ∀ i, ∃ m₁, Reachable tool place s host calls m₁ ∧ Passes tool place m₁ m ∧ ∀ v : Workshop,
    (v = m₁.shop ∨ v = { host } ∧ ∀ path content, (calls i).base = some path →
      m₁.shop.host.files.readBytes path = .ok content → host.files.readBytes path = .ok content) →
    (∃ w c, RunningCall.Alone tool place s (calls i) v (w, c) ∧ c.events = (m.calls i).events ∧
      c.stance = (m.calls i).stance) ∧
    ((∀ workspace around content reply reply', tool workspace around content reply →
        tool workspace around content reply' → reply = reply') →
      ∀ w c r r', (m.calls i).stance = .goes (.done (.ok r)) → RunningCall.Alone tool place s (calls i) v (w, c) →
        c.stance = .goes (.done (.ok r')) → r' = { r with duration := r'.duration })
  /-- A step of a call, and so its end, leaves the scratch directories of all others alone. -/
  spared : ∀ i j m', i ≠ j → Step tool place i m m' → ∀ label directory loc,
    ⟨.makeScratch label, .ok directory⟩ ∈ (m.calls j).events → m.shop.host.files.locate directory = .ok loc →
    ∀ l, loc <+: l → m'.shop.host.files.get? l = m.shop.host.files.get? l
  /-- Every file that was there at the beginning is there as it was. -/
  kept : ∀ path content, host.files.readBytes path = .ok content → m.shop.host.files.readBytes path = .ok content

/-- Simulations side by side are isolated from each other, however many there are, whatever each of them is asked for, in
whichever order their steps come, and whichever of them fail or are cancelled. -/
theorem Reachable.isolated (h : Reachable tool place s host calls m) (hname : IsInner s.configFileName) :
    m.Isolated tool place s host calls := by
  have hsound := h.sound hname
  refine ⟨fun i workspace config next hstance => ?_, fun i => ?_, ?_, fun path content hcontent => ?_⟩
  · obtain ⟨m₁, hrecalls⟩ := h.exists_recalls hname i
    have hcomes := (hsound.each i).comes (by rw [hstance]; rfl) rfl
    generalize hworks : worksOf (m.calls i).events = works at hcomes
    cases hcomes with
    | @lint b d directory enables whole =>
      obtain ⟨bytes, hbytes, hfile⟩ := (hsound.each i).hasFile hworks (by rintro _ ⟨⟩)
      have hb := hrecalls.baseline b (.noted (mem_of_worksOf hworks List.mem_cons_self))
      exact ⟨rfl, m₁, b, d, bytes, hrecalls.reachable, hrecalls.passes, hb, enables, whole, hbytes,
        FileTree.readBytes_eq_ok_iff.mpr hfile⟩
  · obtain ⟨m₁, hrecalls⟩ := h.exists_recalls hname i
    refine ⟨m₁, hrecalls.reachable, hrecalls.passes, fun v hv => ?_⟩
    have hm₁ := hrecalls.reachable.sound hname
    obtain ⟨hframes, hmade, hsame⟩ : v.Frames place host.files ∧ v.made ⊆ m₁.shop.made ∧
        ∀ path content, (calls i).base = some path → m₁.shop.host.files.readBytes path = .ok content →
          v.host.files.readBytes path = .ok content := by
      rcases hv with rfl | ⟨rfl, hsame⟩
      · exact ⟨hm₁.frames, List.Subset.refl _, fun _ _ _ hcontent => hcontent⟩
      · exact ⟨Workshop.frames_start place host, List.nil_subset _, hsame⟩
    refine ⟨?_, fun htool w c r r' hend halone hend' => ?_⟩
    · obtain ⟨⟨w, c⟩, halone, hmirrors⟩ := hrecalls.alone v hframes hmade hsame
      exact ⟨w, c, halone, hmirrors.events, hmirrors.stance⟩
    · obtain ⟨-, hc, htold, -, hreads⟩ := halone.sound hname hframes
      refine RunningCall.eq_of_results htool (hsound.each i) (h.isTold hname i) hend hc htold hend' ?_
      intro b b' hb hb'
      exact eq_of_readBaseline hsame (hrecalls.baseline b hb) (hreads b' hb')
  · rintro i j m' hne ⟨w, c, hstep, rfl⟩ label directory loc hmade hlocate l hl
    obtain ⟨name, -, hdots, rfl, -⟩ := (hsound.each j).owned label directory hmade
    exact hsound.spares hname hstep hne hmade ((hsound.frames.locate_iff hdots).mp hlocate) hl
  · exact FileTree.readBytes_eq_ok_iff.mpr (hsound.frames.hasFile (FileTree.readBytes_eq_ok_iff.mp hcontent))

/-! ### Two calls -/

/-- Two calls for different rules. -/
def twoCalls (first : Bool) : SimulationCall where
  rule := if first then "force_cast" else "force_try"
  workspace := Path.ofString "/app"
  isOptin := true

/-- The directory for scratch directories on a machine with nothing else. -/
def barePlace : ScratchPlace := ⟨Host.scratchRoot, rfl, by decide⟩

/-- A lint tool that finds no violations if it finds a configuration. -/
def findsNone : LintTool := fun _ _ config reply => ∃ content, config = .ok content ∧ reply = .ok "[]"

/-- The scratch directories of the two calls. -/
def scratchOf (first : Bool) : Text := if first then "rulestudio-1" else "rulestudio-2"

/-- Where they are. -/
def locationOf (first : Bool) : Location := (barePlace.child (scratchOf first)).parts.map Host.nameBytes

/-- The path of the configuration in a scratch directory. -/
def configOf (first : Bool) : Path := ({} : Simulator).configIn (barePlace.child (scratchOf first))

theorem answers_clock (w : Workshop) (n : Nat) : Workshop.Answers findsNone barePlace .clock w n w := .other rfl

theorem answers_log (w : Workshop) (record : LogRecord) : Workshop.Answers findsNone barePlace (.log record) w () w :=
  .other rfl

theorem answers_read (w : Workshop) : Workshop.Answers findsNone barePlace (.errand (.readBaseline none)) w
    (.ok emptyConfiguration) w := by
  have hruns : Program.Runs (Host.Answers true) (Errand.readBaseline none).program w.host [] (.ok emptyConfiguration)
      w.host := .done _ _
  exact .errand hruns

theorem answers_write {w : Workshop} {path : Path} {content : Text} {bytes : List UInt8} {files : FileTree}
    (hbytes : Text.encode content = .ok bytes) (hwrite : w.host.files.write path bytes = .ok files) :
    Workshop.Answers findsNone barePlace (.errand (.writeText path content)) w (.ok ())
      { w with host := { w.host with files } } :=
  Workshop.answers_writeText_iff.mpr ⟨.ok (), _, Host.answers_write hbytes hwrite, rfl, rfl⟩

theorem exists_encode {content : Text} (h : (Text.encode content).isOk = true) :
    ∃ bytes, Text.encode content = .ok bytes := by
  cases hc : Text.encode content with
  | ok bytes => exact ⟨bytes, rfl⟩
  | error e =>
    rw [hc] at h
    cases h

/-- The configurations that the two calls lint under. -/
def overlayOf (first : Bool) : Document :=
  ((emptyConfiguration.enable (twoCalls first).rule (twoCalls first).isOptin (some (twoCalls first).workspace.toString)
    ({} : Simulator).settings.applyDefaultExclusions).toOption).getD .null

/-- Each of the calls can come as far as linting, and then get a report and remove its scratch directory. -/
theorem exists_lints (first : Bool) {w : Workshop} {l : Location}
    (hlocate : w.host.files.locate (barePlace.child (scratchOf first)) = .ok (locationOf first))
    (hfree : w.host.files.IsFree (locationOf first)) (hnew : locationOf first ∉ w.made)
    (hl : (w.host.files.put (locationOf first) .directory).locate (configOf first) = .ok l)
    (hnone : (w.host.files.put (locationOf first) .directory).get? l = none) :
    ∃ bytes w₁ events next,
      w₁ = ⟨{ w.host with files := (w.host.files.put (locationOf first) .directory).put l (.file bytes false) },
        locationOf first :: w.made⟩ ∧
      Reaches (Workshop.Answers findsNone barePlace) ((twoCalls first).program {}) w events
        (.ask (.lint (twoCalls first).workspace (configOf first)) next) w₁ ∧
      ∀ w' content, w'.host.files.readBytes (configOf first) = .ok content →
        w'.host.files.locate (barePlace.child (scratchOf first)) ≠ .ok [] → ∃ rest,
          Reaches (Workshop.Answers findsNone barePlace) (.ask (.lint (twoCalls first).workspace (configOf first)) next) w'
            [⟨.lint (twoCalls first).workspace (configOf first), .ok "[]"⟩,
              ⟨.removeTree (barePlace.child (scratchOf first)), ()⟩] rest
            { w' with host := w'.host.removeTree (barePlace.child (scratchOf first)) } := by
  have hmake : Workshop.Answers findsNone barePlace (.makeScratch ({} : Simulator).settings.scratchPrefix) w
      (.ok (barePlace.child (scratchOf first)))
      ⟨{ w.host with files := w.host.files.put (locationOf first) .directory }, locationOf first :: w.made⟩ :=
    .other (.inl ⟨_, _, by cases first <;> decide, rfl, hlocate, hfree, hnew, rfl⟩)
  have hwrite := FileTree.write_eq_of_get?_eq_none hl hnone
  have hlint : ∀ w' content, w'.host.files.readBytes (configOf first) = .ok content →
      Workshop.Answers findsNone barePlace (.lint (twoCalls first).workspace (configOf first)) w' (.ok "[]") w' :=
    fun w' content hcontent => .other ⟨.inr ⟨.ok "[]", ⟨content, hcontent, rfl⟩, rfl⟩, rfl⟩
  have hremove : ∀ w' : Workshop, w'.host.files.locate (barePlace.child (scratchOf first)) ≠ .ok [] →
      Workshop.Answers findsNone barePlace (.removeTree (barePlace.child (scratchOf first))) w' ()
        { w' with host := w'.host.removeTree (barePlace.child (scratchOf first)) } := by
    intro w' hroot
    refine .other ⟨_, w'.host.clears_removeTree _ hroot, ?_⟩
    rw [Host.removeTree]
    split <;> rfl
  obtain ⟨bytes, hbytes⟩ : ∃ bytes, Text.encode (overlayOf first).toYaml = .ok bytes :=
    exists_encode (by cases first <;> decide +kernel)
  cases first with
  | true =>
    refine ⟨bytes, _, _, _, rfl, .ask (answers_read w) <| .ask (answers_clock w 0) <| .ask (answers_log w _) <|
      .ask (answers_clock w 0) <| .ask hmake <| .ask (answers_write hbytes (hwrite bytes)) <| .here _ _, ?_⟩
    exact fun w' content hcontent hroot => ⟨_, .ask (hlint w' content hcontent) <| .ask (hremove w' hroot) <| .here _ _⟩
  | false =>
    refine ⟨bytes, _, _, _, rfl, .ask (answers_read w) <| .ask (answers_clock w 0) <| .ask (answers_log w _) <|
      .ask (answers_clock w 0) <| .ask hmake <| .ask (answers_write hbytes (hwrite bytes)) <| .here _ _, ?_⟩
    exact fun w' content hcontent hroot => ⟨_, .ask (hlint w' content hcontent) <| .ask (hremove w' hroot) <| .here _ _⟩

/-- The second of two calls lints when the first one, which has got its report, has removed its scratch directory. -/
theorem exists_reachable_twoCalls : ∃ m : SideBySide Bool, Reachable findsNone barePlace {} bareHost twoCalls m ∧
    (∃ next, (m.calls false).stance = .goes (.ask (.lint (twoCalls false).workspace (configOf false)) next)) ∧
    ⟨.removeTree (barePlace.child (scratchOf true)), ()⟩ ∈ (m.calls true).events := by
  obtain ⟨bytes, w₁, events, next, hw₁, hfirst, hrest⟩ := exists_lints true (w := { host := bareHost })
    (l := locationOf true ++ [Host.nameBytes ".swiftlint.yml"]) rfl (by rintro l ⟨rest, rfl⟩; rfl) List.not_mem_nil rfl rfl
  obtain ⟨bytes', w₂, events', next', hw₂, hsecond, -⟩ := exists_lints false (w := w₁)
    (l := locationOf false ++ [Host.nameBytes ".swiftlint.yml"]) (by rw [hw₁]; rfl)
    (by rw [hw₁]; rintro l ⟨rest, rfl⟩; rfl) (by rw [hw₁]; exact (by decide : locationOf false ∉ [locationOf true]))
    (by rw [hw₁]; rfl) (by rw [hw₁]; rfl)
  obtain ⟨rest, hend⟩ := hrest w₂ bytes (by rw [hw₂, hw₁]; rfl) (by rw [hw₂, hw₁]; exact nofun)
  have hone := Passes.of_call (m := start {} bareHost twoCalls) (i := true)
    (a := (w₁, ⟨events, .goes (.ask _ next), []⟩)) (RunningCall.passes_of_reaches hfirst [] [])
  have htwo := hone.trans (Passes.of_call (i := false) (a := (w₂, ⟨events', .goes (.ask _ next'), []⟩))
    (RunningCall.passes_of_reaches hsecond [] []))
  have hthree := htwo.trans (Passes.of_call (i := true) (RunningCall.passes_of_reaches hend events []))
  refine ⟨_, hthree, ⟨next', ?_⟩, ?_⟩
  · rw [advance_calls_of_ne _ (by decide), advance_calls_self]
  · rw [advance_calls_self]
    simp

/-- Two such calls are isolated from each other. -/
theorem isolated_twoCalls : IsInner ({} : Simulator).configFileName ∧ ∃ m : SideBySide Bool,
    Reachable findsNone barePlace {} bareHost twoCalls m ∧
    (∃ next, (m.calls false).stance = .goes (.ask (.lint (twoCalls false).workspace (configOf false)) next)) ∧
    ⟨.removeTree (barePlace.child (scratchOf true)), ()⟩ ∈ (m.calls true).events ∧
    m.Isolated findsNone barePlace {} bareHost twoCalls := by
  have hpart : Path.ofString ({} : Simulator).configFileName = ⟨.relative, [".swiftlint.yml"]⟩ := by decide
  have hname := isInner_of_ofString hpart (by decide)
  obtain ⟨m, hreach, hlints, hremoved⟩ := exists_reachable_twoCalls
  exact ⟨hname, m, hreach, hlints, hremoved, hreach.isolated hname⟩

end SideBySide

end LintPreview
