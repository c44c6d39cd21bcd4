import LintPreview.Proofs.Remote.Escapes
import LintPreview.Proofs.Simulation.SideBySide

/-!
# Simulations on top of a fetched configuration

* `EndsAlike`: two ends are the same, or a baseline is invalid for the same reason in both.
* `Simulator.exists_runs_simulateRule`: on top of files that hold the same, simulations can go the same way.
* `Simulator.runs_simulateRemote_iff`: a simulation on top of a fetched configuration is one on top of the file into which
  it has been written.
* `Simulator.GoesLikeFile`: so it goes like one on top of any file with the bytes of the response
  (`Simulator.goesLikeFile_of_runs_fetchConfig`).
-/

namespace LintPreview

open Program (World)
open Simulator (worksOf IsInner)

/-! ### Baselines under several paths -/

/-- Two ends are the same, or both are that a baseline is invalid, for the same reason. -/
inductive EndsAlike {α : Type} : Except Stop α → Except Stop α → Prop where
  | same (e : Except Stop α) : EndsAlike e e
  | invalid (path path' reason : Text) :
      EndsAlike (.error (.failed (.baselineInvalid path reason))) (.error (.failed (.baselineInvalid path' reason)))

theorem EndsAlike.eq_ok {α : Type} {e e' : Except Stop α} {a : α} (h : EndsAlike e e') (he : e = .ok a) : e' = .ok a := by
  cases h with
  | same => exact he
  | invalid => cases he

theorem EndsAlike.exists_error {α : Type} {e e' : Except Stop α} {stop : Stop} (h : EndsAlike e e') (he : e = .error stop) :
    ∃ stop', e' = .error stop' ∧ ∀ β, EndsAlike (.error stop : Except Stop β) (.error stop') := by
  cases h with
  | same => exact ⟨stop, he, fun _ => .same _⟩
  | invalid path path' reason =>
    cases he
    exact ⟨_, rfl, fun _ => .invalid path path' reason⟩

/-- What is read under two paths gives the same baseline, if any. -/
theorem endsAlike_baselineReply (path path' : Path) (read : Except PathFault (List UInt8)) :
    EndsAlike (baselineReply path read) (baselineReply path' read) := by
  unfold baselineReply baselineOfRead
  split
  · exact .invalid ..
  · exact .same _
  · split
    · exact .invalid ..
    · unfold baselineOfText
      split
      · exact .invalid ..
      · exact .same _
      · exact .same _
      · split
        · exact .invalid ..
        · exact .same _
      · exact .invalid ..

namespace Simulator

open Workshop (Watched)

variable {tool : LintTool} {place : ScratchPlace} {s : Simulator} {rule : Text} {workspace : Path} {isOptin : Bool}
  {t₀ : FileTree} {u u' v : Workshop} {shown shown' : List Sight} {events : List ServiceEvent}
  {e : Except Stop SimulationResult}

/-- With a baseline, the works of a simulation are those of linting, or there are none. -/
theorem works_of_runs_simulateOn {σ : Type} {w : World ServiceAct ServiceAct.Reply σ} {q q' : σ} {b : Document}
    (h : Job.Runs w (s.simulateOn rule workspace isOptin b) q events e q') :
    worksOf events = [] ∨ ∃ d e', s.Lints workspace d (worksOf events) e' := by
  have hcourse : s.Course rule workspace none isOptin _ e := course_of_runs_simulateOn h
  generalize hworks : (⟨.errand (.readBaseline none), .ok b⟩ : ServiceEvent) :: worksOf events = works at hcourse
  cases hcourse with
  | rejected stop => cases hworks
  | unlisted b' fails => exact .inl (List.cons.inj hworks).2
  | unreported b' enables lints => exact .inr ⟨_, _, (List.cons.inj hworks).2 ▸ lints⟩
  | unreadable b' enables lints fails => exact .inr ⟨_, _, (List.cons.inj hworks).2 ▸ lints⟩
  | reported b' enables lints reads named => exact .inr ⟨_, _, (List.cons.inj hworks).2 ▸ lints⟩

/-- With a baseline, a simulation can go the same way on every machine that differs by scratch directories only. -/
theorem exists_runs_simulateOn {b : Document} (hname : IsInner s.configFileName) (hu : u.Frames place t₀)
    (hv : v.Frames place t₀)
    (h : Job.Runs (Watched tool place) (s.simulateOn rule workspace isOptin b) (u, shown) events e (u', shown'))
    (hapart : ∀ loc ∈ u'.made, loc ∉ u.made → loc ∉ v.made) :
    ∃ v', Job.Runs (Watched tool place) (s.simulateOn rule workspace isOptin b) (v, shown) events e (v', shown') := by
  have hsteps := Workshop.steps_watched_iff.mp h.steps
  obtain ⟨v', hsteps'⟩ : ∃ v', (Watched tool place).Steps (v, shown) (worksOf events) (v', shown') := by
    rcases works_of_runs_simulateOn h with hnone | ⟨d, e', hlints⟩
    · rw [hnone] at hsteps ⊢
      cases hsteps
      exact ⟨v, .nil _⟩
    · exact Workshop.exists_steps_of_lints hlints hname hu hv hsteps hapart
  exact ⟨v', h.of_steps (Workshop.steps_watched_iff.mpr hsteps')⟩

/-- Where the files of two baselines hold the same, simulations on top of them can go the same way: they read alike, and
everything behind that is the same. -/
theorem exists_runs_simulateRule (hname : IsInner s.configFileName) (hu : u.Frames place t₀) (hv : v.Frames place t₀)
    {path path' : Path} {body : List UInt8} (hfile : u.host.files.readBytes path = .ok body)
    (hfile' : v.host.files.readBytes path' = .ok body)
    (h : Job.Runs (Watched tool place) (s.simulateRule rule workspace (some path) isOptin) (u, shown) events e (u', shown'))
    (hapart : ∀ loc ∈ u'.made, loc ∉ u.made → loc ∉ v.made) :
    ∃ read read' rest e' v', events = ⟨.errand (.readBaseline (some path)), read⟩ :: rest ∧
      Job.Runs (Watched tool place) (s.simulateRule rule workspace (some path') isOptin) (v, shown)
        (⟨.errand (.readBaseline (some path')), read'⟩ :: rest) e' (v', shown') ∧
      EndsAlike read read' ∧ EndsAlike e e' := by
  obtain ⟨read, ⟨u₁, shown₁⟩, rest, ⟨answers, hshown⟩, rfl, hrest⟩ := Job.runs_reply_bind_iff.mp h
  obtain ⟨rfl, content, hcontent, rfl⟩ := Workshop.answers_readBaseline_iff.mp answers
  rw [show shown₁ = shown from hshown.trans (List.append_nil _)] at hrest
  have hread : Watched tool place (.errand (.readBaseline (some path'))) (v, shown) (baselineReply path' content)
      (v, shown) := by
    refine ⟨Workshop.answers_readBaseline_iff.mpr ⟨rfl, content, ?_, rfl⟩, (List.append_nil _).symm⟩
    rwa [hfile', ← hfile]
  have halike := endsAlike_baselineReply path path' content
  rcases hrest with ⟨b, hb, hrest⟩ | ⟨stop, hstop, rfl, rfl, hend⟩
  · obtain ⟨v', hrest'⟩ := exists_runs_simulateOn hname hu hv hrest hapart
    have hb' := halike.eq_ok hb
    exact ⟨_, _, rest, e, v', rfl, Job.runs_reply_bind_iff.mpr ⟨_, _, rest, hread, rfl, .inl ⟨b, hb', hrest'⟩⟩, halike,
      .same e⟩
  · cases hend
    obtain ⟨stop', hstop', hends⟩ := halike.exists_error hstop
    exact ⟨_, _, [], .error stop', v, rfl,
      Job.runs_reply_bind_iff.mpr ⟨_, _, [], hread, rfl, .inr ⟨stop', hstop', rfl, rfl, rfl⟩⟩, halike, hends _⟩

/-- If the lint tool always gives the same reply on the same things, simulations on top of one file return the same, apart
from how long they took. -/
theorem eq_of_runs_simulateRule_ok (hname : IsInner s.configFileName)
    (htool : ∀ workspace around content reply reply', tool workspace around content reply →
      tool workspace around content reply' → reply = reply') {base : Option Path} {events' : List ServiceEvent}
    {result result' : SimulationResult} {shown₁ shown₂ : List Sight} {u₂ : Workshop}
    (h : Job.Runs (Watched tool place) (s.simulateRule rule workspace base isOptin) (u, shown) events (.ok result)
      (u', shown₁))
    (h' : Job.Runs (Watched tool place) (s.simulateRule rule workspace base isOptin) (u, shown) events' (.ok result')
      (u₂, shown₂)) (hu : u.Frames place t₀) : result' = { result with duration := result'.duration } := by
  have halone : ∀ {events e w shown'}, Job.Runs (Watched tool place) (s.simulateRule rule workspace base isOptin) (u, shown)
      events e (w, shown') → RunningCall.Alone tool place s ⟨rule, workspace, base, isOptin⟩ u
        (w, ⟨events, .goes (.done e), []⟩) :=
    fun hrun => RunningCall.passes_of_reaches (hrun.of_steps (Workshop.steps_of_watched hrun.steps)).reaches [] []
  obtain ⟨-, hsound, htold, -, hreads⟩ := (halone h).sound hname hu
  obtain ⟨-, hsound', htold', -, hreads'⟩ := (halone h').sound hname hu
  exact RunningCall.eq_of_results htool hsound htold rfl hsound' htold' rfl
    fun b b' hb hb' => Except.ok.inj ((hreads b hb).symm.trans (hreads' b' hb'))

/-! ### What has been fetched -/

variable {url text : Text} {directory : Path} {q q' : Workshop × List Sight} {fetched : List ServiceEvent}

/-- The works with which a fetched configuration becomes a file. -/
def planting (s : Simulator) (directory : Path) (text : Text) : List ServiceEvent :=
  [⟨.makeScratch s.settings.scratchPrefix, .ok directory⟩, ⟨.errand (.writeText (s.configIn directory) text), .ok ()⟩]

/-- Once a configuration has been fetched and written, the simulation on top of it is one on top of this file. -/
theorem runs_simulateRemote_iff {σ : Type} {net : World ServiceAct ServiceAct.Reply σ} {r r' : σ}
    (hfetch : Job.Runs net (Remote.fetchConfig s.remote s.threshold url) r fetched (.ok text) r') :
    Job.Runs (Watched tool place) (s.simulateRemote rule workspace url isOptin) q
        (fetched ++ (s.planting directory text ++ events)) e q' ↔
      ∃ q₁ q₂ events', (Watched tool place).Steps q (s.planting directory text) q₁ ∧
        Job.Runs (Watched tool place) (s.simulateRule rule workspace (some (s.configIn directory)) isOptin) q₁ events' e q₂ ∧
        Watched tool place (.removeTree directory) q₂ () q' ∧ events = events' ++ [⟨.removeTree directory, ()⟩] := by
  have hidle := (Remote.onlyAsks_fetchConfig s.remote s.threshold url).worksOf_eq_nil hfetch
  constructor
  · intro h
    rcases Job.runs_bind_iff.mp h with ⟨text', q₁, events₁, events₂, hfetch', hrest, heq⟩ | ⟨stop, hfetch', -⟩
    · obtain ⟨⟨⟩, rfl⟩ := hfetch.end_unique hfetch' heq
      have hsteps := Workshop.steps_watched_iff.mp hfetch'.steps
      rw [(Remote.onlyAsks_fetchConfig ..).worksOf_eq_nil hfetch'] at hsteps
      obtain rfl := Workshop.steps_watched_nil_iff.mp hsteps
      rcases runs_inScratch_iff.mp hrest with ⟨f, -, ⟨⟩, -⟩ | ⟨directory', q₂, q₃, events₃, hmake, hjob, hremove, hevents⟩
      obtain ⟨written, q₄, events₄, hwrite, rfl, hsimulate⟩ := Job.runs_reply_bind_iff.mp hjob
      cases hevents
      rcases hsimulate with ⟨-, -, hsimulate⟩ | ⟨stop, ⟨⟩, -⟩
      exact ⟨q₄, q₃, events₄, .cons hmake (.cons hwrite (.nil _)), hsimulate, hremove, rfl⟩
    · cases (hfetch.end_unique hfetch' (List.append_nil _).symm).1
  · rintro ⟨q₂, q₃, events', _ | ⟨hmake, _ | ⟨hwrite, ⟨⟩⟩⟩, hsimulate, hremove, rfl⟩
    have hsteps : (Watched tool place).Steps q fetched q := by
      rw [Workshop.steps_watched_iff, hidle]
      exact .nil q
    refine Job.runs_bind_iff.mpr (.inl ⟨text, q, fetched, _, hfetch.of_steps hsteps, ?_, rfl⟩)
    refine runs_inScratch_iff.mpr (.inr ⟨directory, _, q₃,
      ⟨.errand (.writeText (s.configIn directory) text), .ok ()⟩ :: events', hmake, ?_, hremove, rfl⟩)
    exact Job.runs_reply_bind_iff.mpr ⟨_, q₂, events', hwrite, rfl, .inl ⟨(), rfl, hsimulate⟩⟩

/-- A simulation on top of what was fetched from a URL and one on top of a file go the same way on a machine. -/
structure GoesLikeFile (tool : LintTool) (place : ScratchPlace) (s : Simulator) (host : Host) (rule : Text)
    (workspace : Path) (isOptin : Bool) (url : Text) (fetched : List ServiceEvent) (text : Text) (path : Path) : Prop where
  /-- Whatever the first one meets when its configuration has been written, the second one can meet: it reads its baseline
  alike, gets the same replies from then on, and ends alike, and the lint tool is shown the same. -/
  ofUrl : ∀ directory events e w shown, Job.Runs (Watched tool place) (s.simulateRemote rule workspace url isOptin)
      ({ host }, []) (fetched ++ (s.planting directory text ++ events)) e (w, shown) →
    ∃ read read' rest e' w',
      events = ⟨.errand (.readBaseline (some (s.configIn directory))), read⟩ :: rest ++ [⟨.removeTree directory, ()⟩] ∧
      Job.Runs (Watched tool place) (s.simulateRule rule workspace (some path) isOptin) ({ host }, [])
        (⟨.errand (.readBaseline (some path)), read'⟩ :: rest) e' (w', shown) ∧
      EndsAlike read read' ∧ EndsAlike e e'
  /-- Whatever the second one meets the first one can meet, in each directory of its own that can hold its configuration. -/
  ofFile : ∀ events e w shown, Job.Runs (Watched tool place) (s.simulateRule rule workspace (some path) isOptin)
      ({ host }, []) events e (w, shown) →
    ∀ directory v, (Watched tool place).Steps ({ host }, []) (s.planting directory text) (v, []) →
      v.made.Disjoint w.made →
    ∃ read read' rest e' w', events = ⟨.errand (.readBaseline (some path)), read⟩ :: rest ∧
      Job.Runs (Watched tool place) (s.simulateRemote rule workspace url isOptin) ({ host }, [])
        (fetched ++ (s.planting directory text ++
          (⟨.errand (.readBaseline (some (s.configIn directory))), read'⟩ :: rest ++ [⟨.removeTree directory, ()⟩])))
        e' (w', shown) ∧
      EndsAlike read read' ∧ EndsAlike e e'
  /-- If the lint tool always gives the same reply on the same things, and both return a result, it is the same, apart from
  how long it took. -/
  decided : (∀ workspace around content reply reply', tool workspace around content reply →
      tool workspace around content reply' → reply = reply') →
    ∀ directory events result w shown events' result' w' shown',
      Job.Runs (Watched tool place) (s.simulateRemote rule workspace url isOptin) ({ host }, [])
        (fetched ++ (s.planting directory text ++ events)) (.ok result) (w, shown) →
      Job.Runs (Watched tool place) (s.simulateRule rule workspace (some path) isOptin) ({ host }, [])
        events' (.ok result') (w', shown') →
      result' = { result with duration := result'.duration }

/-- Where a fetched configuration has been written, its file holds the bytes of the text, and nothing else has changed. -/
theorem frames_of_steps_planting (hname : IsInner s.configFileName) {host : Host} {v : Workshop} {shown : List Sight}
    {body : List UInt8} (hbody : Text.encode text = .ok body)
    (h : (Watched tool place).Steps ({ host }, []) (s.planting directory text) (v, shown)) :
    ∃ name : Text, name ≠ ".." ∧ directory = place.child name ∧ v.Frames place host.files ∧
      v.host.files.readBytes (s.configIn directory) = .ok body ∧ shown = [] := by
  obtain ⟨v₁, hmake, h⟩ := Workshop.steps_watched_cons_iff.mp h
  obtain ⟨v₂, hwrite, hend⟩ := Workshop.steps_watched_cons_iff.mp h
  cases hend
  have hframes := Workshop.frames_start place host
  obtain ⟨name, loc, hdots, ⟨⟩, hlocate, hfree, hnew, rfl⟩ | ⟨⟨_, ⟨⟩⟩, -⟩ := hmake.serves nofun
  obtain ⟨written, host', hwrite, hreply, rfl⟩ := Workshop.answers_writeText_iff.mp hwrite
  cases written with
  | error fault => cases hreply
  | ok =>
    have hstands := (hframes.stands_put hdots hlocate hfree hnew).of_answers_write hname hwrite
    exact ⟨name, hdots, rfl, hstands.frames, Workshop.readBytes_of_answers_write hbody hwrite, rfl⟩

section

variable {σ : Type} {net : World ServiceAct ServiceAct.Reply σ} {r r' : σ} {host : Host} {path : Path} {body : List UInt8}
  {w : Workshop}

/-- What a simulation on top of a fetched configuration meets one on top of a file with the same bytes can meet. -/
theorem exists_runs_of_simulateRemote (hname : IsInner s.configFileName)
    (hfetch : Job.Runs net (Remote.fetchConfig s.remote s.threshold url) r fetched (.ok text) r')
    (hbody : Text.encode text = .ok body) (hfile : host.files.readBytes path = .ok body)
    (h : Job.Runs (Watched tool place) (s.simulateRemote rule workspace url isOptin) ({ host }, [])
      (fetched ++ (s.planting directory text ++ events)) e (w, shown)) :
    ∃ read read' rest e' w',
      events = ⟨.errand (.readBaseline (some (s.configIn directory))), read⟩ :: rest ++ [⟨.removeTree directory, ()⟩] ∧
      Job.Runs (Watched tool place) (s.simulateRule rule workspace (some path) isOptin) ({ host }, [])
        (⟨.errand (.readBaseline (some path)), read'⟩ :: rest) e' (w', shown) ∧
      EndsAlike read read' ∧ EndsAlike e e' := by
  obtain ⟨⟨v, shown₀⟩, ⟨w₁, shown₁⟩, events', hsteps, hrun, ⟨hremove, hshown⟩, rfl⟩ := (runs_simulateRemote_iff hfetch).mp h
  obtain ⟨name, -, -, hframes, hread, rfl⟩ := frames_of_steps_planting hname hbody hsteps
  obtain ⟨read, read', rest, e', w', rfl, hrun', hreads, hends⟩ :=
    exists_runs_simulateRule hname hframes (Workshop.frames_start place host) hread hfile hrun
      fun _ _ _ => List.not_mem_nil
  have hsame : shown = shown₁ := hshown.trans (List.append_nil _)
  exact ⟨read, read', rest, e', w', rfl, hsame ▸ hrun', hreads, hends⟩

/-- What a simulation on top of a file meets one on top of a fetched configuration with the same bytes can meet. -/
theorem exists_runs_simulateRemote (hname : IsInner s.configFileName)
    (hfetch : Job.Runs net (Remote.fetchConfig s.remote s.threshold url) r fetched (.ok text) r')
    (hbody : Text.encode text = .ok body) (hfile : host.files.readBytes path = .ok body)
    (h : Job.Runs (Watched tool place) (s.simulateRule rule workspace (some path) isOptin) ({ host }, []) events e (w, shown))
    {v : Workshop} (hsteps : (Watched tool place).Steps ({ host }, []) (s.planting directory text) (v, []))
    (happart : v.made.Disjoint w.made) :
    ∃ read read' rest e' w', events = ⟨.errand (.readBaseline (some path)), read⟩ :: rest ∧
      Job.Runs (Watched tool place) (s.simulateRemote rule workspace url isOptin) ({ host }, [])
        (fetched ++ (s.planting directory text ++
          (⟨.errand (.readBaseline (some (s.configIn directory))), read'⟩ :: rest ++ [⟨.removeTree directory, ()⟩])))
        e' (w', shown) ∧
      EndsAlike read read' ∧ EndsAlike e e' := by
  obtain ⟨name, hdots, rfl, hframes, hread, -⟩ := frames_of_steps_planting hname hbody hsteps
  obtain ⟨read, read', rest, e', w₁, rfl, hrun', hreads, hends⟩ :=
    exists_runs_simulateRule hname (Workshop.frames_start place host) hframes hfile hread h
      fun _ hloc _ hmade => happart hmade hloc
  obtain ⟨w', hremove⟩ := Workshop.exists_answers_removeTree tool place hdots w₁
  refine ⟨read, read', rest, e', w', rfl, ?_, hreads, hends⟩
  exact (runs_simulateRemote_iff hfetch).mpr ⟨_, (w₁, shown), _, hsteps, hrun', ⟨hremove, (List.append_nil _).symm⟩, rfl⟩

/-- Whatever text a fetch returns, it is that of the whole body of a response; and with every lint tool, a simulation on top
of it goes like one on top of a file that holds the bytes of this body, on every machine and for every rule and
workspace. -/
theorem goesLikeFile_of_runs_fetchConfig (hnet : Remote.IsNetwork net) (hname : IsInner s.configFileName)
    (hfetch : Job.Runs net (Remote.fetchConfig s.remote s.threshold url) r fetched (.ok text) r') :
    ∃ body, Remote.IsBody s.remote (receivedOf fetched) body ∧
      ∀ (tool : LintTool) (place : ScratchPlace) (host : Host) (path : Path), host.files.readBytes path = .ok body →
        ∀ rule workspace isOptin, s.GoesLikeFile tool place host rule workspace isOptin url fetched text path := by
  obtain ⟨body, hcomplete, hbody⟩ := Remote.exists_body_of_runs_fetchConfig hnet hfetch
  refine ⟨body, hcomplete, fun tool place host path hfile rule workspace isOptin => ⟨?_, ?_, ?_⟩⟩
  · intro directory events e w shown h
    exact exists_runs_of_simulateRemote hname hfetch hbody hfile h
  · intro events e w shown h directory v hsteps happart
    exact exists_runs_simulateRemote hname hfetch hbody hfile h hsteps happart
  · intro htool directory events result w shown events' result' w' shown' h h'
    obtain ⟨_, _, _, e', w₁, -, hrun, -, hends⟩ := exists_runs_of_simulateRemote hname hfetch hbody hfile h
    cases hends.eq_ok rfl
    exact eq_of_runs_simulateRule_ok hname htool hrun h' (Workshop.frames_start place host)

end

/-- A mapping, on a line that ends in a carriage return and a line feed. -/
def returned : List UInt8 := [97, 58, 32, 49, 13, 10]

/-- A machine with room for scratch directories and a file of the user. -/
def hostWith (content : List UInt8) : Host where
  files := bareHost.files.put [Host.nameBytes "own.yml"] (.file content false)

/-- On such a machine a fetched configuration can be written. -/
theorem exists_steps_planting {body : List UInt8} (hbody : Text.encode text = .ok body) : ∃ v,
    (Watched SideBySide.findsNone SideBySide.barePlace).Steps ({ host := hostWith body }, [])
      (({} : Simulator).planting (SideBySide.barePlace.child (SideBySide.scratchOf true)) text) (v, []) := by
  have hmake : Workshop.Answers SideBySide.findsNone SideBySide.barePlace
      (.makeScratch ({} : Simulator).settings.scratchPrefix) { host := hostWith body }
      (.ok (SideBySide.barePlace.child (SideBySide.scratchOf true)))
      ⟨{ hostWith body with files := (hostWith body).files.put (SideBySide.locationOf true) .directory },
        [SideBySide.locationOf true]⟩ :=
    .other (.inl ⟨_, _, by decide, rfl, rfl, by rintro l ⟨rest, rfl⟩; rfl, List.not_mem_nil, rfl⟩)
  have hwrite : ((hostWith body).files.put (SideBySide.locationOf true) .directory).write (SideBySide.configOf true) body =
      .ok _ :=
    FileTree.write_eq_of_get?_eq_none (l := SideBySide.locationOf true ++ [Host.nameBytes ".swiftlint.yml"]) rfl rfl body
  exact ⟨_, Workshop.steps_watched_cons_iff.mpr ⟨_, hmake,
    Workshop.steps_watched_cons_iff.mpr ⟨_, SideBySide.answers_write hbody hwrite, .nil _⟩⟩⟩

/-- A fetch that returns this mapping, and a file of the user with the bytes of its body. -/
theorem goesLikeFile_returned : Remote.IsNetwork Rehearsal.Telling ∧ IsInner ({} : Simulator).configFileName ∧
    ∃ fetched text r' body, Job.Runs Rehearsal.Telling
        (Remote.fetchConfig ({} : Simulator).remote ({} : Simulator).threshold "https://example.com/c.yml")
        (Remote.answering { status := 200 } [returned]) fetched (.ok text) r' ∧
      (hostWith body).files.readBytes (Path.ofString "/own.yml") = .ok body ∧
      ({} : Simulator).GoesLikeFile SideBySide.findsNone SideBySide.barePlace (hostWith body) "force_cast"
        (Path.ofString "/app") true "https://example.com/c.yml" fetched text (Path.ofString "/own.yml") ∧
      ∃ directory v, (Watched SideBySide.findsNone SideBySide.barePlace).Steps ({ host := hostWith body }, [])
        (({} : Simulator).planting directory text) (v, []) := by
  have hpart : Path.ofString ({} : Simulator).configFileName = ⟨.relative, [".swiftlint.yml"]⟩ := by decide
  have hname := SideBySide.isInner_of_ofString hpart (by decide)
  refine ⟨Rehearsal.isNetwork_telling, hname, ?_⟩
  obtain ⟨fetched, hfetch⟩ := Rehearsal.exists_runs_telling
    (Remote.fetchConfig ({} : Simulator).remote ({} : Simulator).threshold "https://example.com/c.yml")
    (Remote.answering { status := 200 } [returned]) (by decide +kernel)
  have hok : (Rehearsal.run (Remote.fetchConfig ({} : Simulator).remote ({} : Simulator).threshold
      "https://example.com/c.yml") (Remote.answering { status := 200 } [returned])).1.isOk = true := by decide +kernel
  generalize Rehearsal.run (Remote.fetchConfig ({} : Simulator).remote ({} : Simulator).threshold
    "https://example.com/c.yml") (Remote.answering { status := 200 } [returned]) = ended at hfetch hok
  obtain ⟨e | text, r'⟩ := ended
  · cases hok
  · obtain ⟨body, hcomplete, hlike⟩ := goesLikeFile_of_runs_fetchConfig Rehearsal.isNetwork_telling hname hfetch
    obtain ⟨body', hcomplete', hbody⟩ := Remote.exists_body_of_runs_fetchConfig Rehearsal.isNetwork_telling hfetch
    cases hcomplete.unique hcomplete'
    have hfile : (hostWith body).files.readBytes (Path.ofString "/own.yml") = .ok body := rfl
    exact ⟨fetched, text, r', body, hfetch, hfile, hlike _ _ _ _ hfile _ _ _, _, exists_steps_planting hbody⟩

end Simulator

end LintPreview
