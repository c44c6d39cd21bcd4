import LintPreview.Proofs.Simulation.Alone

/-!
# What the lint tool is shown

* `Workshop.Watched`: the replies to a call that nothing comes between, where what the lint tool is shown is noted. What is
  no work changes nothing (`Workshop.steps_watched_iff`).
* `Workshop.Frames.stands_put`, `Workshop.Stands.of_answers_write`: a new scratch directory stands, and still does when its
  configuration has been written.
* `Workshop.exists_steps_of_lints`: what linting gets on one machine it can get on every other one that differs by scratch
  directories only, and the lint tool is shown the same.
-/

namespace LintPreview

open Program (World)
open Simulator (worksOf IsInner)

/-- The reply to reading a baseline, for what reading its file brought. -/
def baselineReply (path : Path) (read : Except PathFault (List UInt8)) : Except Stop Document :=
  ((baselineOfRead path read).mapError BaselineError.toFailure).mapError .failed

/-- What the lint tool is shown: the workspace, and what is found under the path of the configuration. -/
abbrev Sight : Type := Path × Except PathFault (List UInt8)

namespace Workshop

/-- What an act shows to the lint tool. -/
def shows (w : Workshop) : ServiceAct → List Sight
  | .lint workspace config => [(workspace, w.host.files.readBytes config)]
  | _ => []

/-- The replies to a call that nothing comes between, where what is shown to the lint tool is noted. -/
def Watched (tool : LintTool) (place : ScratchPlace) : World ServiceAct ServiceAct.Reply (Workshop × List Sight) :=
  fun act q reply q' => Answers tool place act q.1 reply q'.1 ∧ q'.2 = q.2 ++ q.1.shows act

variable {tool : LintTool} {place : ScratchPlace} {s : Simulator} {t₀ : FileTree} {u u' v w w' : Workshop}
  {q q' : Workshop × List Sight} {shown shown' : List Sight} {events : List ServiceEvent} {act : ServiceAct}
  {name : Text} {loc : Location}

/-- What is no work gets any reply, and changes nothing. -/
theorem answers_iff_of_isIdle (hidle : act.IsIdle) {reply : act.Reply} : Answers tool place act w reply w' ↔ w' = w := by
  constructor
  · intro answers
    cases answers with
    | other serves => exact serves.eq_of_isIdle hidle
    | errand runs => cases hidle
  · rintro rfl
    exact .other (by cases act <;> first | rfl | cases hidle)

theorem watched_iff_of_isIdle (hidle : act.IsIdle) {reply : act.Reply} :
    Watched tool place act q reply q' ↔ q' = q := by
  have hshows : q.1.shows act = [] := by
    cases act <;> first | rfl | cases hidle
  rw [Watched, hshows, List.append_nil, answers_iff_of_isIdle hidle, Prod.ext_iff]

theorem steps_watched_nil_iff : (Watched tool place).Steps q [] q' ↔ q' = q := by
  constructor
  · rintro ⟨⟩
    rfl
  · rintro rfl
    exact .nil _

theorem steps_watched_cons_iff {reply : act.Reply} :
    (Watched tool place).Steps (w, shown) (⟨act, reply⟩ :: events) q' ↔
      ∃ w₁, Answers tool place act w reply w₁ ∧ (Watched tool place).Steps (w₁, shown ++ w.shows act) events q' := by
  constructor
  · rintro (_ | ⟨⟨answers, hshown⟩, goesOn⟩)
    exact ⟨_, answers, hshown ▸ goesOn⟩
  · rintro ⟨w₁, answers, goesOn⟩
    exact .cons ⟨answers, rfl⟩ goesOn

/-- Without the notes, the machine gets from one state to the other by the same events. -/
theorem steps_of_watched (h : (Watched tool place).Steps q events q') : (Answers tool place).Steps q.1 events q'.1 := by
  induction h with
  | nil q => exact .nil q.1
  | cons answers goesOn ih => exact .cons answers.1 ih

/-- What happens to the machine happens to it by works. -/
theorem steps_watched_iff : (Watched tool place).Steps q events q' ↔ (Watched tool place).Steps q (worksOf events) q' := by
  induction events generalizing q with
  | nil => rfl
  | cons event events ih =>
    obtain ⟨act, reply⟩ := event
    by_cases hwork : act.isWork = true
    · rw [Simulator.worksOf_cons_of_isWork hwork]
      constructor
      · rintro (_ | ⟨answers, goesOn⟩)
        exact .cons answers (ih.mp goesOn)
      · rintro (_ | ⟨answers, goesOn⟩)
        exact .cons answers (ih.mpr goesOn)
    · have hidle : act.IsIdle := Bool.eq_false_iff.mpr hwork
      rw [worksOf, List.filter_cons_of_neg (by exact hwork), ← worksOf, ← ih]
      constructor
      · rintro (_ | ⟨answers, goesOn⟩)
        rwa [(watched_iff_of_isIdle hidle).mp answers] at goesOn
      · exact .cons ((watched_iff_of_isIdle hidle).mpr rfl)

/-! ### Single works -/

theorem Answers.serves {reply : act.Reply} (answers : Answers tool place act w reply w') (h : ∀ work, act ≠ .errand work) :
    Serves tool place act w reply w' := by
  cases answers with
  | other serves => exact serves
  | errand runs => exact absurd rfl (h _)

theorem answers_errand_iff {work : Errand} {reply : Except Stop work.Result} :
    Answers tool place (.errand work) w reply w' ↔ ∃ acts result host,
      Program.Runs (Host.Answers true) work.program w.host acts result host ∧ reply = result.mapError .failed ∧
        w' = { w with host } := by
  constructor
  · intro answers
    cases answers with
    | other serves => exact serves.elim
    | errand runs => exact ⟨_, _, _, runs, rfl, rfl⟩
  · rintro ⟨acts, result, host, runs, rfl, rfl⟩
    exact .errand runs

theorem answers_writeText_iff {path : Path} {content : Text} {reply : Except Stop Unit} :
    Answers tool place (.errand (.writeText path content)) w reply w' ↔ ∃ (written : Except PathFault Unit) (host : Host),
      Host.Answers true (.write path content) w.host written host ∧
        reply = (written.mapError Failure.path).mapError .failed ∧ w' = { w with host } := by
  rw [answers_errand_iff]
  constructor
  · rintro ⟨acts, result, host, runs, rfl, rfl⟩
    obtain ⟨written, host', acts', answers, hend, rfl⟩ := Program.runs_ask_iff.mp runs
    obtain ⟨rfl, rfl, rfl⟩ := Program.runs_done_iff.mp hend
    exact ⟨written, host, answers, rfl, rfl⟩
  · rintro ⟨written, host, answers, rfl, rfl⟩
    exact ⟨[⟨.write path content, written⟩], _, host, .ask answers (.done _ _), rfl, rfl⟩

theorem answers_readBaseline_iff {path : Path} {reply : Except Stop Document} :
    Answers tool place (.errand (.readBaseline (some path))) w reply w' ↔ w' = w ∧ ∃ read : Except PathFault (List UInt8),
      (read = w.host.files.readBytes path ∨ ∃ fault, read = .error fault) ∧
        reply = baselineReply path read := by
  rw [answers_errand_iff]
  constructor
  · rintro ⟨acts, result, host, runs, rfl, rfl⟩
    obtain ⟨read, host', acts', ⟨rfl, hread⟩, hend, rfl⟩ := Program.runs_ask_iff.mp runs
    obtain ⟨rfl, rfl, rfl⟩ := Program.runs_done_iff.mp hend
    exact ⟨rfl, read, hread.imp_right And.right, rfl⟩
  · rintro ⟨rfl, read, hread, rfl⟩
    refine ⟨[⟨.read path, read⟩], _, w'.host, .ask ⟨rfl, ?_⟩ (.done _ _), rfl, rfl⟩
    exact hread.imp_right fun hfault => ⟨rfl, hfault⟩

/-- A new scratch directory stands. -/
theorem Frames.stands_put (h : w.Frames place t₀) (hdots : name ≠ "..")
    (hlocate : w.host.files.locate (place.child name) = .ok loc) (hfree : w.host.files.IsFree loc) (hnew : loc ∉ w.made) :
    Stands place t₀ name loc ⟨{ w.host with files := w.host.files.put loc .directory }, loc :: w.made⟩ where
  frames := by
    have hlength := ScratchPlace.length_of_locate hdots hlocate
    refine ⟨h.working, fun l hl => ?_, ?_, ?_⟩
    · rw [List.forall_mem_cons] at hl
      rw [FileTree.get?_put hfree.ne_nil, if_neg]
      · exact h.beyond l hl.2
      · rintro rfl
        exact hl.1 (List.prefix_refl _)
    · exact List.forall_mem_cons.mpr ⟨(h.isFree_iff hlength hnew).mp hfree, h.free⟩
    · exact List.forall_mem_cons.mpr ⟨hlength, h.length⟩
  noDots := hdots
  located := (h.locate_iff hdots).mp hlocate
  made := List.mem_cons_self
  bare := hfree.isBareAt_put

/-- It stands after its configuration has been written, or could not be. -/
theorem Stands.of_answers_write (h : w.Stands place t₀ name loc) (hname : IsInner s.configFileName) {text : Text}
    {reply : Except PathFault Unit} {host : Host}
    (answers : Host.Answers true (.write (s.configIn (place.child name)) text) w.host reply host) :
    Stands place t₀ name loc { w with host } := by
  have hact : DiskAct.OnlyWrites (· = s.configIn (place.child name)) (.write (s.configIn (place.child name)) text) := rfl
  have hwithstands : Stage.Withstands (· = s.configIn (place.child name))
      fun t => Frames place t₀ { w with host := { w.host with files := t } } := by
    rintro t path content t' rfl ht hwrite
    obtain ⟨l, executable, hl, hdirectory, rfl⟩ := FileTree.exists_of_write hwrite
    have hbelow := Simulator.prefix_of_locate_configIn hname ((ht.locate_iff h.noDots).mpr h.located) hl
    refine ⟨ht.working, fun l' hl' => ?_, ht.free, ht.length⟩
    rw [FileTree.get?_put (FileTree.ne_nil_of_get? hdirectory), if_neg]
    · exact ht.beyond l' hl'
    · rintro rfl
      exact hl' loc h.made hbelow
  have hframes := hwithstands.files_of_answers hact answers h.frames
  exact ⟨⟨hframes.working, hframes.beyond, hframes.free, hframes.length⟩, h.noDots, h.located, h.made,
    (RunningCall.withstands_isBareAt _ loc).files_of_answers hact answers h.bare⟩

/-- A text that has been written is found. -/
theorem readBytes_of_answers_write {path : Path} {text : Text} {bytes : List UInt8} {host host' : Host}
    (hbytes : Text.encode text = .ok bytes) (answers : Host.Answers true (.write path text) host (.ok ()) host') :
    host'.files.readBytes path = .ok bytes := by
  obtain ⟨bytes', hbytes', hwrite⟩ := Host.exists_of_answers_write answers
  cases hbytes.symm.trans hbytes'
  exact FileTree.readBytes_of_write hwrite

/-! ### The works of linting -/

/-- A scratch directory that is made on one machine can be made on another one, if it has not been made there. -/
theorem exists_answers_make (hu : u.Frames place t₀) (hv : v.Frames place t₀) {label : Text} {directory : Path}
    (answers : Answers tool place (.makeScratch label) u (.ok directory) u')
    (hapart : ∀ loc ∈ u'.made, loc ∉ u.made → loc ∉ v.made) :
    ∃ name loc v', directory = place.child name ∧ Answers tool place (.makeScratch label) v (.ok directory) v' ∧
      u'.Stands place t₀ name loc ∧ v'.Stands place t₀ name loc := by
  rcases answers.serves nofun with ⟨name, loc, hdots, ⟨⟩, hlocate, hfree, hnew, rfl⟩ | ⟨⟨_, ⟨⟩⟩, -⟩
  have hnew' : loc ∉ v.made := hapart loc List.mem_cons_self hnew
  have hlength := ScratchPlace.length_of_locate hdots hlocate
  have hlocate' := (hv.locate_iff hdots).mpr ((hu.locate_iff hdots).mp hlocate)
  have hfree' := (hv.isFree_iff hlength hnew').mpr ((hu.isFree_iff hlength hnew).mp hfree)
  exact ⟨name, loc, _, rfl, .other (.inl ⟨name, loc, hdots, rfl, hlocate', hfree', hnew', rfl⟩),
    hu.stands_put hdots hlocate hfree hnew, hv.stands_put hdots hlocate' hfree' hnew'⟩

/-- A configuration can be written where it can be on another machine on which the scratch directory stands. What is found
then is the same. -/
theorem Stands.exists_answers_writeText (hu : u.Stands place t₀ name loc) (hv : v.Stands place t₀ name loc)
    (hname : IsInner s.configFileName) {text : Text} {reply : Except Stop Unit}
    (answers : Answers tool place (.errand (.writeText (s.configIn (place.child name)) text)) u reply u') :
    ∃ v', Answers tool place (.errand (.writeText (s.configIn (place.child name)) text)) v reply v' ∧
      u'.Stands place t₀ name loc ∧ v'.Stands place t₀ name loc ∧
      (reply = .ok () → v'.host.files.readBytes (s.configIn (place.child name)) =
        u'.host.files.readBytes (s.configIn (place.child name))) := by
  obtain ⟨written, host, hwrite, rfl, rfl⟩ := answers_writeText_iff.mp answers
  obtain ⟨host', hwrite'⟩ := hu.exists_answers_write hv hname hwrite
  refine ⟨_, answers_writeText_iff.mpr ⟨written, host', hwrite', rfl, rfl⟩, hu.of_answers_write hname hwrite,
    hv.of_answers_write hname hwrite', fun hok => ?_⟩
  cases written with
  | error fault => cases hok
  | ok =>
    obtain ⟨bytes, hbytes, hfile⟩ := Host.exists_of_answers_write hwrite
    rw [readBytes_of_answers_write hbytes hwrite, readBytes_of_answers_write hbytes hwrite']

/-- The lint tool can reply the same where it is shown the same. -/
theorem Stands.answers_lint (hu : u.Stands place t₀ name loc) (hv : v.Stands place t₀ name loc) {workspace config : Path}
    (hsame : v.host.files.readBytes config = u.host.files.readBytes config) {reply : Except Stop Text}
    (answers : Answers tool place (.lint workspace config) u reply u') :
    Answers tool place (.lint workspace config) v reply v ∧ u' = u := by
  obtain ⟨hreply, rfl⟩ := answers.serves nofun
  refine ⟨.other ⟨?_, rfl⟩, rfl⟩
  rw [hv.frames.around_eq, hsame, ← hu.frames.around_eq]
  exact hreply

/-- A scratch directory can be removed. -/
theorem exists_answers_removeTree (tool : LintTool) (place : ScratchPlace) (hdots : name ≠ "..") (w : Workshop) :
    ∃ w', Answers tool place (.removeTree (place.child name)) w () w' := by
  refine ⟨_, .other ⟨_, w.host.clears_removeTree _ fun hroot => ?_, rfl⟩⟩
  cases ScratchPlace.length_of_locate hdots hroot

theorem Answers.made_errand {work : Errand} {reply : Except Stop work.Result}
    (h : Answers tool place (.errand work) w reply w') : w'.made = w.made := by
  obtain ⟨acts, result, host, -, -, rfl⟩ := answers_errand_iff.mp h
  rfl

theorem Answers.made_removeTree {path : Path} (h : Answers tool place (.removeTree path) w () w') : w'.made = w.made := by
  obtain ⟨files, -, rfl⟩ := h.serves nofun
  rfl

/-- The works of linting can be done on every machine that differs by scratch directories only, with the same replies. The
lint tool is shown the same. -/
theorem exists_steps_of_lints {workspace : Path} {d : Document} {works : List ServiceEvent} {e : Except Stop Text}
    (hlints : s.Lints workspace d works e) (hname : IsInner s.configFileName) (hu : u.Frames place t₀)
    (hv : v.Frames place t₀) (h : (Watched tool place).Steps (u, shown) works q')
    (hapart : ∀ loc ∈ q'.1.made, loc ∉ u.made → loc ∉ v.made) :
    ∃ v', (Watched tool place).Steps (v, shown) works (v', q'.2) := by
  cases hlints with
  | unmade f =>
    obtain ⟨u₁, -, hend⟩ := steps_watched_cons_iff.mp h
    cases hend
    exact ⟨v, steps_watched_cons_iff.mpr ⟨v, .other (.inr ⟨⟨f, rfl⟩, rfl⟩), .nil _⟩⟩
  | undumped directory lost =>
    obtain ⟨u₁, hmake, h⟩ := steps_watched_cons_iff.mp h
    obtain ⟨u₂, hremove, hend⟩ := steps_watched_cons_iff.mp h
    cases hend
    rw [hremove.made_removeTree] at hapart
    obtain ⟨name, loc, v₁, rfl, hmake', hu₁, -⟩ := exists_answers_make hu hv hmake hapart
    obtain ⟨v₂, hremove'⟩ := exists_answers_removeTree tool place hu₁.noDots v₁
    refine ⟨v₂, steps_watched_cons_iff.mpr ⟨v₁, hmake', ?_⟩⟩
    exact steps_watched_cons_iff.mpr ⟨v₂, hremove', .nil _⟩
  | unwritten directory stop whole =>
    obtain ⟨u₁, hmake, h⟩ := steps_watched_cons_iff.mp h
    obtain ⟨u₂, hwrite, h⟩ := steps_watched_cons_iff.mp h
    obtain ⟨u₃, hremove, hend⟩ := steps_watched_cons_iff.mp h
    cases hend
    rw [hremove.made_removeTree, hwrite.made_errand] at hapart
    obtain ⟨name, loc, v₁, rfl, hmake', hu₁, hv₁⟩ := exists_answers_make hu hv hmake hapart
    obtain ⟨v₂, hwrite', -⟩ := hu₁.exists_answers_writeText hv₁ hname hwrite
    obtain ⟨v₃, hremove'⟩ := exists_answers_removeTree tool place hu₁.noDots v₂
    refine ⟨v₃, steps_watched_cons_iff.mpr ⟨v₁, hmake', ?_⟩⟩
    refine steps_watched_cons_iff.mpr ⟨v₂, hwrite', ?_⟩
    exact steps_watched_cons_iff.mpr ⟨v₃, hremove', .nil _⟩
  | called directory reply whole =>
    obtain ⟨u₁, hmake, h⟩ := steps_watched_cons_iff.mp h
    obtain ⟨u₂, hwrite, h⟩ := steps_watched_cons_iff.mp h
    obtain ⟨u₃, hlint, h⟩ := steps_watched_cons_iff.mp h
    obtain ⟨u₄, hremove, hend⟩ := steps_watched_cons_iff.mp h
    cases hend
    rw [hremove.made_removeTree, (hlint.serves nofun).2, hwrite.made_errand] at hapart
    obtain ⟨name, loc, v₁, rfl, hmake', hu₁, hv₁⟩ := exists_answers_make hu hv hmake hapart
    obtain ⟨v₂, hwrite', hu₂, hv₂, hsame⟩ := hu₁.exists_answers_writeText hv₁ hname hwrite
    obtain ⟨hlint', rfl⟩ := hu₂.answers_lint hv₂ (hsame rfl) hlint
    obtain ⟨v₄, hremove'⟩ := exists_answers_removeTree tool place hu₁.noDots v₂
    refine ⟨v₄, steps_watched_cons_iff.mpr ⟨v₁, hmake', ?_⟩⟩
    refine steps_watched_cons_iff.mpr ⟨v₂, hwrite', ?_⟩
    refine steps_watched_cons_iff.mpr ⟨v₂, hlint', ?_⟩
    refine steps_watched_cons_iff.mpr ⟨v₄, hremove', ?_⟩
    have hshows : v₂.shows (.lint workspace (s.configIn (place.child name))) =
        u₃.shows (.lint workspace (s.configIn (place.child name))) :=
      congrArg (fun content => [(workspace, content)]) (hsame rfl)
    rw [hshows]
    exact .nil _

end Workshop

end LintPreview
