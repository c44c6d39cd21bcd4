import LintPreview.Proofs.Json.Sound
import LintPreview.Proofs.Run.Surroundings
import LintPreview.Proofs.Simulation.Course

/-!
# How logged operations go

* `LogRecord.reservedKey?`: the first key of a context that no record can have. Collecting a context and putting the
  latency and the error into it leave this key as it is, so the two records of an operation have it in common.
* `Job.runs_emit_bind_of_clash`, `Job.runs_emit_bind_of_free`: what logging one record does.
* `Job.LoggedRun`: the three ways in which a logged operation can go. It goes in no others (`Job.loggedRun_of_runs`), and
  in each of them (`Job.LoggedRun.runs`).
* `Job.IsTransparent`: a job around another one that has its runs and its ends. `Job.isTransparent_loggedAbout_iff` says
  when a logged operation is transparent, and how each of its runs goes.
-/

namespace LintPreview

open Program (World)

/-! ### Keys that no record can have -/

namespace LogRecord

variable {key : Text} {v : Json} {es : List (Text × Json)}

/-- The first key of a context that is a name of the record itself. -/
def reservedKey? (context : List (Text × Json)) : Option Text := (context.map (·.1)).find? reservedKeys.contains

theorem reservedKey?_eq_none_iff : reservedKey? es = none ↔ ∀ key ∈ es.map (·.1), key ∉ reservedKeys := by
  simp only [reservedKey?, List.find?_eq_none, List.contains_iff_mem]

theorem reservedKey?_append (es es' : List (Text × Json)) :
    reservedKey? (es ++ es') = (reservedKey? es).or (reservedKey? es') := by
  rw [reservedKey?, List.map_append, List.find?_append]
  rfl

/-- A key that is already there is found where it was. -/
theorem reservedKey?_putEntry (key : Text) (v : Json) (es : List (Text × Json)) :
    reservedKey? (putEntry key v es) = reservedKey? (es ++ [(key, v)]) := by
  rw [reservedKey?, map_fst_putEntry, reservedKey?, List.map_append]
  split
  case isTrue hmem =>
    rw [List.find?_append]
    cases hfound : (es.map (·.1)).find? reservedKeys.contains with
    | some found => rfl
    | none =>
      have hfree : ¬ reservedKeys.contains key = true := List.find?_eq_none.mp hfound key hmem
      simp only [List.map_cons, List.map_nil, Option.none_or, List.find?_cons, hfree, List.find?_nil]
  case isFalse => rfl

theorem reservedKey?_putEntry_of_free (h : reservedKeys.contains key = false) :
    reservedKey? (putEntry key v es) = reservedKey? es := by
  have hkey : reservedKey? [(key, v)] = none := by
    simp only [reservedKey?, List.map_cons, List.map_nil, List.find?_cons, h, List.find?_nil]
  rw [reservedKey?_putEntry, reservedKey?_append, hkey, Option.or_none]

theorem reservedKey?_collectEntries (es : List (Text × Json)) : reservedKey? (collectEntries es) = reservedKey? es := by
  have hfold : ∀ acc, reservedKey? (es.foldl (fun acc e => putEntry e.1 e.2 acc) acc) = reservedKey? (acc ++ es) := by
    induction es with
    | nil =>
      intro acc
      rw [List.append_nil]
      rfl
    | cons e es ih =>
      intro acc
      rw [List.foldl_cons, ih, reservedKey?_append, reservedKey?_putEntry, ← reservedKey?_append, List.append_assoc]
      rfl
  exact hfold []

end LogRecord

namespace Job

variable {α σ : Type} {w : World ServiceAct ServiceAct.Reply σ} {q q' : σ} {events : List ServiceEvent}
  {limit : Int} {operation : Text} {entries : List (Text × Json)} {job : Job α} {e : Except Stop α}

/-! ### The records of an operation -/

/-- The record of an operation's start. -/
def startRecord (operation : Text) (entries : List (Text × Json)) : LogRecord :=
  ⟨.info, "🚀 Starting " ++ operation, collectEntries (("operation", .text operation) :: entries), false⟩

/-- The record of an operation's end with its latency. -/
def stopRecord (operation : Text) (entries : List (Text × Json)) (took : Nat) (e : Except Stop α) : LogRecord :=
  withLatency took (endRecord operation (collectEntries (("operation", .text operation) :: entries)) took e)

/-- The level at which an end is logged. -/
def endLevel : Except Stop α → LogLevel
  | .ok _ => .info
  | .error (.failed _) => .error
  | .error .cancelled => .warning

theorem rank_info_le_endLevel (e : Except Stop α) : LogLevel.info.rank ≤ (endLevel e).rank := by
  rcases e with (f | _) | a <;> simp [endLevel, LogLevel.rank]

theorem endLevel_le_rank_error (e : Except Stop α) : (endLevel e).rank ≤ LogLevel.error.rank := by
  rcases e with (f | _) | a <;> simp [endLevel, LogLevel.rank]

theorem level_stopRecord (took : Nat) (e : Except Stop α) :
    (stopRecord operation entries took e).level = endLevel e := by
  rcases e with (f | _) | a <;> rfl

theorem reservedKey?_named (operation : Text) (entries : List (Text × Json)) :
    LogRecord.reservedKey? (collectEntries (("operation", .text operation) :: entries)) =
      LogRecord.reservedKey? entries := by
  have hname : LogRecord.reservedKey? [("operation", .text operation)] = none :=
    (by decide : (["operation"] : List Text).find? LogRecord.reservedKeys.contains = none)
  rw [LogRecord.reservedKey?_collectEntries, ← List.singleton_append, LogRecord.reservedKey?_append, hname,
    Option.none_or]

theorem clash?_startRecord (operation : Text) (entries : List (Text × Json)) :
    (startRecord operation entries).clash? = LogRecord.reservedKey? entries :=
  reservedKey?_named operation entries

/-- The latency and the error come under keys that are not reserved. -/
theorem clash?_stopRecord (took : Nat) (e : Except Stop α) :
    (stopRecord operation entries took e).clash? = LogRecord.reservedKey? entries := by
  have hlatency : ∀ context, LogRecord.reservedKey? (putEntry "latency_ms" (.int took) context) =
      LogRecord.reservedKey? context := fun _ => LogRecord.reservedKey?_putEntry_of_free (by decide)
  have herror : ∀ (f : Failure) context, LogRecord.reservedKey? (putEntry "error" (.text f.message) context) =
      LogRecord.reservedKey? context := fun _ _ => LogRecord.reservedKey?_putEntry_of_free (by decide)
  rcases e with (f | _) | a
  · exact (hlatency _).trans ((herror f _).trans (reservedKey?_named operation entries))
  · exact (hlatency _).trans (reservedKey?_named operation entries)
  · exact (hlatency _).trans (reservedKey?_named operation entries)

/-! ### One record -/

/-- The events of a record: it is written if its level is not below the limit. -/
def noted (limit : Int) (r : LogRecord) : List ServiceEvent :=
  if r.level.rank < limit then [] else [⟨.log r, ()⟩]

theorem isNote_of_mem_noted {r : LogRecord} : ∀ event ∈ noted limit r, event.1.IsNote := by
  intro event hevent
  unfold noted at hevent
  split at hevent
  · cases hevent
  · obtain rfl := List.mem_singleton.mp hevent
    exact .inr ⟨r, rfl⟩

theorem noted_of_lt {r : LogRecord} (h : r.level.rank < limit) : noted limit r = [] := if_pos h

/-- A record that counts and clashes stops the job. -/
theorem runs_emit_bind_of_clash {β : Type} {r : LogRecord} {key : Text} {f : Unit → Job β} {e : Except Stop β}
    (hcounts : limit ≤ r.level.rank) (hclash : r.clash? = some key) : Runs w (emit limit r >>= f) q events e q' ↔
      events = [] ∧ e = .error (.failed (.keyClash key)) ∧ q' = q := by
  have hemit : emit limit r = fail (.keyClash key) := by
    rw [emit, if_neg (by omega), hclash]
  rw [hemit]
  exact runs_fail_iff

/-- Any other record is written if it counts. -/
theorem runs_emit_bind_of_free {β : Type} {r : LogRecord} {f : Unit → Job β} {e : Except Stop β}
    (hfree : r.clash? = none ∨ r.level.rank < limit) : Runs w (emit limit r >>= f) q events e q' ↔
      ∃ q₁ events', w.Steps q (noted limit r) q₁ ∧ Runs w (f ()) q₁ events' e q' ∧ events = noted limit r ++ events' := by
  by_cases hlevel : r.level.rank < limit
  · have hemit : emit limit r = pure () := if_pos hlevel
    rw [hemit, noted_of_lt hlevel]
    constructor
    · intro h
      exact ⟨q, events, .nil q, h, rfl⟩
    · rintro ⟨q₁, events', ⟨⟩, h, rfl⟩
      exact h
  · have hemit : emit limit r = log r := by
      rw [emit, if_neg hlevel, hfree.resolve_right hlevel]
    rw [hemit, noted, if_neg hlevel]
    constructor
    · intro h
      obtain ⟨_, q₁, events', hwrites, hrest, rfl⟩ := (runs_ask_bind_iff (.log r) fun _ => ()).mp h
      exact ⟨q₁, events', .cons hwrites (.nil q₁), hrest, rfl⟩
    · rintro ⟨q₁, events', hsteps, hrest, rfl⟩
      cases hsteps with
      | cons hwrites hnil =>
        cases hnil
        exact (runs_ask_bind_iff (.log r) fun _ => ()).mpr ⟨(), q₁, events', hwrites, hrest, rfl⟩

/-! ### The whole operation -/

/-- How a logged operation can go. -/
inductive LoggedRun (w : World ServiceAct ServiceAct.Reply σ) (limit : Int) (operation : Text)
    (entries : List (Text × Json)) (job : Job α) (q : σ) : List ServiceEvent → Except Stop α → σ → Prop where
  /-- The record of the start cannot be made, and the job is not run. -/
  | unbegun {key : Text} {start : Nat} {q' : σ} (reserved : LogRecord.reservedKey? entries = some key)
      (counts : limit ≤ LogLevel.info.rank) (reads : w .clock q start q') :
      LoggedRun w limit operation entries job q [⟨.clock, start⟩] (.error (.failed (.keyClash key))) q'
  /-- The job is run, but the record of its end cannot be made, which hides that end. -/
  | hidden {key : Text} {start stop : Nat} {q₁ q₂ q' : σ} {events : List ServiceEvent} {e : Except Stop α}
      (reserved : LogRecord.reservedKey? entries = some key) (silent : LogLevel.info.rank < limit)
      (counts : limit ≤ (endLevel e).rank) (opens : w .clock q start q₁) (body : Runs w job q₁ events e q₂)
      (closes : w .clock q₂ stop q') :
      LoggedRun w limit operation entries job q (⟨.clock, start⟩ :: events ++ [⟨.clock, stop⟩])
        (.error (.failed (.keyClash key))) q'
  /-- The job is run, and its end comes out. -/
  | shown {start stop : Nat} {q₁ q₂ q' : σ} {events : List ServiceEvent} {e : Except Stop α}
      (free : LogRecord.reservedKey? entries = none ∨ (endLevel e).rank < limit)
      (opens : w.Steps q (⟨.clock, start⟩ :: noted limit (startRecord operation entries)) q₁)
      (body : Runs w job q₁ events e q₂)
      (closes : w.Steps q₂ (⟨.clock, stop⟩ :: noted limit (stopRecord operation entries (latency start stop) e)) q') :
      LoggedRun w limit operation entries job q
        (⟨.clock, start⟩ :: noted limit (startRecord operation entries) ++ events ++
          ⟨.clock, stop⟩ :: noted limit (stopRecord operation entries (latency start stop) e)) e q'

/-- What is done behind the job, which was begun at a time and has ended. -/
def closing (limit : Int) (operation : Text) (entries : List (Text × Json)) (start : Nat) (e : Except Stop α) : Job α := do
  let stop ← clock
  emit limit (stopRecord operation entries (latency start stop) e)
  ofEnd e

/-- If the record of the job's end can be made, its end is shown. -/
theorem runs_closing_of_free {start : Nat} {e' : Except Stop α}
    (hfree : LogRecord.reservedKey? entries = none ∨ (endLevel e).rank < limit) :
    Runs w (closing limit operation entries start e) q events e' q' ↔
      e' = e ∧ ∃ stop, events = ⟨.clock, stop⟩ :: noted limit (stopRecord operation entries (latency start stop) e) ∧
        w.Steps q events q' := by
  have hrecord : ∀ took, (stopRecord operation entries took e).clash? = none ∨
      ((stopRecord operation entries took e).level.rank : Int) < limit := by
    intro took
    rw [clash?_stopRecord, level_stopRecord]
    exact hfree
  constructor
  · intro h
    obtain ⟨stop, q₁, events₁, hcloses, hrest, rfl⟩ := (runs_ask_bind_iff .clock id).mp h
    obtain ⟨q₂, events₂, hnoted, hend, rfl⟩ := (runs_emit_bind_of_free (hrecord _)).mp hrest
    obtain ⟨rfl, rfl, rfl⟩ := runs_ofEnd_iff.mp hend
    rw [List.append_nil]
    exact ⟨rfl, stop, rfl, .cons hcloses hnoted⟩
  · rintro ⟨rfl, stop, rfl, hsteps⟩
    cases hsteps with
    | cons hcloses hnoted =>
      refine (runs_ask_bind_iff .clock id).mpr ⟨stop, _, _, hcloses, ?_, rfl⟩
      refine (runs_emit_bind_of_free (hrecord _)).mpr ⟨q', [], hnoted, ?_, (List.append_nil _).symm⟩
      exact runs_ofEnd_iff.mpr ⟨rfl, rfl, rfl⟩

/-- If the record of the job's end counts and cannot be made, its end is hidden. -/
theorem runs_closing_of_clash (start : Nat) {key : Text} {e' : Except Stop α} (operation : Text)
    (hreserved : LogRecord.reservedKey? entries = some key) (hcounts : limit ≤ (endLevel e).rank) :
    Runs w (closing limit operation entries start e) q events e' q' ↔
      e' = .error (.failed (.keyClash key)) ∧ ∃ stop, events = [⟨.clock, stop⟩] ∧ w .clock q stop q' := by
  have hclash : ∀ took, (stopRecord operation entries took e).clash? = some key := fun took =>
    (clash?_stopRecord took e).trans hreserved
  have hlevel : ∀ took, limit ≤ ((stopRecord operation entries took e).level.rank : Int) := by
    intro took
    rw [level_stopRecord]
    exact hcounts
  constructor
  · intro h
    obtain ⟨stop, q₁, events₁, hcloses, hrest, rfl⟩ := (runs_ask_bind_iff .clock id).mp h
    obtain ⟨rfl, rfl, rfl⟩ := (runs_emit_bind_of_clash (hlevel _) (hclash _)).mp hrest
    exact ⟨rfl, stop, rfl, hcloses⟩
  · rintro ⟨rfl, stop, rfl, hcloses⟩
    refine (runs_ask_bind_iff .clock id).mpr ⟨stop, q', [], hcloses, ?_, rfl⟩
    exact (runs_emit_bind_of_clash (hlevel _) (hclash _)).mpr ⟨rfl, rfl, rfl⟩

/-- A logged operation as it is put together. -/
theorem loggedFrom_eq (limit : Int) (operation : Text) (entries : List (Text × Json)) (job : Job α) :
    loggedFrom limit operation entries job = (do
      let start ← clock
      emit limit (startRecord operation entries)
      let e ← outcome job
      closing limit operation entries start e) :=
  rfl

/-- Every run of a logged operation goes in one of the three ways. -/
theorem loggedRun_of_runs (h : Runs w (loggedFrom limit operation entries job) q events e q') :
    LoggedRun w limit operation entries job q events e q' := by
  rw [loggedFrom_eq] at h
  obtain ⟨start, q₁, events₁, hopens, hrun, rfl⟩ := (runs_ask_bind_iff .clock id).mp h
  by_cases hstart : LogRecord.reservedKey? entries = none ∨ (LogLevel.info.rank : Int) < limit
  case pos =>
    obtain ⟨q₂, events₂, hnoted, hbody, rfl⟩ :=
      (runs_emit_bind_of_free (by rwa [clash?_startRecord])).mp hrun
    obtain ⟨e₁, q₃, events₃, events₄, hjob, hrest, rfl⟩ := runs_outcome_bind_iff.mp hbody
    by_cases hstop : LogRecord.reservedKey? entries = none ∨ ((endLevel e₁).rank : Int) < limit
    case pos =>
      obtain ⟨rfl, stop, rfl, hcloses⟩ := (runs_closing_of_free hstop).mp hrest
      rw [← List.append_assoc, ← List.cons_append, ← List.cons_append]
      exact .shown hstop (.cons hopens hnoted) hjob hcloses
    case neg =>
      obtain ⟨hkey, hcounts⟩ := not_or.mp hstop
      obtain ⟨key, hkey⟩ := Option.ne_none_iff_exists'.mp hkey
      have hsilent : (LogLevel.info.rank : Int) < limit := hstart.resolve_left (by simp [hkey])
      obtain ⟨rfl, stop, rfl, hcloses⟩ := (runs_closing_of_clash _ operation hkey (by omega)).mp hrest
      rw [noted_of_lt hsilent] at hnoted ⊢
      cases hnoted
      exact .hidden hkey hsilent (by omega) hopens hjob hcloses
  case neg =>
    obtain ⟨hkey, hcounts⟩ := not_or.mp hstart
    obtain ⟨key, hkey⟩ := Option.ne_none_iff_exists'.mp hkey
    obtain ⟨rfl, rfl, rfl⟩ :=
      (runs_emit_bind_of_clash (Int.not_lt.mp hcounts) (by rwa [clash?_startRecord])).mp hrun
    exact .unbegun hkey (Int.not_lt.mp hcounts) hopens

/-- A logged operation can go in each of the three ways. -/
theorem LoggedRun.runs (h : LoggedRun w limit operation entries job q events e q') :
    Runs w (loggedFrom limit operation entries job) q events e q' := by
  rw [loggedFrom_eq]
  cases h with
  | @unbegun key start q' reserved counts reads =>
    refine (runs_ask_bind_iff .clock id).mpr ⟨start, q', [], reads, ?_, rfl⟩
    exact (runs_emit_bind_of_clash counts ((clash?_startRecord operation entries).trans reserved)).mpr ⟨rfl, rfl, rfl⟩
  | @hidden key start stop q₁ q₂ q' events e reserved silent counts opens body closes =>
    have hlast := (runs_closing_of_clash start operation reserved counts).mpr ⟨rfl, stop, rfl, closes⟩
    refine (runs_ask_bind_iff .clock id).mpr ⟨start, q₁, _, opens, ?_, rfl⟩
    have hnoted : noted limit (startRecord operation entries) = [] := noted_of_lt silent
    refine (runs_emit_bind_of_free (.inr silent)).mpr ⟨q₁, events ++ [⟨.clock, stop⟩], ?_, ?_, ?_⟩
    · exact hnoted ▸ .nil q₁
    · exact runs_outcome_bind_iff.mpr ⟨e, q₂, events, _, body, hlast, rfl⟩
    · change events ++ [⟨.clock, stop⟩] = noted limit (startRecord operation entries) ++ _
      rw [hnoted, List.nil_append]
  | @shown start stop q₁ q₂ q' events e free opens body closes =>
    have hstart : LogRecord.reservedKey? entries = none ∨ (LogLevel.info.rank : Int) < limit := by
      refine free.imp_right fun hsilent => ?_
      have := rank_info_le_endLevel e
      omega
    have hlast := (runs_closing_of_free free).mpr ⟨rfl, stop, rfl, closes⟩
    rw [List.append_assoc]
    cases opens with
    | cons opens hnoted =>
      refine (runs_ask_bind_iff .clock id).mpr ⟨start, _, _, opens, ?_, rfl⟩
      rw [← clash?_startRecord operation] at hstart
      refine (runs_emit_bind_of_free hstart).mpr ⟨q₁, _, hnoted, ?_, rfl⟩
      exact runs_outcome_bind_iff.mpr ⟨e, q₂, events, _, body, hlast, rfl⟩

/-! ### Transparency -/

/-- A job around another one is transparent: in each of its runs the inner job is run once, with nothing but notes
before and after it, and the end is that of the inner job. -/
def IsTransparent (outer inner : Job α) : Prop :=
  ∀ {σ : Type} (w : World ServiceAct ServiceAct.Reply σ) (q : σ) (events : List ServiceEvent) (e : Except Stop α) (q' : σ),
    Runs w outer q events e q' → ∃ before events' after q₁ q₂, Runs w inner q₁ events' e q₂ ∧
      events = before ++ events' ++ after ∧ ∀ event ∈ before ++ after, event.1.IsNote

/-- Where every record can be made, or none counts, the end of the job is shown. -/
theorem LoggedRun.exists_of_free (h : LoggedRun w limit operation entries job q events e q')
    (hfree : LogRecord.reservedKey? entries = none ∨ LogLevel.error.rank < limit) :
    ∃ before events' after q₁ q₂, Runs w job q₁ events' e q₂ ∧ events = before ++ events' ++ after ∧
      ∀ event ∈ before ++ after, event.1.IsNote := by
  have hcounts : ∀ {key} {level : Nat}, LogRecord.reservedKey? entries = some key → limit ≤ level →
      LogLevel.error.rank < level := by
    intro key level hkey hlevel
    have := hfree.resolve_left (by simp [hkey])
    omega
  cases h with
  | unbegun reserved counts reads => exact absurd (hcounts reserved counts) (by decide)
  | @hidden key start stop q₁ q₂ q' events e₁ reserved silent counts opens body closes =>
    have := hcounts reserved counts
    have := endLevel_le_rank_error e₁
    omega
  | @shown start stop q₁ q₂ q' events e free opens body closes =>
    refine ⟨_, events, _, q₁, q₂, body, rfl, ?_⟩
    intro event hevent
    rw [List.mem_append, List.mem_cons, List.mem_cons] at hevent
    rcases hevent with (rfl | hevent) | rfl | hevent
    · exact .inl rfl
    · exact isNote_of_mem_noted event hevent
    · exact .inl rfl
    · exact isNote_of_mem_noted event hevent

/-- Where a failure of the job comes out, every record can be made, or none counts. -/
theorem LoggedRun.free_of_failed {f : Failure} (h : LoggedRun w limit operation entries job q events e q')
    (he : e = .error (.failed f)) (hf : ∀ key, f ≠ .keyClash key) :
    LogRecord.reservedKey? entries = none ∨ LogLevel.error.rank < limit := by
  cases h with
  | unbegun reserved counts reads =>
    cases he
    exact absurd rfl (hf _)
  | hidden reserved silent counts opens body closes =>
    cases he
    exact absurd rfl (hf _)
  | shown free opens body closes =>
    cases he
    exact free

/-- A call that gives an argument twice fails before anything is done; any other is a run of a logged operation. -/
theorem runs_loggedAbout_iff {subjects context : List (Text × Json)} :
    Runs w (loggedAbout limit operation subjects context job) q events e q' ↔
      (∃ name, (context.map (·.1)).find? argumentNames.contains = some name ∧
        events = [] ∧ e = .error (.failed (givenTwice name)) ∧ q' = q) ∨
      ((context.map (·.1)).find? argumentNames.contains = none ∧
        LoggedRun w limit operation (subjects ++ context) job q events e q') := by
  unfold loggedAbout
  cases (context.map (·.1)).find? argumentNames.contains with
  | none =>
    constructor
    · intro h
      exact .inr ⟨rfl, loggedRun_of_runs h⟩
    · rintro (⟨name, ⟨⟩, -⟩ | ⟨-, h⟩)
      exact h.runs
  | some name =>
    constructor
    · intro h
      exact .inl ⟨name, rfl, runs_fail_iff.mp h⟩
    · rintro (⟨_, ⟨⟩, h⟩ | ⟨⟨⟩, -⟩)
      exact runs_fail_iff.mpr h

/-- A logged operation is transparent for every job if and only if nothing of its context is given under the name of an
argument, and no key is reserved or no record counts. However that is, each of its runs goes in one of these ways: it
fails at once for a name that is given twice, or it goes as logged operations do. -/
theorem isTransparent_loggedAbout_iff (limit : Int) (operation : Text) (subjects context : List (Text × Json)) :
    ((∀ {α : Type} (job : Job α), IsTransparent (loggedAbout limit operation subjects context job) job) ↔
      (∀ name ∈ context.map (·.1), name ∉ argumentNames) ∧
        ((∀ key ∈ (subjects ++ context).map (·.1), key ∉ LogRecord.reservedKeys) ∨ LogLevel.error.rank < limit)) ∧
    ∀ {α σ : Type} (job : Job α) (w : World ServiceAct ServiceAct.Reply σ) (q : σ) (events : List ServiceEvent)
      (e : Except Stop α) (q' : σ), Runs w (loggedAbout limit operation subjects context job) q events e q' ↔
        (∃ name, (context.map (·.1)).find? argumentNames.contains = some name ∧
          events = [] ∧ e = .error (.failed (givenTwice name)) ∧ q' = q) ∨
        ((context.map (·.1)).find? argumentNames.contains = none ∧
          LoggedRun w limit operation (subjects ++ context) job q events e q') := by
  refine ⟨⟨?_, ?_⟩, fun job w q events e q' => runs_loggedAbout_iff⟩
  · intro htransparent
    -- a failure that no logging makes tells whether the end of the job comes out
    obtain ⟨events, e, q', h⟩ := Program.exists_runs (Workplace.isTotal_answers (Host.isTotal_answers false))
      (loggedAbout limit operation subjects context (fail (.general "") : Job Unit)).run ⟨{}, {}⟩
    obtain ⟨before, events', after, q₁, q₂, hbody, -, -⟩ := htransparent _ _ _ _ _ _ h
    have he : e = .error (.failed (.general "")) := (runs_fail_iff.mp hbody).2.1
    rcases runs_loggedAbout_iff.mp h with ⟨name, -, -, htwice, -⟩ | ⟨hnames, hrun⟩
    · cases he.symm.trans htwice
    · refine ⟨by simpa only [List.find?_eq_none, List.contains_iff_mem] using hnames, ?_⟩
      exact (hrun.free_of_failed he fun _ => nofun).imp_left LogRecord.reservedKey?_eq_none_iff.mp
  · rintro ⟨hnames, hfree⟩ α job σ w q events e q' h
    have hnone : (context.map (·.1)).find? argumentNames.contains = none := by
      simpa only [List.find?_eq_none, List.contains_iff_mem] using hnames
    rcases runs_loggedAbout_iff.mp h with ⟨name, hname, -⟩ | ⟨-, hrun⟩
    · cases hnone.symm.trans hname
    · exact hrun.exists_of_free (hfree.imp_left LogRecord.reservedKey?_eq_none_iff.mpr)

/-- A cancellation of an operation about a subject under the key `name` comes out as a failure, if warnings are
logged. -/
theorem not_isTransparent_loggedAbout_cancelled :
    ¬ IsTransparent (loggedAbout LogLevel.warning.rank "x" [("name", .text "r")] [] (throw .cancelled : Job Unit))
      (throw .cancelled) := by
  intro htransparent
  have hbody : Runs (fun _ (_ : Unit) _ _ => True) (throw .cancelled : Job Unit) () [] (.error .cancelled) () :=
    .done _ _
  have hrun : LoggedRun (fun _ (_ : Unit) _ _ => True) LogLevel.warning.rank "x" [("name", .text "r")]
      (throw .cancelled : Job Unit) () [⟨.clock, (0 : Nat)⟩, ⟨.clock, (0 : Nat)⟩] (.error (.failed (.keyClash "name"))) () :=
    .hidden (by decide) (by decide) (Int.le_refl _) trivial hbody trivial
  obtain ⟨before, events', after, q₁, q₂, hcancelled, -, -⟩ :=
    htransparent _ _ _ _ _ (runs_loggedAbout_iff.mpr (.inr ⟨rfl, hrun⟩))
  cases hcancelled

end Job

end LintPreview
