import LintPreview.Proofs.Catalog.Load
import LintPreview.Proofs.Catalog.Save
import LintPreview.Proofs.Run.Rehearsed

/-!
# What is recalled after many loads

* `LoadReport`, `Store.History`: loads one after the other, by any loaders with one store, from a start without a file.
* `lastKept?`: the rules that were written last.
* `Store.Holds`: the file of a store holds rules. It always holds the rules that were written last
  (`Store.History.holds`).
* `Store.runs_loadRules_of_history`: a load for which the lint tool gives no rules ends with those rules, as they are
  written, if they can be read; otherwise with the failures of both sources.
-/

namespace LintPreview

open Program (Runs)
open FileTree (AddsDirectories)

/-- How a load ended: how asking the lint tool ended, what became of the snapshot, and the end of the load itself. -/
structure LoadReport where
  live : Except Failure (List Rule × Option Text)
  kept : Option (Except Failure Snapshot)
  reply : Except Stop (List Rule)

/-- The rules of a load that came from the lint tool and were written. -/
def LoadReport.kept? : LoadReport → Option (List Rule)
  | ⟨.ok (rules, _), some (.ok _), _⟩ => some rules
  | _ => none

/-- The rules that were written last, by the reports of all loads from the last one on. -/
def lastKept? (reports : List LoadReport) : Option (List Rule) := reports.findSome? LoadReport.kept?

/-- How a load ends for which the lint tool gives no rules, and reading the last snapshot ends with `cached`. -/
def recalling (live : Failure) : Except Failure (List Rule) → Except Stop (List Rule)
  | .ok rules => announcing (Loader.failureNotices [("live", live)]) (.ok rules)
  | .error cache =>
    let failures : List (Text × Failure) := [("live", live), ("cache", cache)]
    announcing (Loader.failureNotices failures) (.error (.failed (.catalogUnavailable failures)))

namespace Store

/-- What is to be read from the file of a store: nothing, or rules that were written. A file that is made for a while
and left behind could only be taken for the store's own if that one had such a name. -/
def Holds (s : Store) (t : FileTree) : Option (List Rule) → Prop
  | none => s.file.IsApart → t.HasNoFile s.file
  | some rules => ∃ snapshot content bytes, Snapshot.IsSound snapshot ∧ snapshot.rules = rules ∧
      snapshot.text = .ok content ∧ Text.encode content = .ok bytes ∧ t.HasFile s.file bytes

/-- Loads that happened one after the other, the last one first, and the host after them. Every load has a catalog and
settings of its own, but all have the same store. At the start there is no file in it, and whatever happens between two
loads leaves its file as it is. -/
inductive History (s : Store) : List LoadReport → Host → Prop where
  | start {host : Host} (unwritten : host.files.HasNoFile s.file) : History s [] host
  | elsewhere {reports : List LoadReport} {host host' : Host} (before : History s reports host)
      (file : ∀ content, host.files.HasFile s.file content → host'.files.HasFile s.file content)
      (noFile : host.files.HasNoFile s.file → host'.files.HasNoFile s.file) : History s reports host'
  | load {reports : List LoadReport} {l : Loader} {p p' : Workplace} {events : List ServiceEvent} {report : LoadReport}
      (before : History s reports p.host) (store : l.store = s)
      (runs : Job.Runs (Workplace.Answers (Host.Answers false)) l.loadRules p events report.reply p')
      (ends : l.LoadEnds false p events report.live report.kept report.reply p') : History s (report :: reports) p'.host

variable {s : Store} {host : Host} {t t' : FileTree} {rules? : Option (List Rule)}

/-! ### What the file holds -/

theorem Holds.of_hasFile (h : s.Holds t rules?)
    (file : ∀ content, t.HasFile s.file content → t'.HasFile s.file content)
    (noFile : s.file.IsApart → t.HasNoFile s.file → t'.HasNoFile s.file) : s.Holds t' rules? := by
  cases rules? with
  | none => exact fun hapart => noFile hapart (h hapart)
  | some rules =>
    obtain ⟨snapshot, content, bytes, hsound, hrules, htext, hencode, hfile⟩ := h
    exact ⟨snapshot, content, bytes, hsound, hrules, htext, hencode, file bytes hfile⟩

/-- What a load leaves in the file: its rules if they were written, and else what was there. -/
theorem Holds.of_loadEnds {l : Loader} {p p' : Workplace} {events : List ServiceEvent}
    {live : Except Failure (List Rule × Option Text)} {kept : Option (Except Failure Snapshot)}
    {reply : Except Stop (List Rule)} (h : l.store.Holds p.host.files rules?)
    (hends : l.LoadEnds false p events live kept reply p') :
    l.store.Holds p'.host.files ((LoadReport.mk live kept reply).kept?.or rules?) := by
  cases hends with
  | fetched fetches keeps catalog =>
    obtain ⟨_, -, hfetch⟩ := fetches
    generalize Loader.errandsOf events = errands at keeps
    cases keeps with
    | untried why unchanged =>
      rw [unchanged]
      exact h
    | tried on saves =>
      cases runs_save saves with
      | saved rulesEq ids made text encoded file =>
        refine ⟨_, _, _, ⟨?_, ids, made⟩, rulesEq, text, encoded, file⟩
        rw [rulesEq]
        exact isSound_of_fetchRules hfetch
      | failed unchanged => exact h.of_hasFile (fun _ => unchanged.hasFile) unchanged.hasNoFile
  | recalled fetches shown on cached errand catalog files =>
    rw [files]
    exact h
  | unavailable fetches tried shown catalog files =>
    rw [files]
    exact h
  | unannounced fetches lost catalog files =>
    rw [files]
    exact h

/-- The file holds the rules that were written last. -/
theorem History.holds {reports : List LoadReport} (h : s.History reports host) :
    s.Holds host.files (lastKept? reports) := by
  induction h with
  | start unwritten => exact fun _ => unwritten
  | elsewhere before file noFile ih => exact ih.of_hasFile file fun _ => noFile
  | @load reports l p p' events report before store runs ends ih =>
    subst store
    rw [lastKept?, List.findSome?_cons]
    -- Rules that this load has written take the place of those before; otherwise the file is what it was.
    have hholds := Holds.of_loadEnds ih ends
    cases hkept : report.kept? with
    | none => rwa [hkept] at hholds
    | some rules => rwa [hkept] at hholds

/-! ### What is recalled -/

/-- Reading the last snapshot ends as the bytes of its file say. -/
theorem exists_of_recalls {l : Loader} {cached : Except Failure (List Rule)} (h : l.Recalls false host cached) :
    ∃ now, cached = (l.store.snapshotOf now (host.files.readBytes l.store.file)).map (·.rules) := by
  obtain ⟨events, host', hload⟩ := h
  obtain ⟨-, bytes, now, ⟨-, hbytes | ⟨⟨⟩, -⟩⟩, hcached⟩ := runs_load hload
  rw [← hbytes]
  exact ⟨now, hcached⟩

/-- Nothing is recalled from a file that is not there. -/
theorem Holds.recalls_none {l : Loader} {cached : Except Failure (List Rule)} (h : l.store.Holds host.files none)
    (hapart : l.store.file.IsApart) (hrecalls : l.Recalls false host cached) : ∃ cache, cached = .error cache := by
  obtain ⟨now, rfl⟩ := exists_of_recalls hrecalls
  cases hbytes : host.files.readBytes l.store.file with
  | ok bytes => exact absurd (FileTree.readBytes_eq_ok_iff.mp hbytes) (h hapart).not_hasFile
  | error fault => exact ⟨_, rfl⟩

/-- The rules in the file are recalled as they are written if all of them can be read, and none are otherwise. -/
theorem Holds.recalls_some {l : Loader} {rules : List Rule} {cached : Except Failure (List Rule)}
    (h : l.store.Holds host.files (some rules)) (hrecalls : l.Recalls false host cached) :
    ((∀ r ∈ rules, r.IsReadable) → cached = .ok (rules.map Rule.asWritten)) ∧
      (¬ (∀ r ∈ rules, r.IsReadable) → cached = .error (l.store.unreadable "corrupt snapshot (1 errors)")) := by
  obtain ⟨now, rfl⟩ := exists_of_recalls hrecalls
  obtain ⟨snapshot, content, bytes, hsound, rfl, htext, hencode, hfile⟩ := h
  obtain ⟨hreadable, hunreadable⟩ := l.store.snapshotOf_of_encode hsound htext hencode now
  rw [FileTree.readBytes_eq_ok_iff.mpr hfile]
  constructor
  · intro hall
    rw [hreadable hall]
    rfl
  · intro hnot
    rw [hunreadable hnot]
    rfl

/-- The file of a store is not named like one that is made for a while where no name is given. -/
theorem isApart_of_at? {home directory : Text} (h : at? home directory none = .ok s) : s.file.IsApart := by
  obtain ⟨d, -, h⟩ := exists_of_bind_ok h
  cases h
  exact ⟨defaultFileName, _, List.getLast?_concat, rfl, by decide, by decide⟩

/-- A load for which the lint tool gives no rules ends as reading the last snapshot does. -/
theorem exists_recalls_of_loadEnds {l : Loader} {flaky : Bool} {p p' : Workplace} {events : List ServiceEvent}
    {live : Failure} {kept : Option (Except Failure Snapshot)} {reply : Except Stop (List Rule)} (hcache : l.useCache = true)
    (h : l.LoadEnds flaky p events (.error live) kept reply p') :
    ∃ cached, l.Recalls flaky p.host cached ∧ reply = recalling live cached := by
  cases h with
  | recalled fetches shown on cached errand catalog files => exact ⟨_, cached, (announcing_of_shown shown _).symm⟩
  | unavailable fetches tried shown catalog files =>
    generalize Loader.errandsOf events = errands at tried
    cases tried with
    | live off =>
      rw [hcache] at off
      cases off
    | both on cached => exact ⟨_, cached, (announcing_of_shown shown _).symm⟩
  | unannounced fetches lost catalog files =>
    rcases lost with ⟨-, hlost⟩ | ⟨hshown, cache, -, cached, -, hlost⟩
    · -- The snapshot is not read then, but whatever it held, the end would be the same.
      obtain ⟨events, cached, host, hload⟩ := Program.exists_runs (Host.isTotal_answers flaky) l.store.load p.host
      refine ⟨cached, ⟨events, host, hload⟩, ?_⟩
      cases cached <;> simp [recalling, announcing, Loader.failureNotices, hlost]
    · refine ⟨_, cached, ?_⟩
      simp [recalling, announcing, Loader.failureNotices, hshown, hlost]

/-- After any loads, a load for which the lint tool gives no rules ends with the rules that were written last, as they
are written, if all of them can be read. If one of them cannot, or none were written, it ends with the failures of both
sources; the latter for a store whose file is not named like one that is made for a while, as such a file can be left
behind. -/
theorem runs_loadRules_of_history {reports : List LoadReport} {l : Loader} {p : Workplace}
    (history : l.store.History reports p.host) (hcache : l.useCache = true) :
    (∃ events reply p', Job.Runs (Workplace.Answers (Host.Answers false)) l.loadRules p events reply p') ∧
    ∀ events reply p', Job.Runs (Workplace.Answers (Host.Answers false)) l.loadRules p events reply p' →
      (∃ live kept, l.LoadEnds false p events live kept reply p') ∧
      ∀ live kept, l.LoadEnds false p events (.error live) kept reply p' →
        (∀ rules, lastKept? reports = some rules → (∀ r ∈ rules, r.IsReadable) →
          reply = recalling live (.ok (rules.map Rule.asWritten))) ∧
        (∀ rules, lastKept? reports = some rules → ¬ (∀ r ∈ rules, r.IsReadable) →
          reply = recalling live (.error (l.store.unreadable "corrupt snapshot (1 errors)"))) ∧
        (lastKept? reports = none → l.store.file.IsApart → ∃ cache, reply = recalling live (.error cache)) := by
  refine ⟨Program.exists_runs (Workplace.isTotal_answers (Host.isTotal_answers false)) _ p, ?_⟩
  intro events reply p' hruns
  refine ⟨Loader.loadEnds_of_runs hruns, ?_⟩
  intro live kept hends
  obtain ⟨cached, hrecalls, rfl⟩ := exists_recalls_of_loadEnds hcache hends
  have hholds := history.holds
  refine ⟨?_, ?_, ?_⟩
  · intro rules hlast hreadable
    rw [hlast] at hholds
    rw [(hholds.recalls_some hrecalls).1 hreadable]
  · intro rules hlast hunreadable
    rw [hlast] at hholds
    rw [(hholds.recalls_some hrecalls).2 hunreadable]
  · intro hlast hapart
    rw [hlast] at hholds
    obtain ⟨cache, rfl⟩ := hholds.recalls_none hapart hrecalls
    exact ⟨cache, rfl⟩

theorem eq_of_kept? {l : Loader} {flaky : Bool} {p p' : Workplace} {events : List ServiceEvent}
    {live : Except Failure (List Rule × Option Text)} {kept : Option (Except Failure Snapshot)}
    {rules rules' : List Rule}
    (hends : l.LoadEnds flaky p events live kept (.ok rules) p')
    (hkept : (LoadReport.mk live kept (.ok rules)).kept? = some rules') : rules' = rules := by
  generalize hreply : (Except.ok rules : Except Stop (List Rule)) = reply at hends
  cases hends with
  | @fetched rules₁ version _ _ fetches keeps catalog =>
    have hsame : (Except.ok rules₁ : Except Stop (List Rule)) = .ok rules := by
      rw [← announcing_of_ok hreply.symm (.ok rules₁), ← hreply]
    cases hsame
    cases kept with
    | none => cases hkept
    | some saved =>
      cases saved with
      | error f => cases hkept
      | ok snapshot =>
        cases hkept
        rfl
  | _ => cases hkept

/-- The rules of a load before which there was no file, and after which there is one, came from the lint tool and were
written. -/
theorem kept?_of_hasFile {l : Loader} {p p' : Workplace} {events : List ServiceEvent}
    {live : Except Failure (List Rule × Option Text)} {kept : Option (Except Failure Snapshot)} {rules : List Rule}
    {content : List UInt8} (hends : l.LoadEnds false p events live kept (.ok rules) p')
    (hapart : l.store.file.IsApart) (before : p.host.files.HasNoFile l.store.file)
    (after : p'.host.files.HasFile l.store.file content) :
    (LoadReport.mk live kept (.ok rules)).kept? = some rules := by
  have hbefore : l.store.Holds p.host.files none := fun _ => before
  have hholds := hbefore.of_loadEnds hends
  rw [Option.or_none] at hholds
  cases hkept : (LoadReport.mk live kept (.ok rules)).kept? with
  | none =>
    rw [hkept] at hholds
    exact absurd after (hholds hapart).not_hasFile
  | some rules' => rw [eq_of_kept? hends hkept]

/-- What a lint tool prints that has one rule, with a default value that is no number. -/
def oneRule : Text :=
  "[\x7b\"identifier\": \"a\", \"parameters\": [\x7b\"name\": \"p\", \"default_value\": NaN\x7d]\x7d]"

/-- A lint tool with this rule. -/
def listingTool : Rehearsal where
  tool := .scripted { listRules := .text oneRule }

theorem isApart_ofRoot : Loader.ofRoot.store.file.IsApart :=
  ⟨"rules.json", [114, 117, 108, 101, 115, 46, 106, 115, 111, 110], rfl, rfl, by decide, by decide⟩

/-- The rule is loaded and written, and it can be read. -/
theorem run_loadRules_listingTool :
    (Program.passes Rehearsal.answer Rehearsal.passes Loader.ofRoot.loadRules listingTool &&
      match Rehearsal.run Loader.ofRoot.loadRules listingTool with
      | (.ok rules, r) => decide (rules.length = 1) && rules.all (fun r => decide r.IsReadable) &&
          (r.host.files.readBytes Loader.ofRoot.store.file).toBool
      | _ => false) = true := by
  decide +kernel

/-- After a load that wrote the rule, the rule comes back when the lint tool fails. -/
theorem runs_loadRules_afterListing : ∃ reports p rules, Loader.ofRoot.store.History reports p.host ∧
    lastKept? reports = some rules ∧ rules.length = 1 ∧
    (∃ events reply p', Job.Runs (Workplace.Answers (Host.Answers false)) Loader.ofRoot.loadRules p events reply p') ∧
    ∀ events reply p', Job.Runs (Workplace.Answers (Host.Answers false)) Loader.ofRoot.loadRules p events reply p' →
      ∀ live kept, Loader.ofRoot.LoadEnds false p events (.error live) kept reply p' →
        reply = recalling live (.ok (rules.map Rule.asWritten)) := by
  have hchecked := run_loadRules_listingTool
  rw [Bool.and_eq_true] at hchecked
  obtain ⟨hpasses, hrun⟩ := hchecked
  obtain ⟨events, hruns⟩ := Rehearsal.runs_of_passes false hpasses
  obtain ⟨live, kept, hends⟩ := Loader.loadEnds_of_runs hruns
  split at hrun
  · rename_i rules r heq
    simp only [Bool.and_eq_true, decide_eq_true_eq, List.all_eq_true] at hrun
    obtain ⟨⟨hlength, hreadable⟩, hfile⟩ := hrun
    rw [heq] at hruns hends
    have hstart : listingTool.place.host.files.HasNoFile Loader.ofRoot.store.file := FileTree.hasNoFile_of_nil rfl _
    have hlast : lastKept? [⟨live, kept, .ok rules⟩] = some rules := by
      cases hbytes : r.host.files.readBytes Loader.ofRoot.store.file with
      | error fault =>
        rw [hbytes] at hfile
        cases hfile
      | ok bytes =>
        rw [lastKept?, List.findSome?_cons,
          kept?_of_hasFile hends isApart_ofRoot hstart (FileTree.readBytes_eq_ok_iff.mp hbytes)]
    have history : Loader.ofRoot.store.History [⟨live, kept, .ok rules⟩] r.place.host :=
      .load (.start hstart) rfl hruns hends
    obtain ⟨hexists, hall⟩ := runs_loadRules_of_history history rfl
    refine ⟨_, r.place, rules, history, hlast, hlength, hexists, ?_⟩
    intro events' reply p' hruns' live' kept' hends'
    exact ((hall events' reply p' hruns').2 live' kept' hends').1 rules hlast hreadable
  · cases hrun

end Store

end LintPreview
