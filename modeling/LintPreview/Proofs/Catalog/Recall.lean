import LintPreview.Proofs.Catalog.Load
import LintPreview.Proofs.Catalog.Save
import LintPreview.Proofs.Json.Unread
import LintPreview.Proofs.Run.Moments
import LintPreview.Proofs.Run.Rehearsed

/-!
# What is saved is recalled

* `Rule.IsRegular`: default values of any nesting, with whole numbers of any length.
* `Rule.IsRecallable`: default values that are read back when they have been written.
* `Store.snapshotOf_of_regular`: what the file of a store gives that holds the text of any snapshot.
* `Store.runs_loadSnapshot_of_save`: after a save that returned, loading gives the snapshot that it returned, with every
  field of its rules, if all of them are recallable. Otherwise it gives a failure.
-/

namespace LintPreview

/-- The default values of a rule are regular. -/
def Rule.IsRegular (r : Rule) : Prop := r.ForDefaults Json.IsRegular

/-- The default values of a rule are read back when they have been written. -/
def Rule.IsRecallable (r : Rule) : Prop := r.IsReadable ∧ r.ForDefaults fun v => v.allInts Json.isShort = true

instance : DecidablePred Rule.IsRecallable := fun r =>
  inferInstanceAs (Decidable (r.IsReadable ∧ r.ForDefaults fun v => v.allInts Json.isShort = true))

theorem Rule.isSound_iff {r : Rule} :
    r.IsSound ↔ r.IsRegular ∧ r.ForDefaults fun v => v.allInts Json.isShort = true := by
  constructor
  · exact fun h => ⟨fun ps hps p hp => (Json.isSound_iff.mp (h ps hps p hp)).1,
      fun ps hps p hp => (Json.isSound_iff.mp (h ps hps p hp)).2⟩
  · exact fun h ps hps p hp => Json.isSound_iff.mpr ⟨h.1 ps hps p hp, h.2 ps hps p hp⟩

/-- A snapshot is made for the version of the lint tool that is given. -/
theorem Snapshot.toolVersion_of_make {rules : List Rule} {now : Moment} {version : Option Text} {s : Snapshot}
    (h : make rules now version = .valid s) : s.toolVersion = version := by
  unfold make at h
  split at h
  · cases h
    rfl
  · cases h

/-- The text of a snapshot with a whole number that is too long counts as malformed. -/
theorem Snapshot.ofText_of_long {s : Snapshot} (hs : ∀ r ∈ s.rules, r.IsRegular) (hlong : ¬ ∀ r ∈ s.rules, r.IsSound)
    {content : Text} (h : s.text = .ok content) (now : Moment) :
    ofText now content = .invalid [⟨.malformedJson, []⟩] := by
  unfold text at h
  split at h
  · cases h
  · cases h
    have hregular : s.toJson.IsRegular := (holds_toJson_iff Json.isPartwise_isRegular 0 s).mpr hs
    have hsound : ¬ s.toJson.IsSound := fun hsound => hlong ((holds_toJson_iff Json.isPartwise_isSound 0 s).mp hsound)
    obtain ⟨e, hread⟩ := Json.read_pretty_of_unreadable hregular fun h => hsound h.1
    rw [ofText, Checked.ofJsonText, hread]
    rfl

/-! ### Lists that are nested too deep -/

namespace Snapshot

theorem all_prettyChars_nestedLists (n level : ℕ) :
    (Json.prettyChars level (nestedLists n)).all (fun c => !c.isHalf) = true := by
  induction n generalizing level with
  | zero => rfl
  | succ n ih =>
    have hline : ∀ level, (Json.newLine level).all (fun c => !c.isHalf) = true := by
      intro level
      rw [Json.newLine, List.all_cons, List.all_replicate]
      split <;> rfl
    simp only [nestedLists, Json.prettyChars, Json.prettyItems, List.all_cons, List.all_append, ih, hline]
    rfl

/-- The text of nested lists has bytes. -/
theorem exists_encode_ofNestedLists (n : ℕ) : ∃ bytes, Text.encode (ofNestedLists n).toJson.pretty = .ok bytes := by
  rw [← Text.isWhole_iff_encode]
  show (Json.prettyChars 0 (ofNestedLists n).toJson).all (fun c => !c.isHalf) = true
  simp only [ofNestedLists, toJson, Rule.toJson, Parameter.toJson, List.map_cons, List.map_nil, Option.map_some,
    Option.getD_some, Json.prettyChars, Json.prettyItems, Json.prettyEntries, List.all_append, List.all_cons,
    all_prettyChars_nestedLists n]
  rfl

theorem unwritable?_ofNestedLists : (ofNestedLists (Parameter.readNesting + 1)).toJson.unwritable?
    (levelsAboveRules + Rule.maxLevels) = none := by
  decide +kernel

end Snapshot

namespace Store

open Program (Runs)

variable {host host' : Host} {events : List DiskEvent}

/-- The file that holds the text of a snapshot gives this snapshot if all its rules are recallable, and else a
failure. -/
theorem snapshotOf_of_regular (store : Store) {s : Snapshot} (hs : ∀ r ∈ s.rules, r.IsRegular)
    (ids : (s.rules.map Rule.id).Nodup) (made : s.createdAt.IsUniversal) {content : Text} {bytes : List UInt8}
    (htext : s.text = .ok content) (hbytes : Text.encode content = .ok bytes) (now : Moment) :
    ((∀ r ∈ s.rules, r.IsRecallable) → store.snapshotOf now (.ok bytes) = .ok s.asWritten) ∧
      (¬ (∀ r ∈ s.rules, r.IsRecallable) →
        store.snapshotOf now (.ok bytes) = .error (store.unreadable "corrupt snapshot (1 errors)")) := by
  by_cases hsound : ∀ r ∈ s.rules, r.IsSound
  · obtain ⟨hreadable, hnot⟩ := store.snapshotOf_of_encode ⟨hsound, ids, made⟩ htext hbytes now
    constructor
    · exact fun h => hreadable fun r hr => (h r hr).1
    · exact fun h => hnot fun hall => h fun r hr => ⟨hall r hr, (Rule.isSound_iff.mp (hsound r hr)).2⟩
  · constructor
    · exact fun h => absurd (fun r hr => Rule.isSound_iff.mpr ⟨hs r hr, (h r hr).2⟩) hsound
    · intro _
      rw [store.snapshotOf_of_text htext hbytes, Snapshot.ofText_of_long hs hsound htext now]
      rfl

/-- The snapshot that a save returns has been made of its rules. -/
def Makes (rules : List Rule) (version : Option Text) (e : Except Failure Snapshot) : Prop :=
  ∀ snapshot, e = .ok snapshot → ∃ now, Snapshot.make rules now version = .valid snapshot

theorem makes_error (rules : List Rule) (version : Option Text) (f : Failure) : Makes rules version (.error f) :=
  fun _ h => nomatch h

theorem ends_giveUp (rules : List Rule) (version : Option Text) (temporary : Text) (f : Failure) :
    (giveUp temporary f).Ends (Makes rules version) := by
  intro removed
  cases removed with
  | error fault => exact makes_error rules version (.path fault)
  | ok _ => exact makes_error rules version f

theorem ends_save (s : Store) (rules : List Rule) (version : Option Text) :
    (s.save rules version).Ends (Makes rules version) := by
  rw [save_eq]
  intro now
  beta_reduce
  cases hmake : Snapshot.make rules now version with
  | invalid faults => exact makes_error rules version _
  | valid snapshot =>
    intro made
    cases made with
    | error fault => exact makes_error rules version _
    | ok _ =>
      intro temporary?
      cases temporary? with
      | error fault => exact makes_error rules version _
      | ok temporary =>
        show (s.fill snapshot temporary).Ends _
        unfold fill
        cases snapshot.text with
        | error fault => exact ends_giveUp rules version temporary _
        | ok text =>
          intro written
          cases written with
          | error fault => exact ends_giveUp rules version temporary _
          | ok _ =>
            intro moved
            cases moved with
            | error fault => exact ends_giveUp rules version temporary _
            | ok _ =>
              rintro _ ⟨⟩
              exact ⟨now, hmake⟩

/-- Loading after a save that returned reads the text of the snapshot. -/
theorem exists_of_runs_loadSnapshot {s : Store} {rules : List Rule} {t : FileTree} {snapshot : Snapshot}
    {reply : Except Failure Snapshot} (hsaves : s.Saves rules t host.files (.ok snapshot))
    (hload : Runs (Host.Answers false) s.loadSnapshot host events reply host') :
    ∃ content bytes now, snapshot.text = .ok content ∧ Text.encode content = .ok bytes ∧
      reply = s.snapshotOf now (.ok bytes) := by
  cases hsaves with
  | @saved _ content bytes kept ids made text encoded file =>
    obtain ⟨-, read, now, ⟨-, hread | ⟨⟨⟩, -⟩⟩, rfl⟩ := runs_loadSnapshot hload
    have hbytes : read = .ok bytes := hread.trans (FileTree.readBytes_eq_ok_iff.mpr file)
    exact ⟨content, bytes, now, text, encoded, by rw [hbytes]⟩

/-- After a save that returned, loading gives a snapshot of the same moment and version, with the same rules in the same
order and with every field of theirs, if all of them are recallable: numbers in default values that are not finite come
back as `null`. If one of them is not, loading gives a failure. -/
theorem runs_loadSnapshot_of_save {s : Store} {rules : List Rule} {version : Option Text} {snapshot : Snapshot}
    (hrules : ∀ r ∈ rules, r.IsRegular)
    (hsave : Runs (Host.Answers false) (s.save rules version) host events (.ok snapshot) host') :
    (snapshot.rules = rules ∧ snapshot.toolVersion = version ∧ (rules.map Rule.id).Nodup) ∧
    (∃ events' reply host'', Runs (Host.Answers false) s.loadSnapshot host' events' reply host'') ∧
    ∀ events' reply host'', Runs (Host.Answers false) s.loadSnapshot host' events' reply host'' →
      ((∀ r ∈ rules, r.IsRecallable) → reply = .ok ⟨rules.map Rule.asWritten, snapshot.createdAt, version⟩) ∧
      (¬ (∀ r ∈ rules, r.IsRecallable) → reply = .error (s.unreadable "corrupt snapshot (1 errors)")) := by
  obtain ⟨now, hmake⟩ := (ends_save s rules version).of_runs hsave snapshot rfl
  obtain ⟨rfl, -, hids⟩ := Snapshot.spec_of_make hmake
  obtain rfl := Snapshot.toolVersion_of_make hmake
  refine ⟨⟨rfl, rfl, hids⟩, Program.exists_runs (Host.isTotal_answers false) s.loadSnapshot host', ?_⟩
  intro events' reply host'' hload
  have hsaves := runs_save hsave
  obtain ⟨content, bytes, now', htext, hencode, rfl⟩ := exists_of_runs_loadSnapshot hsaves hload
  cases hsaves with
  | saved _ _ made _ _ _ => exact s.snapshotOf_of_regular hrules hids made htext hencode now'

/-- Two rules, one with a default value that holds a number which cannot be written. -/
def twoRules : List Rule := [
  { id := "a", name := "A", parameters := some [{
      name := "p", kind := .array, defaultValue := .list [.float .undefined, .text "b", .object [("k", .int (-1))]] }] },
  { id := "c", name := "C", category := .lint, isOptin := true }]

theorem isRegular_twoRules : ∀ r ∈ twoRules, r.IsRegular := by
  have hvalue : Json.IsRegular (.list [.float .undefined, .text "b", .object [("k", .int (-1))]]) := by
    refine .list ?_
    simp only [List.forall_mem_cons]
    refine ⟨.float nofun, .text _, .object (List.nodup_singleton _) ?_, List.forall_mem_nil _⟩
    simp only [List.forall_mem_cons]
    exact ⟨.int _, List.forall_mem_nil _⟩
  intro r hr ps hps p hp
  simp only [twoRules, List.mem_cons, List.not_mem_nil, or_false] at hr
  rcases hr with rfl | rfl
  · cases hps
    obtain rfl := List.mem_singleton.mp hp
    exact hvalue
  · cases hps

/-- Nothing stands in the way of a save below the root of a tree without files. -/
theorem isReady_ofRoot : Loader.ofRoot.store.IsReady {} {} "0"
    [[46, 114, 117, 108, 101, 115, 45, 48, 46, 106, 115, 111, 110]] [[114, 117, 108, 101, 115, 46, 106, 115, 111, 110]] where
  moment := Host.isUniversal_moment
  directory := rfl
  slash := by decide
  temporary := rfl
  free := rfl
  file := rfl
  noDirectory := by decide

/-- The text of the two rules can be written. -/
theorem isWritable_twoRules : (match (Snapshot.mk twoRules ({} : Host).moment (some "0.57.0")).text with
    | .ok content => (Text.encode content).toBool
    | .error _ => false) = true := by
  decide +kernel

/-- The two rules can be saved. -/
theorem exists_runs_save_twoRules {w : Program.World DiskAct DiskAct.Reply Host}
    (hw : ∀ act h reply h', (∀ path, act ≠ .remove path) → Host.Answers false act h reply h' → w act h reply h') :
    ∃ events host', Runs w (Loader.ofRoot.store.save twoRules (some "0.57.0")) {} events
      (.ok ⟨twoRules, ({} : Host).moment, some "0.57.0"⟩) host' := by
  have hwritable := isWritable_twoRules
  split at hwritable
  · rename_i content htext
    cases hencode : Text.encode content with
    | error run =>
      rw [hencode] at hwritable
      cases hwritable
    | ok bytes => exact isReady_ofRoot.exists_runs_save hw (by decide) htext hencode
  · cases hwritable

/-- The two rules can be saved, and then they are what is loaded. -/
theorem runs_loadSnapshot_twoRules : ∃ events snapshot host',
    Runs (Host.Answers false) (Loader.ofRoot.store.save twoRules (some "0.57.0")) {} events (.ok snapshot) host' ∧
    ∀ events' reply host'', Runs (Host.Answers false) Loader.ofRoot.store.loadSnapshot host' events' reply host'' →
      reply = .ok ⟨twoRules.map Rule.asWritten, snapshot.createdAt, some "0.57.0"⟩ := by
  obtain ⟨events, host', hsave⟩ := exists_runs_save_twoRules (fun _ _ _ _ _ h => h)
  refine ⟨events, _, host', hsave, ?_⟩
  intro events' reply host'' hload
  have hrecallable : ∀ r ∈ twoRules, r.IsRecallable := by decide +kernel
  exact ((runs_loadSnapshot_of_save isRegular_twoRules hsave).2.2 events' reply host'' hload).1 hrecallable

/-- Rules with default values that are nested too deep to be read are saved, but then nothing is loaded. -/
theorem not_runs_loadSnapshot_ofNestedLists :
    ((Snapshot.ofNestedLists (Parameter.readNesting + 1)).rules.map Rule.id).Nodup ∧
    ∃ events snapshot host', Runs (Host.Answers false)
      (Loader.ofRoot.store.save (Snapshot.ofNestedLists (Parameter.readNesting + 1)).rules none) {} events
      (.ok snapshot) host' ∧
    ∀ events' reply host'', Runs (Host.Answers false) Loader.ofRoot.store.loadSnapshot host' events' reply host'' →
      ∀ snapshot', reply ≠ .ok snapshot' := by
  obtain ⟨bytes, hencode⟩ := Snapshot.exists_encode_ofNestedLists (Parameter.readNesting + 1)
  have hsound := Snapshot.isSound_ofNestedLists (Parameter.readNesting + 1)
  have htext : (Snapshot.ofNestedLists (Parameter.readNesting + 1)).text =
      .ok (Snapshot.ofNestedLists (Parameter.readNesting + 1)).toJson.pretty := by
    rw [Snapshot.text, Snapshot.unwritable?_ofNestedLists]
  obtain ⟨events, host', hsave⟩ := isReady_ofRoot.exists_runs_save (fun _ _ _ _ _ h => h) hsound.ids htext hencode
  refine ⟨hsound.ids, events, _, host', hsave, ?_⟩
  rintro events' reply host'' hload snapshot' rfl
  obtain ⟨content, bytes', now, htext', hencode', hreply⟩ := exists_of_runs_loadSnapshot (runs_save hsave) hload
  have hunreadable : ¬ (Snapshot.ofNestedLists (Parameter.readNesting + 1)).IsReadable := by decide +kernel
  rw [(Loader.ofRoot.store.snapshotOf_of_encode hsound htext' hencode' now).2 hunreadable] at hreply
  cases hreply

end Store

end LintPreview
