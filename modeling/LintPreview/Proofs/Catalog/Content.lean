import LintPreview.Proofs.Catalog.Store
import LintPreview.Proofs.Json.Printable
import LintPreview.Proofs.Rule.Record
import LintPreview.Proofs.Schema.Time

/-!
# The content of the snapshot's file

* `Snapshot.asWritten`: the snapshot that its record reads as.
* `Snapshot.IsSound`: a snapshot of rules with sound default values and different ids, made at a universal time.
* `Snapshot.ofText_of_text`: the text of such a snapshot is read as this snapshot if all its rules are readable, and
  else it counts as malformed.
* `Store.snapshotOf_of_encode`: the same for the bytes of the file.
-/

namespace LintPreview

namespace Snapshot

/-- The snapshot that its record reads as. -/
def asWritten (s : Snapshot) : Snapshot := { s with rules := s.rules.map Rule.asWritten }

/-- A snapshot as the store makes it of rules that come from the lint tool. -/
structure IsSound (s : Snapshot) : Prop where
  rules : ∀ r ∈ s.rules, r.IsSound
  ids : (s.rules.map Rule.id).Nodup
  made : s.createdAt.IsUniversal

/-- All rules of a snapshot are readable. -/
def IsReadable (s : Snapshot) : Prop := ∀ r ∈ s.rules, r.IsReadable

instance : DecidablePred IsReadable := fun s => inferInstanceAs (Decidable (∀ r ∈ s.rules, r.IsReadable))

/-! ### The record -/

theorem checkRules_toJson {rules : List Rule} (h : (rules.map Rule.id).Nodup) :
    checkRules (Json.list (rules.map Rule.toJson)).asWritten = .valid (rules.map Rule.asWritten) := by
  have hitems := Checked.itemsFrom_map rules (fun r _ => Rule.check_toJson r) 0
  have hwritten : (Json.list (rules.map Rule.toJson)).asWritten = .list (rules.map fun r => r.toJson.asWritten) := by
    rw [Json.asWritten, Json.writtenItems_eq_map, List.map_map]
    rfl
  have hids : distinctIds (rules.map Rule.asWritten) = true := by
    rw [distinctIds_iff, List.map_map]
    exact h
  rw [hwritten, checkRules, Checked.list, hitems]
  show (if distinctIds (rules.map Rule.asWritten) then Checked.valid _ else _) = _
  rw [if_pos hids]

/-- The record of a snapshot is read as this snapshot. -/
theorem check_toJson {s : Snapshot} (hs : s.IsSound) (now : Moment) :
    check .jsonText now s.toJson.asWritten = .valid s.asWritten := by
  have hmoment : Checked.moment .jsonText (.text s.createdAt.snapshotText) = .valid s.createdAt := by
    rw [Checked.moment, Checked.wholeText, if_pos (Moment.isWhole_snapshotText hs.made),
      Moment.ofText_snapshotText hs.made]
    rfl
  show Snapshot.mk <$> (checkRules (Json.list (s.rules.map Rule.toJson)).asWritten).within (.key "rules")
    <*> (Checked.moment .jsonText (.text s.createdAt.snapshotText)).within (.key "created_at")
    <*> (Checked.orNull Checked.text (Json.ofTextOption s.toolVersion).asWritten).within (.key "tool_version") = _
  rw [checkRules_toJson hs.ids, hmoment, Checked.orNull_ofTextOption]
  rfl

/-- What is to hold for the record of a snapshot is to hold for the default values in it, five levels below. -/
theorem holds_toJson_iff {holds : ℕ → Json → Prop} (hp : Json.IsPartwise holds) (n : ℕ) (s : Snapshot) :
    holds (n + 5) s.toJson ↔ ∀ r ∈ s.rules, r.ForDefaults (holds n) := by
  have keys : (["rules", "created_at", "tool_version"] : List Text).Nodup := by decide
  refine Iff.trans (hp.object (n + 4) _ keys) ?_
  simp only [List.forall_mem_cons]
  rw [hp.list, List.forall_mem_map]
  simp only [Rule.holds_toJson_iff hp]
  constructor
  · exact fun h => h.1
  · exact fun h => ⟨h, hp.text _ _, hp.ofTextOption _ _, List.forall_mem_nil _⟩

theorem isSound_toJson {s : Snapshot} (hs : s.IsSound) : s.toJson.IsSound :=
  (holds_toJson_iff Json.isPartwise_isSound 0 s).mpr hs.rules

theorem isReadable_iff {s : Snapshot} :
    s.IsReadable ↔ s.toJson.filledDepth ≤ Checked.maxNesting ∧ s.toJson.FitsChars := by
  have hdepth := holds_toJson_iff Json.isPartwise_filledDepth Parameter.readNesting s
  have hints := holds_toJson_iff (Json.isPartwise_allInts (-(10 ^ (Checked.maxWholeChars - 1)) < ·)) 0 s
  rw [show Checked.maxNesting = Parameter.readNesting + 5 from rfl, hdepth, Json.FitsChars, hints]
  constructor
  · exact fun h => ⟨fun r hr ps hps p hp => (h r hr ps hps p hp).1, fun r hr ps hps p hp => (h r hr ps hps p hp).2⟩
  · exact fun h r hr ps hps p hp => ⟨h.1 r hr ps hps p hp, h.2 r hr ps hps p hp⟩

/-! ### The text -/

/-- The text of a snapshot is read as this snapshot if all its rules are readable, and else it counts as malformed. -/
theorem ofText_of_text {s : Snapshot} (hs : s.IsSound) {content : Text} (h : s.text = .ok content) (now : Moment) :
    (s.IsReadable → ofText now content = .valid s.asWritten) ∧
      (¬ s.IsReadable → ofText now content = .invalid [⟨.malformedJson, []⟩]) := by
  unfold text at h
  split at h
  · cases h
  · rename_i hwritable
    cases h
    obtain ⟨hwhole, hdepth⟩ := Json.spec_of_unwritable? _ hwritable
    have hnesting : s.toJson.nesting ≤ Json.maxDepth :=
      (Json.nesting_le_filledDepth _).trans (Nat.succ_le_of_lt (hdepth.trans (by decide)))
    have hread := Json.read_pretty (isSound_toJson hs) hnesting
    have hcheck := check_toJson hs now
    have hints : s.toJson.asWritten.allInts (-(10 ^ (Checked.maxWholeChars - 1)) < ·) =
        s.toJson.allInts (-(10 ^ (Checked.maxWholeChars - 1)) < ·) := Json.allInts_asWritten _ _
    rw [isReadable_iff, ofText, Checked.ofJsonText, hread]
    simp only [Json.isWhole_asWritten, hwhole, Json.filledDepth_asWritten, hints, hcheck]
    constructor
    · rintro ⟨hdepth, hfits⟩
      rw [if_pos (by rw [decide_eq_true hdepth, hfits]; rfl)]
    · intro hnot
      rw [if_neg]
      · rfl
      · intro hall
        rw [Bool.and_eq_true, Bool.and_eq_true, decide_eq_true_eq] at hall
        exact hnot ⟨hall.1.2, hall.2⟩

/-- Lists around `null`, one in the other. -/
def nestedLists : ℕ → Json
  | 0 => .null
  | n + 1 => .list [nestedLists n]

theorem isSound_nestedLists (n : ℕ) : (nestedLists n).IsSound := by
  induction n with
  | zero => exact .null
  | succ n ih =>
    refine .list fun v hv => ?_
    rw [List.mem_singleton] at hv
    rw [hv]
    exact ih

/-- A snapshot of one rule that has a default value of nested lists. -/
def ofNestedLists (n : ℕ) : Snapshot where
  rules := [{
    id := "a", name := "A", parameters := some [{ name := "p", kind := .array, defaultValue := nestedLists n }] }]
  createdAt := ({} : Host).moment

theorem isSound_ofNestedLists (n : ℕ) : (ofNestedLists n).IsSound where
  rules := by
    intro r hr ps hps p hp
    rw [ofNestedLists, List.mem_singleton] at hr
    subst hr
    cases hps
    rw [List.mem_singleton] at hp
    subst hp
    exact isSound_nestedLists n
  ids := List.nodup_singleton _
  made := Host.isUniversal_moment

/-- Such a snapshot is written when its lists are too deep to be read. -/
theorem ofText_text_ofNestedLists : ∃ content, (ofNestedLists (Parameter.readNesting + 1)).text = .ok content ∧
    ∀ now, ofText now content = .invalid [⟨.malformedJson, []⟩] := by
  have htext : (ofNestedLists (Parameter.readNesting + 1)).text =
      .ok (ofNestedLists (Parameter.readNesting + 1)).toJson.pretty := by
    have hwritable : (ofNestedLists (Parameter.readNesting + 1)).toJson.unwritable?
        (levelsAboveRules + Rule.maxLevels) = none := by decide +kernel
    rw [text, hwritable]
  have hunreadable : ¬ (ofNestedLists (Parameter.readNesting + 1)).IsReadable := by decide +kernel
  exact ⟨_, htext, fun now => (ofText_of_text (isSound_ofNestedLists _) htext now).2 hunreadable⟩

end Snapshot

/-- What the file that holds the text of a snapshot gives is what this text gives. -/
theorem Store.snapshotOf_of_text (store : Store) {s : Snapshot} {content : Text} {bytes : List UInt8}
    (htext : s.text = .ok content) (hbytes : Text.encode content = .ok bytes) (now : Moment) :
    store.snapshotOf now (.ok bytes) = match Snapshot.ofText now content with
      | .valid snapshot => .ok snapshot
      | .invalid faults => .error (store.unreadable ("corrupt snapshot (" ++ Text.ofNat faults.length ++ " errors)")) := by
  have hpretty : content = s.toJson.pretty := by
    unfold Snapshot.text at htext
    split at htext
    · cases htext
    · cases htext
      rfl
  have hcodes : FileTree.textOf bytes = .ok content.toList := by
    rw [FileTree.textOf, Text.decode_of_encode hbytes, hpretty]
    exact congrArg Except.ok (Text.unifyNewlines_pretty s.toJson)
  cases hof : Snapshot.ofText now content <;> simp only [snapshotOf, hcodes, Text.ofList_toList, hof]

/-- The file that holds the text of a snapshot gives this snapshot if all its rules are readable, and else a failure. -/
theorem Store.snapshotOf_of_encode (store : Store) {s : Snapshot} (hs : s.IsSound) {content : Text}
    {bytes : List UInt8} (htext : s.text = .ok content) (hbytes : Text.encode content = .ok bytes) (now : Moment) :
    (s.IsReadable → store.snapshotOf now (.ok bytes) = .ok s.asWritten) ∧
      (¬ s.IsReadable → store.snapshotOf now (.ok bytes) = .error (store.unreadable "corrupt snapshot (1 errors)")) := by
  obtain ⟨hreadable, hnot⟩ := Snapshot.ofText_of_text hs htext now
  rw [store.snapshotOf_of_text htext hbytes now]
  constructor
  · intro h
    rw [hreadable h]
  · intro h
    rw [hnot h]
    rfl

end LintPreview
