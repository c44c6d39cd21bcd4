import LintPreview.Catalog.Snapshot
import LintPreview.Proofs.Run.Surroundings
import LintPreview.Proofs.Schema.Checked

/-!
# The store on a disk

* `distinctIds_iff`: no id occurs twice.
* `Snapshot.ids_nodup_of_ofText`: the rules of every snapshot that a text holds have different ids.
* `Store.snapshotOf`: what reading the file comes to, from the outcome of the read and the moment.
* `Store.runs_loadSnapshot`: loading is one read, and changes no file.
* `Store.runs_load`: the rules that are loaded have different ids.
-/

namespace LintPreview

theorem distinctIds_iff {rules : List Rule} : distinctIds rules = true ↔ (rules.map Rule.id).Nodup := by
  induction rules with
  | nil => simp [distinctIds]
  | cons r rest ih =>
    have hhead : rest.all (fun s => s.id ≠ r.id) = true ↔ r.id ∉ rest.map Rule.id := by
      simp [List.all_eq_true, List.mem_map]
    rw [distinctIds, Bool.and_eq_true, ih, hhead, List.map_cons, List.nodup_cons]

namespace Snapshot

theorem ids_nodup_of_checkRules {v : Json} {rules : List Rule} (h : checkRules v = .valid rules) :
    (rules.map Rule.id).Nodup := by
  obtain ⟨rules', -, h⟩ := Checked.andThen_eq_valid_iff.mp h
  split at h
  · rename_i hd
    cases h
    exact distinctIds_iff.mp hd
  · cases h

theorem ids_nodup_of_check {origin : Checked.Origin} {now : Moment} {v : Json} {s : Snapshot}
    (h : check origin now v = .valid s) : (s.rules.map Rule.id).Nodup := by
  cases v with
  | object es =>
    obtain ⟨_, _, h₁, -, rfl⟩ := Checked.seq_eq_valid_iff.mp h
    obtain ⟨_, _, h₂, -, rfl⟩ := Checked.seq_eq_valid_iff.mp h₁
    obtain ⟨rules, h₃, rfl⟩ := Checked.map_eq_valid_iff.mp h₂
    rcases Checked.withDefault_eq_valid_iff.mp h₃ with ⟨v, -, hv⟩ | ⟨-, rfl⟩
    · exact ids_nodup_of_checkRules hv
    · exact List.nodup_nil
  | _ => cases h

theorem ids_nodup_of_ofText {now : Moment} {content : Text} {s : Snapshot} (h : ofText now content = .valid s) :
    (s.rules.map Rule.id).Nodup := by
  obtain ⟨v, -, h⟩ := Checked.ofJsonText_eq_valid h
  exact ids_nodup_of_check h

/-- A snapshot is made of rules with different ids only. -/
theorem spec_of_make {rules : List Rule} {now : Moment} {version : Option Text} {s : Snapshot}
    (h : make rules now version = .valid s) : s.rules = rules ∧ s.createdAt = now ∧ (s.rules.map Rule.id).Nodup := by
  unfold make at h
  split at h
  · rename_i hids
    cases h
    exact ⟨rfl, rfl, distinctIds_iff.mp hids⟩
  · cases h

end Snapshot

namespace Store

open Program (Runs)

variable {flaky : Bool} {host host' : Host} {events : List DiskEvent}

/-- The snapshot in the bytes that were read, or why there is none. -/
def snapshotOf (s : Store) (now : Moment) : Except PathFault (List UInt8) → Except Failure Snapshot
  | .error fault => .error (s.readFailure (.path fault))
  | .ok content =>
    match FileTree.textOf content with
    | .error e => .error (s.readFailure (.undecodable e))
    | .ok cs =>
      match Snapshot.ofText now (Text.ofList cs) with
      | .valid snapshot => .ok snapshot
      | .invalid faults => .error (s.unreadable ("corrupt snapshot (" ++ Text.ofNat faults.length ++ " errors)"))

theorem runs_readText {path : Path} {reply : Except Failure Text}
    (h : Runs (Host.Answers flaky) (Disk.readText path) host events reply host') : host' = host ∧
      ∃ bytes, Host.Answers flaky (.read path) host bytes host ∧ reply = match bytes with
        | .error fault => .error (.path fault)
        | .ok content => ((FileTree.textOf content).mapError .undecodable).map Text.ofList := by
  obtain ⟨bytes, host₁, _, answers, hrest, -⟩ := Program.runs_perform_bind_iff.mp h
  obtain rfl : host₁ = host := answers.1
  cases bytes with
  | error fault =>
    obtain ⟨-, rfl, rfl⟩ := Program.runs_done_iff.mp hrest
    exact ⟨rfl, .error fault, answers, rfl⟩
  | ok content =>
    have hend : host' = host₁ ∧ reply = ((FileTree.textOf content).mapError .undecodable).map Text.ofList := by
      cases htext : FileTree.textOf content with
      | error e =>
        simp only [htext] at hrest
        obtain ⟨-, rfl, rfl⟩ := Program.runs_done_iff.mp hrest
        exact ⟨rfl, rfl⟩
      | ok cs =>
        simp only [htext] at hrest
        obtain ⟨-, rfl, rfl⟩ := Program.runs_done_iff.mp hrest
        exact ⟨rfl, rfl⟩
    exact ⟨hend.1, .ok content, answers, hend.2⟩

/-- Loading reads the file once and changes none. -/
theorem runs_loadSnapshot {s : Store} {reply : Except Failure Snapshot}
    (h : Runs (Host.Answers flaky) s.loadSnapshot host events reply host') : host'.files = host.files ∧
      ∃ bytes now, Host.Answers flaky (.read s.file) host bytes host ∧ reply = s.snapshotOf now bytes := by
  obtain ⟨content, host₁, _, _, hread, hrest, -⟩ := Program.runs_bind_iff.mp h
  obtain ⟨rfl, bytes, answers, rfl⟩ := runs_readText hread
  cases bytes with
  | error fault =>
    obtain ⟨-, rfl, rfl⟩ := Program.runs_done_iff.mp hrest
    exact ⟨rfl, .error fault, host'.moment, answers, rfl⟩
  | ok bytes =>
    cases htext : FileTree.textOf bytes with
    | error e =>
      simp only [htext] at hrest
      obtain ⟨-, rfl, rfl⟩ := Program.runs_done_iff.mp hrest
      refine ⟨rfl, .ok bytes, host'.moment, answers, ?_⟩
      simp only [snapshotOf, htext]
    | ok cs =>
      simp only [htext] at hrest
      obtain ⟨now, host₂, _, ⟨-, rfl⟩, hrest, -⟩ := Program.runs_perform_bind_iff.mp hrest
      have hend : host' = { host₁ with moment := now } ∧ reply = s.snapshotOf now (.ok bytes) := by
        simp only [snapshotOf, htext]
        cases hchecked : Snapshot.ofText now (Text.ofList cs) with
        | valid snapshot =>
          simp only [hchecked] at hrest
          obtain ⟨-, rfl, rfl⟩ := Program.runs_done_iff.mp hrest
          exact ⟨rfl, rfl⟩
        | invalid faults =>
          simp only [hchecked] at hrest
          obtain ⟨-, rfl, rfl⟩ := Program.runs_done_iff.mp hrest
          exact ⟨rfl, rfl⟩
      obtain ⟨rfl, rfl⟩ := hend
      exact ⟨rfl, .ok bytes, now, answers, rfl⟩

theorem ids_nodup_of_snapshotOf {s : Store} {now : Moment} {bytes : Except PathFault (List UInt8)}
    {snapshot : Snapshot} (h : s.snapshotOf now bytes = .ok snapshot) : (snapshot.rules.map Rule.id).Nodup := by
  unfold snapshotOf at h
  split at h
  · cases h
  · split at h
    · cases h
    · split at h
      · rename_i hchecked
        cases h
        exact Snapshot.ids_nodup_of_ofText hchecked
      · cases h

/-- Loading the rules changes no file, and the rules that are loaded are those of the snapshot in the file. -/
theorem runs_load {s : Store} {reply : Except Failure (List Rule)}
    (h : Runs (Host.Answers flaky) s.load host events reply host') : host'.files = host.files ∧
      ∃ bytes now, Host.Answers flaky (.read s.file) host bytes host ∧
        reply = (s.snapshotOf now bytes).map (·.rules) := by
  obtain ⟨loaded, host₁, _, _, hload, hrest, -⟩ := Program.runs_bind_iff.mp h
  obtain ⟨-, rfl, rfl⟩ := Program.runs_done_iff.mp hrest
  obtain ⟨hfiles, bytes, now, answers, rfl⟩ := runs_loadSnapshot hload
  exact ⟨hfiles, bytes, now, answers, rfl⟩

theorem ids_nodup_of_load {s : Store} {rules : List Rule}
    (h : Runs (Host.Answers flaky) s.load host events (.ok rules) host') : (rules.map Rule.id).Nodup := by
  obtain ⟨-, bytes, now, -, hrules⟩ := runs_load h
  cases hs : s.snapshotOf now bytes with
  | error f =>
    rw [hs] at hrules
    cases hrules
  | ok snapshot =>
    rw [hs] at hrules
    cases hrules
    exact ids_nodup_of_snapshotOf hs

end Store

end LintPreview
