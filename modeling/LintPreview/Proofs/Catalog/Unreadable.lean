import LintPreview.Proofs.Catalog.Store
import LintPreview.Proofs.Files.Unusable
import LintPreview.Proofs.Text.Decode
import LintPreview.Proofs.Text.Utf8

/-!
# What loading a snapshot comes to

* `Store.Escapes`: the failures that are not reported as those of an unreadable store.
* `Store.loadSnapshot_ends`: loading gives a snapshot without repeated ids or reports an unreadable store, except for
  these, which escape exactly from the files that they are told for.
-/

namespace LintPreview

/-- What cannot be decoded is no encoding of a text. -/
theorem Text.encode_ne_of_decode {bytes : List UInt8} {e : Utf8Error} (h : decode bytes = .error e) (s : Text) :
    encode s ≠ .ok bytes := by
  intro hs
  rw [decode_of_encode hs] at h
  cases h

namespace Store

open Program (Runs)

variable {s : Store} {host host' : Host} {now : Moment}

/-- The failures of loading that are not reported as those of an unreadable store: the bytes in the file encode no text,
or the path of the file cannot be used. -/
inductive Escapes (s : Store) (t : FileTree) : Failure → Prop where
  | bytes {content : List UInt8} {e : Text.Utf8Error} (file : t.HasFile s.file content)
      (noText : ∀ text, Text.encode text ≠ .ok content) (fault : Text.decode content = .error e) :
      Escapes s t (.undecodable e)
  | path {fault : PathFault} (unusable : s.file.IsUnusable fault) : Escapes s t (.path fault)

theorem textOf_eq_error_iff {content : List UInt8} {e : Text.Utf8Error} :
    FileTree.textOf content = .error e ↔ Text.decode content = .error e := by
  unfold FileTree.textOf
  cases Text.decode content <;> simp [Except.map]

/-- The failure of a read is reported as that of an unreadable store, or it escapes. -/
theorem error_of_snapshotOf {t : FileTree} {f : Failure} (h : s.snapshotOf now (t.readBytes s.file) = .error f) :
    (∃ reason, f = .cacheUnreadable s.file.toString reason) ∨ s.Escapes t f := by
  cases hread : t.readBytes s.file with
  | error fault =>
    rw [hread] at h
    cases h
    cases fault with
    | file e => exact .inl ⟨_, rfl⟩
    | unencodable run => exact .inr (.path ((FileTree.readBytes_eq_error_iff (by rintro e ⟨⟩)).mp hread))
    | embeddedNull => exact .inr (.path ((FileTree.readBytes_eq_error_iff (by rintro e ⟨⟩)).mp hread))
  | ok content =>
    rw [hread] at h
    unfold snapshotOf at h
    dsimp only at h
    split at h
    · rename_i e htext
      cases h
      have hdecode := textOf_eq_error_iff.mp htext
      exact .inr (.bytes (FileTree.readBytes_eq_ok_iff.mp hread) (Text.encode_ne_of_decode hdecode) hdecode)
    · split at h
      · cases h
      · cases h
        exact .inl ⟨_, rfl⟩

/-- What escapes is what loading ends with. -/
theorem Escapes.snapshotOf_eq {t : FileTree} {f : Failure} (h : s.Escapes t f) :
    s.snapshotOf now (t.readBytes s.file) = .error f := by
  cases h with
  | bytes file noText fault =>
    rw [FileTree.readBytes_eq_ok_iff.mpr file]
    simp only [snapshotOf, textOf_eq_error_iff.mpr fault, readFailure]
  | path unusable =>
    have hread := (FileTree.readBytes_eq_error_iff (t := t) (by rintro e rfl; cases unusable)).mpr unusable
    rw [hread]
    cases unusable <;> rfl

/-- Loading comes to an end, changes no file and gives a snapshot in which no id stands twice, or reports an unreadable
store, except where one of the failures that are told escapes. -/
theorem loadSnapshot_ends (s : Store) (host : Host) :
    (∃ events reply host', Runs (Host.Answers false) s.loadSnapshot host events reply host') ∧
    ∀ events reply host', Runs (Host.Answers false) s.loadSnapshot host events reply host' →
      host'.files = host.files ∧
      (∀ snapshot, reply = .ok snapshot → (snapshot.rules.map Rule.id).Nodup) ∧
      (∀ f, reply = .error f →
        (∃ reason, f = .cacheUnreadable s.file.toString reason) ∨ s.Escapes host.files f) ∧
      ∀ f, s.Escapes host.files f → reply = .error f := by
  refine ⟨Program.exists_runs (Host.isTotal_answers false) _ host, fun events reply host' h => ?_⟩
  obtain ⟨hfiles, bytes, now, ⟨-, hbytes⟩, rfl⟩ := runs_loadSnapshot h
  obtain rfl : bytes = host.files.readBytes s.file := hbytes.resolve_right fun h => Bool.false_ne_true h.1
  exact ⟨hfiles, fun snapshot hok => ids_nodup_of_snapshotOf hok, fun f => error_of_snapshotOf,
    fun f hf => hf.snapshotOf_eq⟩

/-- The byte `ff`, which stands in no text, behind an empty object. -/
theorem run_loadSnapshot_noText :
    let store : Store := ⟨Path.ofString "cache", Path.ofString "cache/rules_cache.json"⟩
    let host : Host := { files := ({} : FileTree).plant store.file (.file [0x7b, 0x7d, 0xff] false) }
    ((store.loadSnapshot.run Host.answerDisk host).1 matches .error (.undecodable _)) = true := by
  decide +kernel

end Store

end LintPreview
