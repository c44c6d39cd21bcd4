import LintPreview.Proofs.Catalog.Content
import LintPreview.Proofs.Files.Temporary

/-!
# Writing a snapshot

* `FileTree.IsBeside`: a tree with one more file.
* `Store.Leaves`: nothing is changed but that directories are made, and perhaps a file that was made for a while is
  left.
* `Store.runs_giveUp`: giving up removes this file, or leaves it.
* `Store.runs_save`: a snapshot that could be written stands in the file of the store; if it could not, no file that was
  there is changed.
-/

namespace LintPreview

/-! ### One more file -/

/-- The tree `t'` is the tree `t` with one more file, at a location where nothing was. -/
structure FileTree.IsBeside (t : FileTree) (loc : Location) (t' : FileTree) : Prop where
  free : t.get? loc = none
  working : t'.working = t.working
  file : ∃ content executable, t'.get? loc = some (.file content executable)
  other : ∀ l ≠ loc, t'.get? l = t.get? l

namespace FileTree.IsBeside

variable {t t' : FileTree} {loc : Location} {p : Path}

theorem put_of_free (h : t.get? loc = none) (content : List UInt8) (executable : Bool) :
    t.IsBeside loc (t.put loc (.file content executable)) := by
  have hloc : loc ≠ [] := FileTree.ne_nil_of_get? (by rw [h]; nofun)
  refine ⟨h, rfl, ⟨content, executable, ?_⟩, fun l hl => ?_⟩
  · rw [FileTree.get?_put hloc, if_pos rfl]
  · rw [FileTree.get?_put hloc, if_neg hl]

theorem ne_directory (h : t.IsBeside loc t') : t'.get? loc ≠ some .directory := by
  obtain ⟨content, executable, he⟩ := h.file
  rw [he]
  nofun

theorem put (h : t.IsBeside loc t') (content : List UInt8) (executable : Bool) :
    t.IsBeside loc (t'.put loc (.file content executable)) := by
  have hloc := FileTree.ne_nil_of_get? h.ne_directory
  refine ⟨h.free, h.working, ⟨content, executable, ?_⟩, fun l hl => ?_⟩
  · rw [FileTree.get?_put hloc, if_pos rfl]
  · rw [FileTree.get?_put hloc, if_neg hl, h.other l hl]

theorem keepsDirectories (h : t.IsBeside loc t') : t.KeepsDirectories t' := by
  refine ⟨h.working, fun l hl => ?_⟩
  rw [h.other l]
  · exact hl
  · rintro rfl
    rw [h.free] at hl
    cases hl

theorem hasFile (h : t.IsBeside loc t') {content : List UInt8} (hp : t.HasFile p content) : t'.HasFile p content := by
  obtain ⟨l, executable, hl, he⟩ := hp
  refine ⟨l, executable, h.keepsDirectories.locate hl, ?_⟩
  rw [h.other l, he]
  rintro rfl
  rw [h.free] at he
  cases he

/-- The one file stands only where it was made. -/
theorem hasNoFile (h : t.IsBeside loc t') (hp : t.HasNoFile p)
    (hloc : ∀ names, p.parts.mapM Text.encodeName = .ok names → FileTree.lead (t.startOf p) names ≠ loc) :
    t'.HasNoFile p := by
  intro names hnames content executable he
  have hstart : t'.startOf p = t.startOf p := by rw [FileTree.startOf, FileTree.startOf, h.working]
  rw [hstart, h.other _ (hloc names hnames)] at he
  exact hp names hnames content executable he

/-- Without the one file the tree is as before. -/
theorem erase (h : t.IsBeside loc t') : t.AddsDirectories (t'.erase loc) := by
  refine ⟨h.working, fun l => .inl ?_⟩
  rw [FileTree.get?_erase (FileTree.ne_nil_of_get? h.ne_directory)]
  split
  · rename_i hl
    rw [hl, h.free]
  · rename_i hl
    exact h.other l hl

/-- Writing to the path of the one file changes this file only. -/
theorem write (h : t.IsBeside loc t') (hp : t'.locate p = .ok loc) (content : List UInt8) :
    ∃ t₁, t'.write p content = .ok t₁ ∧ t.IsBeside loc t₁ ∧
      ∃ executable, t₁.get? loc = some (.file content executable) := by
  obtain ⟨before, executable, he⟩ := h.file
  refine ⟨t'.put loc (.file content executable), ?_, h.put content executable, executable, ?_⟩
  · unfold FileTree.write
    rw [hp]
    simp only [bind, Except.bind, he]
    rfl
  · rw [FileTree.get?_put (FileTree.ne_nil_of_get? h.ne_directory), if_pos rfl]

theorem removeFile (h : t.IsBeside loc t') (hp : t'.locate p = .ok loc) : t'.removeFile p = .ok (t'.erase loc) := by
  obtain ⟨content, executable, he⟩ := h.file
  unfold FileTree.removeFile
  rw [hp]
  dsimp only
  rw [he]
  rfl

end FileTree.IsBeside

/-- What comes of moving a file to a path. -/
theorem FileTree.eq_of_replace {t t' : FileTree} {source : Text} {target : Path} (h : t.replace source target = .ok t') :
    ∃ from? to? e, t.locate (Path.ofString source) = .ok from? ∧ t.locate target = .ok to? ∧ t.get? from? = some e ∧
      t.get? to? ≠ some .directory ∧ t' = (t.erase from?).put to? e := by
  obtain ⟨from?, hfrom, h⟩ := exists_of_bind_ok h
  obtain ⟨to?, hto, h⟩ := exists_of_bind_ok h
  refine ⟨from?, to?, ?_⟩
  cases he : t.get? from? with
  | none =>
    rw [he] at h
    cases h
  | some e =>
    refine ⟨e, eq_ok_of_mapError hfrom, eq_ok_of_mapError hto, rfl, ?_⟩
    rw [he] at h
    cases hentry : t.get? to? with
    | none =>
      rw [hentry] at h
      cases h
      exact ⟨nofun, rfl⟩
    | some old =>
      rw [hentry] at h
      cases old with
      | directory => cases h
      | file _ _ =>
        cases h
        exact ⟨nofun, rfl⟩

/-- A file moved to a path can be read there. -/
theorem FileTree.hasFile_of_replace {t t' : FileTree} {source : Text} {target : Path} {from? : Location}
    {content : List UInt8} {executable : Bool} (h : t.replace source target = .ok t')
    (hfrom : t.locate (Path.ofString source) = .ok from?) (he : t.get? from? = some (.file content executable)) :
    t'.HasFile target content := by
  obtain ⟨from', to?, e, hfrom', hto, he', hnot, rfl⟩ := eq_of_replace h
  cases hfrom.symm.trans hfrom'
  cases he.symm.trans he'
  have hfile : t.get? from? ≠ some .directory := by
    rw [he]
    nofun
  -- The source is erased first, which matters only if both paths lead to the same place.
  have hnot' : (t.erase from?).get? to? ≠ some .directory := by
    rw [get?_erase (ne_nil_of_get? hfile)]
    split
    · nofun
    · exact hnot
  have hkeeps := (keepsDirectories_erase hfile).trans (keepsDirectories_put hnot' (.file content executable))
  refine ⟨to?, executable, hkeeps.locate hto, ?_⟩
  rw [get?_put (ne_nil_of_get? hnot), if_pos rfl]

/-- A file can be moved to every path that leads to no directory. -/
theorem FileTree.exists_replace {t : FileTree} {source : Text} {target : Path} {from? to? : Location}
    {content : List UInt8} {executable : Bool} (hfrom : t.locate (Path.ofString source) = .ok from?)
    (he : t.get? from? = some (.file content executable)) (hto : t.locate target = .ok to?)
    (hnot : t.get? to? ≠ some .directory) : ∃ t', t.replace source target = .ok t' := by
  unfold replace
  rw [hfrom, hto]
  simp only [Except.mapError, bind, Except.bind, he]
  cases h : t.get? to? with
  | none => exact ⟨_, rfl⟩
  | some e =>
    cases e with
    | directory => exact absurd h hnot
    | file _ _ => exact ⟨_, rfl⟩

namespace Store

open Program (Runs)
open FileTree (IsBeside AddsDirectories)

variable {host host' : Host} {events : List DiskEvent}

/-- Nothing is changed but that directories are made, and perhaps a file that was made for a while is left. -/
inductive Leaves (s : Store) (t t' : FileTree) : Prop where
  | nothing (adds : t.AddsDirectories t')
  | temporary {t₁ : FileTree} {loc : Location} {middle : Text} (adds : t.AddsDirectories t₁)
      (slash : .char '/' ∉ middle.toList)
      (located : t₁.locate (Path.ofString (Host.temporaryPath s.directory middle)) = .ok loc)
      (beside : t₁.IsBeside loc t')

theorem Leaves.hasFile {s : Store} {t t' : FileTree} {p : Path} {content : List UInt8} (h : s.Leaves t t')
    (hp : t.HasFile p content) : t'.HasFile p content := by
  cases h with
  | nothing adds => exact adds.hasFile hp
  | temporary adds slash located beside => exact beside.hasFile (adds.hasFile hp)

theorem Leaves.hasNoFile {s : Store} {t t' : FileTree} {p : Path} (h : s.Leaves t t') (hapart : p.IsApart)
    (hp : t.HasNoFile p) : t'.HasNoFile p := by
  cases h with
  | nothing adds => exact adds.hasNoFile hp
  | temporary adds slash located beside =>
    exact beside.hasNoFile (adds.hasNoFile hp) fun _ hnames => hapart.ne_lead slash located hnames

/-- Giving up removes the file that was made for a while, or leaves it. -/
theorem runs_giveUp {α : Type} {t : FileTree} {loc : Location} {temporary : Text} {f : Failure}
    {reply : Except Failure α} (ht : t.IsBeside loc host.files)
    (hloc : host.files.locate (Path.ofString temporary) = .ok loc)
    (h : Runs (Host.Answers false) (giveUp temporary f) host events reply host') :
    (∃ f', reply = .error f') ∧ (t.AddsDirectories host'.files ∨ t.IsBeside loc host'.files) := by
  obtain ⟨removed, host₁, _, hremove, hrest, -⟩ := Program.runs_perform_bind_iff.mp h
  rcases hremove with hremove | ⟨⟨fault, rfl⟩, rfl⟩
  · have hanswer : (removed, host₁) = (.ok (), { host with files := host.files.erase loc }) := by
      rw [hremove, ht.removeFile hloc]
      rfl
    cases hanswer
    obtain ⟨-, rfl, rfl⟩ := Program.runs_done_iff.mp hrest
    exact ⟨⟨f, rfl⟩, .inl ht.erase⟩
  · obtain ⟨-, rfl, rfl⟩ := Program.runs_done_iff.mp hrest
    exact ⟨⟨_, rfl⟩, .inr ht⟩

/-- What can come of writing a snapshot of rules: it stands in the file of the store, or no file that was there is
changed. -/
inductive Saves (s : Store) (rules : List Rule) (t t' : FileTree) : Except Failure Snapshot → Prop where
  | saved {snapshot : Snapshot} {content : Text} {bytes : List UInt8} (kept : snapshot.rules = rules)
      (ids : (snapshot.rules.map Rule.id).Nodup) (made : snapshot.createdAt.IsUniversal)
      (text : snapshot.text = .ok content) (encoded : Text.encode content = .ok bytes)
      (file : t'.HasFile s.file bytes) : Saves s rules t t' (.ok snapshot)
  | failed {f : Failure} (unchanged : s.Leaves t t') : Saves s rules t t' (.error f)

/-- Writing to the file that was made for a while changes this file only. -/
theorem isBeside_of_write {t : FileTree} {loc : Location} {p : Path} {content : Text} {written : Except PathFault Unit}
    (ht : t.IsBeside loc host.files) (hp : host.files.locate p = .ok loc)
    (h : Host.Answers false (.write p content) host written host') :
    t.IsBeside loc host'.files ∧ (written = .ok () → ∃ bytes executable, Text.encode content = .ok bytes ∧
      host'.files.get? loc = some (.file bytes executable)) := by
  have hchanged : ∀ bytes, ∃ files executable, host.changed (host.files.write p bytes) =
      (.ok (), { host with files }) ∧ t.IsBeside loc files ∧ files.get? loc = some (.file bytes executable) := by
    intro bytes
    obtain ⟨files, hwrite, hfiles, executable, he⟩ := ht.write hp bytes
    rw [hwrite]
    exact ⟨files, executable, rfl, hfiles, he⟩
  rcases h with h | ⟨⟨fault, rfl⟩, bytes, rfl⟩
  · rw [Host.answerDisk] at h
    cases hencode : Text.encode content with
    | ok bytes =>
      obtain ⟨files, executable, hanswer, hfiles, he⟩ := hchanged bytes
      rw [hencode] at h
      dsimp only at h
      rw [hanswer] at h
      cases h
      exact ⟨hfiles, fun _ => ⟨bytes, executable, rfl, he⟩⟩
    | error run =>
      obtain ⟨files, executable, hanswer, hfiles, -⟩ := hchanged []
      rw [hencode] at h
      dsimp only at h
      rw [hanswer] at h
      cases h
      exact ⟨hfiles, nofun⟩
  · obtain ⟨files, executable, hanswer, hfiles, -⟩ := hchanged bytes
    rw [hanswer]
    exact ⟨hfiles, nofun⟩

/-- Making directories, or failing to, changes no file. -/
theorem addsDirectories_of_answers {flaky : Bool} {path : Path} {made? : Except PathFault Unit}
    (h : Host.Answers flaky (.makeDirectories path) host made? host') : host.files.AddsDirectories host'.files := by
  rcases h with h | ⟨-, rfl⟩
  · cases hfiles : host.files.withDirectory path with
    | error fault =>
      rw [hfiles] at h
      cases h
      exact .refl _
    | ok files =>
      rw [hfiles] at h
      cases h
      exact FileTree.addsDirectories_of_withDirectory hfiles
  · exact .refl _

/-! ### The parts of a save -/

/-- What is left of a save when the snapshot has been written beside the file. -/
def place (s : Store) (snapshot : Snapshot) (temporary : Text) : Disk (Except Failure Snapshot) := do
  match ← Disk.replace temporary s.file with
  | .error fault => giveUp temporary (.path fault)
  | .ok () => return .ok snapshot

/-- What is left of a save when an empty file has been made for the snapshot. -/
def fill (s : Store) (snapshot : Snapshot) (temporary : Text) : Disk (Except Failure Snapshot) :=
  match snapshot.text with
  | .error fault => giveUp temporary (.unwritable fault)
  | .ok text => do
    match ← Disk.write (Path.ofString temporary) text with
    | .error fault => giveUp temporary (.path fault)
    | .ok () => s.place snapshot temporary

/-- What is left of a save when the directory is there. -/
def putBeside (s : Store) (snapshot : Snapshot) : Disk (Except Failure Snapshot) := do
  match ← Disk.makeTemporary s.directory with
  | .error fault => return .error (.path fault)
  | .ok temporary => s.fill snapshot temporary

/-- What is left of a save when the snapshot is made. -/
def put (s : Store) (snapshot : Snapshot) : Disk (Except Failure Snapshot) := do
  match ← Disk.makeDirectories s.directory with
  | .error fault => return .error (.path fault)
  | .ok () => s.putBeside snapshot

/-- A save asks for the time, and makes a snapshot or ends. -/
theorem save_eq (s : Store) (rules : List Rule) (version : Option Text) :
    s.save rules version = .ask .now fun now => match Snapshot.make rules now version with
      | .invalid faults => .done (.error (.badRecord faults))
      | .valid snapshot => s.put snapshot :=
  rfl

/-- What follows when an empty file has been made for the snapshot. -/
theorem runs_fill {s : Store} {snapshot : Snapshot} {t₀ t : FileTree} {loc : Location} {middle temporary : Text}
    {reply : Except Failure Snapshot} (ids : (snapshot.rules.map Rule.id).Nodup)
    (made : snapshot.createdAt.IsUniversal) (hadds : t₀.AddsDirectories t) (ht : t.IsBeside loc host.files)
    (hslash : .char '/' ∉ middle.toList) (htemporary : temporary = Host.temporaryPath s.directory middle)
    (hloc : t.locate (Path.ofString temporary) = .ok loc)
    (h : Runs (Host.Answers false) (s.fill snapshot temporary) host events reply host') :
    s.Saves snapshot.rules t₀ host'.files reply := by
  -- Whatever fails on the way, the tree is still the one before with the file that was made for a while.
  have hgiveUp : ∀ {f : Failure} {host₁ : Host} {events₁ : List DiskEvent}, t.IsBeside loc host₁.files →
      Runs (Host.Answers false) (giveUp temporary f) host₁ events₁ reply host' →
      s.Saves snapshot.rules t₀ host'.files reply := by
    intro f host₁ events₁ ht₁ h₁
    obtain ⟨⟨f', rfl⟩, hclean | hleft⟩ := runs_giveUp ht₁ (ht₁.keepsDirectories.locate hloc) h₁
    · exact .failed (.nothing (hadds.trans hclean))
    · exact .failed (.temporary hadds hslash (htemporary ▸ hloc) hleft)
  unfold fill at h
  cases htext : snapshot.text with
  | error fault =>
    rw [htext] at h
    exact hgiveUp ht h
  | ok text =>
    rw [htext] at h
    obtain ⟨written, host₁, _, hwrite, h₁, -⟩ := Program.runs_perform_bind_iff.mp h
    obtain ⟨ht₁, hwritten⟩ := isBeside_of_write ht (ht.keepsDirectories.locate hloc) hwrite
    cases written with
    | error fault => exact hgiveUp ht₁ h₁
    | ok _ =>
      obtain ⟨bytes, executable, hencode, he⟩ := hwritten rfl
      obtain ⟨moved, host₂, _, hreplace, h₂, -⟩ := Program.runs_perform_bind_iff.mp h₁
      rcases hreplace with hreplace | ⟨⟨fault, rfl⟩, rfl⟩
      · cases hfiles : host₁.files.replace temporary s.file with
        | error fault =>
          rw [hfiles] at hreplace
          cases hreplace
          exact hgiveUp ht₁ h₂
        | ok files =>
          rw [hfiles] at hreplace
          cases hreplace
          obtain ⟨-, rfl, rfl⟩ := Program.runs_done_iff.mp h₂
          have hfile := FileTree.hasFile_of_replace hfiles (ht₁.keepsDirectories.locate hloc) he
          exact .saved rfl ids made htext hencode hfile
      · exact hgiveUp ht₁ h₂

/-- A snapshot that could be written stands in the file; if it could not, no file is changed. -/
theorem runs_save {s : Store} {rules : List Rule} {version : Option Text} {reply : Except Failure Snapshot}
    (h : Runs (Host.Answers false) (s.save rules version) host events reply host') :
    s.Saves rules host.files host'.files reply := by
  obtain ⟨now, host₁, _, ⟨huniversal, rfl⟩, h₁, -⟩ := Program.runs_perform_bind_iff.mp h
  cases hmake : Snapshot.make rules now version with
  | invalid faults =>
    simp only [hmake] at h₁
    obtain ⟨-, rfl, rfl⟩ := Program.runs_done_iff.mp h₁
    exact .failed (.nothing (.refl _))
  | valid snapshot =>
    simp only [hmake] at h₁
    obtain ⟨rfl, rfl, hids⟩ := Snapshot.spec_of_make hmake
    obtain ⟨made?, host₂, _, hdirs, h₂, -⟩ := Program.runs_perform_bind_iff.mp h₁
    have hadds := addsDirectories_of_answers hdirs
    cases made? with
    | error fault =>
      obtain ⟨-, rfl, rfl⟩ := Program.runs_done_iff.mp h₂
      exact .failed (.nothing hadds)
    | ok _ =>
      obtain ⟨temporary?, host₃, _, htemp, h₃, -⟩ := Program.runs_perform_bind_iff.mp h₂
      rcases htemp with ⟨middle, loc, hslash, rfl, hloc, hfree, rfl⟩ | ⟨⟨fault, rfl⟩, rfl⟩
      · exact runs_fill hids huniversal hadds (IsBeside.put_of_free hfree [] false) hslash rfl hloc h₃
      · obtain ⟨-, rfl, rfl⟩ := Program.runs_done_iff.mp h₃
        exact .failed (.nothing hadds)

/-- Nothing stands in the way of a save: the directory can be made, there is a free name in it, and no directory stands
where the file is to be. -/
structure IsReady (s : Store) (host : Host) (t : FileTree) (middle : Text) (loc to? : Location) : Prop where
  moment : host.moment.IsUniversal
  directory : host.files.withDirectory s.directory = .ok t
  slash : .char '/' ∉ middle.toList
  temporary : t.locate (Path.ofString (Host.temporaryPath s.directory middle)) = .ok loc
  free : t.get? loc = none
  file : t.locate s.file = .ok to?
  noDirectory : t.get? to? ≠ some .directory

/-- A save in whose way nothing stands can return, wherever an act that removes nothing can be answered as a disk answers
it. -/
theorem IsReady.exists_runs_save {w : Program.World DiskAct DiskAct.Reply Host}
    (hw : ∀ act h reply h', (∀ path, act ≠ .remove path) → Host.Answers false act h reply h' → w act h reply h')
    {s : Store} {t : FileTree} {middle : Text} {loc to? : Location} {rules : List Rule}
    {version : Option Text} {content : Text} {bytes : List UInt8} (h : s.IsReady host t middle loc to?)
    (hids : (rules.map Rule.id).Nodup) (htext : Snapshot.text ⟨rules, host.moment, version⟩ = .ok content)
    (hencode : Text.encode content = .ok bytes) :
    ∃ events host', Runs w (s.save rules version) host events (.ok ⟨rules, host.moment, version⟩) host' := by
  have hmake : Snapshot.make rules host.moment version = .valid ⟨rules, host.moment, version⟩ := by
    rw [Snapshot.make, if_pos (distinctIds_iff.mpr hids)]
  have hbeside := IsBeside.put_of_free h.free [] false
  have htemporary := hbeside.keepsDirectories.locate h.temporary
  obtain ⟨t₁, hwrite, ht₁, executable, he⟩ := hbeside.write htemporary bytes
  have hto := ht₁.keepsDirectories.locate h.file
  have hnot : t₁.get? to? ≠ some .directory := by
    by_cases hloc : to? = loc
    · rw [hloc, he]
      nofun
    · rw [ht₁.other to? hloc]
      exact h.noDirectory
  obtain ⟨t₂, hreplace⟩ := FileTree.exists_replace (ht₁.keepsDirectories.locate h.temporary) he hto hnot
  have hnow : w .now host host.moment host := hw _ _ _ _ nofun ⟨h.moment, rfl⟩
  have hdirectory : w (.makeDirectories s.directory) host (.ok ()) { host with files := t } := by
    refine hw _ _ _ _ nofun (.inl ?_)
    rw [h.directory]
    rfl
  have hmade : w (.makeTemporary s.directory) { host with files := t }
      (.ok (Host.temporaryPath s.directory middle)) { host with files := t.put loc (.file [] false) } :=
    hw _ _ _ _ nofun (.inl ⟨middle, loc, h.slash, rfl, h.temporary, h.free, rfl⟩)
  generalize Host.temporaryPath s.directory middle = temporary at *
  have hwritten : w (.write (Path.ofString temporary) content) { host with files := t.put loc (.file [] false) } (.ok ())
      { host with files := t₁ } := by
    refine hw _ _ _ _ nofun (.inl ?_)
    rw [Host.answerDisk, hencode]
    dsimp only
    rw [hwrite]
    rfl
  have hmoved : w (.replace temporary s.file) { host with files := t₁ } (.ok ()) { host with files := t₂ } := by
    refine hw _ _ _ _ nofun (.inl ?_)
    rw [hreplace]
    rfl
  refine ⟨[⟨.now, host.moment⟩, ⟨.makeDirectories s.directory, .ok ()⟩, ⟨.makeTemporary s.directory, .ok temporary⟩,
    ⟨.write (Path.ofString temporary) content, .ok ()⟩, ⟨.replace temporary s.file, .ok ()⟩],
    { host with files := t₂ }, Program.runs_perform_bind_iff.mpr ⟨host.moment, host, _, hnow, ?_, rfl⟩⟩
  simp only [hmake]
  refine Program.runs_perform_bind_iff.mpr ⟨.ok (), _, _, hdirectory, ?_, rfl⟩
  refine Program.runs_perform_bind_iff.mpr ⟨.ok temporary, _, _, hmade, ?_, rfl⟩
  simp only [htext]
  refine Program.runs_perform_bind_iff.mpr ⟨.ok (), _, _, hwritten, ?_, rfl⟩
  exact Program.runs_perform_bind_iff.mpr ⟨.ok (), _, _, hmoved, .done _ _, rfl⟩

end Store

end LintPreview
