import LintPreview.Proofs.Catalog.Save
import LintPreview.Proofs.Run.Partway

/-!
# The file of a store is replaced as a whole

* `FileTree.contentAt?`: the content of the file where a path leads, whatever stands on the way.
* `FileTree.ChangesOnly`: nothing is changed but that directories are made, and what stands at one location.
* `Host.TidyAnswers`: the answers of a disk on which a file can be removed that is there. Everything else can fail.
* `Store.stays_save`: at every moment of a save the file has the content of before or the whole of the new one. In the end
  it has the new one if the save returns; if it does not, no file is changed, and none is left.
-/

namespace LintPreview

/-! ### What stands at a place -/

namespace FileTree

variable {t t₁ t' : FileTree} {p : Path} {content : List UInt8} {loc l : Location}

/-- Where a path leads, whatever stands on the way, if its names have bytes. -/
def placeOf? (t : FileTree) (p : Path) : Option Location := (p.parts.mapM Text.encodeName).toOption.map (lead (t.startOf p))

/-- The content of the file at a location. -/
def fileAt? (t : FileTree) (l : Location) : Option (List UInt8) :=
  match t.get? l with
  | some (.file content _) => some content
  | _ => none

/-- The content of the file where a path leads, whatever stands on the way. -/
def contentAt? (t : FileTree) (p : Path) : Option (List UInt8) := (t.placeOf? p).bind t.fileAt?

theorem placeOf?_of_locate (h : t.locate p = .ok l) : t.placeOf? p = some l := by
  obtain ⟨_, names, -, hnames, -, -, hwalk⟩ := locate_eq_ok_iff.mp h
  rw [placeOf?, hnames, eq_lead_of_walk hwalk]
  rfl

theorem placeOf?_of_working (h : t'.working = t.working) (p : Path) : t'.placeOf? p = t.placeOf? p := by
  rw [placeOf?, placeOf?, startOf, startOf, h]

theorem HasFile.contentAt? (h : t.HasFile p content) : t.contentAt? p = some content := by
  obtain ⟨l, executable, hl, he⟩ := h
  rw [FileTree.contentAt?, placeOf?_of_locate hl, Option.bind_some, fileAt?, he]

/-- Nothing is changed but that directories are made where nothing was, and what stands at one location. -/
structure ChangesOnly (place : Option Location) (t t' : FileTree) : Prop where
  working : t'.working = t.working
  entry : ∀ l, some l ≠ place → t'.get? l = t.get? l ∨ t.get? l = none ∧ t'.get? l = some .directory

theorem AddsDirectories.changesOnly (h : t.AddsDirectories t') (place : Option Location) : ChangesOnly place t t' :=
  ⟨h.working, fun l _ => h.entry l⟩

theorem ChangesOnly.trans {place : Option Location} (h : ChangesOnly place t t₁) (h' : ChangesOnly place t₁ t') :
    ChangesOnly place t t' := by
  refine ⟨h'.working.trans h.working, fun l hl => ?_⟩
  rcases h'.entry l hl with heq | ⟨hnone, hdir⟩
  · rw [heq]
    exact h.entry l hl
  · rcases h.entry l hl with heq | ⟨-, hdir'⟩
    · exact .inr ⟨heq ▸ hnone, hdir⟩
    · rw [hdir'] at hnone
      cases hnone

theorem AddsDirectories.fileAt? (h : t.AddsDirectories t') (l : Location) : t'.fileAt? l = t.fileAt? l := by
  rcases h.entry l with heq | ⟨hnone, hdir⟩
  · rw [FileTree.fileAt?, heq, FileTree.fileAt?]
  · rw [FileTree.fileAt?, hdir, FileTree.fileAt?, hnone]

theorem AddsDirectories.contentAt? (h : t.AddsDirectories t') (p : Path) : t'.contentAt? p = t.contentAt? p := by
  rw [FileTree.contentAt?, FileTree.contentAt?, placeOf?_of_working h.working]
  cases t.placeOf? p with
  | none => rfl
  | some l => exact h.fileAt? l

/-- A file made at another location leaves what stands where a path leads. -/
theorem IsBeside.contentAt? (h : t.IsBeside loc t') (hloc : t.placeOf? p ≠ some loc) :
    t'.contentAt? p = t.contentAt? p := by
  rw [FileTree.contentAt?, FileTree.contentAt?, placeOf?_of_working h.working]
  cases hp : t.placeOf? p with
  | none => rfl
  | some l =>
    rw [hp] at hloc
    rw [Option.bind_some, Option.bind_some, FileTree.fileAt?, h.other l fun hl => hloc (congrArg some hl), FileTree.fileAt?]

theorem contentAt?_put {e : FileEntry} (hp : t.placeOf? p = some loc) (hloc : loc ≠ []) :
    (t.put loc e).contentAt? p = match e with
      | .file content _ => some content
      | .directory => none := by
  have hworking : (t.put loc e).working = t.working := rfl
  rw [FileTree.contentAt?, placeOf?_of_working hworking, hp, Option.bind_some, FileTree.fileAt?, get?_put hloc, if_pos rfl]
  cases e <;> rfl

theorem contentAt?_erase (hp : t.placeOf? p = some loc) (hloc : loc ≠ []) : (t.erase loc).contentAt? p = none := by
  have hworking : (t.erase loc).working = t.working := rfl
  rw [FileTree.contentAt?, placeOf?_of_working hworking, hp, Option.bind_some, FileTree.fileAt?, get?_erase hloc, if_pos rfl]

theorem changesOnly_put (hloc : loc ≠ []) (t : FileTree) (e : FileEntry) : ChangesOnly (some loc) t (t.put loc e) := by
  refine ⟨rfl, fun l hl => .inl ?_⟩
  rw [get?_put hloc, if_neg fun h => hl (congrArg some h)]

theorem changesOnly_erase (hloc : loc ≠ []) (t : FileTree) : ChangesOnly (some loc) t (t.erase loc) := by
  refine ⟨rfl, fun l hl => .inl ?_⟩
  rw [get?_erase hloc, if_neg fun h => hl (congrArg some h)]

theorem ChangesOnly.refl (place : Option Location) (t : FileTree) : ChangesOnly place t t := ⟨rfl, fun _ _ => .inl rfl⟩

/-- What comes of a write. -/
theorem eq_of_write (h : t.write p content = .ok t') : ∃ loc executable, t.locate p = .ok loc ∧
    t.get? loc ≠ some .directory ∧ t' = t.put loc (.file content executable) := by
  obtain ⟨loc, hloc, h⟩ := exists_of_bind_ok h
  refine ⟨loc, ?_⟩
  split at h
  · cases h
  · rename_i executable hfile
    cases h
    exact ⟨executable, hloc, by rw [hfile]; nofun, rfl⟩
  · rename_i hnone
    cases h
    exact ⟨false, hloc, by rw [hnone]; nofun, rfl⟩

/-- What comes of a removal: nothing, or the file is gone. -/
theorem eq_of_removeFile (h : t.removeFile p = .ok t') : t' = t ∨ ∃ loc, t.locate p = .ok loc ∧
    t.get? loc ≠ some .directory ∧ t' = t.erase loc := by
  unfold removeFile at h
  split at h
  · split at h
    · cases h
      exact .inl rfl
    · cases h
  · cases h
  · rename_i loc hloc
    split at h
    · cases h
      exact .inl rfl
    · cases h
    · rename_i hfile
      cases h
      exact .inr ⟨loc, hloc, by rw [hfile]; nofun, rfl⟩

end FileTree

/-- The answers of a disk on which a file can be removed that is there. Everything else can fail. -/
def Host.TidyAnswers : Program.World DiskAct DiskAct.Reply Host
  | .remove path, h, reply, h' => (reply, h') = h.changed (h.files.removeFile path)
  | act, h, reply, h' => Answers true act h reply h'

theorem Host.answers_of_tidy {act : DiskAct} {h h' : Host} {reply : act.Reply} (ha : TidyAnswers act h reply h') :
    Answers true act h reply h' := by
  cases act with
  | remove path => exact .inl ha
  | _ => exact ha

theorem Host.tidy_of_answers {act : DiskAct} {h h' : Host} {reply : act.Reply} (hact : ∀ path, act ≠ .remove path)
    (ha : Answers false act h reply h') : TidyAnswers act h reply h' := by
  cases act with
  | remove path => exact absurd rfl (hact path)
  | read path => exact ⟨ha.1, ha.2.imp_right fun h => absurd h.1 Bool.false_ne_true⟩
  | _ => exact ha

theorem Host.isTotal_tidyAnswers : TidyAnswers.IsTotal := by
  intro act h
  cases act with
  | remove path => exact ⟨_, _, rfl⟩
  | _ => exact isTotal_answers true _ h

/-- The bytes of a file that holds a snapshot. -/
def Snapshot.bytes? (s : Snapshot) : Option (List UInt8) := s.text.toOption.bind fun content => (Text.encode content).toOption

theorem Snapshot.bytes?_of_encode {s : Snapshot} {content : Text} {bytes : List UInt8} (h : s.text = .ok content)
    (h' : Text.encode content = .ok bytes) : s.bytes? = some bytes := by
  rw [bytes?, h, Except.toOption, Option.bind_some, h', Except.toOption]

namespace Store

open Program (Stays)
open FileTree (IsBeside AddsDirectories ChangesOnly)

variable {s : Store} {rules : List Rule} {version : Option Text} {t t₁ t' : FileTree} {loc : Location} {host : Host}

/-- A file can be made for a while where the store keeps its own. -/
def IsTemporary (s : Store) (t : FileTree) : Prop := ∃ middle loc, .char '/' ∉ middle.toList ∧
  t.locate (Path.ofString (Host.temporaryPath s.directory middle)) = .ok loc ∧ t.placeOf? s.file = some loc

/-- No file is made for a while where a store keeps its own, unless this one is named like such a file. -/
theorem not_isTemporary (h : s.file.IsApart) (t : FileTree) : ¬ s.IsTemporary t := by
  rintro ⟨middle, loc, hslash, hlocate, hplace⟩
  obtain ⟨names, hnames, hlead⟩ := Option.map_eq_some_iff.mp hplace
  cases hparts : s.file.parts.mapM Text.encodeName with
  | error run =>
    rw [hparts] at hnames
    cases hnames
  | ok names' =>
    rw [hparts] at hnames
    cases hnames
    exact h.ne_lead hslash hlocate hparts hlead

/-- What the tree can be at a moment of a save, after a start with the tree `t`: the content of the file is that of
before, or the whole of a snapshot of the rules. There is a third case only if there was no file, and the file that is
made for a while happens to be made in its place. -/
inductive Midway (s : Store) (rules : List Rule) (version : Option Text) (t t' : FileTree) : Prop where
  | before (same : t'.contentAt? s.file = t.contentAt? s.file)
  | after {snapshot : Snapshot} {now : Moment} {bytes : List UInt8}
      (made : Snapshot.make rules now version = .valid snapshot) (bytesEq : snapshot.bytes? = some bytes)
      (whole : t'.contentAt? s.file = some bytes)
  | temporary (free : t.contentAt? s.file = none) (place : s.IsTemporary t')

/-- How a save can end: the new snapshot stands in the file, and no other file is changed; or none is. -/
inductive Replaces (s : Store) (rules : List Rule) (version : Option Text) (t t' : FileTree) :
    Except Failure Snapshot → Prop where
  | replaced {snapshot : Snapshot} {now : Moment} {bytes : List UInt8}
      (made : Snapshot.make rules now version = .valid snapshot) (bytesEq : snapshot.bytes? = some bytes)
      (file : t'.HasFile s.file bytes) (others : ChangesOnly (t.placeOf? s.file) t t') :
      Replaces s rules version t t' (.ok snapshot)
  | kept {f : Failure} (adds : t.AddsDirectories t') : Replaces s rules version t t' (.error f)

theorem Midway.of_addsDirectories (h : t.AddsDirectories t') : s.Midway rules version t t' :=
  .before (h.contentAt? s.file)

/-- While the file that was made for a while is there, the store's own file is as before. -/
theorem Midway.of_isBeside {middle : Text} (hadds : t.AddsDirectories t₁) (hbeside : t₁.IsBeside loc t')
    (hslash : .char '/' ∉ middle.toList)
    (hloc : t₁.locate (Path.ofString (Host.temporaryPath s.directory middle)) = .ok loc) :
    s.Midway rules version t t' := by
  by_cases hplace : t₁.placeOf? s.file = some loc
  · refine .temporary ?_ ⟨middle, loc, hslash, hbeside.keepsDirectories.locate hloc, ?_⟩
    · rw [← hadds.contentAt?, FileTree.contentAt?, hplace, Option.bind_some, FileTree.fileAt?, hbeside.free]
    · rw [FileTree.placeOf?_of_working hbeside.working, hplace]
  · exact .before ((hbeside.contentAt? hplace).trans (hadds.contentAt? s.file))

/-- Giving up removes the file that was made for a while. -/
theorem stays_giveUp {middle : Text} {f : Failure} (hadds : t.AddsDirectories t₁)
    (hbeside : t₁.IsBeside loc host.files) (hslash : .char '/' ∉ middle.toList)
    (hloc : t₁.locate (Path.ofString (Host.temporaryPath s.directory middle)) = .ok loc) :
    (giveUp (Host.temporaryPath s.directory middle) f).Stays Host.TidyAnswers
      (fun h => s.Midway rules version t h.files) (fun e h => s.Replaces rules version t h.files e) host := by
  refine ⟨.of_isBeside hadds hbeside hslash hloc, ?_⟩
  intro removed host' hremove
  have hanswer : (removed, host') = (.ok (), { host with files := host.files.erase loc }) := by
    rw [show (removed, host') = _ from hremove, hbeside.removeFile (hbeside.keepsDirectories.locate hloc)]
    rfl
  cases hanswer
  have hclean := hadds.trans hbeside.erase
  exact ⟨.of_addsDirectories hclean, .kept hclean⟩

/-- Moving the file that was made for a while puts its content in the place of the store's own. -/
theorem replaces_of_replace {middle : Text} {t₂ : FileTree} {snapshot : Snapshot} {now : Moment} {bytes : List UInt8}
    {executable : Bool} (hmake : Snapshot.make rules now version = .valid snapshot) (hbytes : snapshot.bytes? = some bytes)
    (hadds : t.AddsDirectories t₁) (hbeside : t₁.IsBeside loc t₂)
    (hloc : t₁.locate (Path.ofString (Host.temporaryPath s.directory middle)) = .ok loc)
    (he : t₂.get? loc = some (.file bytes executable))
    (h : t₂.replace (Host.temporaryPath s.directory middle) s.file = .ok t') :
    s.Replaces rules version t t' (.ok snapshot) := by
  have hsource := hbeside.keepsDirectories.locate hloc
  have hfile := FileTree.hasFile_of_replace h hsource he
  obtain ⟨from?, to?, e, hfrom, hto, -, hnot, rfl⟩ := FileTree.eq_of_replace h
  cases hsource.symm.trans hfrom
  refine .replaced hmake hbytes hfile ((hadds.changesOnly _).trans ⟨hbeside.working, fun l hl => .inl ?_⟩)
  have hplace : t.placeOf? s.file = some to? := by
    rw [← FileTree.placeOf?_of_working hadds.working, ← FileTree.placeOf?_of_working hbeside.working]
    exact FileTree.placeOf?_of_locate hto
  have hne : l ≠ to? := by
    rintro rfl
    exact hl hplace.symm
  rw [FileTree.get?_put (FileTree.ne_nil_of_get? hnot), if_neg hne,
    FileTree.get?_erase (FileTree.ne_nil_of_get? hbeside.ne_directory)]
  split
  · rename_i hl'
    rw [hl', hbeside.free]
  · rename_i hl'
    exact hbeside.other l hl'

theorem Replaces.midway {snapshot : Snapshot} (h : s.Replaces rules version t t' (.ok snapshot)) :
    s.Midway rules version t t' := by
  cases h with
  | replaced made bytesEq file others => exact .after made bytesEq file.contentAt?

/-- What follows when an empty file has been made for the snapshot. -/
theorem stays_fill {middle : Text} {snapshot : Snapshot} {now : Moment}
    (hmake : Snapshot.make rules now version = .valid snapshot) (hadds : t.AddsDirectories t₁)
    (hbeside : t₁.IsBeside loc host.files) (hslash : .char '/' ∉ middle.toList)
    (hloc : t₁.locate (Path.ofString (Host.temporaryPath s.directory middle)) = .ok loc) :
    Stays Host.TidyAnswers (fun h => s.Midway rules version t h.files) (fun e h => s.Replaces rules version t h.files e)
      (s.fill snapshot (Host.temporaryPath s.directory middle)) host := by
  unfold fill
  cases htext : snapshot.text with
  | error fault => exact stays_giveUp hadds hbeside hslash hloc
  | ok text =>
    refine ⟨.of_isBeside hadds hbeside hslash hloc, ?_⟩
    intro written host₁ hwrite
    obtain ⟨hbeside₁, hwritten⟩ := isBeside_of_write hbeside (hbeside.keepsDirectories.locate hloc) hwrite
    cases written with
    | error fault => exact stays_giveUp hadds hbeside₁ hslash hloc
    | ok _ =>
      obtain ⟨bytes, executable, hencode, he⟩ := hwritten rfl
      refine ⟨.of_isBeside hadds hbeside₁ hslash hloc, ?_⟩
      rintro moved host₂ (hreplace | ⟨⟨fault, rfl⟩, rfl⟩)
      · cases hfiles : host₁.files.replace (Host.temporaryPath s.directory middle) s.file with
        | error fault =>
          rw [hfiles] at hreplace
          cases hreplace
          exact stays_giveUp hadds hbeside₁ hslash hloc
        | ok files =>
          rw [hfiles] at hreplace
          cases hreplace
          have hreplaces := replaces_of_replace hmake (Snapshot.bytes?_of_encode htext hencode) hadds hbeside₁ hloc he hfiles
          exact ⟨hreplaces.midway, hreplaces⟩
      · exact stays_giveUp hadds hbeside₁ hslash hloc

/-- At every moment of a save the file has the content of before or the whole of the new one, and in the end it has the
new one if the save returns. If it does not, no file is changed. -/
theorem stays_save (s : Store) (rules : List Rule) (version : Option Text) (host : Host) :
    (s.save rules version).Stays Host.TidyAnswers (fun h => s.Midway rules version host.files h.files)
      (fun e h => s.Replaces rules version host.files h.files e) host := by
  have hstart := AddsDirectories.refl host.files
  rw [save_eq]
  refine ⟨.of_addsDirectories hstart, ?_⟩
  rintro now host₁ ⟨-, rfl⟩
  beta_reduce
  cases hmake : Snapshot.make rules now version with
  | invalid faults => exact ⟨.of_addsDirectories hstart, .kept hstart⟩
  | valid snapshot =>
    refine ⟨.of_addsDirectories hstart, ?_⟩
    intro made? host₂ hdirs
    have hadds := addsDirectories_of_answers (Host.answers_of_tidy hdirs)
    cases made? with
    | error fault => exact ⟨.of_addsDirectories hadds, .kept hadds⟩
    | ok _ =>
      refine ⟨.of_addsDirectories hadds, ?_⟩
      rintro temporary? host₃ (⟨middle, loc, hslash, rfl, hloc, hfree, rfl⟩ | ⟨⟨fault, rfl⟩, rfl⟩)
      · exact stays_fill hmake hadds (IsBeside.put_of_free hfree [] false) hslash hloc
      · exact ⟨.of_addsDirectories hadds, .kept hadds⟩

end Store

end LintPreview
