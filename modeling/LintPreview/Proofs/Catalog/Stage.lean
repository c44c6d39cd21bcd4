import LintPreview.Proofs.Catalog.Atomic

/-!
# A save on its way beside others

* `Store.Stage`: how far a save has come, and where the file is that it has made for a while.
* `Store.Moves`: what one act of a save does to a tree: it touches nothing but its own file, or it puts the whole snapshot
  in the place of the store's file and ends.
* `Store.Stage.step`: each act leads from stage to stage with such a move.
* `Store.Stage.frame`: what leaves the file of a save as it is leaves its stage.
-/

namespace LintPreview

namespace FileTree

variable {t t' : FileTree} {loc : Location} {p : Path} {content : List UInt8} {executable : Bool}

/-- There is a file at the location. -/
def IsFileAt (t : FileTree) (loc : Location) : Prop := ∃ content executable, t.get? loc = some (.file content executable)

theorem IsFileAt.ne_directory (h : t.IsFileAt loc) : t.get? loc ≠ some .directory := by
  obtain ⟨content, executable, he⟩ := h
  rw [he]
  nofun

/-- A tree is one without a certain file and this file. -/
theorem IsFileAt.isBeside (h : t.IsFileAt loc) : (t.erase loc).IsBeside loc t := by
  have hloc := ne_nil_of_get? h.ne_directory
  refine ⟨by rw [get?_erase hloc, if_pos rfl], rfl, h, fun l hl => ?_⟩
  rw [get?_erase hloc, if_neg hl]

/-- Nothing is changed but what stands at some locations, and directories are only made. -/
structure TouchesOnly (here : Location → Prop) (t t' : FileTree) : Prop where
  keeps : t.KeepsDirectories t'
  entry : ∀ l, ¬ here l → t'.get? l = t.get? l ∨ t.get? l = none ∧ t'.get? l = some .directory

/-- What stands elsewhere is as before. -/
theorem TouchesOnly.get?_of_isFileAt {here : Location → Prop} (h : TouchesOnly here t t') (hfile : t.IsFileAt loc)
    (hloc : ¬ here loc) : t'.get? loc = t.get? loc := by
  rcases h.entry loc hloc with heq | ⟨hnone, -⟩
  · exact heq
  · obtain ⟨content, executable, he⟩ := hfile
    rw [he] at hnone
    cases hnone

theorem TouchesOnly.hasFile {here : Location → Prop} (h : TouchesOnly here t t') (hp : t.HasFile p content)
    (hhere : ∀ l, t.placeOf? p = some l → ¬ here l) : t'.HasFile p content := by
  obtain ⟨l, executable, hl, he⟩ := hp
  refine ⟨l, executable, h.keeps.locate hl, ?_⟩
  rw [h.get?_of_isFileAt ⟨content, executable, he⟩ (hhere l (placeOf?_of_locate hl)), he]

theorem AddsDirectories.touchesOnly (h : t.AddsDirectories t') (here : Location → Prop) : TouchesOnly here t t' :=
  ⟨h.keepsDirectories, fun l _ => h.entry l⟩

theorem IsFileAt.touchesOnly_erase (h : t.IsFileAt loc) : TouchesOnly (· = loc) t (t.erase loc) := by
  refine ⟨keepsDirectories_erase h.ne_directory, fun l hl => .inl ?_⟩
  rw [get?_erase (ne_nil_of_get? h.ne_directory), if_neg hl]

end FileTree

namespace Store

open FileTree (IsFileAt TouchesOnly)

/-! ### Stages -/

variable {s : Store} {rules : List Rule} {version : Option Text} {t t' : FileTree} {own own' : Option Location}
  {rest : Disk (Except Failure Snapshot)}

/-- The file that a save has made for a while. -/
structure Owns (s : Store) (t : FileTree) (loc : Location) (temporary : Text) : Prop where
  path : ∃ middle, .char '/' ∉ middle.toList ∧ temporary = Host.temporaryPath s.directory middle
  located : t.locate (Path.ofString temporary) = .ok loc
  file : t.IsFileAt loc

/-- How far a save has come, by what is left of it, and where the file is that it has made for a while. -/
inductive Stage (s : Store) (rules : List Rule) (version : Option Text) (t : FileTree) :
    Option Location → Disk (Except Failure Snapshot) → Prop where
  | begun : Stage s rules version t none (s.save rules version)
  | made {snapshot : Snapshot} {now : Moment} (made : Snapshot.make rules now version = .valid snapshot) :
      Stage s rules version t none (s.put snapshot)
  | housed {snapshot : Snapshot} {now : Moment} (made : Snapshot.make rules now version = .valid snapshot) :
      Stage s rules version t none (s.putBeside snapshot)
  | opened {snapshot : Snapshot} {now : Moment} {temporary : Text} {loc : Location}
      (made : Snapshot.make rules now version = .valid snapshot) (owns : s.Owns t loc temporary) :
      Stage s rules version t (some loc) (s.fill snapshot temporary)
  | written {snapshot : Snapshot} {now : Moment} {temporary : Text} {loc : Location} {bytes : List UInt8}
      {executable : Bool} (made : Snapshot.make rules now version = .valid snapshot) (owns : s.Owns t loc temporary)
      (bytesEq : snapshot.bytes? = some bytes) (file : t.get? loc = some (.file bytes executable)) :
      Stage s rules version t (some loc) (s.place snapshot temporary)
  | givesUp {temporary : Text} {loc : Location} {f : Failure} (owns : s.Owns t loc temporary) :
      Stage s rules version t (some loc) (giveUp temporary f)
  | saved {snapshot : Snapshot} {now : Moment} (made : Snapshot.make rules now version = .valid snapshot) :
      Stage s rules version t none (.done (.ok snapshot))
  | failed (f : Failure) : Stage s rules version t none (.done (.error f))

theorem Owns.of_get?_eq {loc : Location} {temporary : Text} (h : s.Owns t loc temporary) (hkeeps : t.KeepsDirectories t')
    (hsame : t'.get? loc = t.get? loc) : s.Owns t' loc temporary := by
  obtain ⟨content, executable, he⟩ := h.file
  exact ⟨h.path, hkeeps.locate h.located, content, executable, hsame.trans he⟩

/-- The store's own file is not made for a while. -/
theorem Owns.placeOf?_ne {loc : Location} {temporary : Text} (h : s.Owns t loc temporary) (hapart : s.file.IsApart) :
    t.placeOf? s.file ≠ some loc := by
  obtain ⟨⟨middle, hslash, rfl⟩, hlocated, -⟩ := h
  exact fun hplace => not_isTemporary hapart t ⟨middle, loc, hslash, hlocated, hplace⟩

/-- A save has come as far in every tree in which its file is the same. -/
theorem Stage.frame (h : s.Stage rules version t own rest) (hkeeps : t.KeepsDirectories t')
    (hsame : ∀ l, own = some l → t'.get? l = t.get? l) : s.Stage rules version t' own rest := by
  cases h with
  | begun => exact .begun
  | made made => exact .made made
  | housed made => exact .housed made
  | opened made owns => exact .opened made (owns.of_get?_eq hkeeps (hsame _ rfl))
  | written made owns bytesEq file =>
    exact .written made (owns.of_get?_eq hkeeps (hsame _ rfl)) bytesEq ((hsame _ rfl).trans file)
  | givesUp owns => exact .givesUp (owns.of_get?_eq hkeeps (hsame _ rfl))
  | saved made => exact .saved made
  | failed f => exact .failed f

theorem Stage.exists_owns {loc : Location} (h : s.Stage rules version t (some loc) rest) :
    ∃ temporary, s.Owns t loc temporary := by
  cases h with
  | opened made owns => exact ⟨_, owns⟩
  | written made owns bytesEq file => exact ⟨_, owns⟩
  | givesUp owns => exact ⟨_, owns⟩

/-! ### Acts -/

/-- What one act of a save does to a tree, if its file is at `own` before and at `own'` after the act, and `rest` is left
of the save then. -/
inductive Moves (s : Store) (t t' : FileTree) (own own' : Option Location) (rest : Disk (Except Failure Snapshot)) :
    Prop where
  | aside (touches : TouchesOnly (fun l => some l = own ∨ some l = own') t t')
      (fresh : ∀ l, own' = some l → own = some l ∨ t.get? l = none) (open' : ∀ snapshot, rest ≠ .done (.ok snapshot))
  | placed {snapshot : Snapshot} {bytes : List UInt8} (touches : TouchesOnly (fun l => some l = own ∨ t.placeOf? s.file = some l) t t')
      (gone : own' = none) (ends : rest = .done (.ok snapshot)) (bytesEq : snapshot.bytes? = some bytes)
      (file : t'.HasFile s.file bytes)

/-- An act that only makes directories. -/
theorem moves_of_addsDirectories (h : t.AddsDirectories t') (hown : ∀ l, own' = some l → own = some l)
    (hopen : ∀ snapshot, rest ≠ .done (.ok snapshot)) : s.Moves t t' own own' rest :=
  .aside (h.touchesOnly _) (fun l hl => .inl (hown l hl)) hopen

theorem fill_ne (s : Store) (snapshot snapshot' : Snapshot) (temporary : Text) :
    s.fill snapshot temporary ≠ .done (.ok snapshot') := by
  unfold fill
  split <;> nofun

variable {host host' : Host} {loc : Location} {temporary : Text} {snapshot : Snapshot} {now : Moment}

/-- Taking the file away, or failing to. -/
theorem Owns.touchesOnly_of_remove {reply : Except PathFault Unit} (owns : s.Owns host.files loc temporary)
    (answers : Host.Answers false (.remove (Path.ofString temporary)) host reply host') :
    TouchesOnly (fun l => some l = some loc ∨ some l = none) host.files host'.files := by
  rcases answers with hremove | ⟨-, rfl⟩
  · rw [owns.file.isBeside.removeFile owns.located] at hremove
    cases hremove
    have herase := owns.file.touchesOnly_erase
    exact ⟨herase.keeps, fun l hl => herase.entry l fun heq => hl (.inl (congrArg some heq))⟩
  · exact (FileTree.AddsDirectories.refl _).touchesOnly _

/-- Writing to the file, the whole text or anything else. -/
theorem Owns.of_write {text : Text} {reply : Except PathFault Unit} (owns : s.Owns host.files loc temporary)
    (answers : Host.Answers false (.write (Path.ofString temporary) text) host reply host') :
    s.Owns host'.files loc temporary ∧
      TouchesOnly (fun l => some l = some loc ∨ some l = some loc) host.files host'.files ∧
      (reply = .ok () → ∃ bytes executable, Text.encode text = .ok bytes ∧
        host'.files.get? loc = some (.file bytes executable)) := by
  obtain ⟨hbeside, hwritten⟩ := isBeside_of_write owns.file.isBeside owns.located answers
  have hother : ∀ l, l ≠ loc → host'.files.get? l = host.files.get? l := fun l hl =>
    (hbeside.other l hl).trans (owns.file.isBeside.other l hl).symm
  have hkeeps : host.files.KeepsDirectories host'.files := by
    refine ⟨hbeside.working, fun l hl => ?_⟩
    rw [hother l]
    · exact hl
    · rintro rfl
      exact owns.file.ne_directory hl
  refine ⟨⟨owns.path, hkeeps.locate owns.located, hbeside.file⟩, ⟨hkeeps, fun l hl => .inl (hother l ?_)⟩, hwritten⟩
  exact fun heq => hl (.inl (congrArg some heq))

/-- Putting the snapshot in the place of the store's file. -/
theorem Owns.moves_of_replace {bytes : List UInt8} {executable : Bool} (owns : s.Owns t loc temporary)
    (bytesEq : snapshot.bytes? = some bytes) (file : t.get? loc = some (.file bytes executable))
    (h : t.replace temporary s.file = .ok t') : s.Moves t t' (some loc) none (.done (.ok snapshot)) := by
  have hfile := FileTree.hasFile_of_replace h owns.located file
  obtain ⟨from?, to?, e, hfrom, hto, -, hnot, rfl⟩ := FileTree.eq_of_replace h
  cases owns.located.symm.trans hfrom
  have hplace := FileTree.placeOf?_of_locate hto
  have herase := owns.file.touchesOnly_erase
  have hnot' : (t.erase loc).get? to? ≠ some .directory := by
    rw [FileTree.get?_erase (FileTree.ne_nil_of_get? owns.file.ne_directory)]
    split
    · nofun
    · exact hnot
  refine .placed ⟨herase.keeps.trans (FileTree.keepsDirectories_put hnot' e), fun l hl => ?_⟩ rfl rfl bytesEq hfile
  have hne : l ≠ to? := by
    rintro rfl
    exact hl (.inr hplace)
  rw [FileTree.get?_put (FileTree.ne_nil_of_get? hnot), if_neg hne]
  exact herase.entry l fun heq => hl (.inl (congrArg some heq))

section

variable {act : DiskAct} {next : act.Reply → Disk (Except Failure Snapshot)} {reply : act.Reply}

/-- The text is written to the file, or the file is taken away again if there is no text. -/
theorem Owns.step_fill (owns : s.Owns host.files loc temporary) (made : Snapshot.make rules now version = .valid snapshot)
    (hrest : s.fill snapshot temporary = .ask act next) (answers : Host.Answers false act host reply host') :
    ∃ own', s.Stage rules version host'.files own' (next reply) ∧
      s.Moves host.files host'.files (some loc) own' (next reply) := by
  unfold fill at hrest
  cases htext : snapshot.text with
  | error fault =>
    rw [htext] at hrest
    cases hrest
    have htouches := owns.touchesOnly_of_remove answers
    cases reply <;> exact ⟨none, .failed _, .aside htouches nofun nofun⟩
  | ok text =>
    rw [htext] at hrest
    cases hrest
    obtain ⟨howns, htouches, hwritten⟩ := owns.of_write answers
    cases reply with
    | error fault => exact ⟨_, .givesUp howns, .aside htouches (fun _ => .inl) nofun⟩
    | ok _ =>
      obtain ⟨bytes, executable, hencode, he⟩ := hwritten rfl
      have hbytes := Snapshot.bytes?_of_encode htext hencode
      exact ⟨_, .written made howns hbytes he, .aside htouches (fun _ => .inl) nofun⟩

/-- The file that is written is put in the place of the store's file, or it is given up. -/
theorem Owns.step_place {bytes : List UInt8} {executable : Bool} (owns : s.Owns host.files loc temporary)
    (made : Snapshot.make rules now version = .valid snapshot) (bytesEq : snapshot.bytes? = some bytes)
    (file : host.files.get? loc = some (.file bytes executable)) (hrest : s.place snapshot temporary = .ask act next)
    (answers : Host.Answers false act host reply host') :
    ∃ own', s.Stage rules version host'.files own' (next reply) ∧
      s.Moves host.files host'.files (some loc) own' (next reply) := by
  cases hrest
  have hfails : ∀ fault, s.Stage rules version host.files (some loc) (giveUp temporary (.path fault)) ∧
      s.Moves host.files host.files (some loc) (some loc) (giveUp temporary (.path fault)) := fun fault =>
    ⟨.givesUp owns, moves_of_addsDirectories (.refl _) (fun _ h => h) nofun⟩
  rcases answers with hreplace | ⟨⟨fault, rfl⟩, rfl⟩
  · cases hfiles : host.files.replace temporary s.file with
    | error fault =>
      rw [hfiles] at hreplace
      cases hreplace
      exact ⟨some loc, hfails fault⟩
    | ok files =>
      rw [hfiles] at hreplace
      cases hreplace
      exact ⟨none, .saved made, owns.moves_of_replace bytesEq file hfiles⟩
  · exact ⟨some loc, hfails fault⟩

/-- Each act leads from stage to stage. -/
theorem Stage.step (h : s.Stage rules version host.files own rest) (hrest : rest = .ask act next)
    (answers : Host.Answers false act host reply host') :
    ∃ own', s.Stage rules version host'.files own' (next reply) ∧
      s.Moves host.files host'.files own own' (next reply) := by
  cases h with
  | begun =>
    rw [save_eq] at hrest
    cases hrest
    obtain ⟨-, rfl⟩ := answers
    beta_reduce
    cases hmake : Snapshot.make rules reply version with
    | invalid faults => exact ⟨none, .failed _, moves_of_addsDirectories (.refl _) nofun nofun⟩
    | valid snapshot => exact ⟨none, .made hmake, moves_of_addsDirectories (.refl _) nofun nofun⟩
  | made made =>
    cases hrest
    have hadds := addsDirectories_of_answers answers
    cases reply with
    | error fault => exact ⟨none, .failed _, moves_of_addsDirectories hadds nofun nofun⟩
    | ok _ => exact ⟨none, .housed made, moves_of_addsDirectories hadds nofun nofun⟩
  | housed made =>
    cases hrest
    rcases answers with ⟨middle, loc, hslash, rfl, hlocate, hfree, rfl⟩ | ⟨⟨fault, rfl⟩, rfl⟩
    · have hbeside := FileTree.IsBeside.put_of_free hfree [] false
      have howns : s.Owns _ loc _ := ⟨⟨middle, hslash, rfl⟩, hbeside.keepsDirectories.locate hlocate, hbeside.file⟩
      refine ⟨some loc, .opened made howns, .aside ⟨hbeside.keepsDirectories, fun l hl => .inl ?_⟩ ?_ (s.fill_ne _ · _)⟩
      · exact hbeside.other l fun heq => hl (.inr (congrArg some heq))
      · rintro l hl
        cases hl
        exact .inr hfree
    · exact ⟨none, .failed _, moves_of_addsDirectories (.refl _) nofun nofun⟩
  | opened made owns => exact owns.step_fill made hrest answers
  | written made owns bytesEq file => exact owns.step_place made bytesEq file hrest answers
  | givesUp owns =>
    cases hrest
    have htouches := owns.touchesOnly_of_remove answers
    cases reply <;> exact ⟨none, .failed _, .aside htouches nofun nofun⟩
  | saved made => cases hrest
  | failed f => cases hrest

end

end Store

end LintPreview
