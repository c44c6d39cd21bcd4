import LintPreview.Proofs.Simulation.Calls
import LintPreview.Proofs.Simulation.Traceless

/-!
# What calls leave alone

* `FileTree.locate_of_agree`, `FileTree.hasFile_of_agree`: a path that leads downwards from the root depends on what
  stands where it leads and above, and on nothing else.
* `ScratchPlace.eq_of_prefix`: directories in one place do not overlap.
* `Workshop.Frames`: nothing differs from the machine that calls began on but what is in scratch directories. Every file
  that was there is there as it was (`Workshop.Frames.hasFile`).
-/

namespace LintPreview

/-! ### Paths that lead downwards -/

namespace FileTree

variable {t t' : FileTree} {start loc l : Location} {p : Path} {content : List UInt8}

/-- A walk downwards asks for nothing but the directories above where it leads. -/
theorem walk_of_agree {names : List (List UInt8)} (hdots : twoDots ∉ names)
    (hagree : ∀ above, above <+: l → above ≠ l → t.get? above = some .directory → t'.get? above = some .directory)
    (h : t.walk start names = .ok l) : t'.walk start names = .ok l := by
  induction names generalizing start with
  | nil => exact h
  | cons name names ih =>
    have hl : l = start ++ [name] ++ names := by
      rw [eq_lead_of_walk h, lead_of_not_mem hdots, List.append_assoc, List.singleton_append]
    rw [List.mem_cons, not_or] at hdots
    unfold walk at h ⊢
    dsimp only at h ⊢
    rw [if_neg (Ne.symm hdots.1)] at h ⊢
    split at h
    · cases h
    · rename_i hshort
      rw [if_neg hshort]
      split at h
      · rename_i hlast
        rw [if_pos hlast]
        exact h
      · rename_i hmore
        rw [if_neg hmore]
        split at h
        · rename_i hdirectory
          have hne : start ++ [name] ≠ l := by
            intro heq
            have hnames : names = [] := List.self_eq_append_right.mp (heq.trans hl)
            exact hmore (List.isEmpty_iff.mpr hnames)
          rw [hagree _ (hl ▸ List.prefix_append _ names) hne hdirectory]
          exact ih hdots.2 h
        · cases h
        · cases h

theorem length_of_mapM {parts : List Text} {names : List (List UInt8)} (h : parts.mapM Text.encodeName = .ok names) :
    names.length = parts.length := by
  induction parts generalizing names with
  | nil =>
    cases h
    rfl
  | cons part parts ih =>
    rw [List.mapM_cons] at h
    obtain ⟨name, -, h⟩ := exists_of_bind_ok h
    obtain ⟨rest, hrest, h⟩ := exists_of_bind_ok h
    cases h
    rw [List.length_cons, List.length_cons, ih hrest]

theorem twoDots_not_mem_of_mapM {parts : List Text} {names : List (List UInt8)} (hdots : (".." : Text) ∉ parts)
    (h : parts.mapM Text.encodeName = .ok names) : twoDots ∉ names := by
  intro hmem
  obtain ⟨name, hname, hbytes⟩ := exists_of_mem_mapM h hmem
  exact hdots (eq_of_encodeName_twoDots hbytes ▸ hname)

/-- A path from the root that leads downwards names the same location where the directories above it stand too. -/
theorem locate_of_agree (hp : p.isAbsolute = true) (hdots : (".." : Text) ∉ p.parts)
    (hagree : ∀ above, above <+: l → above ≠ l → t.get? above = some .directory → t'.get? above = some .directory)
    (h : t.locate p = .ok l) : t'.locate p = .ok l := by
  rw [locate_eq_ok_iff] at h ⊢
  obtain ⟨bytes, names, hbytes, hnames, hzero, hlength, hwalk⟩ := h
  refine ⟨bytes, names, hbytes, hnames, hzero, hlength, ?_⟩
  rw [startOf, if_pos hp] at hwalk ⊢
  exact walk_of_agree (twoDots_not_mem_of_mapM hdots hnames) hagree hwalk

/-- What a path from the root that leads downwards brings depends on what stands there and above. -/
theorem hasFile_of_agree (hp : p.isAbsolute = true) (hdots : (".." : Text) ∉ p.parts) (h : t.HasFile p content)
    (hagree : ∀ l, t.locate p = .ok l → ∀ above, above <+: l → t'.get? above = t.get? above) :
    t'.HasFile p content := by
  obtain ⟨l, executable, hl, hget⟩ := h
  refine ⟨l, executable, locate_of_agree hp hdots (fun above habove _ hdirectory => ?_) hl, ?_⟩
  · rw [hagree l hl above habove, hdirectory]
  · rw [hagree l hl l (List.prefix_refl l), hget]

/-- A directory stands at a location, and none below it. -/
structure IsBareAt (t : FileTree) (loc : Location) : Prop where
  directory : t.get? loc = some .directory
  below : ∀ l, loc <+: l → l ≠ loc → t.get? l ≠ some .directory

theorem IsBareAt.of_agree (h : t.IsBareAt loc) (hagree : ∀ l, loc <+: l → t'.get? l = t.get? l) : t'.IsBareAt loc where
  directory := by rw [hagree loc (List.prefix_refl loc), h.directory]
  below l hl hne := by
    rw [hagree l hl]
    exact h.below l hl hne

/-- A new directory. -/
theorem IsFree.isBareAt_put (h : t.IsFree loc) : (t.put loc .directory).IsBareAt loc where
  directory := by rw [get?_put h.ne_nil, if_pos rfl]
  below l hl hne := by
    rw [get?_put h.ne_nil, if_neg hne, h l hl]
    nofun

/-- A file that is written makes no directory, and replaces none. -/
theorem IsBareAt.put (h : t.IsBareAt loc) (hl : t.get? l ≠ some .directory) (executable : Bool) :
    (t.put l (.file content executable)).IsBareAt loc where
  directory := (keepsDirectories_put hl _).directory loc h.directory
  below l' hl' hne := by
    rw [get?_put (ne_nil_of_get? hl)]
    split
    · nofun
    · exact h.below l' hl' hne

end FileTree

/-! ### Scratch directories -/

namespace ScratchPlace

open FileTree (length_of_mapM locate_of_agree twoDots_not_mem_of_mapM)

variable {place : ScratchPlace} {t t' : FileTree} {name : Text} {loc loc' l : Location}

/-- How many names lead to the directories in a place. -/
def depth (place : ScratchPlace) : ℕ := place.path.parts.length + 1

theorem isAbsolute_child (place : ScratchPlace) (name : Text) : (place.child name).isAbsolute = true := place.isAbsolute

theorem noDots_child (place : ScratchPlace) (hname : name ≠ "..") : (".." : Text) ∉ (place.child name).parts := by
  intro hmem
  rcases List.mem_append.mp hmem with hmem | hmem
  · exact place.noDots hmem
  · exact hname (List.mem_singleton.mp hmem).symm

theorem length_of_locate (hname : name ≠ "..") (h : t.locate (place.child name) = .ok loc) :
    loc.length = place.depth := by
  obtain ⟨_, names, -, hnames, -, -, hwalk⟩ := FileTree.locate_eq_ok_iff.mp h
  have hloc := FileTree.eq_lead_of_walk hwalk
  rw [FileTree.lead_of_not_mem (twoDots_not_mem_of_mapM (place.noDots_child hname) hnames), FileTree.startOf,
    if_pos (place.isAbsolute_child name), List.nil_append] at hloc
  rw [hloc, length_of_mapM hnames]
  exact List.length_append

/-- Directories in one place do not overlap. -/
theorem eq_of_prefix (hloc : loc.length = place.depth) (hloc' : loc'.length = place.depth) (h : loc <+: l)
    (h' : loc' <+: l) : loc = loc' :=
  (List.prefix_of_prefix_length_le h h' (by rw [hloc, hloc'])).eq_of_length (by rw [hloc, hloc'])

/-- Where a directory in the place is depends on what stands above only. -/
theorem locate_of_agree_above (hname : name ≠ "..") (hagree : ∀ l, l.length < place.depth → t'.get? l = t.get? l)
    (h : t.locate (place.child name) = .ok loc) : t'.locate (place.child name) = .ok loc := by
  refine locate_of_agree (place.isAbsolute_child name) (place.noDots_child hname) (fun above habove hne hdir => ?_) h
  rw [hagree above, hdir]
  rw [← length_of_locate hname h]
  exact lt_of_le_of_ne habove.length_le fun hlength => hne (habove.eq_of_length hlength)

end ScratchPlace

namespace Workshop

open FileTree (IsFree)

variable {place : ScratchPlace} {t₀ : FileTree} {w w' : Workshop} {l loc : Location}

/-- Nothing differs from a tree of files but what is in scratch directories, and there nothing was before. -/
structure Frames (place : ScratchPlace) (t₀ : FileTree) (w : Workshop) : Prop where
  working : w.host.files.working = t₀.working
  beyond : ∀ l, (∀ loc ∈ w.made, ¬ loc <+: l) → w.host.files.get? l = t₀.get? l
  free : ∀ loc ∈ w.made, t₀.IsFree loc
  length : ∀ loc ∈ w.made, loc.length = place.depth

theorem frames_start (place : ScratchPlace) (host : Host) : Frames place host.files { host } :=
  ⟨rfl, fun _ _ => rfl, nofun, nofun⟩

/-- Above the scratch directories nothing differs. -/
theorem Frames.above (h : w.Frames place t₀) (hl : l.length < place.depth) : w.host.files.get? l = t₀.get? l := by
  refine h.beyond l fun loc hloc hbelow => ?_
  have hlength := hbelow.length_le
  rw [h.length loc hloc] at hlength
  omega

/-- What stands outside the scratch directories is what stood there before. -/
theorem Frames.around_eq (h : w.Frames place t₀) : w.around = t₀.get? := by
  funext l
  unfold around
  split
  · rename_i hin
    obtain ⟨loc, hloc, hbelow⟩ := hin
    exact (h.free loc hloc l hbelow).symm
  · rename_i hout
    exact h.beyond l fun loc hloc hbelow => hout ⟨loc, hloc, hbelow⟩

/-- Where no scratch directory is, things are free on all such machines or on none. -/
theorem Frames.isFree_iff (h : w.Frames place t₀) (hlength : loc.length = place.depth) (hloc : loc ∉ w.made) :
    w.host.files.IsFree loc ↔ t₀.IsFree loc := by
  refine forall₂_congr fun l hl => ?_
  rw [h.beyond l]
  intro loc' hloc' hbelow
  exact hloc (ScratchPlace.eq_of_prefix hlength (h.length loc' hloc') hl hbelow ▸ hloc')

/-- Directories in the place are located as before. -/
theorem Frames.locate_iff (h : w.Frames place t₀) {name : Text} (hname : name ≠ "..") :
    w.host.files.locate (place.child name) = .ok loc ↔ t₀.locate (place.child name) = .ok loc :=
  ⟨ScratchPlace.locate_of_agree_above hname fun _ hl => (h.above hl).symm,
    ScratchPlace.locate_of_agree_above hname fun _ hl => h.above hl⟩

/-- Every file that was there before is there as it was. -/
theorem Frames.hasFile (h : w.Frames place t₀) {p : Path} {content : List UInt8} (hp : t₀.HasFile p content) :
    w.host.files.HasFile p content := by
  have hsame : ∀ {l e}, t₀.get? l = some e → w.host.files.get? l = some e := by
    intro l e hl
    rw [h.beyond l, hl]
    intro loc hloc hbelow
    rw [h.free loc hloc l hbelow] at hl
    cases hl
  have hkeeps : FileTree.KeepsDirectories t₀ w.host.files := ⟨h.working, fun _ hl => hsame hl⟩
  obtain ⟨l, executable, hl, hget⟩ := hp
  exact ⟨l, executable, hkeeps.locate hl, hsame hget⟩

end Workshop
end LintPreview
