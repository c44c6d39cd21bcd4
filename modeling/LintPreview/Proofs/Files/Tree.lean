import LintPreview.Files
import LintPreview.Proofs.Outcome

/-!
# Trees of files

* `FileTree.get?_put`, `FileTree.get?_erase`: a change at one location is seen there only.
* `FileTree.KeepsDirectories`: every directory stays. A path that names a location names the same one then
  (`FileTree.KeepsDirectories.locate`).
* `FileTree.AddsDirectories`: only directories are made; `FileTree.addsDirectories_of_withDirectory`.
* `FileTree.HasFile`, `FileTree.HasNoFile`: what can be read under a path, and that no file stands where it leads.
-/

namespace LintPreview.FileTree

variable {t t' t₁ t₂ : FileTree} {loc l : Location}

/-! ### Single locations -/

theorem ne_nil_of_get? (h : t.get? loc ≠ some .directory) : loc ≠ [] := by
  rintro rfl
  exact h rfl

theorem find_filter (loc l : Location) (entries : List (Location × FileEntry)) :
    find l (entries.filter fun x => x.1 ≠ loc) = if l = loc then none else find l entries := by
  induction entries with
  | nil => simp [find]
  | cons x entries ih =>
    by_cases hx : x.1 = loc
    · rw [List.filter_cons_of_neg (by simpa using hx), ih, find]
      by_cases hl : l = loc
      · rw [if_pos hl, if_pos hl]
      · rw [if_neg hl, if_neg hl, if_neg (by rw [hx]; exact Ne.symm hl)]
    · rw [List.filter_cons_of_pos (by simpa using hx), find, find, ih]
      by_cases hl : x.1 = l
      · rw [if_pos hl, if_pos hl, if_neg (by rw [← hl]; exact hx)]
      · rw [if_neg hl, if_neg hl]

theorem get?_put (hloc : loc ≠ []) (t : FileTree) (e : FileEntry) (l : Location) :
    (t.put loc e).get? l = if l = loc then some e else t.get? l := by
  unfold get?
  by_cases hl : l = []
  · rw [if_pos hl, if_pos hl, if_neg (by rw [hl]; exact Ne.symm hloc)]
  · rw [if_neg hl, if_neg hl, put, find, find_filter]
    by_cases h : l = loc
    · rw [if_pos h.symm, if_pos h]
    · rw [if_neg (Ne.symm h), if_neg h, if_neg h]

theorem get?_erase (hloc : loc ≠ []) (t : FileTree) (l : Location) :
    (t.erase loc).get? l = if l = loc then none else t.get? l := by
  unfold get?
  by_cases hl : l = []
  · rw [if_pos hl, if_pos hl, if_neg (by rw [hl]; exact Ne.symm hloc)]
  · rw [if_neg hl, if_neg hl, erase, find_filter]

/-! ### Trees that keep their directories -/

/-- Every directory of `t` is one of `t'`. -/
structure KeepsDirectories (t t' : FileTree) : Prop where
  working : t'.working = t.working
  directory : ∀ l, t.get? l = some .directory → t'.get? l = some .directory

theorem KeepsDirectories.trans (h : KeepsDirectories t t₁) (h' : KeepsDirectories t₁ t₂) : KeepsDirectories t t₂ :=
  ⟨h'.working.trans h.working, fun l hl => h'.directory l (h.directory l hl)⟩

/-- A change at a location that is no directory. -/
theorem keepsDirectories_put (h : t.get? loc ≠ some .directory) (e : FileEntry) : KeepsDirectories t (t.put loc e) := by
  refine ⟨rfl, fun l hl => ?_⟩
  rw [get?_put (ne_nil_of_get? h), if_neg]
  · exact hl
  · rintro rfl
    exact h hl

theorem keepsDirectories_erase (h : t.get? loc ≠ some .directory) : KeepsDirectories t (t.erase loc) := by
  refine ⟨rfl, fun l hl => ?_⟩
  rw [get?_erase (ne_nil_of_get? h), if_neg]
  · exact hl
  · rintro rfl
    exact h hl

theorem KeepsDirectories.walk (h : KeepsDirectories t t') {names : List (List UInt8)}
    (hwalk : t.walk loc names = .ok l) : t'.walk loc names = .ok l := by
  induction names generalizing loc with
  | nil => exact hwalk
  | cons name names ih =>
    unfold FileTree.walk at hwalk ⊢
    dsimp only at hwalk ⊢
    generalize (if name = twoDots then loc.dropLast else loc ++ [name]) = next at hwalk ⊢
    by_cases hlong : maxNameBytes < name.length
    · rw [if_pos hlong] at hwalk
      cases hwalk
    · rw [if_neg hlong] at hwalk ⊢
      by_cases hlast : names.isEmpty = true
      · rw [if_pos hlast] at hwalk ⊢
        exact hwalk
      · rw [if_neg hlast] at hwalk ⊢
        cases hnext : t.get? next with
        | none =>
          rw [hnext] at hwalk
          cases hwalk
        | some e =>
          rw [hnext] at hwalk
          cases e with
          | file content executable => cases hwalk
          | directory =>
            rw [h.directory next hnext]
            exact ih hwalk

/-- Where a path leads, whatever stands on the way. -/
def lead (loc : Location) (names : List (List UInt8)) : Location :=
  names.foldl (fun loc name => if name = twoDots then loc.dropLast else loc ++ [name]) loc

theorem eq_lead_of_walk {names : List (List UInt8)} (h : t.walk loc names = .ok l) : l = lead loc names := by
  induction names generalizing loc with
  | nil =>
    cases h
    rfl
  | cons name names ih =>
    unfold FileTree.walk at h
    dsimp only at h
    split at h
    · cases h
    · split at h
      · rename_i hlast
        rw [List.isEmpty_iff] at hlast
        cases h
        rw [hlast]
        rfl
      · split at h
        · exact ih h
        · cases h
        · cases h

/-! ### Paths -/

variable {p : Path} {content : List UInt8}

/-- A path names a location if its text and its names have bytes, and its names can be walked. -/
theorem locate_eq_ok_iff : t.locate p = .ok l ↔ ∃ bytes names, Text.encodeName p.toString = .ok bytes ∧
    p.parts.mapM Text.encodeName = .ok names ∧ bytes.contains 0 = false ∧ bytes.length < maxPathBytes ∧
    t.walk (t.startOf p) names = .ok l := by
  constructor
  · intro h
    obtain ⟨bytes, hbytes, h⟩ := exists_of_bind_ok h
    obtain ⟨names, hnames, h⟩ := exists_of_bind_ok h
    refine ⟨bytes, names, eq_ok_of_mapError hbytes, eq_ok_of_mapError hnames, ?_⟩
    by_cases hzero : bytes.contains 0 = true
    · rw [if_pos hzero] at h
      cases h
    · rw [if_neg hzero] at h
      by_cases hlong : maxPathBytes ≤ bytes.length
      · rw [if_pos hlong] at h
        cases h
      · rw [if_neg hlong] at h
        exact ⟨Bool.eq_false_iff.mpr hzero, by omega, eq_ok_of_mapError h⟩
  · rintro ⟨bytes, names, hbytes, hnames, hzero, hlength, hwalk⟩
    unfold locate
    dsimp only
    rw [hbytes, hnames]
    show (if bytes.contains 0 then _ else if maxPathBytes ≤ bytes.length then _ else _) = _
    rw [hzero, if_neg (by simp), if_neg (by omega), hwalk]
    rfl

theorem KeepsDirectories.locate (h : KeepsDirectories t t') (hp : t.locate p = .ok l) : t'.locate p = .ok l := by
  rw [locate_eq_ok_iff] at hp ⊢
  obtain ⟨bytes, names, hbytes, hnames, hzero, hlength, hwalk⟩ := hp
  refine ⟨bytes, names, hbytes, hnames, hzero, hlength, ?_⟩
  have hstart : t'.startOf p = t.startOf p := by rw [startOf, startOf, h.working]
  rw [hstart]
  exact h.walk hwalk

/-- Under a path a file with this content can be read. -/
def HasFile (t : FileTree) (p : Path) (content : List UInt8) : Prop :=
  ∃ l executable, t.locate p = .ok l ∧ t.get? l = some (.file content executable)

/-- No file stands where a path leads. -/
def HasNoFile (t : FileTree) (p : Path) : Prop :=
  ∀ names, p.parts.mapM Text.encodeName = .ok names →
    ∀ content executable, t.get? (lead (t.startOf p) names) ≠ some (.file content executable)

theorem readBytes_eq_ok_iff : t.readBytes p = .ok content ↔ t.HasFile p content := by
  unfold readBytes lookup HasFile
  cases hl : t.locate p with
  | error fault =>
    constructor
    · rintro ⟨⟩
    · rintro ⟨l', x, ⟨⟩, -⟩
  | ok l =>
    cases he : t.get? l with
    | none =>
      constructor
      · intro h
        simp only [bind, Except.bind, he] at h
        cases h
      · rintro ⟨l', x, ⟨⟩, h⟩
        rw [he] at h
        cases h
    | some e =>
      simp only [bind, Except.bind, he]
      cases e with
      | directory =>
        constructor
        · rintro ⟨⟩
        · rintro ⟨l', x, ⟨⟩, h⟩
          rw [he] at h
          cases h
      | file c x =>
        constructor
        · rintro ⟨⟩
          exact ⟨l, x, rfl, he⟩
        · rintro ⟨l', x', ⟨⟩, h⟩
          rw [he] at h
          cases h
          rfl

/-- A path with nothing where it leads cannot be read. -/
theorem HasNoFile.not_hasFile (h : t.HasNoFile p) : ¬ t.HasFile p content := by
  rintro ⟨l, executable, hl, he⟩
  obtain ⟨bytes, names, -, hnames, -, -, hwalk⟩ := locate_eq_ok_iff.mp hl
  rw [eq_lead_of_walk hwalk] at he
  exact h names hnames content executable he

/-- No file stands in an empty tree. -/
theorem hasNoFile_of_nil (h : t.entries = []) (p : Path) : t.HasNoFile p := by
  intro names _ content executable hget
  rw [get?, h] at hget
  split at hget
  · cases hget
  · cases hget

/-! ### Making directories -/

/-- Nothing is changed but that directories are made where nothing was. -/
structure AddsDirectories (t t' : FileTree) : Prop where
  working : t'.working = t.working
  entry : ∀ l, t'.get? l = t.get? l ∨ t.get? l = none ∧ t'.get? l = some .directory

theorem AddsDirectories.refl (t : FileTree) : AddsDirectories t t := ⟨rfl, fun _ => .inl rfl⟩

theorem AddsDirectories.trans (h : AddsDirectories t t₁) (h' : AddsDirectories t₁ t₂) : AddsDirectories t t₂ := by
  refine ⟨h'.working.trans h.working, fun l => ?_⟩
  rcases h'.entry l with heq | ⟨hnone, hdir⟩
  · rw [heq]
    exact h.entry l
  · rcases h.entry l with heq | ⟨-, hdir'⟩
    · exact .inr ⟨heq ▸ hnone, hdir⟩
    · rw [hdir'] at hnone
      cases hnone

theorem AddsDirectories.get?_of_some (h : AddsDirectories t t') {e : FileEntry} (he : t.get? l = some e) :
    t'.get? l = some e := by
  rcases h.entry l with heq | ⟨hnone, -⟩
  · rw [heq, he]
  · rw [hnone] at he
    cases he

theorem AddsDirectories.keepsDirectories (h : AddsDirectories t t') : KeepsDirectories t t' :=
  ⟨h.working, fun _ hl => h.get?_of_some hl⟩

theorem AddsDirectories.hasFile (h : AddsDirectories t t') (hp : t.HasFile p content) : t'.HasFile p content := by
  obtain ⟨l, executable, hl, he⟩ := hp
  exact ⟨l, executable, h.keepsDirectories.locate hl, h.get?_of_some he⟩

theorem AddsDirectories.hasNoFile (h : AddsDirectories t t') (hp : t.HasNoFile p) : t'.HasNoFile p := by
  intro names hnames content executable he
  have hstart : t'.startOf p = t.startOf p := by rw [startOf, startOf, h.working]
  rw [hstart] at he
  rcases h.entry (lead (t.startOf p) names) with heq | ⟨-, hdir⟩
  · exact hp names hnames content executable (heq ▸ he)
  · rw [hdir] at he
    cases he

/-- Making a directory below one that is there adds this directory, if it is missing. -/
theorem addsDirectories_of_make (h : (do
    let loc ← t.locate p
    match t.get? loc with
    | some .directory => return t
    | some (.file ..) => throw (.file ⟨.exists, p.toString, none⟩)
    | none => return t.put loc .directory : Except PathFault FileTree) = .ok t') : AddsDirectories t t' := by
  obtain ⟨loc, -, h⟩ := exists_of_bind_ok h
  split at h
  · cases h
    exact .refl t
  · cases h
  · rename_i hnone
    cases h
    have hdirectory : t.get? loc ≠ some .directory := by simp [hnone]
    refine ⟨rfl, fun l => ?_⟩
    rw [get?_put (ne_nil_of_get? hdirectory)]
    split
    · rename_i hl
      rw [hl]
      exact .inr ⟨hnone, rfl⟩
    · exact .inl rfl

/-- Making a directory and those above it only adds directories. -/
theorem addsDirectories_of_makeDirectories {fuel : ℕ} (h : t.makeDirectories fuel p = .ok t') : AddsDirectories t t' := by
  induction fuel generalizing p t' with
  | zero =>
    cases h
    exact .refl t
  | succ fuel ih =>
    unfold makeDirectories at h
    dsimp only at h
    split at h
    · split at h
      · cases h
      · obtain ⟨t₁, h₁, h₂⟩ := exists_of_bind_ok h
        exact (ih h₁).trans (addsDirectories_of_make h₂)
    · exact addsDirectories_of_make h

theorem addsDirectories_of_withDirectory (h : t.withDirectory p = .ok t') : AddsDirectories t t' :=
  addsDirectories_of_makeDirectories h

end LintPreview.FileTree
