import LintPreview.Proofs.Files.Tree
import LintPreview.Proofs.Text.Utf8

/-!
# Places in a tree of files

* `FileTree.IsFree`: nothing stands at a location or below it, as where a directory is made that did not exist.
* `FileTree.get?_removeTree`: what a removed directory leaves behind.
* `FileTree.IsGone`: no directory stands at a location, and nothing below it. A path from the root leads no further than
  there (`FileTree.IsGone.eq_of_locate`), so that no write brings anything back below it (`FileTree.IsGone.write`).
* `FileTree.Leads`: where a path leads, whatever stands there. A path below another one leads below where that one leads
  (`FileTree.exists_leads_of_join`).
-/

namespace LintPreview.FileTree

variable {t t' : FileTree} {loc l : Location} {p : Path} {content : List UInt8}

/-! ### Removing a directory -/

theorem find_filter_key (keep : Location → Bool) (l : Location) (entries : List (Location × FileEntry)) :
    find l (entries.filter fun x => keep x.1) = if keep l then find l entries else none := by
  induction entries with
  | nil => simp [find]
  | cons x entries ih =>
    by_cases hx : keep x.1 = true
    · rw [List.filter_cons_of_pos (by exact hx), find, find, ih]
      by_cases hl : x.1 = l
      · rw [if_pos hl, if_pos hl, if_pos (hl ▸ hx)]
      · rw [if_neg hl, if_neg hl]
    · rw [List.filter_cons_of_neg (by exact hx), ih, find]
      by_cases hl : x.1 = l
      · rw [if_neg (hl ▸ hx), if_neg (hl ▸ hx)]
      · rw [if_neg hl]

/-- A removed directory leaves nothing at its location and below, and all else as it was. -/
theorem get?_removeTree (hloc : loc ≠ []) (t : FileTree) (l : Location) :
    (t.removeTree loc).get? l = if loc <+: l then none else t.get? l := by
  unfold get?
  by_cases hl : l = []
  · subst hl
    rw [if_pos rfl, if_pos rfl, if_neg (by rwa [List.prefix_nil])]
  · rw [if_neg hl, if_neg hl, removeTree, find_filter_key fun l => !loc.isPrefixOf l]
    by_cases h : loc <+: l
    · rw [if_pos h, if_neg (by rw [List.isPrefixOf_iff_prefix.mpr h]; decide)]
    · rw [if_neg h, if_pos]
      rw [Bool.not_eq_true', ← Bool.not_eq_true, List.isPrefixOf_iff_prefix]
      exact h

/-! ### Free places -/

/-- Nothing stands at a location or below it. -/
def IsFree (t : FileTree) (loc : Location) : Prop := ∀ l, loc <+: l → t.get? l = none

theorem IsFree.get?_eq_none (h : t.IsFree loc) : t.get? loc = none := h loc (List.prefix_refl loc)

theorem IsFree.ne_nil (h : t.IsFree loc) : loc ≠ [] := ne_nil_of_get? (by rw [h.get?_eq_none]; nofun)

theorem KeepsDirectories.refl (t : FileTree) : KeepsDirectories t t := ⟨rfl, fun _ hl => hl⟩

/-- A directory that was made at a free place, removed after changes that keep directories: every directory is there
that was there before. -/
theorem keepsDirectories_of_free (hfree : t.IsFree loc) (h : KeepsDirectories (t.put loc .directory) t') :
    KeepsDirectories t (t'.removeTree loc) := by
  refine ⟨h.working, fun l hl => ?_⟩
  have hout : ¬ loc <+: l := by
    intro hbelow
    rw [hfree l hbelow] at hl
    cases hl
  rw [get?_removeTree hfree.ne_nil, if_neg hout]
  refine h.directory l ?_
  rw [get?_put hfree.ne_nil, if_neg, hl]
  rintro rfl
  exact hout (List.prefix_refl l)

/-! ### Writing -/

/-- A file is written where its path leads, if no directory stands there. -/
theorem exists_of_write (h : t.write p content = .ok t') :
    ∃ l executable, t.locate p = .ok l ∧ t.get? l ≠ some .directory ∧ t' = t.put l (.file content executable) := by
  obtain ⟨l, hl, hput⟩ := exists_of_bind_ok h
  cases hget : t.get? l with
  | none =>
    rw [hget] at hput
    cases hput
    exact ⟨l, false, hl, by rw [hget]; nofun, rfl⟩
  | some e =>
    rw [hget] at hput
    cases e with
    | directory => cases hput
    | file content' executable =>
      cases hput
      exact ⟨l, executable, hl, by rw [hget]; nofun, rfl⟩

theorem keepsDirectories_of_write (h : t.write p content = .ok t') : KeepsDirectories t t' := by
  obtain ⟨l, executable, -, hdirectory, rfl⟩ := exists_of_write h
  exact keepsDirectories_put hdirectory _

/-! ### Places where nothing is any longer -/

/-- No directory stands at a location, and nothing below it. -/
structure IsGone (t : FileTree) (loc : Location) : Prop where
  directory : t.get? loc ≠ some .directory
  below : ∀ l, loc <+: l → l ≠ loc → t.get? l = none

theorem isGone_removeTree (hloc : loc ≠ []) (t : FileTree) : (t.removeTree loc).IsGone loc where
  directory := by
    rw [get?_removeTree hloc, if_pos (List.prefix_refl loc)]
    nofun
  below l hl _ := by rw [get?_removeTree hloc, if_pos hl]

/-- What is gone stays so when another directory is removed. -/
theorem IsGone.removeTree (h : t.IsGone loc) {other : Location} (hother : other ≠ []) :
    (t.removeTree other).IsGone loc where
  directory := by
    rw [get?_removeTree hother]
    split
    · nofun
    · exact h.directory
  below l hl hne := by
    rw [get?_removeTree hother]
    split
    · rfl
    · exact h.below l hl hne

/-- No walk that starts outside a place where nothing is leads into it. -/
theorem IsGone.eq_of_walk (h : t.IsGone loc) {start : Location} {names : List (List UInt8)} (hstart : ¬ loc <+: start)
    (hwalk : t.walk start names = .ok l) (hl : loc <+: l) : l = loc := by
  induction names generalizing start with
  | nil =>
    cases hwalk
    exact absurd hl hstart
  | cons name names ih =>
    unfold walk at hwalk
    dsimp only at hwalk
    have hnext : loc <+: (if name = twoDots then start.dropLast else start ++ [name]) →
        (if name = twoDots then start.dropLast else start ++ [name]) = loc := by
      split
      · exact fun hup => absurd (hup.trans (List.dropLast_prefix start)) hstart
      · intro hdown
        rcases List.prefix_concat_iff.mp hdown with heq | hbefore
        · exact heq.symm
        · exact absurd hbefore hstart
    generalize (if name = twoDots then start.dropLast else start ++ [name]) = next at hwalk hnext
    split at hwalk
    · cases hwalk
    · split at hwalk
      · cases hwalk
        exact hnext hl
      · split at hwalk
        · rename_i hdirectory
          exact ih (fun hbelow => h.directory (hnext hbelow ▸ hdirectory)) hwalk
        · cases hwalk
        · cases hwalk

theorem IsGone.eq_of_locate (h : t.IsGone loc) (hloc : loc ≠ []) (hp : p.isAbsolute = true) (hl : t.locate p = .ok l)
    (hbelow : loc <+: l) : l = loc := by
  obtain ⟨_, names, -, -, -, -, hwalk⟩ := locate_eq_ok_iff.mp hl
  rw [startOf, if_pos hp] at hwalk
  exact h.eq_of_walk (by rwa [List.prefix_nil]) hwalk hbelow

/-- Writing under a path from the root brings nothing back below. -/
theorem IsGone.write (h : t.IsGone loc) (hloc : loc ≠ []) (hp : p.isAbsolute = true)
    (hwrite : t.write p content = .ok t') : t'.IsGone loc := by
  obtain ⟨l, executable, hl, hdirectory, rfl⟩ := exists_of_write hwrite
  have hput := get?_put (ne_nil_of_get? hdirectory) t (.file content executable)
  constructor
  · rw [hput]
    split
    · nofun
    · exact h.directory
  · intro l' hbelow hne
    rw [hput, if_neg, h.below l' hbelow hne]
    rintro rfl
    exact hne (h.eq_of_locate hloc hp hl hbelow)

/-! ### Where paths lead -/

/-- A path leads to a location, whatever stands on the way and there. -/
def Leads (t : FileTree) (p : Path) (l : Location) : Prop :=
  ∃ names, p.parts.mapM Text.encodeName = .ok names ∧ l = lead (t.startOf p) names

theorem leads_of_locate (h : t.locate p = .ok l) : t.Leads p l := by
  obtain ⟨_, names, -, hnames, -, -, hwalk⟩ := locate_eq_ok_iff.mp h
  exact ⟨names, hnames, eq_lead_of_walk hwalk⟩

theorem Leads.of_working (h : t.Leads p l) (hworking : t'.working = t.working) : t'.Leads p l := by
  obtain ⟨names, hnames, rfl⟩ := h
  exact ⟨names, hnames, by rw [startOf, startOf, hworking]⟩

/-! ### Two dots -/

theorem eq_nil_of_encodeNameFrom {start : ℕ} {cs : List CodePoint} (h : Text.encodeNameFrom start cs = .ok []) :
    cs = [] := by
  cases cs with
  | nil => rfl
  | cons c cs =>
    obtain ⟨first, behind, hfirst, -, hbytes⟩ := Text.encodeNameFrom_cons_eq_ok_iff.mp h
    exact absurd (List.append_eq_nil_iff.mp hbytes.symm).1 (Text.ne_nil_of_nameBytes? hfirst)

/-- Bytes that halves stand for are beyond ASCII. -/
theorem byteOfHalf?_ne_dot (half : Half) : Text.byteOfHalf? half ≠ some 46 := by
  unfold Text.byteOfHalf?
  split
  · intro heq
    have hbyte := congrArg UInt8.toNat (Option.some.inj heq)
    have h46 : (46 : UInt8).toNat = 46 := rfl
    rw [UInt8.toNat_ofNat', h46] at hbyte
    omega
  · nofun

/-- The byte of a dot opens a dot, whatever follows. -/
theorem eq_dot_of_nameBytes? {c : CodePoint} {more : List UInt8} (h : Text.nameBytes? c = some (46 :: more)) :
    c = .char '.' ∧ more = [] := by
  cases c with
  | char c =>
    obtain ⟨b, more', hc, hstep⟩ := Text.utf8Step_utf8Bytes c
    obtain ⟨rfl, rfl⟩ := List.cons.inj (hc.symm.trans (Option.some.inj h))
    have hdot : Text.Utf8Step.char '.' 0 = .char c more'.length := hstep []
    injection hdot with hchar hlength
    exact ⟨by rw [hchar], List.eq_nil_of_length_eq_zero hlength.symm⟩
  | half half =>
    obtain ⟨b, hb, hbytes⟩ := Option.map_eq_some_iff.mp h
    obtain ⟨rfl, -⟩ := List.cons.inj hbytes
    exact absurd hb (byteOfHalf?_ne_dot half)

theorem exists_of_encodeNameFrom_dot {start : ℕ} {cs : List CodePoint} {bytes : List UInt8}
    (h : Text.encodeNameFrom start cs = .ok (46 :: bytes)) :
    ∃ rest, cs = .char '.' :: rest ∧ Text.encodeNameFrom (start + 1) rest = .ok bytes := by
  cases cs with
  | nil => cases h
  | cons c cs =>
    obtain ⟨first, behind, hfirst, hbehind, hbytes⟩ := Text.encodeNameFrom_cons_eq_ok_iff.mp h
    obtain ⟨b, more, rfl⟩ := List.exists_cons_of_ne_nil (Text.ne_nil_of_nameBytes? hfirst)
    rw [List.cons_append, List.cons.injEq] at hbytes
    obtain ⟨rfl, rfl⟩ := hbytes
    obtain ⟨rfl, rfl⟩ := eq_dot_of_nameBytes? hfirst
    exact ⟨cs, rfl, hbehind⟩

/-- The bytes of two dots are those of no other text. -/
theorem eq_of_encodeName_twoDots {name : Text} (h : Text.encodeName name = .ok twoDots) : name = ".." := by
  obtain ⟨behind, hname, hbehind⟩ := exists_of_encodeNameFrom_dot h
  obtain ⟨last, rfl, hlast⟩ := exists_of_encodeNameFrom_dot hbehind
  rw [← Text.ofList_toList name, hname, eq_nil_of_encodeNameFrom hlast]
  rfl

/-- Names without two dots lead downwards. -/
theorem lead_of_not_mem {names : List (List UInt8)} (h : twoDots ∉ names) (loc : Location) :
    lead loc names = loc ++ names := by
  induction names generalizing loc with
  | nil => exact (List.append_nil loc).symm
  | cons name names ih =>
    rw [List.mem_cons, not_or] at h
    rw [lead, List.foldl_cons, if_neg (Ne.symm h.1)]
    exact (ih h.2 _).trans (List.append_assoc loc [name] names)

theorem lead_append (loc : Location) (names more : List (List UInt8)) :
    lead loc (names ++ more) = lead (lead loc names) more :=
  List.foldl_append

/-- A path below a directory, without two dots, leads below where the directory's path leads. -/
theorem exists_leads_of_join {directory q : Path} (h : t.Leads (directory.join q) l) (hq : q.isAbsolute = false)
    (hdots : (".." : Text) ∉ q.parts) : ∃ loc, t.Leads directory loc ∧ loc <+: l := by
  rw [Path.join, if_neg (by rw [hq]; decide)] at h
  obtain ⟨names, hnames, rfl⟩ := h
  rw [List.mapM_append] at hnames
  obtain ⟨above, habove, hnames⟩ := exists_of_bind_ok hnames
  obtain ⟨more, hmore, hnames⟩ := exists_of_bind_ok hnames
  cases hnames
  have hmoreDots : twoDots ∉ more := by
    intro hmem
    obtain ⟨name, hname, hbytes⟩ := exists_of_mem_mapM hmore hmem
    exact hdots (eq_of_encodeName_twoDots hbytes ▸ hname)
  refine ⟨lead (t.startOf directory) above, ⟨above, habove, rfl⟩, ?_⟩
  rw [lead_append, lead_of_not_mem hmoreDots]
  exact List.prefix_append _ more

end LintPreview.FileTree
