import LintPreview.Proofs.Files.Tree
import LintPreview.Proofs.Text.Utf8
import Mathlib.Tactic.SplitIfs

/-!
# Paths that cannot be used

* `Path.IsUnusable`: no file can stand under a path whose text holds a NUL character, or a half that stands for no byte.
* `FileTree.readBytes_eq_error_iff`: reading a file fails for these, and else with an error of the operation.
-/

namespace LintPreview

/-! ### Bytes of names -/

namespace Text

variable {start : ℕ} {cs : List CodePoint} {bytes : List UInt8}

/-- Every half in a name stands for a byte. -/
def HasNameBytes (cs : List CodePoint) : Prop := ∀ h, CodePoint.half h ∈ cs → byteOfHalf? h ≠ none

theorem exists_nameBytes?_iff {c : CodePoint} :
    (∃ bytes, nameBytes? c = some bytes) ↔ ∀ h, c = .half h → byteOfHalf? h ≠ none := by
  cases c with
  | char c => simp [nameBytes?]
  | half n => cases hb : byteOfHalf? n <;> simp [nameBytes?, hb]

theorem hasNameBytes_cons_iff {c : CodePoint} :
    HasNameBytes (c :: cs) ↔ (∃ bytes, nameBytes? c = some bytes) ∧ HasNameBytes cs := by
  rw [exists_nameBytes?_iff]
  simp only [HasNameBytes, List.mem_cons, or_imp, forall_and, eq_comm]

theorem exists_encodeNameFrom_iff : (∃ bytes, encodeNameFrom start cs = .ok bytes) ↔ HasNameBytes cs := by
  induction cs generalizing start with
  | nil => exact ⟨fun _ => nofun, fun _ => ⟨[], rfl⟩⟩
  | cons c cs ih =>
    rw [hasNameBytes_cons_iff, ← @ih (start + 1)]
    simp only [encodeNameFrom_cons_eq_ok_iff]
    constructor
    · rintro ⟨_, first, behind, hfirst, hbehind, rfl⟩
      exact ⟨⟨first, hfirst⟩, behind, hbehind⟩
    · rintro ⟨⟨first, hfirst⟩, behind, hbehind⟩
      exact ⟨_, first, behind, hfirst, hbehind, rfl⟩

theorem zero_mem_utf8Bytes_iff {c : Char} : 0 ∈ utf8Bytes c ↔ c = '\x00' := by
  have hvalid : c.toNat < 0x110000 := by
    rcases c.valid with h | ⟨-, h⟩
    · exact Nat.lt_trans h (by decide)
    · exact h
  have hnul : c = '\x00' ↔ c.toNat = 0 :=
    ⟨fun h => h ▸ rfl, fun h => Char.ext (UInt32.toNat_inj.mp h)⟩
  rw [hnul]
  unfold utf8Bytes
  generalize c.toNat = n at hvalid
  dsimp only
  split_ifs <;> simp only [List.mem_cons, List.not_mem_nil, or_false, ← UInt8.toNat_inj, UInt8.toNat_ofNat',
    Nat.toUInt8_eq, UInt8.reduceToNat] <;> omega

theorem byteOfHalf?_ne_zero (h : Half) : byteOfHalf? h ≠ some 0 := by
  unfold byteOfHalf?
  split
  · rename_i hbounds
    intro he
    have := congrArg UInt8.toNat (Option.some.inj he)
    simp only [UInt8.toNat_ofNat', UInt8.reduceToNat] at this
    omega
  · nofun

theorem zero_mem_iff_of_nameBytes? {c : CodePoint} (h : nameBytes? c = some bytes) :
    0 ∈ bytes ↔ CodePoint.char '\x00' = c := by
  cases c with
  | char c =>
    cases h
    rw [zero_mem_utf8Bytes_iff, CodePoint.char.injEq, eq_comm]
  | half n =>
    obtain ⟨b, hb, rfl⟩ := Option.map_eq_some_iff.mp h
    refine ⟨fun hmem => ?_, nofun⟩
    rw [← List.mem_singleton.mp hmem] at hb
    exact absurd hb (byteOfHalf?_ne_zero n)

/-- Only a NUL character is written with a zero. -/
theorem zero_mem_iff_of_encodeNameFrom (h : encodeNameFrom start cs = .ok bytes) :
    0 ∈ bytes ↔ CodePoint.char '\x00' ∈ cs := by
  induction cs generalizing start bytes with
  | nil =>
    cases h
    simp
  | cons c cs ih =>
    obtain ⟨first, behind, hfirst, hbehind, rfl⟩ := encodeNameFrom_cons_eq_ok_iff.mp h
    rw [List.mem_append, List.mem_cons, ih hbehind, zero_mem_iff_of_nameBytes? hfirst]

end Text

/-! ### Parts of paths -/

theorem Text.mem_intercalate {sep part : Text} {parts : List Text} (h : part ∈ parts) {c : CodePoint}
    (hc : c ∈ part.toList) : c ∈ (Text.intercalate sep parts).toList := by
  induction parts with
  | nil => cases h
  | cons first rest ih =>
    cases rest with
    | nil =>
      rw [List.mem_singleton.mp h] at hc
      exact hc
    | cons second rest =>
      rw [Text.intercalate, Text.toList_append, Text.toList_append]
      rcases List.mem_cons.mp h with rfl | h
      · exact List.mem_append_left _ (List.mem_append_left _ hc)
      · exact List.mem_append_right _ (ih h)

namespace Path

theorem mem_toString {p : Path} {part : Text} (h : part ∈ p.parts) {c : CodePoint} (hc : c ∈ part.toList) :
    c ∈ p.toString.toList := by
  have hmem : c ∈ (rootText p.root ++ Text.intercalate "/" p.parts).toList := by
    rw [Text.toList_append]
    exact List.mem_append_right _ (Text.mem_intercalate h hc)
  unfold toString
  dsimp only
  split
  · rename_i hempty
    rw [hempty] at hmem
    cases hmem
  · exact hmem

/-- A path under which no file can stand, and what is reported about it. -/
inductive IsUnusable (p : Path) : PathFault → Prop where
  | noBytes {run : Text.LoneHalves} (bytes : Text.encodeName p.toString = .error run) : IsUnusable p (.unencodable run)
  | nul (bytes : Text.HasNameBytes p.toString.toList) (nul : .char '\x00' ∈ p.toString.toList) :
      IsUnusable p .embeddedNull

end Path

namespace FileTree

variable {t : FileTree} {p : Path} {fault : PathFault}

theorem exists_mapM_encodeName (h : Text.HasNameBytes p.toString.toList) :
    ∃ names, p.parts.mapM Text.encodeName = .ok names := by
  have hparts : ∀ part ∈ p.parts, Text.HasNameBytes part.toList :=
    fun part hpart n hn => h n (Path.mem_toString hpart hn)
  generalize p.parts = parts at hparts
  induction parts with
  | nil => exact ⟨[], rfl⟩
  | cons part parts ih =>
    obtain ⟨hpart, hrest⟩ := List.forall_mem_cons.mp hparts
    obtain ⟨name, hname⟩ : ∃ bytes, Text.encodeNameFrom 0 part.toList = .ok bytes :=
      Text.exists_encodeNameFrom_iff.mpr hpart
    obtain ⟨names, hnames⟩ := ih hrest
    refine ⟨name :: names, ?_⟩
    rw [List.mapM_cons, Text.encodeName, hname, hnames]
    rfl

/-- A path that can be used leads to a location, or fails with an error of the operation. -/
theorem locate_eq_error_iff (hfault : ∀ e, fault ≠ .file e) : t.locate p = .error fault ↔ p.IsUnusable fault := by
  unfold locate
  dsimp only
  cases hbytes : Text.encodeName p.toString with
  | error run =>
    constructor
    · rintro ⟨⟩
      exact .noBytes hbytes
    · rintro (⟨h⟩ | ⟨h, -⟩)
      · cases hbytes.symm.trans h
        rfl
      · obtain ⟨bytes, h⟩ := Text.exists_encodeNameFrom_iff.mpr h
        cases hbytes.symm.trans h
  | ok bytes =>
    have hhas : Text.HasNameBytes p.toString.toList := Text.exists_encodeNameFrom_iff.mp ⟨bytes, hbytes⟩
    have hzero : bytes.contains 0 = true ↔ CodePoint.char '\x00' ∈ p.toString.toList := by
      rw [List.contains_iff_mem, Text.zero_mem_iff_of_encodeNameFrom hbytes]
    obtain ⟨names, hnames⟩ := exists_mapM_encodeName hhas
    rw [hnames]
    simp only [Except.mapError, bind, Except.bind]
    constructor
    · intro h
      split at h
      · cases h
        exact .nul hhas (hzero.mp ‹_›)
      · split at h
        · cases h
          exact absurd rfl (hfault _)
        · split at h
          · cases h
            exact absurd rfl (hfault _)
          · cases h
    · rintro (⟨h⟩ | ⟨-, h⟩)
      · cases hbytes.symm.trans h
      · rw [if_pos (hzero.mpr h)]
        rfl

/-- A file cannot be read because of its path if and only if the path cannot be used. -/
theorem readBytes_eq_error_iff (hfault : ∀ e, fault ≠ .file e) :
    t.readBytes p = .error fault ↔ p.IsUnusable fault := by
  rw [← locate_eq_error_iff (t := t) hfault]
  unfold readBytes lookup
  cases hl : t.locate p with
  | error fault' =>
    constructor
    · rintro ⟨⟩
      rfl
    · rintro ⟨⟩
      rfl
  | ok l =>
    refine ⟨fun h => ?_, nofun⟩
    simp only [bind, Except.bind] at h
    cases he : t.get? l with
    | none =>
      simp only [he] at h
      cases h
      exact absurd rfl (hfault _)
    | some e =>
      simp only [he] at h
      cases e with
      | directory =>
        cases h
        exact absurd rfl (hfault _)
      | file content executable => cases h

end FileTree

end LintPreview
