import LintPreview.Proofs.Files.Places
import LintPreview.Proofs.Text.Pieces

/-!
# A file in a directory

* `IsFileName`: a text that can name a file in a directory. As a path it is a single name (`IsFileName.ofString_eq`).
* `Path.toString_inside`: the text of the path of a file in a directory.
* `FileTree.locate_inside`: where this path leads, if it is not too long.
* `FileTree.readBytes_of_write`: what is written can be read.
-/

namespace LintPreview

/-- A text can name a file in a directory: it is a single name, not one of the dots, and a tree of files can hold it. -/
structure IsFileName (name : Text) : Prop where
  noSlash : .char '/' ∉ name.toList
  notEmpty : name ≠ ""
  notDot : name ≠ "."
  notDots : name ≠ ".."
  bytes : ∃ bytes, Text.encodeName name = .ok bytes ∧ 0 ∉ bytes ∧ bytes.length ≤ maxNameBytes

/-! ### Paths -/

/-- A single name is no way from the root. -/
theorem Path.rootOf_of_not_mem {cs : List CodePoint} (h : .char '/' ∉ cs) : rootOf cs = .relative := by
  cases cs with
  | nil => rfl
  | cons c rest =>
    rw [List.mem_cons, not_or] at h
    rw [rootOf, List.takeWhile_cons_of_neg]
    · rfl
    · rw [beq_iff_eq]
      exact fun heq => h.1 heq.symm

theorem IsFileName.ofString_eq {name : Text} (h : IsFileName name) : Path.ofString name = ⟨.relative, [name]⟩ := by
  have hempty : name.isEmpty = false := by
    rw [Bool.eq_false_iff]
    intro hnil
    exact h.notEmpty (Text.ext_toList (List.isEmpty_iff.mp hnil))
  have hkept : [name].filter (fun p : Text => !p.isEmpty && p != ".") = [name] := by
    refine List.filter_eq_self.mpr fun part hpart => ?_
    rw [List.mem_singleton.mp hpart, hempty, Bool.not_false, Bool.true_and, bne_iff_ne]
    exact h.notDot
  rw [Path.ofString, Path.rootOf_of_not_mem h.noSlash, Path.partsOf, Text.splitOnChar_of_not_mem h.noSlash,
    List.map_singleton, Text.ofList_toList, hkept]

theorem Text.intercalate_append_singleton (sep name : Text) {parts : List Text} (h : parts ≠ []) :
    intercalate sep (parts ++ [name]) = intercalate sep parts ++ sep ++ name := by
  induction parts with
  | nil => exact absurd rfl h
  | cons part parts ih =>
    cases parts with
    | nil => rfl
    | cons next parts =>
      have hrest := ih (List.cons_ne_nil next parts)
      refine Text.ext_toList ?_
      show (part ++ sep ++ intercalate sep (next :: parts ++ [name])).toList =
        (part ++ sep ++ intercalate sep (next :: parts) ++ sep ++ name).toList
      rw [hrest]
      simp only [toList_append, List.append_assoc]

theorem Path.toString_of_isAbsolute {p : Path} (h : p.isAbsolute = true) :
    p.toString = rootText p.root ++ Text.intercalate "/" p.parts := by
  unfold toString
  rw [if_neg]
  obtain ⟨root, parts⟩ := p
  cases root with
  | relative => cases h
  | slash | twoSlashes => exact fun heq => nomatch congrArg Text.toList heq

/-- The path of a file in a directory. -/
abbrev Path.inside (directory : Path) (name : Text) : Path := directory.join ⟨.relative, [name]⟩

/-- The text of the path of a file in a directory. Behind a root there is a slash already. -/
theorem Path.toString_inside {directory : Path} (h : directory.isAbsolute = true) (name : Text) :
    ∃ sep, (sep = Text.empty ∨ sep = "/") ∧ (directory.inside name).toString = directory.toString ++ sep ++ name := by
  have hinside : (directory.inside name).toString =
      rootText directory.root ++ Text.intercalate "/" (directory.parts ++ [name]) := toString_of_isAbsolute h
  rw [hinside, toString_of_isAbsolute h]
  by_cases hparts : directory.parts = []
  · refine ⟨Text.empty, .inl rfl, Text.ext_toList ?_⟩
    rw [hparts]
    simp only [Text.intercalate, Text.toList_append, List.append_assoc, List.nil_append]
    rfl
  · refine ⟨"/", .inr rfl, Text.ext_toList ?_⟩
    rw [Text.intercalate_append_singleton _ _ hparts]
    simp only [Text.toList_append, List.append_assoc]

/-- The bytes of the path of a file in a directory hold no zero, if those of the directory and the name hold none. -/
theorem Path.exists_encodeName_inside {directory : Path} (habsolute : directory.isAbsolute = true) {name : Text}
    (hname : IsFileName name) {bytes : List UInt8} (h : Text.encodeName directory.toString = .ok bytes)
    (hzero : bytes.contains 0 = false) :
    ∃ bytes', Text.encodeName (directory.inside name).toString = .ok bytes' ∧ bytes'.contains 0 = false := by
  obtain ⟨sep, hsep, htext⟩ := toString_inside habsolute name
  obtain ⟨last, hlast, hlastZero, -⟩ := hname.bytes
  have hbetween : ∃ between, Text.encodeName sep = .ok between ∧ (0 : UInt8) ∉ between := by
    rcases hsep with rfl | rfl
    · exact ⟨[], rfl, List.not_mem_nil⟩
    · exact ⟨[47], rfl, by decide⟩
  obtain ⟨between, hbetween, hbetweenZero⟩ := hbetween
  refine ⟨bytes ++ between ++ last, ?_, ?_⟩
  · rw [htext]
    exact (Text.encodeNameFrom_append_eq_ok_iff 0).mpr ⟨_, last,
      (Text.encodeNameFrom_append_eq_ok_iff 0).mpr ⟨bytes, between, h, hbetween, rfl⟩, hlast, rfl⟩
  · have hbytesZero : (0 : UInt8) ∉ bytes := by simpa using hzero
    simpa using ⟨hbytesZero, hbetweenZero, hlastZero⟩

/-! ### Places -/

namespace FileTree

variable {t t' : FileTree} {loc l : Location} {p : Path} {content : List UInt8}

/-- One name more leads from where the names before it lead, if a directory stands there. -/
theorem walk_append_singleton {start : Location} {names : List (List UInt8)} (h : t.walk start names = .ok loc)
    (hdirectory : t.get? loc = some .directory) {name : List UInt8} (hname : name ≠ twoDots)
    (hlength : name.length ≤ maxNameBytes) : t.walk start (names ++ [name]) = .ok (loc ++ [name]) := by
  induction names generalizing start with
  | nil =>
    cases h
    rw [List.nil_append, walk]
    simp [hname, Nat.not_lt.mpr hlength]
  | cons first names ih =>
    rw [List.cons_append]
    unfold walk at h ⊢
    dsimp only at h ⊢
    generalize (if first = twoDots then start.dropLast else start ++ [first]) = next at h ⊢
    split at h
    · cases h
    · rename_i hshort
      rw [if_neg hshort, if_neg (by simp)]
      cases names with
      | nil =>
        cases h
        rw [hdirectory]
        exact ih rfl
      | cons second names =>
        rw [if_neg (by simp)] at h
        split at h
        · exact ih h
        · cases h
        · cases h

/-- The path of a file in a directory leads into the directory. -/
theorem locate_inside {directory : Path} (habsolute : directory.isAbsolute = true)
    (hloc : t.locate directory = .ok loc) (hdirectory : t.get? loc = some .directory) {name : Text}
    (hname : IsFileName name)
    (hroom : ∀ bytes, Text.encodeName (directory.inside name).toString = .ok bytes → bytes.length < maxPathBytes) :
    ∃ bytes, t.locate (directory.inside name) = .ok (loc ++ [bytes]) := by
  obtain ⟨bytes, names, hbytes, hnames, hzero, -, hwalk⟩ := locate_eq_ok_iff.mp hloc
  obtain ⟨bytes', hbytes', hzero'⟩ := Path.exists_encodeName_inside habsolute hname hbytes hzero
  obtain ⟨last, hlast, -, hlength⟩ := hname.bytes
  have hdots : last ≠ twoDots := by
    rintro rfl
    exact hname.notDots (eq_of_encodeName_twoDots hlast)
  refine ⟨last, locate_eq_ok_iff.mpr ⟨bytes', names ++ [last], hbytes', ?_, hzero', hroom bytes' hbytes', ?_⟩⟩
  · show (directory.parts ++ [name]).mapM Text.encodeName = _
    rw [List.mapM_append, hnames, List.mapM_cons, hlast]
    rfl
  · exact walk_append_singleton hwalk hdirectory hdots hlength

/-- What is written can be read. -/
theorem readBytes_of_write (h : t.write p content = .ok t') : t'.readBytes p = .ok content := by
  obtain ⟨l, executable, hl, hdirectory, rfl⟩ := exists_of_write h
  refine readBytes_eq_ok_iff.mpr ⟨l, executable, (keepsDirectories_put hdirectory _).locate hl, ?_⟩
  rw [get?_put (ne_nil_of_get? hdirectory), if_pos rfl]

/-- A file is written where its path leads, if nothing stands there. -/
theorem write_eq_of_get?_eq_none (hl : t.locate p = .ok l) (h : t.get? l = none) (content : List UInt8) :
    t.write p content = .ok (t.put l (.file content false)) := by
  rw [write, hl]
  simp only [bind, Except.bind, h]
  rfl

end FileTree

end LintPreview
