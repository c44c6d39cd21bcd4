import LintPreview.Proofs.Files.Tree
import LintPreview.Proofs.Run.Surroundings
import LintPreview.Proofs.Text.Pieces
import LintPreview.Proofs.Text.Utf8

/-!
# Names of files that are made for a while

* `Path.exists_parts_below`: the path below a directory ends with the name in it.
* `Path.IsApart`: the name at the end of a path is not like one that is made for a while. Then no such file is made
  where the path leads (`Path.IsApart.ne_lead`).
-/

namespace LintPreview

/-! ### The last part of a path -/

/-- The path below a directory ends with the name in it. -/
theorem Path.exists_parts_below (directory : Text) {name : Text} (hslash : .char '/' ∉ name.toList)
    (hname : (!name.isEmpty && name != ".") = true) :
    ∃ parts, (ofString (Host.below directory name)).parts = parts ++ [name] := by
  have htext : ∃ cs, (Host.below directory name).toList = cs ++ .char '/' :: name.toList := by
    unfold Host.below
    -- The text of a root ends with a slash already.
    split
    · rename_i hlast
      obtain ⟨cs, hcs⟩ := List.getLast?_eq_some_iff.mp hlast
      exact ⟨cs, by rw [Text.toList_append, hcs, List.append_assoc]; rfl⟩
    · exact ⟨directory.toList, by rw [Text.toList_append, Text.toList_append, List.append_assoc]; rfl⟩
  obtain ⟨cs, hcs⟩ := htext
  obtain ⟨piece, pieces, hpieces⟩ := Text.exists_splitOnChar_append_cons hslash cs
  have hlast : [name].filter (fun p : Text => !p.isEmpty && p != ".") = [name] := by
    rw [List.filter_cons]
    show (if (!name.isEmpty && name != ".") = true then _ else _) = _
    rw [if_pos hname, List.filter_nil]
  refine ⟨((piece :: pieces).map Text.ofList).filter fun p : Text => !p.isEmpty && p != ".", ?_⟩
  rw [ofString, hcs, partsOf, hpieces, ← List.cons_append, List.map_append, List.filter_append, List.map_singleton,
    Text.ofList_toList, hlast]

theorem FileTree.lead_append_singleton (loc : Location) (names : List (List UInt8)) {name : List UInt8}
    (h : name ≠ twoDots) : lead loc (names ++ [name]) = lead loc names ++ [name] := by
  rw [lead, List.foldl_append, List.foldl_cons, List.foldl_nil, if_neg h]
  rfl

/-! ### Names -/

/-- The bytes with which the name of a file starts that is made for a while. -/
def Host.temporaryStart : List UInt8 := [46, 114, 117, 108, 101, 115, 45]

/-- The name at the end of a path is not like one that is made for a while. -/
def Path.IsApart (p : Path) : Prop := ∃ name bytes, p.parts.getLast? = some name ∧ Text.encodeName name = .ok bytes ∧
  bytes ≠ FileTree.twoDots ∧ ¬ Host.temporaryStart <+: bytes

theorem Host.temporaryStart_prefix {middle : Text} {bytes : List UInt8}
    (h : Text.encodeName (temporaryNameOf middle) = .ok bytes) : temporaryStart <+: bytes := by
  have htext : (temporaryNameOf middle).toList = Text.toList ".rules-" ++ (middle.toList ++ Text.toList ".json") := by
    rw [temporaryNameOf, Text.toList_append, Text.toList_append, List.append_assoc]
  rw [Text.encodeName, htext] at h
  obtain ⟨first, behind, hfirst, -, rfl⟩ := (Text.encodeNameFrom_append_eq_ok_iff 0).mp h
  cases hfirst
  exact List.prefix_append temporaryStart behind

theorem Host.exists_parts_temporaryPath (directory : Path) {middle : Text} (hslash : .char '/' ∉ middle.toList) :
    ∃ parts, (Path.ofString (temporaryPath directory middle)).parts = parts ++ [temporaryNameOf middle] := by
  have hname : .char '/' ∉ (temporaryNameOf middle).toList := by
    rw [temporaryNameOf, Text.toList_append, Text.toList_append]
    simp only [List.mem_append, not_or]
    exact ⟨⟨by decide, hslash⟩, by decide⟩
  have hlong : temporaryNameOf middle ≠ "." := by
    intro h
    have hlength := congrArg (fun t => t.toList.length) h
    simp only [temporaryNameOf, Text.toList_append, List.length_append] at hlength
    have : (Text.toList ".rules-").length = 7 := rfl
    have : (Text.toList ".").length = 1 := rfl
    omega
  have hkept : (!(temporaryNameOf middle).isEmpty && temporaryNameOf middle != ".") = true :=
    Bool.and_eq_true_iff.mpr ⟨rfl, bne_iff_ne.mpr hlong⟩
  exact Path.exists_parts_below directory.toString hname hkept

/-- No file is made for a while where a path leads that is apart. -/
theorem Path.IsApart.ne_lead {p directory : Path} (h : p.IsApart) {t : FileTree} {middle : Text} {loc : Location}
    (hslash : .char '/' ∉ middle.toList) (hloc : t.locate (ofString (Host.temporaryPath directory middle)) = .ok loc)
    {start : Location} {names : List (List UInt8)} (hnames : p.parts.mapM Text.encodeName = .ok names) :
    FileTree.lead start names ≠ loc := by
  obtain ⟨name, bytes, hlast, hbytes, hdots, hstart⟩ := h
  obtain ⟨parts, hparts⟩ := List.getLast?_eq_some_iff.mp hlast
  rw [hparts] at hnames
  obtain ⟨before, b, rfl, hb⟩ := exists_of_mapM_append_singleton hnames
  cases hbytes.symm.trans hb
  obtain ⟨parts', hparts'⟩ := Host.exists_parts_temporaryPath directory hslash
  obtain ⟨-, names', -, hnames', -, -, hwalk⟩ := FileTree.locate_eq_ok_iff.mp hloc
  rw [hparts'] at hnames'
  obtain ⟨before', b', rfl, hb'⟩ := exists_of_mapM_append_singleton hnames'
  have hprefix := Host.temporaryStart_prefix hb'
  have hdots' : b' ≠ FileTree.twoDots := by
    rintro rfl
    exact absurd hprefix (by decide)
  rw [FileTree.eq_lead_of_walk hwalk, FileTree.lead_append_singleton _ _ hdots,
    FileTree.lead_append_singleton _ _ hdots']
  intro heq
  have hsame : bytes = b' := List.singleton_inj.mp (List.append_inj_right' heq rfl)
  exact hstart (hsame ▸ hprefix)

end LintPreview
