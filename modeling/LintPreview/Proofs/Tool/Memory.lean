import LintPreview.Tool.Finder
import Mathlib.Data.List.Induction

/-!
# What the search for the tool finds, call after call

* `Surroundings.places`: where a search looks, in order; `Surroundings.findProgram?_eq` says that it takes the first
  program there.
* `Surroundings.memoryAfter`: the memory behind a history of calls. Whatever is in it was found by a call of the history
  (`Surroundings.exists_of_memoryAfter`).
* `Surroundings.isProgram_of_locateTool`: what a call behind any history gives. A path that is looked for anew is that of
  a program; one in memory may lead to a directory by now.
-/

namespace LintPreview

namespace FileTree

/-- What may be entered or run is a program or a directory. -/
theorem isPassable_iff {t : FileTree} {path : Text} :
    t.isPassable path = true ↔ t.isProgram path = true ∨ t.entryAt? path = some .directory := by
  unfold isPassable isProgram
  cases t.entryAt? path with
  | none => simp
  | some entry => cases entry <;> simp

theorem isProgram_of_directory {t : FileTree} {path : Text} (h : t.entryAt? path = some .directory) :
    t.isProgram path = false := by
  unfold isProgram
  rw [h]

end FileTree

namespace Surroundings

variable {s : Surroundings} {settings : ToolSettings} {memory : Option FoundTool} {history : List Surroundings}

/-! ### One search -/

/-- The places where a search looks, in order: those of the settings, then those of the search path. -/
def places (s : Surroundings) (settings : ToolSettings) : List Text :=
  settings.searchPaths ++
    if settings.executable.toList.contains '/' then [settings.executable]
    else s.searchDirectories.map (nameIn · settings.executable)

theorem findProgram?_eq (s : Surroundings) (settings : ToolSettings) :
    s.findProgram? settings = (s.places settings).find? s.files.isProgram := by
  rw [places, List.find?_append]
  unfold findProgram? onSearchPath?
  cases settings.searchPaths.find? s.files.isProgram <;> rfl

theorem isProgram_of_findProgram? {path : Text} (h : s.findProgram? settings = some path) :
    path ∈ s.places settings ∧ s.files.isProgram path = true := by
  rw [findProgram?_eq] at h
  exact ⟨List.mem_of_find?_eq_some h, List.find?_some h⟩

/-- What is remembered is in memory, still kept, and may be entered or run. -/
theorem remembered?_eq_some_iff {path : Text} : s.remembered? memory = some path ↔
    ∃ f, memory = some f ∧ f.isKept s.time = true ∧ s.files.isPassable f.path = true ∧ f.path = path := by
  cases memory with
  | none => simp [remembered?]
  | some f => simp [remembered?, and_assoc]

/-- The memory stays as it is, unless a program is found anew. -/
theorem memory_locateTool (s : Surroundings) (settings : ToolSettings) (memory : Option FoundTool) :
    (s.locateTool settings memory).2 = memory ∨
      ∃ path, s.findProgram? settings = some path ∧ (s.locateTool settings memory).2 = some ⟨path, s.time⟩ := by
  unfold locateTool
  cases s.remembered? memory with
  | some path => exact .inl rfl
  | none =>
    cases hfound : s.findProgram? settings with
    | none => exact .inl rfl
    | some path => exact .inr ⟨path, rfl, rfl⟩

/-- A path that is given is remembered or found anew. -/
theorem locateTool_eq_ok_iff {path : Text} : (s.locateTool settings memory).1 = .ok path ↔
    s.remembered? memory = some path ∨ s.remembered? memory = none ∧ s.findProgram? settings = some path := by
  unfold locateTool
  cases s.remembered? memory with
  | some path' => simp
  | none => cases s.findProgram? settings <;> simp

/-- A search fails where nothing is remembered and no place has a program. -/
theorem locateTool_eq_error_iff {failure : Failure} : (s.locateTool settings memory).1 = .error failure ↔
    s.remembered? memory = none ∧ s.findProgram? settings = none ∧ failure = settings.notFound := by
  unfold locateTool
  cases s.remembered? memory with
  | some path => simp
  | none =>
    cases s.findProgram? settings with
    | none => simp [eq_comm]
    | some path => simp

/-! ### Calls in a row -/

/-- The memory after calls in a row, each in surroundings of its own. -/
def memoryAfter (settings : ToolSettings) (history : List Surroundings) : Option FoundTool :=
  history.foldl (fun memory s => (s.locateTool settings memory).2) none

theorem memoryAfter_append_singleton (settings : ToolSettings) (history : List Surroundings) (s : Surroundings) :
    memoryAfter settings (history ++ [s]) = (s.locateTool settings (memoryAfter settings history)).2 := by
  rw [memoryAfter, List.foldl_append]
  rfl

/-- What is in memory was found by an earlier call, at the time that is noted with it. -/
theorem exists_of_memoryAfter {f : FoundTool} (h : memoryAfter settings history = some f) :
    ∃ earlier ∈ history, earlier.time = f.time ∧ earlier.findProgram? settings = some f.path := by
  induction history using List.reverseRecOn with
  | nil => cases h
  | append_singleton history s ih =>
    rw [memoryAfter_append_singleton] at h
    rcases memory_locateTool s settings (memoryAfter settings history) with hsame | ⟨path, hfound, hnew⟩
    · obtain ⟨earlier, hmem, hearlier⟩ := ih (hsame.symm.trans h)
      exact ⟨earlier, List.mem_append_left _ hmem, hearlier⟩
    · cases hnew.symm.trans h
      exact ⟨s, List.mem_append_right _ (List.mem_singleton_self s), rfl, hfound⟩

/-- Behind any history, a call that gives a path gives that of a program, unless an earlier call has found a program
under this path, less than ten minutes ago, and the path leads to a directory now; such a path is given while it is
kept. A call that fails says that the tool is not found, and no place has a program then. -/
theorem isProgram_of_locateTool (settings : ToolSettings) (history : List Surroundings) (s : Surroundings) :
    (∀ path, (s.locateTool settings (memoryAfter settings history)).1 = .ok path →
      s.files.isProgram path = true ∨
        s.files.entryAt? path = some .directory ∧ ∃ earlier ∈ history, path ∈ earlier.places settings ∧
          earlier.files.isProgram path = true ∧ s.time < earlier.time + FoundTool.lifetime) ∧
    (∀ f, memoryAfter settings history = some f → f.isKept s.time = true →
      s.files.entryAt? f.path = some .directory →
      (s.locateTool settings (memoryAfter settings history)).1 = .ok f.path ∧ s.files.isProgram f.path = false) ∧
    ∀ failure, (s.locateTool settings (memoryAfter settings history)).1 = .error failure →
      failure = settings.notFound ∧ ∀ place ∈ s.places settings, s.files.isProgram place = false := by
  refine ⟨?_, ?_, ?_⟩
  · intro path h
    rcases locateTool_eq_ok_iff.mp h with hremembered | ⟨-, hfound⟩
    · obtain ⟨f, hmemory, hkept, hpassable, rfl⟩ := remembered?_eq_some_iff.mp hremembered
      refine (FileTree.isPassable_iff.mp hpassable).imp_right fun hdirectory => ⟨hdirectory, ?_⟩
      obtain ⟨earlier, hmem, htime, hfound⟩ := exists_of_memoryAfter hmemory
      obtain ⟨hplace, hprogram⟩ := isProgram_of_findProgram? hfound
      refine ⟨earlier, hmem, hplace, hprogram, ?_⟩
      rw [htime]
      exact of_decide_eq_true hkept
    · exact .inl (isProgram_of_findProgram? hfound).2
  · intro f hmemory hkept hdirectory
    refine ⟨locateTool_eq_ok_iff.mpr (.inl ?_), FileTree.isProgram_of_directory hdirectory⟩
    exact remembered?_eq_some_iff.mpr ⟨f, hmemory, hkept, FileTree.isPassable_iff.mpr (.inr hdirectory), rfl⟩
  · intro failure h
    obtain ⟨-, hnone, rfl⟩ := locateTool_eq_error_iff.mp h
    refine ⟨rfl, fun place hplace => ?_⟩
    rw [findProgram?_eq, List.find?_eq_none] at hnone
    exact Bool.eq_false_iff.mpr (hnone place hplace)

/-- A path is given that leads to a directory by now, where a program was found before. -/
theorem not_isProgram_of_locateTool_directory :
    ¬ ∀ (settings : ToolSettings) (history : List Surroundings) (s : Surroundings) (path : Text),
      (s.locateTool settings (memoryAfter settings history)).1 = .ok path → s.files.isProgram path = true := by
  intro h
  have hdirectory := h { searchPaths := ["bin"] }
    [{ files := { entries := [([Host.nameBytes "bin"], .file [] true)] }, searchPath := "" }]
    { files := { entries := [([Host.nameBytes "bin"], .directory)] }, searchPath := "", time := 1 } "bin" rfl
  exact absurd hdirectory (by decide)

end Surroundings

end LintPreview
