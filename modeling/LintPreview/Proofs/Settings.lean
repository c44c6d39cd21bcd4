import LintPreview.Proofs.Number.Undefined
import LintPreview.Proofs.Outcome
import LintPreview.Proofs.Text.Search
import LintPreview.Settings

/-!
# Settings that make no sense

* `SettingRule`: what the rule of a setting asks of its text; `Environment.Breaks`: the text of a setting breaks it.
* `Settings.Breaks`: a setting breaks its rule. In settings that are read from an environment this comes from the text
  of the setting alone (`Settings.IsReadFrom.breaks_iff`), since the defaults break no rule.
* `Settings.mem_faults_iff`: the broken rules are the faults, except that an undefined timeout is none.
* `Settings.occurrences_faultMessage`: the message names the setting of each fault as often as it is listed.
* `Settings.validate_ofEnvironment`: so what is read from an environment is found sound if no rule is broken but by an
  undefined timeout, and else the message names each setting with another broken rule once.
-/

namespace LintPreview

open Text (occurrences)

/-! ### Names and rules -/

/-- What a setting has to be: a text that is not empty, a number above zero, or a whole number not below a least one. -/
inductive SettingRule where
  | filled
  | aboveZero
  | atLeast (least : Int)
deriving DecidableEq, Repr

/-- What a text says breaks a rule. -/
def SettingRule.IsBrokenBy : SettingRule → Text → Prop
  | .filled, t => t = ""
  | .aboveZero, t => ∃ x, Literal.readFloat t = .ok x ∧ ¬ x.IsAboveZero
  | .atLeast least, t => ∃ i, Literal.readInt 10 t = .ok i ∧ ¬ least ≤ i

namespace SettingFault

/-- The name of the setting that a fault is about. -/
def setting : SettingFault → Text
  | .noExecutable => "LINT_TOOL_EXECUTABLE"
  | .toolTimeout => "LINT_TOOL_TIMEOUT"
  | .noConfigFile => "LINT_CONFIG_FILE_NAME"
  | .detailsLimit => "RULE_DETAILS_LIMIT"
  | .detailsConcurrency => "RULE_DETAILS_CONCURRENCY"
  | .remoteTimeout => "REMOTE_CONFIG_TIMEOUT"
  | .maxBytes => "REMOTE_CONFIG_MAX_BYTES"
  | .noRulesFile => "RULE_CACHE_FILE"

/-- The rule of the setting that a fault is about. -/
def rule : SettingFault → SettingRule
  | .noExecutable => .filled
  | .toolTimeout => .aboveZero
  | .noConfigFile => .filled
  | .detailsLimit => .atLeast 0
  | .detailsConcurrency => .atLeast 1
  | .remoteTimeout => .aboveZero
  | .maxBytes => .atLeast 1
  | .noRulesFile => .filled

/-- All faults, in the order in which they are told. -/
def all : List SettingFault :=
  [.noExecutable, .toolTimeout, .noConfigFile, .detailsLimit, .detailsConcurrency, .remoteTimeout, .maxBytes,
    .noRulesFile]

theorem mem_all (f : SettingFault) : f ∈ all := by
  cases f <;> decide

theorem nodup_all : all.Nodup := by decide

/-- No name of a setting holds a blank or a mark. The message of a fault names its own setting once, and no other. -/
theorem spelling : ∀ f ∈ all, f.setting.toList ≠ [] ∧
    (∀ gap ∈ ([": ", ", "] : List Text), ∀ c ∈ gap.toList, c ∉ f.setting.toList) ∧
    occurrences f.setting.toList (Text.toList "Configuration errors") = 0 ∧
    ∀ g ∈ all, occurrences f.setting.toList g.message.toList = if g = f then 1 else 0 := by
  decide +kernel

end SettingFault

/-- The rule of a setting is broken by its text in an environment. A setting without a text has its default. -/
def Environment.Breaks (env : Environment) (f : SettingFault) : Prop :=
  ∃ t, valueUnder? f.setting env = some t ∧ f.rule.IsBrokenBy t

/-- A setting that has to be above zero is undefined by its text in an environment. -/
def Environment.LeavesUndefined (env : Environment) (f : SettingFault) : Prop :=
  f.rule = .aboveZero ∧ ∃ t, valueUnder? f.setting env = some t ∧ Literal.SpellsUndefined t

/-! ### What an environment says -/

namespace Environment

variable {env : Environment}

/-- A text is empty if the environment says so, unless the default is empty. -/
theorem eq_empty_iff {name default x : Text} (h : x = env.text name default) (hdefault : default ≠ "") :
    x = "" ↔ ∃ t, valueUnder? name env = some t ∧ t = "" := by
  rw [h, text]
  cases valueUnder? name env with
  | none => exact iff_of_false hdefault nofun
  | some t => simp

/-- What is read has a property if the text in the environment says so, unless the default has it. -/
theorem read_iff {α : Type} (has : α → Prop) {read : Text → Except LiteralError α} {found : Option Text}
    {default x : α} (h : (match found with | some t => read t | none => .ok default) = .ok x)
    (hdefault : ¬ has default) : has x ↔ ∃ t, found = some t ∧ ∃ y, read t = .ok y ∧ has y := by
  cases found with
  | none =>
    cases h
    exact iff_of_false hdefault nofun
  | some t =>
    have h : read t = .ok x := h
    simp [h]

/-- A number is undefined if the environment says so, unless the default is undefined. -/
theorem eq_undefined_iff {name : Text} {default x : Binary64} (h : env.decimal name default = .ok x)
    (hdefault : default ≠ .undefined) :
    x = .undefined ↔ ∃ t, valueUnder? name env = some t ∧ Literal.SpellsUndefined t := by
  rw [read_iff (· = Binary64.undefined) h hdefault]
  simp only [exists_eq_right, Literal.readFloat_eq_undefined_iff]

end Environment

namespace Settings

/-! ### Broken rules -/

/-- The rule of a setting is broken. -/
def Breaks (s : Settings) : SettingFault → Prop
  | .noExecutable => s.tool.executable = ""
  | .toolTimeout => ¬ s.tool.timeout.IsAboveZero
  | .noConfigFile => s.tool.configFileName = ""
  | .detailsLimit => ¬ 0 ≤ s.tool.detailsLimit
  | .detailsConcurrency => ¬ 1 ≤ s.tool.detailsConcurrency
  | .remoteTimeout => ¬ s.remote.timeout.IsAboveZero
  | .maxBytes => ¬ 1 ≤ s.remote.maxBytes
  | .noRulesFile => s.cache.rulesFile = ""

/-- A setting is a timeout that is undefined. -/
def LeavesUndefined (s : Settings) : SettingFault → Prop
  | .toolTimeout => s.tool.timeout = .undefined
  | .remoteTimeout => s.remote.timeout = .undefined
  | _ => False

instance (s : Settings) : DecidablePred s.Breaks
  | .noExecutable => inferInstanceAs (Decidable (s.tool.executable = ""))
  | .toolTimeout => inferInstanceAs (Decidable (¬ s.tool.timeout.IsAboveZero))
  | .noConfigFile => inferInstanceAs (Decidable (s.tool.configFileName = ""))
  | .detailsLimit => inferInstanceAs (Decidable (¬ 0 ≤ s.tool.detailsLimit))
  | .detailsConcurrency => inferInstanceAs (Decidable (¬ 1 ≤ s.tool.detailsConcurrency))
  | .remoteTimeout => inferInstanceAs (Decidable (¬ s.remote.timeout.IsAboveZero))
  | .maxBytes => inferInstanceAs (Decidable (¬ 1 ≤ s.remote.maxBytes))
  | .noRulesFile => inferInstanceAs (Decidable (s.cache.rulesFile = ""))

instance (s : Settings) : DecidablePred s.LeavesUndefined
  | .toolTimeout => inferInstanceAs (Decidable (s.tool.timeout = .undefined))
  | .remoteTimeout => inferInstanceAs (Decidable (s.remote.timeout = .undefined))
  | .noExecutable | .noConfigFile | .detailsLimit | .detailsConcurrency | .maxBytes | .noRulesFile =>
    inferInstanceAs (Decidable False)

/-! ### Faults and their message -/

/-- The faults are the broken rules, except that an undefined timeout is none. -/
theorem mem_faults_iff {s : Settings} {f : SettingFault} : f ∈ s.faults ↔ s.Breaks f ∧ ¬ s.LeavesUndefined f := by
  have hmem : f ∈ s.faults ↔ (true, f) ∈ s.checks := by simp [faults]
  have hbytes : s.remote.maxBytes ≤ 0 ↔ s.remote.maxBytes < 1 := by omega
  rw [hmem]
  cases f <;> simp [checks, Breaks, LeavesUndefined, Binary64.isAtMostZero_iff, hbytes]

theorem nodup_faults (s : Settings) : s.faults.Nodup := by
  have hall : (s.checks.map (·.2)).Nodup := SettingFault.nodup_all
  exact hall.sublist (List.filter_sublist.map _)

/-- The message of faults names the setting of each one as often as it is listed. -/
theorem occurrences_faultMessage (f : SettingFault) (faults : List SettingFault) :
    occurrences f.setting.toList (faultMessage faults).toList = faults.count f := by
  obtain ⟨hne, hgaps, hintroduction, hmessage⟩ := SettingFault.spelling f (SettingFault.mem_all f)
  have hlisted (faults : List SettingFault) : occurrences f.setting.toList
      (Text.intercalate ", " (faults.map SettingFault.message)).toList = faults.count f := by
    induction faults with
    | nil => exact Text.occurrences_nil hne
    | cons g faults ih =>
      rw [List.map_cons, Text.occurrences_intercalate_cons hne (by decide) (hgaps ", " (by decide)), ih,
        hmessage g (SettingFault.mem_all g), List.count_cons, Nat.add_comm]
      simp only [beq_iff_eq]
  have htext : (faultMessage faults).toList = Text.toList "Configuration errors" ++ Text.toList ": " ++
      (Text.intercalate ", " (faults.map SettingFault.message)).toList := rfl
  rw [htext, Text.occurrences_append_gap hne (by decide) (hgaps ": " (by decide)), hintroduction, Nat.zero_add,
    hlisted]

theorem validate_eq_ok_iff {s : Settings} : s.validate = .ok () ↔ ∀ f, s.Breaks f → s.LeavesUndefined f := by
  have hempty : s.validate = .ok () ↔ s.faults = [] := by
    unfold validate
    split
    · rename_i h
      exact iff_of_true rfl (List.isEmpty_iff.mp h)
    · rename_i h
      exact iff_of_false nofun fun hnil => h (List.isEmpty_iff.mpr hnil)
  rw [hempty, List.eq_nil_iff_forall_not_mem]
  refine forall_congr' fun f => ?_
  rw [mem_faults_iff, not_and, not_not]

/-! ### Settings from an environment -/

/-- The settings with a rule are those of an environment. -/
structure IsReadFrom (s : Settings) (env : Environment) : Prop where
  executable : s.tool.executable = env.text SettingFault.noExecutable.setting "swiftlint"
  toolTimeout : env.decimal SettingFault.toolTimeout.setting (.ofInt 300) = .ok s.tool.timeout
  configFileName : s.tool.configFileName = env.text SettingFault.noConfigFile.setting ".swiftlint.yml"
  detailsLimit : env.whole SettingFault.detailsLimit.setting 0 = .ok s.tool.detailsLimit
  detailsConcurrency : env.whole SettingFault.detailsConcurrency.setting 4 = .ok s.tool.detailsConcurrency
  remoteTimeout : env.decimal SettingFault.remoteTimeout.setting (.ofInt 30) = .ok s.remote.timeout
  maxBytes : env.whole SettingFault.maxBytes.setting 1048576 = .ok s.remote.maxBytes
  rulesFile : s.cache.rulesFile = env.text SettingFault.noRulesFile.setting "rules_cache.json"

variable {s : Settings} {env : Environment}

theorem isReadFrom_of_ofEnvironment (h : ofEnvironment env = .ok s) : s.IsReadFrom env := by
  obtain ⟨toolTimeout, htoolTimeout, h⟩ := exists_of_bind_ok h
  obtain ⟨limit, hlimit, h⟩ := exists_of_bind_ok h
  obtain ⟨concurrency, hconcurrency, h⟩ := exists_of_bind_ok h
  obtain ⟨remoteTimeout, hremoteTimeout, h⟩ := exists_of_bind_ok h
  obtain ⟨maxBytes, hmaxBytes, h⟩ := exists_of_bind_ok h
  cases h
  exact ⟨rfl, htoolTimeout, rfl, hlimit, hconcurrency, hremoteTimeout, hmaxBytes, rfl⟩

namespace IsReadFrom

/-- A rule is broken if the text of its setting breaks it: the defaults break none. -/
theorem breaks_iff (h : s.IsReadFrom env) (f : SettingFault) : s.Breaks f ↔ env.Breaks f := by
  cases f with
  | noExecutable => exact Environment.eq_empty_iff h.executable (by decide)
  | toolTimeout => exact Environment.read_iff (fun x : Binary64 => ¬ x.IsAboveZero) h.toolTimeout (by decide +kernel)
  | noConfigFile => exact Environment.eq_empty_iff h.configFileName (by decide)
  | detailsLimit => exact Environment.read_iff (fun i : ℤ => ¬ 0 ≤ i) h.detailsLimit (by decide)
  | detailsConcurrency => exact Environment.read_iff (fun i : ℤ => ¬ 1 ≤ i) h.detailsConcurrency (by decide)
  | remoteTimeout =>
    exact Environment.read_iff (fun x : Binary64 => ¬ x.IsAboveZero) h.remoteTimeout (by decide +kernel)
  | maxBytes => exact Environment.read_iff (fun i : ℤ => ¬ 1 ≤ i) h.maxBytes (by decide)
  | noRulesFile => exact Environment.eq_empty_iff h.rulesFile (by decide)

/-- A timeout is undefined if its text spells the undefined number. -/
theorem leavesUndefined_iff (h : s.IsReadFrom env) (f : SettingFault) :
    s.LeavesUndefined f ↔ env.LeavesUndefined f := by
  cases f with
  | toolTimeout => exact (Environment.eq_undefined_iff h.toolTimeout (by decide +kernel)).trans (and_iff_right rfl).symm
  | remoteTimeout =>
    exact (Environment.eq_undefined_iff h.remoteTimeout (by decide +kernel)).trans (and_iff_right rfl).symm
  | _ => exact iff_of_false not_false (fun hundefined => absurd hundefined.1 (by decide))

end IsReadFrom

/-- Settings that are read from an environment are found sound if and only if every broken rule is that of an undefined
timeout. If they are not, the message names each setting with another broken rule once, and names no other setting. -/
theorem validate_ofEnvironment (h : ofEnvironment env = .ok s) :
    (s.validate = .ok () ↔ ∀ f, s.Breaks f → s.LeavesUndefined f) ∧
    (∀ faults, s.validate = .error faults → ∀ f, occurrences f.setting.toList (faultMessage faults).toList =
      if s.Breaks f ∧ ¬ s.LeavesUndefined f then 1 else 0) ∧
    ∀ f, (s.Breaks f ↔ env.Breaks f) ∧ (s.LeavesUndefined f ↔ env.LeavesUndefined f) := by
  have hread := isReadFrom_of_ofEnvironment h
  refine ⟨validate_eq_ok_iff, fun faults herror f => ?_, fun f => ⟨hread.breaks_iff f, hread.leavesUndefined_iff f⟩⟩
  have hfaults : faults = s.faults := by
    unfold validate at herror
    split at herror
    · cases herror
    · cases herror
      rfl
  rw [occurrences_faultMessage, hfaults, s.nodup_faults.count]
  simp only [mem_faults_iff]

/-- An environment with an undefined timeout and no name for the snapshot. -/
def senselessEnvironment : Environment := [("REMOTE_CONFIG_TIMEOUT", "+NaN "), ("RULE_CACHE_FILE", "")]

/-- What is read from it. -/
def senseless : Settings := { remote := { timeout := .undefined }, cache := { rulesFile := "" } }

theorem validate_ofEnvironment_senseless :
    ofEnvironment senselessEnvironment = .ok senseless ∧
    (senseless.validate = .ok () ↔ ∀ f, senseless.Breaks f → senseless.LeavesUndefined f) ∧
    (∀ faults, senseless.validate = .error faults → ∀ f,
      occurrences f.setting.toList (faultMessage faults).toList =
        if senseless.Breaks f ∧ ¬ senseless.LeavesUndefined f then 1 else 0) ∧
    ∀ f, (senseless.Breaks f ↔ senselessEnvironment.Breaks f) ∧
      (senseless.LeavesUndefined f ↔ senselessEnvironment.LeavesUndefined f) :=
  have h : ofEnvironment senselessEnvironment = .ok senseless := by rfl
  ⟨h, validate_ofEnvironment h⟩

/-- An undefined timeout is not above zero, and nothing is said against it. -/
theorem validate_undefinedTimeout : ∃ s, ofEnvironment [("LINT_TOOL_TIMEOUT", "nan")] = .ok s ∧
    s.Breaks .toolTimeout ∧ s.validate = .ok () :=
  ⟨{ tool := { timeout := .undefined } }, by rfl, by decide, by decide +kernel⟩

end Settings

end LintPreview
