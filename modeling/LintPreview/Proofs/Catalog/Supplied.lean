import LintPreview.Proofs.Catalog.Details
import LintPreview.Proofs.Rule.Fields
import LintPreview.Proofs.Rule.Skipping
import LintPreview.Rehearsal

/-!
# What descriptors supply, and what details change in it

* `RuleField.agrees_answered`: an answer of the lint tool keeps every field that is there, except the name.
* `DetailCalls.AnswersListing`: a lint tool with a listing and an outcome for each call for details.
* `KeepsSupplied`, `keepsSupplied_of_fetchRules`: all that a descriptor supplies is in the rule that is fetched. Only the
  name gives way to the one in the details, if these were asked for.
-/

namespace LintPreview

open Program (World)

/-- An answer of the lint tool keeps every field that is there, except the name. -/
theorem RuleField.agrees_answered {f : RuleField} {r : Rule} (hname : f ≠ .name) (hfilled : f.IsFilledIn r)
    (answer : Except Failure Text) : f.Agrees r (r.answered answer) := by
  cases answer with
  | error failure => exact .refl f r
  | ok output =>
    cases f with
    | name => exact absurd rfl hname
    | description | triggeringExamples | nonTriggeringExamples =>
      exact if_neg (by rw [show _ = false from hfilled]; exact Bool.false_ne_true)
    | _ => rfl

/-! ### Fetching -/

/-- A lint tool with a listing that answers each call for details with its outcome, and tells anything of its version. -/
def DetailCalls.AnswersListing (output : Text) (outcome : Nat → Except Failure Text) :
    World ServiceAct ServiceAct.Reply DetailCalls
  | .listRules, c, reply, c' => reply = .ok output ∧ c' = c
  | .version, c, _, c' => c' = c
  | act, c, reply, c' => DetailCalls.Answers outcome act c reply c'

/-- What a descriptor supplies is in the rule `r'` that is fetched as it is in the rule `r` that was read off it, except
that details which were asked for have their say about the name. -/
structure KeepsSupplied (outcome : Nat → Except Failure Text) (limit : Int) (listed : List Rule) (item : Json) (i : Nat)
    (r r' : Rule) : Prop where
  fields : ∀ f : RuleField, f ≠ .name → f.IsSuppliedBy item → f.Agrees r r'
  name_told : ∀ text n, IsAsked limit listed i r → outcome i = .ok text → (readDetails text).name = some n → r'.name = n
  name_kept : (∀ text n, IsAsked limit listed i r → outcome i = .ok text → (readDetails text).name ≠ some n) →
    r'.name = r.name

section

variable {output : Text} {outcome : Nat → Except Failure Text} {limit : Int} {listed rules : List Rule} {item : Json}
  {i : Nat} {r : Rule}

/-- Rules with their details keep what their descriptors supply. -/
theorem IsDetailed.keepsSupplied (h : IsDetailed outcome limit listed rules) (hr : listed[i]? = some r)
    (hread : Rule.ofElement? item = .ok (some r)) :
    ∃ r', rules[i]? = some r' ∧ KeepsSupplied outcome limit listed item i r r' := by
  by_cases hasked : IsAsked limit listed i r
  · refine ⟨_, h.asked i r hasked, fun f hname hsupplied => ?_, fun text n _ htext hn => ?_, fun hnone => ?_⟩
    · exact RuleField.agrees_answered hname (RuleField.isFilledIn_of_supplies hread hsupplied) _
    · rw [htext, Rule.answered, Rule.enrich, hn]
      rfl
    · cases hanswer : outcome i with
      | error f => rfl
      | ok text =>
        rw [Rule.answered, Rule.enrich, Option.eq_none_iff_forall_ne_some.mpr fun n => hnone text n hasked hanswer]
        rfl
  · have hothers : ∀ q, ¬ IsAsked limit listed i q := by
      intro q hq
      obtain rfl : q = r := Option.some.inj (hq.1.symm.trans hr)
      exact hasked hq
    refine ⟨r, (h.others i hothers).trans hr, fun f _ _ => .refl f r, fun _ _ hr' => absurd hr' hasked, fun _ => rfl⟩

theorem lives_fetchDetails_answersListing (hfails : ∀ place f, outcome place = .error f → f.isOfTool = true)
    (output : Text) (settings : ToolSettings) (rules : List Rule) :
    (fetchDetails settings rules).run.Lives (DetailCalls.AnswersListing output outcome)
      (WithinCapacity (detailsCapacity settings.detailsConcurrency) (pendingRules settings.detailsLimit rules))
      (fun e c => DetailsEnd outcome (pendingRules settings.detailsLimit rules) rules c e) {} := by
  refine (lives_fetchDetails hfails settings rules).congr ?_
  rintro act c ⟨reply, c', hreply⟩ reply' c₁
  cases act with
  | listRules | version => exact hreply.elim
  | _ => exact Iff.rfl

/-- With a listing that can be read and no failure that cannot be shown, rules are fetched. -/
theorem exists_runs_fetchRules (hfails : ∀ place f, outcome place = .error f → f.isOfTool = true)
    (settings : ToolSettings) (hread : readRuleList output = .ok listed)
    (htold : ∀ (i : Nat) (r : Rule), listed[i]? = some r → r.untold? (outcome i) = none) :
    ∃ events rules version c,
      Job.Runs (DetailCalls.AnswersListing output outcome) (fetchRules settings) {} events (.ok (rules, version)) c := by
  have hlives := lives_fetchDetails_answersListing hfails output settings listed
  obtain ⟨events, e, c, hdetails⟩ := hlives.exists_runs
  cases hlives.stays.of_runs hdetails with
  | untold mem lost =>
    rw [htold _ _ (mem_pendingRules_iff.mp mem).1] at lost
    cases lost
  | @told rules' =>
    have hlisting : Job.Runs (DetailCalls.AnswersListing output outcome) Job.listRules {} [⟨.listRules, .ok output⟩]
        (.ok output) {} := .ask ⟨rfl, rfl⟩ (.done _ _)
    have hversion : Job.Runs (DetailCalls.AnswersListing output outcome) fetchVersion c [⟨.version, .ok ""⟩]
        (.ok none) c := .ask rfl (.done _ _)
    have hlisted : Job.Runs (DetailCalls.AnswersListing output outcome)
        (Job.ofResult ((readRuleList output).mapError .listing)) {} [] (.ok listed) {} := by
      rw [hread]
      exact .done _ _
    exact ⟨_, rules', none, c, Job.runs_bind hlisting
      (Job.runs_bind hlisted (Job.runs_bind hdetails (Job.runs_bind hversion (.done _ _))))⟩

/-- The rules of a listing are fetched, with what was told of them. -/
theorem isDetailed_of_fetchRules (hfails : ∀ place f, outcome place = .error f → f.isOfTool = true)
    {settings : ToolSettings} {version : Option Text} {events : List ServiceEvent} {c : DetailCalls}
    (h : Job.Runs (DetailCalls.AnswersListing output outcome) (fetchRules settings) {} events (.ok (rules, version)) c) :
    ∃ listed, readRuleList output = .ok listed ∧ IsDetailed outcome settings.detailsLimit listed rules := by
  obtain ⟨_, _, listed, c', events', ⟨hlisting, rfl⟩, hread, hdetails⟩ := exists_of_runs_fetchRules h
  cases hlisting
  refine ⟨listed, hread, ?_⟩
  generalize he : (.ok rules : Except Stop (List Rule)) = e at hdetails
  cases (lives_fetchDetails_answersListing hfails output settings listed).stays.of_runs hdetails with
  | told shown made ended detailed =>
    cases he
    exact detailed.isDetailed
  | untold mem lost => cases he

/-- Fetching the rules of a JSON listing, when each call for details ends with a text or a failure of the tool. Rules are
fetched if the listing can be read and all failures can be shown. They are those of the listing in its order, and each
of them has all that its descriptor supplies, except that the name in details which were asked for always counts. -/
theorem keepsSupplied_of_fetchRules (settings : ToolSettings) (output : Text) (outcome : Nat → Except Failure Text)
    (hfails : ∀ place f, outcome place = .error f → f.isOfTool = true) :
    (∀ listed, readRuleList output = .ok listed →
      (∀ (i : Nat) (r : Rule), listed[i]? = some r → r.untold? (outcome i) = none) →
      ∃ events rules version c,
        Job.Runs (DetailCalls.AnswersListing output outcome) (fetchRules settings) {} events (.ok (rules, version)) c) ∧
    ∀ events rules version c,
      Job.Runs (DetailCalls.AnswersListing output outcome) (fetchRules settings) {} events (.ok (rules, version)) c →
      ∃ listed, readRuleList output = .ok listed ∧ (rules.map Rule.id).Nodup ∧ rules.map Rule.id = listed.map Rule.id ∧
        ∀ items, Json.readChars output.trimmed = .ok (.list items) → ∀ item ∈ items, ∀ i r, listed[i]? = some r →
          Rule.ofElement? item = .ok (some r) →
          ∃ r', rules[i]? = some r' ∧ KeepsSupplied outcome settings.detailsLimit listed item i r r' := by
  refine ⟨fun listed hread htold => exists_runs_fetchRules hfails settings hread htold, ?_⟩
  intro events rules version c hruns
  obtain ⟨listed, hread, hdetailed⟩ := isDetailed_of_fetchRules hfails hruns
  have hids : rules.map Rule.id = listed.map Rule.id := by
    have := congrArg (List.map Rule.id) hdetailed.fixed
    rwa [List.map_map, List.map_map] at this
  refine ⟨listed, hread, ?_, hids, fun items _ item _ i r hr hitem => hdetailed.keepsSupplied hr hitem⟩
  rw [hids]
  exact ids_nodup_of_readRuleList hread

end

/-- A listing with a rule that has a name and a link. -/
def linkedListing : Text := "[\x7b\"identifier\":\"a\",\"name\":\"Mine\",\"documentation\":\"u\"\x7d]"

/-- The descriptor of this rule. -/
def linkedDescriptor : Json :=
  .object [("identifier", .text "a"), ("name", .text "Mine"), ("documentation", .text "u")]

/-- The rule of this descriptor. -/
def linkedRule : Rule := { id := "a", name := "Mine", documentationUrl := some "u" }

/-- Details with another name, and calls that fail. -/
def otherName : Nat → Except Failure Text
  | 0 => .ok "Other (a): d"
  | _ => .error (.toolFailed "no such rule" none "")

/-- The rule is fetched with its link, and with the other name. -/
theorem keepsSupplied_of_fetchRules_linkedListing :
    (∀ place f, otherName place = .error f → f.isOfTool = true) ∧
    ∃ events rules version c r',
      Job.Runs (DetailCalls.AnswersListing linkedListing otherName) (fetchRules {}) {} events (.ok (rules, version)) c ∧
        rules[0]? = some r' ∧ KeepsSupplied otherName 0 [linkedRule] linkedDescriptor 0 linkedRule r' ∧
        r'.documentationUrl = some "u" ∧ r'.name = "Other" := by
  have hfails : ∀ place f, otherName place = .error f → f.isOfTool = true := by
    rintro (_ | place) f h <;> cases h
    rfl
  have hread : readRuleList linkedListing = .ok [linkedRule] := by decide +kernel
  have hitems : Json.readChars linkedListing.trimmed = .ok (.list [linkedDescriptor]) := by decide +kernel
  have hitem : Rule.ofElement? linkedDescriptor = .ok (some linkedRule) := by decide +kernel
  have hname : (readDetails "Other (a): d").name = some "Other" := by decide +kernel
  have htold : ∀ (i : Nat) (r : Rule), [linkedRule][i]? = some r → r.untold? (otherName i) = none := by
    rintro (_ | i) r h
    · rfl
    · cases h
  obtain ⟨hruns, hkeeps⟩ := keepsSupplied_of_fetchRules {} linkedListing otherName hfails
  obtain ⟨events, rules, version, c, hrun⟩ := hruns _ hread htold
  obtain ⟨listed, hlisted, -, -, hall⟩ := hkeeps _ _ _ _ hrun
  cases hread.symm.trans hlisted
  obtain ⟨r', hr', hkept⟩ := hall _ hitems _ List.mem_cons_self 0 _ rfl hitem
  have hurl := hkept.fields .documentationUrl (by decide) ⟨"documentation", by decide, by decide +kernel⟩
  have hasked : IsAsked 0 [linkedRule] 0 linkedRule := ⟨rfl, by decide +kernel, nofun⟩
  exact ⟨hfails, events, rules, version, c, r', hrun, hr', hkept, hurl, hkept.name_told _ _ hasked rfl hname⟩

/-- The name that a descriptor supplies is not kept. -/
theorem fetchRules_otherName :
    linkedDescriptor.field "name" = .text "Mine" ∧ Rule.ofElement? linkedDescriptor = .ok (some linkedRule) ∧
    ((Rehearsal.run (fetchRules {}) { tool := .scripted {
        listRules := .text linkedListing, details := [("a", .text "Other (a): d")] } }).1.toOption.map Prod.fst) =
      some [{ linkedRule with name := "Other", description := "d" }] := by
  decide +kernel

end LintPreview
