import LintPreview.Catalog.Load
import LintPreview.Proofs.Rule.Descriptor
import LintPreview.Proofs.Run.Surroundings

/-!
# The rules of the lint tool

* `Job.OnlyAsksTool`: a job that does nothing but talk to the lint tool, and is not cancelled on the way.
* `onlyAsksTool_fetchRules`: the rules are fetched by such a job.
* `exists_of_runs_fetchRules`: they come from a listing, whose rules then get their details.
* `fixed_of_fetchRules`: the rules that are fetched are those of a listing, because details never change an id or
  parameters (`fixed_of_fetchDetailsFrom`).
* `ids_nodup_of_fetchRules`: so they have different ids.
-/

namespace LintPreview

open Program (World)

/-- The acts in which a service talks to the lint tool. -/
def ServiceAct.isOfTool : ServiceAct → Bool
  | .listRules | .version | .lint _ _ | .startDetails _ _ | .awaitDetails => true
  | _ => false

namespace Job

variable {disk : World DiskAct DiskAct.Reply Host} {α β : Type}

/-- A job that only asks the lint tool: it leaves the workplace as it is, and where nobody cancels it, it is not
cancelled. -/
def OnlyAsksTool (disk : World DiskAct DiskAct.Reply Host) (job : Job α) : Prop :=
  ∀ p events e p', Runs (Workplace.Answers disk) job p events e p' →
    p' = p ∧ e ≠ .error .cancelled ∧ ∀ event ∈ events, event.1.isOfTool = true

theorem onlyAsksTool_pure (a : α) : OnlyAsksTool disk (pure a : Job α) := by
  intro p events e p' h
  obtain ⟨rfl, rfl, rfl⟩ := runs_pure_iff.mp h
  exact ⟨rfl, nofun, List.forall_mem_nil _⟩

theorem onlyAsksTool_fail (f : Failure) : OnlyAsksTool disk (fail f : Job α) := by
  intro p events e p' h
  obtain ⟨rfl, rfl, rfl⟩ := runs_fail_iff.mp h
  exact ⟨rfl, nofun, List.forall_mem_nil _⟩

theorem onlyAsksTool_ofResult (e : Except Failure α) : OnlyAsksTool disk (ofResult e) := by
  cases e with
  | ok a => exact onlyAsksTool_pure a
  | error f => exact onlyAsksTool_fail f

theorem onlyAsksTool_announce (n : Notice) : OnlyAsksTool disk (announce n) := by
  unfold announce
  cases n.lost? with
  | some run => exact onlyAsksTool_fail _
  | none => exact onlyAsksTool_pure ()

/-- One act, whose reply is turned into the end of the job. -/
theorem onlyAsksTool_ask (act : ServiceAct) (toEnd : act.Reply → Except Stop α) (hact : act.isOfTool = true)
    (h : ∀ p reply p', Workplace.Answers disk act p reply p' → p' = p ∧ toEnd reply ≠ .error .cancelled) :
    OnlyAsksTool disk (ExceptT.mk (.ask act fun reply => .done (toEnd reply)) : Job α) := by
  intro p events e p' hrun
  obtain ⟨reply, p₁, events', answers, goesOn, rfl⟩ := Program.runs_ask_iff.mp hrun
  obtain ⟨rfl, rfl, rfl⟩ := Program.runs_done_iff.mp goesOn
  obtain ⟨rfl, hne⟩ := h _ _ _ answers
  refine ⟨rfl, hne, fun event hevent => ?_⟩
  rw [List.mem_singleton.mp hevent]
  exact hact

theorem onlyAsksTool_listRules : OnlyAsksTool disk listRules :=
  onlyAsksTool_ask .listRules id rfl fun _ _ _ h => ⟨h.2, h.1⟩

theorem onlyAsksTool_version : OnlyAsksTool disk version :=
  onlyAsksTool_ask .version id rfl fun _ _ _ h => ⟨h.2, h.1⟩

theorem onlyAsksTool_startDetails (index : Nat) (id : Text) : OnlyAsksTool disk (startDetails index id) :=
  onlyAsksTool_ask (.startDetails index id) (fun _ => .ok ()) rfl fun _ _ _ h => ⟨h, nofun⟩

theorem onlyAsksTool_awaitDetails : OnlyAsksTool disk awaitDetails :=
  onlyAsksTool_ask .awaitDetails id rfl fun _ _ _ h => ⟨h.2, h.1⟩

theorem OnlyAsksTool.bind {job : Job α} {f : α → Job β} (h : OnlyAsksTool disk job)
    (hf : ∀ a, OnlyAsksTool disk (f a)) : OnlyAsksTool disk (job >>= f) := by
  intro p events e p' hrun
  rcases runs_bind_iff.mp hrun with ⟨a, p₁, events₁, events₂, h₁, h₂, rfl⟩ | ⟨stop, h₁, rfl⟩
  · obtain ⟨rfl, -, hevents₁⟩ := h _ _ _ _ h₁
    obtain ⟨rfl, hne, hevents₂⟩ := hf a _ _ _ _ h₂
    refine ⟨rfl, hne, fun event hevent => ?_⟩
    rcases List.mem_append.mp hevent with hevent | hevent
    · exact hevents₁ event hevent
    · exact hevents₂ event hevent
  · obtain ⟨rfl, hne, hevents⟩ := h _ _ _ _ h₁
    exact ⟨rfl, fun he => hne (by cases he; rfl), hevents⟩

theorem OnlyAsksTool.outcome_bind {job : Job α} {f : Except Stop α → Job β} (h : OnlyAsksTool disk job)
    (hf : ∀ e, e ≠ .error .cancelled → OnlyAsksTool disk (f e)) : OnlyAsksTool disk (job.outcome >>= f) := by
  intro p events e p' hrun
  obtain ⟨end₁, p₁, events₁, events₂, h₁, h₂, rfl⟩ := runs_outcome_bind_iff.mp hrun
  obtain ⟨rfl, hne₁, hevents₁⟩ := h _ _ _ _ h₁
  obtain ⟨rfl, hne, hevents₂⟩ := hf end₁ hne₁ _ _ _ _ h₂
  refine ⟨rfl, hne, fun event hevent => ?_⟩
  rcases List.mem_append.mp hevent with hevent | hevent
  · exact hevents₁ event hevent
  · exact hevents₂ event hevent

end Job

/-! ### Details -/

section

open Job (OnlyAsksTool Runs)

variable {disk : World DiskAct DiskAct.Reply Host}

theorem onlyAsksTool_detailed (r : Rule) (answer : Except Failure Text) : OnlyAsksTool disk (detailed r answer) := by
  cases answer with
  | ok output => exact Job.onlyAsksTool_pure _
  | error f =>
    by_cases hf : f.isOfTool = true
    · rw [detailed, if_pos hf]
      exact (Job.onlyAsksTool_announce _).bind fun _ => Job.onlyAsksTool_pure r
    · rw [detailed, if_neg hf]
      exact Job.onlyAsksTool_fail f

theorem onlyAsksTool_fetchDetailsFrom (capacity fuel : Nat) (waiting inFlight : List PlacedRule) (rules : List Rule) :
    OnlyAsksTool disk (fetchDetailsFrom capacity fuel waiting inFlight rules) := by
  induction fuel generalizing waiting inFlight rules with
  | zero => exact Job.onlyAsksTool_pure rules
  | succ fuel ih =>
    unfold fetchDetailsFrom
    split
    · exact (Job.onlyAsksTool_startDetails _ _).bind fun _ => ih _ _ _
    · split
      · exact Job.onlyAsksTool_pure rules
      · refine Job.onlyAsksTool_awaitDetails.bind fun reply => ?_
        obtain ⟨place, answer⟩ := reply
        dsimp only
        split
        · exact Job.onlyAsksTool_pure rules
        · exact (onlyAsksTool_detailed _ _).bind fun _ => ih _ _ _

theorem onlyAsksTool_fetchVersion : OnlyAsksTool disk fetchVersion := by
  refine Job.onlyAsksTool_version.outcome_bind fun e he => ?_
  rcases e with (f | -) | text
  · by_cases hf : f.isOfTool = true
    · simp only [if_pos hf]
      exact (Job.onlyAsksTool_announce _).bind fun _ => Job.onlyAsksTool_pure none
    · simp only [if_neg hf]
      exact Job.onlyAsksTool_fail f
  · exact absurd rfl he
  · exact Job.onlyAsksTool_pure _

/-- Fetching the rules only asks the lint tool. -/
theorem onlyAsksTool_fetchRules (tool : ToolSettings) : OnlyAsksTool disk (fetchRules tool) := by
  refine Job.onlyAsksTool_listRules.bind fun output => ?_
  refine (Job.onlyAsksTool_ofResult _).bind fun rules => ?_
  refine (onlyAsksTool_fetchDetailsFrom _ _ _ _ _).bind fun rules => ?_
  exact onlyAsksTool_fetchVersion.bind fun version => Job.onlyAsksTool_pure _

/-! ### What details keep -/

variable {σ : Type} {w : World ServiceAct ServiceAct.Reply σ}

/-- What no details change in a rule: its id and its parameters. -/
def Rule.fixed (r : Rule) : Text × Option (List Parameter) := (r.id, r.parameters)

/-- Rules that stand in a list at their places, as far as details do not change them. -/
def IsPlacedIn (rules : List Rule) (waiting : List PlacedRule) : Prop :=
  ∀ x ∈ waiting, (rules.map Rule.fixed)[x.1]? = some x.2.fixed

theorem getElem?_of_mem_placed {n : Nat} {rules : List Rule} {x : PlacedRule} (h : x ∈ placed n rules) :
    n ≤ x.1 ∧ rules[x.1 - n]? = some x.2 := by
  induction rules generalizing n with
  | nil => cases h
  | cons r rest ih =>
    rw [placed, List.mem_cons] at h
    rcases h with rfl | h
    · simp
    · obtain ⟨hle, hget⟩ := ih h
      refine ⟨by omega, ?_⟩
      rw [show x.1 - n = (x.1 - (n + 1)) + 1 by omega, List.getElem?_cons_succ, hget]

theorem isPlacedIn_pendingRules (limit : Int) (rules : List Rule) : IsPlacedIn rules (pendingRules limit rules) := by
  intro x hx
  have hmem : x ∈ placed 0 rules := by
    unfold pendingRules at hx
    split at hx
    · exact (List.mem_filter.mp (List.mem_of_mem_take hx)).1
    · exact (List.mem_filter.mp hx).1
  have hget : rules[x.1]? = some x.2 := (getElem?_of_mem_placed hmem).2
  rw [List.getElem?_map, hget]
  rfl

theorem mem_of_takeFlight {place : Nat} {inFlight others : List PlacedRule} {q : PlacedRule}
    (h : takeFlight place inFlight = some (q, others)) : q ∈ inFlight ∧ ∀ x ∈ others, x ∈ inFlight := by
  cases inFlight with
  | nil => cases h
  | cons p rest =>
    rw [takeFlight] at h
    split at h
    · rename_i found
      cases h
      exact ⟨List.mem_of_find?_eq_some found, fun x hx => (List.mem_filter.mp hx).1⟩
    · cases h
      exact ⟨List.mem_cons_self, fun x hx => List.mem_cons_of_mem _ hx⟩

/-- An answer of the lint tool never changes the id and the parameters of its rule. -/
theorem fixed_of_detailed {r r' : Rule} {answer : Except Failure Text} {p p' : σ} {events : List ServiceEvent}
    (h : Runs w (detailed r answer) p events (.ok r') p') : r'.fixed = r.fixed := by
  cases answer with
  | ok output =>
    obtain ⟨-, he, -⟩ := Job.runs_pure_iff.mp h
    cases he
    rfl
  | error f =>
    by_cases hf : f.isOfTool = true
    · rw [detailed, if_pos hf] at h
      rcases Job.runs_bind_iff.mp h with ⟨_, _, _, _, -, h₂, -⟩ | ⟨_, -, he⟩
      · obtain ⟨-, he, -⟩ := Job.runs_pure_iff.mp h₂
        cases he
        rfl
      · cases he
    · rw [detailed, if_neg hf] at h
      obtain ⟨-, he, -⟩ := Job.runs_fail_iff.mp h
      cases he

theorem map_fixed_set {rules : List Rule} {i : Nat} {r : Rule} (h : (rules.map Rule.fixed)[i]? = some r.fixed) :
    (rules.set i r).map Rule.fixed = rules.map Rule.fixed := by
  rw [List.map_set]
  apply List.ext_getElem?
  intro j
  rw [List.getElem?_set]
  split
  · rename_i hij
    subst hij
    split
    · exact h.symm
    · rename_i hlt
      rw [List.getElem?_eq_none (by omega)]
  · rfl

/-- Asking for details keeps every rule in its place. -/
theorem fixed_of_fetchDetailsFrom {capacity fuel : Nat} {waiting inFlight : List PlacedRule} {rules rules' : List Rule}
    {p p' : σ} {events : List ServiceEvent} (hw : IsPlacedIn rules waiting) (hi : IsPlacedIn rules inFlight)
    (h : Runs w (fetchDetailsFrom capacity fuel waiting inFlight rules) p events (.ok rules') p') :
    rules'.map Rule.fixed = rules.map Rule.fixed := by
  induction fuel generalizing waiting inFlight rules p events with
  | zero =>
    obtain ⟨-, he, -⟩ := Job.runs_pure_iff.mp h
    cases he
    rfl
  | succ fuel ih =>
    unfold fetchDetailsFrom at h
    split at h
    case h_1 next rest _ =>
      rcases Job.runs_bind_iff.mp h with ⟨_, _, _, _, -, h₂, -⟩ | ⟨_, -, he⟩
      · refine ih (fun x hx => hw x (List.mem_cons_of_mem next hx)) (fun x hx => ?_) h₂
        rcases List.mem_append.mp hx with hx | hx
        · exact hi x hx
        · exact hw x (by rw [List.mem_singleton.mp hx]; exact List.mem_cons_self)
      · cases he
    case h_2 =>
      split at h
      · obtain ⟨-, he, -⟩ := Job.runs_pure_iff.mp h
        cases he
        rfl
      · rcases Job.runs_bind_iff.mp h with ⟨⟨place, answer⟩, _, _, _, -, h₂, -⟩ | ⟨_, -, he⟩
        · dsimp only at h₂
          split at h₂
          · obtain ⟨-, he, -⟩ := Job.runs_pure_iff.mp h₂
            cases he
            rfl
          · rename_i q others htake
            obtain ⟨hq, hothers⟩ := mem_of_takeFlight htake
            rcases Job.runs_bind_iff.mp h₂ with ⟨r, _, _, _, h₃, h₄, -⟩ | ⟨_, -, he⟩
            · have hfixed : (rules.set q.1 r).map Rule.fixed = rules.map Rule.fixed :=
                map_fixed_set (by rw [hi q hq, fixed_of_detailed h₃])
              rw [← hfixed]
              refine ih (fun x hx => ?_) (fun x hx => ?_) h₄
              · rw [hfixed]; exact hw x hx
              · rw [hfixed]; exact hi x (hothers x hx)
            · cases he
        · cases he

/-- What is fetched comes from a listing, whose rules are asked for their details. -/
theorem exists_of_runs_fetchRules {tool : ToolSettings} {rules : List Rule} {version : Option Text} {p p' : σ}
    {events : List ServiceEvent} (h : Runs w (fetchRules tool) p events (.ok (rules, version)) p') :
    ∃ output p₁ listed p₂ events₁, w .listRules p (.ok output) p₁ ∧ readRuleList output = .ok listed ∧
      Runs w (fetchDetails tool listed) p₁ events₁ (.ok rules) p₂ := by
  rcases Job.runs_bind_iff.mp h with ⟨output, p₁, _, _, hlisting, h₂, -⟩ | ⟨_, -, he⟩
  · rcases Job.runs_bind_iff.mp h₂ with ⟨listed, p₂, _, _, hlisted, h₃, -⟩ | ⟨_, -, he⟩
    · rcases Job.runs_bind_iff.mp h₃ with ⟨fetched, p₃, _, _, hfetched, h₄, -⟩ | ⟨_, -, he⟩
      · obtain ⟨reply, _, _, answers, hdone, -⟩ := Program.runs_ask_iff.mp hlisting
        obtain ⟨-, hreply, rfl⟩ := Program.runs_done_iff.mp hdone
        obtain rfl : reply = .ok output := hreply.symm
        rcases Job.runs_bind_iff.mp h₄ with ⟨_, _, _, _, -, h₅, -⟩ | ⟨_, -, he⟩
        · obtain ⟨-, he, -⟩ := Job.runs_pure_iff.mp h₅
          cases he
          cases hread : readRuleList output with
          | ok all =>
            rw [hread] at hlisted
            obtain ⟨-, he, rfl⟩ := Job.runs_pure_iff.mp hlisted
            cases he
            exact ⟨output, _, listed, _, _, answers, hread, hfetched⟩
          | error e =>
            rw [hread] at hlisted
            obtain ⟨-, he, -⟩ := Job.runs_fail_iff.mp hlisted
            cases he
        · cases he
      · cases he
    · cases he
  · cases he

/-- The rules that are fetched are those of a listing, as far as details do not change them. -/
theorem fixed_of_fetchRules {tool : ToolSettings} {rules : List Rule} {version : Option Text} {p p' : σ}
    {events : List ServiceEvent}
    (h : Runs w (fetchRules tool) p events (.ok (rules, version)) p') :
    ∃ output listed, readRuleList output = .ok listed ∧ rules.map Rule.fixed = listed.map Rule.fixed := by
  obtain ⟨output, _, listed, _, _, -, hread, hfetched⟩ := exists_of_runs_fetchRules h
  exact ⟨output, listed, hread, fixed_of_fetchDetailsFrom (isPlacedIn_pendingRules _ _) (List.forall_mem_nil _) hfetched⟩

/-- The rules that are fetched have different ids. -/
theorem ids_nodup_of_fetchRules {tool : ToolSettings} {rules : List Rule} {version : Option Text} {p p' : σ}
    {events : List ServiceEvent}
    (h : Runs w (fetchRules tool) p events (.ok (rules, version)) p') :
    (rules.map Rule.id).Nodup := by
  obtain ⟨output, listed, hread, hfixed⟩ := fixed_of_fetchRules h
  have hids : rules.map Rule.id = listed.map Rule.id := by
    have := congrArg (List.map Prod.fst) hfixed
    rwa [List.map_map, List.map_map] at this
  rw [hids]
  exact ids_nodup_of_readRuleList hread

/-- The default values of the rules that are fetched are as they are read from a text. -/
theorem isSound_of_fetchRules {tool : ToolSettings} {rules : List Rule} {version : Option Text} {p p' : σ}
    {events : List ServiceEvent}
    (h : Runs w (fetchRules tool) p events (.ok (rules, version)) p') :
    ∀ r ∈ rules, r.IsSound := by
  obtain ⟨output, listed, hread, hfixed⟩ := fixed_of_fetchRules h
  intro r hr
  have hmem : r.fixed ∈ listed.map Rule.fixed := by
    rw [← hfixed]
    exact List.mem_map_of_mem hr
  obtain ⟨r', hr', heq⟩ := List.mem_map.mp hmem
  have hparameters : r'.parameters = r.parameters := congrArg Prod.snd heq
  have hsound := isSound_of_readRuleList hread r' hr'
  rw [Rule.IsSound, Rule.ForDefaults, hparameters] at hsound
  exact hsound

end

end LintPreview
