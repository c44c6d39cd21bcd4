import LintPreview.Proofs.Catalog.Load
import LintPreview.Proofs.Run.Partway

/-!
# Asking for details

* `DetailCalls.Answers`: a lint tool that answers each call for details with its outcome. Calls end in any order.
* `Rule.answered`: a rule after its call. `Rule.untold?`: what cannot be shown of a call that fails.
* `IsAsked`: the rules whose details are asked for: the first ones that have none (`mem_pendingRules_iff`).
* `Underway`: what holds while calls are made. Its steps are `Underway.start` and `Underway.finish`.
* `lives_fetchDetailsFrom`: so it holds to the end, there are never more calls at a time than allowed, and the calls
  never get stuck.
* `runs_fetchDetails`: how asking for details can end. A failure that cannot be shown stops it
  (`not_runs_ok_fetchDetails_unshown`).
-/

namespace LintPreview

open Program (World Reaches)

/-! ### Calls and their outcomes -/

/-- The calls for details: the places and ids of all of them so far, and the places of those that are not over. -/
structure DetailCalls where
  made : List (Nat × Text) := []
  flying : List Nat := []

/-- A lint tool that is only asked for details. Any of the calls that are not over can be the next one to end, each with
the outcome for its place. -/
def DetailCalls.Answers (outcome : Nat → Except Failure Text) : World ServiceAct ServiceAct.Reply DetailCalls
  | .startDetails place id, c, _, c' => c' = ⟨c.made ++ [(place, id)], c.flying ++ [place]⟩
  | .awaitDetails, c, reply, c' =>
    ∃ place ∈ c.flying, reply = .ok (place, outcome place) ∧ c' = { c with flying := c.flying.filter (· ≠ place) }
  | _, _, _, _ => False

/-- The rule after a call for its details. -/
def Rule.answered (r : Rule) : Except Failure Text → Rule
  | .ok output => r.enrich (readDetails output)
  | .error _ => r

/-- What cannot be shown when a call for the details of a rule fails. -/
def Rule.untold? (r : Rule) : Except Failure Text → Option Text.LoneHalves
  | .ok _ => none
  | .error f => (Notice.detailsMissing r.id f.message).lost?

/-- A rule without what details can tell of it. -/
def Rule.withoutDetails (r : Rule) : Rule :=
  { r with name := "", description := "", triggeringExamples := [], nonTriggeringExamples := [] }

/-- No call changes what details cannot tell. -/
theorem Rule.withoutDetails_answered (r : Rule) (answer : Except Failure Text) :
    (r.answered answer).withoutDetails = r.withoutDetails := by
  cases answer <;> rfl

theorem announce_of_shown {n : Notice} (h : n.lost? = none) : Job.announce n = pure () := by
  unfold Job.announce
  rw [h]

theorem announce_of_lost {n : Notice} {run : Text.LoneHalves} (h : n.lost? = some run) :
    Job.announce n = Job.fail (.unencodable run.message) := by
  unfold Job.announce
  rw [h]

theorem detailed_of_told {r : Rule} {answer : Except Failure Text} (hfails : ∀ f, answer = .error f → f.isOfTool = true)
    (h : r.untold? answer = none) : detailed r answer = pure (r.answered answer) := by
  cases answer with
  | ok output => rfl
  | error f =>
    rw [detailed, if_pos (hfails f rfl), announce_of_shown h]
    rfl

theorem detailed_of_untold {r : Rule} {answer : Except Failure Text} {run : Text.LoneHalves}
    (hfails : ∀ f, answer = .error f → f.isOfTool = true) (h : r.untold? answer = some run) :
    detailed r answer = Job.fail (.unencodable run.message) := by
  cases answer with
  | ok output => cases h
  | error f =>
    rw [detailed, if_pos (hfails f rfl), announce_of_lost h]
    rfl

/-! ### The rules that are asked for -/

/-- The details of the rule at a place are asked for: it has none, and if there is a limit, fewer rules than that
without details stand before it. -/
def IsAsked (limit : Int) (rules : List Rule) (i : Nat) (r : Rule) : Prop :=
  rules[i]? = some r ∧ r.needsDetails = true ∧ (0 < limit → ((rules.take i).countP Rule.needsDetails : Int) < limit)

/-- The call for the details of a rule at its place. -/
def detailCall (x : PlacedRule) : Nat × Text := (x.1, x.2.id)

theorem pairwise_placed (n : Nat) (rules : List Rule) : (placed n rules).Pairwise (·.1 < ·.1) := by
  induction rules generalizing n with
  | nil => exact .nil
  | cons r rest ih =>
    refine List.pairwise_cons.mpr ⟨?_, ih (n + 1)⟩
    intro x hx
    have := (getElem?_of_mem_placed hx).1
    simp
    omega

theorem length_placed (n : Nat) (rules : List Rule) : (placed n rules).length = rules.length := by
  induction rules generalizing n with
  | nil => rfl
  | cons r rest ih => simp [placed, ih]

/-- The first rules without details, by what stands at their places and before them. -/
theorem mem_take_placed_iff (n k i : Nat) (rules : List Rule) (q : Rule) :
    (n + i, q) ∈ ((placed n rules).filter (·.2.needsDetails)).take k ↔
      rules[i]? = some q ∧ q.needsDetails = true ∧ (rules.take i).countP Rule.needsDetails < k := by
  induction rules generalizing n k i with
  | nil => simp [placed]
  | cons r rest ih =>
    have hbehind : ∀ k', (n, q) ∉ ((placed (n + 1) rest).filter (·.2.needsDetails)).take k' := by
      intro k' hmem
      have := (getElem?_of_mem_placed (List.mem_filter.mp (List.mem_of_mem_take hmem)).1).1
      simp at this
    by_cases hr : r.needsDetails = true
    · rw [placed, List.filter_cons_of_pos (by simpa using hr)]
      cases k with
      | zero => simp
      | succ k =>
        rw [List.take_succ_cons, List.mem_cons]
        cases i with
        | zero =>
          simp only [Nat.add_zero, hbehind, or_false]
          simp only [Prod.mk.injEq, true_and, List.getElem?_cons_zero, Option.some.injEq, List.take_zero, List.countP_nil,
            Nat.zero_lt_succ, and_true]
          constructor
          · rintro rfl
            exact ⟨rfl, hr⟩
          · rintro ⟨rfl, -⟩
            rfl
        | succ i =>
          rw [show n + (i + 1) = n + 1 + i by omega, ih (n + 1) k i]
          simp [hr]
          omega
    · rw [placed, List.filter_cons_of_neg (by simpa using hr)]
      cases i with
      | zero =>
        simp only [Nat.add_zero, hbehind, false_iff]
        simp
        rintro rfl
        simp [hr]
      | succ i =>
        rw [show n + (i + 1) = n + 1 + i by omega, ih (n + 1) k i]
        simp [hr]

/-- Details are asked for the first rules that have none. -/
theorem mem_pendingRules_iff {limit : Int} {rules : List Rule} {x : PlacedRule} :
    x ∈ pendingRules limit rules ↔ IsAsked limit rules x.1 x.2 := by
  have htake := fun k => mem_take_placed_iff 0 k x.1 rules x.2
  simp only [Nat.zero_add, Prod.mk.eta] at htake
  unfold pendingRules IsAsked
  by_cases hlimit : 0 < limit
  · simp only [hlimit, if_true, htake, true_imp_iff, Int.lt_toNat]
  · -- As many as there are rules are all of them.
    have hall := htake (rules.length + 1)
    have hlength := List.length_filter_le (·.2.needsDetails) (placed 0 rules)
    rw [length_placed] at hlength
    rw [List.take_of_length_le (by omega)] at hall
    have hcount : (rules.take x.1).countP Rule.needsDetails < rules.length + 1 := by
      have := List.countP_le_length (p := Rule.needsDetails) (l := rules.take x.1)
      simp at this
      omega
    simp only [hlimit, if_false, hall, hcount, false_imp_iff]

/-- They are asked for in the order of the list. -/
theorem pairwise_pendingRules (limit : Int) (rules : List Rule) : (pendingRules limit rules).Pairwise (·.1 < ·.1) := by
  have hfilter := (pairwise_placed 0 rules).filter (·.2.needsDetails)
  unfold pendingRules
  split
  · exact hfilter.sublist (List.take_sublist _ _)
  · exact hfilter

/-! ### Calls under way -/

/-- `rules'` are `rules` with what became of the calls for the details of those in `ended`. -/
structure DetailedBy (outcome : Nat → Except Failure Text) (ended : List PlacedRule) (rules rules' : List Rule) :
    Prop where
  length : rules'.length = rules.length
  answered : ∀ x ∈ ended, rules'[x.1]? = some (x.2.answered (outcome x.1))
  others : ∀ i, (∀ x ∈ ended, x.1 ≠ i) → rules'[i]? = rules[i]?

theorem DetailedBy.nil (outcome : Nat → Except Failure Text) (rules : List Rule) : DetailedBy outcome [] rules rules :=
  ⟨rfl, List.forall_mem_nil _, fun _ _ => rfl⟩

/-- One more call is over. -/
theorem DetailedBy.cons {outcome : Nat → Except Failure Text} {ended : List PlacedRule} {rules rules' : List Rule}
    {x : PlacedRule} (h : DetailedBy outcome ended rules rules') (hx : rules[x.1]? = some x.2)
    (hnew : ∀ y ∈ ended, y.1 ≠ x.1) :
    DetailedBy outcome (x :: ended) rules (rules'.set x.1 (x.2.answered (outcome x.1))) := by
  have hlt : x.1 < rules'.length := by
    rw [h.length]
    exact (List.getElem?_eq_some_iff.mp hx).1
  refine ⟨by rw [List.length_set, h.length], ?_, ?_⟩
  · intro y hy
    rcases List.mem_cons.mp hy with rfl | hy
    · exact List.getElem?_set_self hlt
    · rw [List.getElem?_set_ne (hnew y hy).symm]
      exact h.answered y hy
  · intro i hi
    rw [List.getElem?_set_ne (hi x List.mem_cons_self)]
    exact h.others i fun y hy => hi y (List.mem_cons_of_mem x hy)

/-- How far asking for details has come: the calls for `ended` are over and were told of, those for `inFlight` are not
over, and those for `waiting` are not made yet. -/
structure Underway (outcome : Nat → Except Failure Text) (asked : List PlacedRule) (rules rules' : List Rule)
    (ended inFlight waiting : List PlacedRule) (c : DetailCalls) : Prop where
  made : c.made ++ waiting.map detailCall = asked.map detailCall
  flying : c.flying = inFlight.map Prod.fst
  parts : (ended ++ inFlight ++ waiting).Perm asked
  told : ∀ x ∈ ended, x.2.untold? (outcome x.1) = none
  detailed : DetailedBy outcome ended rules rules'

/-- Every rule that is asked for stands at its place, and no other one is asked for at that place. -/
structure AskedIn (rules : List Rule) (asked : List PlacedRule) : Prop where
  places : (asked.map Prod.fst).Nodup
  entries : ∀ x ∈ asked, rules[x.1]? = some x.2

section

variable {outcome : Nat → Except Failure Text} {asked ended inFlight waiting : List PlacedRule}
  {rules rules' : List Rule} {c : DetailCalls}

theorem Underway.start {next : PlacedRule} (h : Underway outcome asked rules rules' ended inFlight (next :: waiting) c) :
    Underway outcome asked rules rules' ended (inFlight ++ [next]) waiting
      ⟨c.made ++ [detailCall next], c.flying ++ [next.1]⟩ where
  made := by simpa using h.made
  flying := by simp [h.flying]
  parts := by simpa using h.parts
  told := h.told
  detailed := h.detailed

/-- The call for a rule that is not over can be told from the others by its place. -/
theorem Underway.perm_inFlight (ha : AskedIn rules asked)
    (h : Underway outcome asked rules rules' ended inFlight waiting c) {x : PlacedRule} (hx : x ∈ inFlight) :
    (x :: inFlight.filter (·.1 ≠ x.1)).Perm inFlight ∧
      takeFlight x.1 inFlight = some (x, inFlight.filter (·.1 ≠ x.1)) := by
  have hplaces : (inFlight.map Prod.fst).Nodup := by
    have hall : ((ended ++ inFlight ++ waiting).map Prod.fst).Nodup := (h.parts.map _).nodup_iff.mpr ha.places
    simp only [List.map_append] at hall
    exact hall.of_append_left.of_append_right
  have hinj : ∀ y ∈ inFlight, y.1 = x.1 → y = x := fun y hy => List.inj_on_of_nodup_map hplaces hy hx
  constructor
  · refine (List.perm_ext_iff_of_nodup ?_ hplaces.of_map).mpr ?_
    · exact List.nodup_cons.mpr ⟨by simp, hplaces.of_map.filter _⟩
    · intro y
      simp only [List.mem_cons, List.mem_filter, decide_eq_true_eq]
      constructor
      · rintro (rfl | hy)
        · exact hx
        · exact hy.1
      · intro hy
        by_cases heq : y.1 = x.1
        · exact .inl (hinj y hy heq)
        · exact .inr ⟨hy, heq⟩
  · have hfound : inFlight.find? (·.1 = x.1) = some x := by
      cases hfind : inFlight.find? (·.1 = x.1) with
      | none =>
        have := List.find?_eq_none.mp hfind x hx
        simp at this
      | some y =>
        have hy : y.1 = x.1 := by simpa using List.find?_some hfind
        rw [hinj y (List.mem_of_find?_eq_some hfind) hy]
    cases inFlight with
    | nil => cases hx
    | cons p rest => simp only [takeFlight, hfound]

theorem Underway.finish (ha : AskedIn rules asked)
    (h : Underway outcome asked rules rules' ended inFlight waiting c) {x : PlacedRule} (hx : x ∈ inFlight)
    (htold : x.2.untold? (outcome x.1) = none) :
    Underway outcome asked rules (rules'.set x.1 (x.2.answered (outcome x.1))) (x :: ended)
      (inFlight.filter (·.1 ≠ x.1)) waiting { c with flying := c.flying.filter (· ≠ x.1) } := by
  have hperm := (h.perm_inFlight ha hx).1
  have hparts : (x :: ended ++ inFlight.filter (·.1 ≠ x.1) ++ waiting).Perm asked := by
    refine List.Perm.trans ?_ h.parts
    refine List.Perm.append_right waiting ?_
    exact List.perm_middle.symm.trans (hperm.append_left ended)
  have hplaces : ((x :: (ended ++ inFlight.filter (·.1 ≠ x.1) ++ waiting)).map Prod.fst).Nodup :=
    (hparts.map _).nodup_iff.mpr ha.places
  refine ⟨h.made, ?_, hparts, List.forall_mem_cons.mpr ⟨htold, h.told⟩, ?_⟩
  · rw [h.flying, List.filter_map]
    rfl
  · refine h.detailed.cons (ha.entries x ?_) ?_
    · exact hparts.subset (by simp)
    · intro y hy heq
      rw [List.map_cons, List.nodup_cons, ← heq] at hplaces
      refine hplaces.1 (List.mem_map_of_mem ?_)
      simp [hy]

end

/-! ### Asking to the end -/

/-- How asking for details ends: with the details of all rules that were asked for, or for what cannot be shown of a
call that fails. -/
inductive DetailsEnd (outcome : Nat → Except Failure Text) (asked : List PlacedRule) (rules : List Rule)
    (c : DetailCalls) : Except Stop (List Rule) → Prop where
  | told {rules' : List Rule} (shown : ∀ x ∈ asked, x.2.untold? (outcome x.1) = none)
      (made : c.made = asked.map detailCall) (ended : c.flying = []) (detailed : DetailedBy outcome asked rules rules') :
      DetailsEnd outcome asked rules c (.ok rules')
  | untold {x : PlacedRule} {run : Text.LoneHalves} (mem : x ∈ asked) (lost : x.2.untold? (outcome x.1) = some run) :
      DetailsEnd outcome asked rules c (.error (.failed (.unencodable run.message)))

/-- What holds while details are asked for: no more calls at a time than allowed, and each of them for the next rule. -/
def WithinCapacity (capacity : Nat) (asked : List PlacedRule) (c : DetailCalls) : Prop :=
  c.flying.length ≤ capacity ∧ c.made <+: asked.map detailCall

section

variable {outcome : Nat → Except Failure Text} {asked ended inFlight waiting : List PlacedRule}
  {rules rules' : List Rule} {c : DetailCalls} {capacity : Nat}

theorem DetailedBy.of_perm {ended' : List PlacedRule} (h : DetailedBy outcome ended rules rules') (hp : ended.Perm ended') :
    DetailedBy outcome ended' rules rules' where
  length := h.length
  answered x hx := h.answered x (hp.mem_iff.mpr hx)
  others i hi := h.others i fun x hx => hi x (hp.mem_iff.mp hx)

/-- When nothing is left, all calls are over. -/
theorem Underway.ends (h : Underway outcome asked rules rules' ended [] [] c) :
    DetailsEnd outcome asked rules c (.ok rules') := by
  have hperm : ended.Perm asked := by simpa using h.parts
  refine .told ?_ ?_ ?_ (h.detailed.of_perm hperm)
  · intro x hx
    exact h.told x (hperm.mem_iff.mpr hx)
  · simpa using h.made
  · simpa using h.flying

/-- As long as there is room, the next call is made. -/
theorem fetchDetailsFrom_start (fuel : Nat) (next : PlacedRule) (hroom : inFlight.length < capacity) :
    fetchDetailsFrom capacity (fuel + 1) (next :: waiting) inFlight rules =
      Job.startDetails next.1 next.2.id >>= fun _ =>
        fetchDetailsFrom capacity fuel waiting (inFlight ++ [next]) rules := by
  simp only [fetchDetailsFrom, decide_eq_true hroom]

/-- What follows when the call for the rule at a place has ended with an answer. -/
def goOnWith (capacity fuel : Nat) (waiting inFlight : List PlacedRule) (rules : List Rule) (place : Nat)
    (answer : Except Failure Text) : Job (List Rule) :=
  match takeFlight place inFlight with
  | none => pure rules
  | some (p, others) => do
    let r ← detailed p.2 answer
    fetchDetailsFrom capacity fuel waiting others (rules.set p.1 r)

/-- Without room, or when all calls have been made, one of them has to end. -/
theorem fetchDetailsFrom_await (fuel : Nat) (hfull : waiting = [] ∨ capacity ≤ inFlight.length) (hne : inFlight ≠ []) :
    fetchDetailsFrom capacity (fuel + 1) waiting inFlight rules =
      Job.awaitDetails >>= fun reply => goOnWith capacity fuel waiting inFlight rules reply.1 reply.2 := by
  have hsome : inFlight.isEmpty = false := by simpa using hne
  rcases hfull with rfl | hfull
  · simp only [fetchDetailsFrom, hsome]
    rfl
  · have hroom : decide (inFlight.length < capacity) = false := by simpa using hfull
    simp only [fetchDetailsFrom, hsome, hroom]
    rfl

theorem fetchDetailsFrom_idle (fuel : Nat) : fetchDetailsFrom capacity fuel [] [] rules = pure rules := by
  cases fuel <;> rfl

theorem Underway.withinCapacity (h : Underway outcome asked rules rules' ended inFlight waiting c)
    (hroom : inFlight.length ≤ capacity) : WithinCapacity capacity asked c :=
  ⟨by simpa [h.flying] using hroom, waiting.map detailCall, h.made⟩

/-- A call that ends leaves room. -/
theorem Underway.withinCapacity_of_end (h : Underway outcome asked rules rules' ended inFlight waiting c)
    (hroom : inFlight.length ≤ capacity) (place : Nat) :
    WithinCapacity capacity asked { c with flying := c.flying.filter (· ≠ place) } := by
  refine ⟨?_, waiting.map detailCall, h.made⟩
  have hflying := List.length_filter_le (· ≠ place) c.flying
  rw [h.flying, List.length_map] at hflying
  simp only [h.flying]
  omega

/-- Asking for details, from any point on. -/
theorem lives_fetchDetailsFrom (ha : AskedIn rules asked)
    (hfails : ∀ place f, outcome place = .error f → f.isOfTool = true) (hcapacity : 0 < capacity) (fuel : Nat)
    (h : Underway outcome asked rules rules' ended inFlight waiting c) (hroom : inFlight.length ≤ capacity)
    (hfuel : 2 * waiting.length + inFlight.length ≤ fuel) :
    (fetchDetailsFrom capacity fuel waiting inFlight rules').run.Lives (DetailCalls.Answers outcome)
      (WithinCapacity capacity asked) (fun e c' => DetailsEnd outcome asked rules c' e) c := by
  -- Every call is made once and ends once, so the fuel is enough.
  induction fuel generalizing waiting inFlight ended rules' c with
  | zero =>
    obtain rfl : waiting = [] := List.eq_nil_of_length_eq_zero (by omega)
    obtain rfl : inFlight = [] := List.eq_nil_of_length_eq_zero (by omega)
    exact ⟨h.withinCapacity hroom, h.ends⟩
  | succ fuel ih =>
    by_cases hidle : waiting = [] ∧ inFlight = []
    · obtain ⟨rfl, rfl⟩ := hidle
      rw [fetchDetailsFrom_idle]
      exact ⟨h.withinCapacity hroom, h.ends⟩
    by_cases hstart : waiting ≠ [] ∧ inFlight.length < capacity
    · obtain ⟨next, rest, rfl⟩ := List.exists_cons_of_ne_nil hstart.1
      rw [fetchDetailsFrom_start fuel next hstart.2]
      refine ⟨h.withinCapacity hroom, ⟨(), _, rfl⟩, ?_⟩
      rintro reply c₁ rfl
      simp only [List.length_cons] at hfuel
      exact ih h.start (by simp; omega) (by simp; omega)
    -- Any of the calls that are not over can be the next one to end.
    have hfull : waiting = [] ∨ capacity ≤ inFlight.length := by
      by_cases hw : waiting = []
      · exact .inl hw
      · exact .inr (by by_contra hlt; exact hstart ⟨hw, by omega⟩)
    have hne : inFlight ≠ [] := by
      rintro rfl
      rcases hfull with hw | hle
      · exact hidle ⟨hw, rfl⟩
      · simp at hle
        omega
    rw [fetchDetailsFrom_await fuel hfull hne]
    obtain ⟨x₀, hx₀⟩ := List.exists_mem_of_ne_nil inFlight hne
    have hflies : x₀.1 ∈ c.flying := h.flying ▸ List.mem_map_of_mem hx₀
    refine ⟨h.withinCapacity hroom, ⟨_, _, x₀.1, hflies, rfl, rfl⟩, ?_⟩
    rintro reply c₁ ⟨place, hplace, rfl, rfl⟩
    rw [h.flying] at hplace
    obtain ⟨x, hx, rfl⟩ := List.mem_map.mp hplace
    obtain ⟨hperm, htake⟩ := h.perm_inFlight ha hx
    have hlength := hperm.length_eq
    rw [List.length_cons] at hlength
    show (goOnWith capacity fuel waiting inFlight rules' x.1 (outcome x.1)).run.Lives _ _ _ _
    unfold goOnWith
    rw [htake]
    cases hlost : x.2.untold? (outcome x.1) with
    | none =>
      simp only [detailed_of_told (hfails x.1) hlost]
      exact ih (h.finish ha hx hlost) (by omega) (by omega)
    | some run =>
      simp only [detailed_of_untold (hfails x.1) hlost]
      exact ⟨h.withinCapacity_of_end hroom x.1, .untold (h.parts.subset (by simp [hx])) hlost⟩

/-- The rules that are asked for stand in the list. -/
theorem askedIn_pendingRules (limit : Int) (rules : List Rule) : AskedIn rules (pendingRules limit rules) where
  places := by
    rw [List.Nodup, List.pairwise_map]
    exact (pairwise_pendingRules limit rules).imp fun h => Nat.ne_of_lt h
  entries x hx := (mem_pendingRules_iff.mp hx).1

theorem lives_fetchDetails (hfails : ∀ place f, outcome place = .error f → f.isOfTool = true) (settings : ToolSettings)
    (rules : List Rule) :
    (fetchDetails settings rules).run.Lives (DetailCalls.Answers outcome)
      (WithinCapacity (detailsCapacity settings.detailsConcurrency) (pendingRules settings.detailsLimit rules))
      (fun e c => DetailsEnd outcome (pendingRules settings.detailsLimit rules) rules c e) {} := by
  have hcapacity : 0 < detailsCapacity settings.detailsConcurrency := by
    unfold detailsCapacity
    omega
  have hstart : Underway outcome (pendingRules settings.detailsLimit rules) rules rules [] []
      (pendingRules settings.detailsLimit rules) {} :=
    ⟨rfl, rfl, by simp, List.forall_mem_nil _, .nil outcome rules⟩
  exact lives_fetchDetailsFrom (askedIn_pendingRules _ rules) hfails hcapacity _ hstart (Nat.zero_le _) (by simp)

/-- `rules'` are `rules` with the details that calls told: the rules that are asked for are as their calls leave them,
the other ones are as before, and in none anything has changed that details cannot tell. -/
structure IsDetailed (outcome : Nat → Except Failure Text) (limit : Int) (rules rules' : List Rule) : Prop where
  length : rules'.length = rules.length
  asked : ∀ i r, IsAsked limit rules i r → rules'[i]? = some (r.answered (outcome i))
  others : ∀ i, (∀ r, ¬ IsAsked limit rules i r) → rules'[i]? = rules[i]?
  fixed : rules'.map Rule.withoutDetails = rules.map Rule.withoutDetails

theorem DetailedBy.isDetailed {limit : Int} (h : DetailedBy outcome (pendingRules limit rules) rules rules') :
    IsDetailed outcome limit rules rules' := by
  have hasked : ∀ i r, IsAsked limit rules i r → rules'[i]? = some (r.answered (outcome i)) :=
    fun i r hr => h.answered (i, r) (mem_pendingRules_iff.mpr hr)
  have hothers : ∀ i, (∀ r, ¬ IsAsked limit rules i r) → rules'[i]? = rules[i]? := by
    intro i hi
    refine h.others i ?_
    rintro x hx rfl
    exact hi x.2 (mem_pendingRules_iff.mp hx)
  refine ⟨h.length, hasked, hothers, List.ext_getElem? ?_⟩
  intro i
  rw [List.getElem?_map, List.getElem?_map]
  by_cases hi : ∃ r, IsAsked limit rules i r
  · obtain ⟨r, hr⟩ := hi
    simp [hasked i r hr, hr.1, Rule.withoutDetails_answered]
  · rw [hothers i (not_exists.mp hi)]

/-- Asking for the details of rules, when each call ends with a text or a failure of the tool, in any order. At every
moment there are no more calls at a time than allowed, and it goes on to an end from there. It ends with the details of
exactly the rules that were to be asked for, each of which has been called for once, if all failures can be shown;
otherwise it ends with one that cannot. -/
theorem runs_fetchDetails (settings : ToolSettings) (rules : List Rule) (outcome : Nat → Except Failure Text)
    (hfails : ∀ place f, outcome place = .error f → f.isOfTool = true) :
    (∀ events q c, Reaches (DetailCalls.Answers outcome) (fetchDetails settings rules).run {} events q c →
      (c.flying.length : Int) ≤ max 1 settings.detailsConcurrency ∧
      ∃ events' e c', Program.Runs (DetailCalls.Answers outcome) q c events' e c') ∧
    ∀ events e c, Job.Runs (DetailCalls.Answers outcome) (fetchDetails settings rules) {} events e c →
      (c.made.map Prod.fst).Pairwise (· < ·) ∧
      (∀ i id, (i, id) ∈ c.made → ∃ r, IsAsked settings.detailsLimit rules i r ∧ r.id = id) ∧
      (((∀ i r, IsAsked settings.detailsLimit rules i r → r.untold? (outcome i) = none) ∧ c.flying = [] ∧
          (∀ i r, IsAsked settings.detailsLimit rules i r → (i, r.id) ∈ c.made) ∧
          ∃ rules', e = .ok rules' ∧ IsDetailed outcome settings.detailsLimit rules rules') ∨
        ∃ i r run, IsAsked settings.detailsLimit rules i r ∧ r.untold? (outcome i) = some run ∧
          e = .error (.failed (.unencodable run.message))) := by
  have hlives := lives_fetchDetails hfails settings rules
  refine ⟨?_, ?_⟩
  · intro events q c hreaches
    obtain ⟨hflying, -⟩ := hlives.stays.of_reaches hreaches
    refine ⟨?_, (hlives.of_reaches hreaches).exists_runs⟩
    unfold detailsCapacity at hflying
    omega
  · intro events e c hruns
    obtain ⟨-, hmade⟩ := hlives.stays.of_reaches hruns.reaches
    have hcalls : ∀ i id, (i, id) ∈ c.made → ∃ r, IsAsked settings.detailsLimit rules i r ∧ r.id = id := by
      intro i id hmem
      obtain ⟨x, hx, heq⟩ := List.mem_map.mp (hmade.subset hmem)
      cases heq
      exact ⟨x.2, mem_pendingRules_iff.mp hx, rfl⟩
    refine ⟨?_, hcalls, ?_⟩
    · have hall : ((pendingRules settings.detailsLimit rules).map detailCall).Pairwise (·.1 < ·.1) :=
        List.pairwise_map.mpr (pairwise_pendingRules _ _)
      exact List.pairwise_map.mpr (hall.sublist hmade.sublist)
    · cases hlives.stays.of_runs hruns with
      | told shown made ended detailed =>
        refine .inl ⟨fun i r hr => shown (i, r) (mem_pendingRules_iff.mpr hr), ended, ?_, _, rfl, detailed.isDetailed⟩
        intro i r hr
        rw [made]
        exact List.mem_map_of_mem (f := detailCall) (mem_pendingRules_iff (x := (i, r)).mpr hr)
      | untold mem lost => exact .inr ⟨_, _, _, mem_pendingRules_iff.mp mem, lost, rfl⟩

/-- A call that tells of one rule, and others that fail. -/
def oneListing : Nat → Except Failure Text
  | 0 => .ok "Force Cast (force_cast): Force casts should be avoided"
  | _ => .error (.toolFailed "no such rule" none "")

/-- A rule without details. -/
def forceCast : Rule := { id := "force_cast", name := "Force Cast" }

/-- Another one. -/
def todo : Rule := { id := "todo", name := "Todo" }

/-- One of the rules is told of, and the other one is kept as it is. -/
theorem runs_fetchDetails_oneListing :
    (∀ place f, oneListing place = .error f → f.isOfTool = true) ∧
    ∀ events e c, Job.Runs (DetailCalls.Answers oneListing) (fetchDetails {} [forceCast, todo]) {} events e c →
      e = .ok [{ forceCast with description := "Force casts should be avoided" }, todo] := by
  have hfails : ∀ place f, oneListing place = .error f → f.isOfTool = true := by
    rintro (_ | place) f h <;> cases h
    rfl
  refine ⟨hfails, ?_⟩
  intro events e c hruns
  obtain ⟨-, -, ⟨-, -, -, rules', rfl, hdetailed⟩ | ⟨i, r, run, ⟨hr, -⟩, hlost, -⟩⟩ :=
    (runs_fetchDetails {} [forceCast, todo] oneListing hfails).2 events e c hruns
  · have hfirst := hdetailed.asked 0 forceCast ⟨rfl, by decide, by decide⟩
    have hsecond := hdetailed.asked 1 todo ⟨rfl, by decide, by decide⟩
    have hlength := hdetailed.length
    obtain ⟨r₀, r₁, rfl⟩ : ∃ r₀ r₁, rules' = [r₀, r₁] := List.length_eq_two.mp hlength
    cases hfirst
    cases hsecond
    congr 1
  · have hshown : (Notice.detailsMissing todo.id (Failure.toolFailed "no such rule" none "").message).lost? = none := by
      decide +kernel
    match i, hr with
    | 0, hr =>
      cases hr
      cases hlost
    | 1, hr =>
      cases hr
      exact absurd (hshown.symm.trans hlost) nofun

/-- A call that fails for a reason that cannot be shown. -/
def unshownReason : Except Failure Text := .error (.toolFailed (Text.ofList [.ofNat 0xD800]) none "")

/-- When the reason cannot be shown for which its call has failed, a rule is not kept as it is: asking for details ends,
and never with rules. -/
theorem not_runs_ok_fetchDetails_unshown :
    (∃ events e c, Job.Runs (DetailCalls.Answers fun _ => unshownReason) (fetchDetails {} [todo]) {} events e c) ∧
    ¬ ∃ events rules c,
      Job.Runs (DetailCalls.Answers fun _ => unshownReason) (fetchDetails {} [todo]) {} events (.ok rules) c := by
  have hfails : ∀ place f, (fun _ : Nat => unshownReason) place = .error f → f.isOfTool = true := by
    intro place f h
    cases h
    rfl
  have hlives := lives_fetchDetails hfails {} [todo]
  refine ⟨hlives.exists_runs, ?_⟩
  rintro ⟨events, rules, c, hruns⟩
  generalize he : (.ok rules : Except Stop (List Rule)) = e at hruns
  cases hlives.stays.of_runs hruns with
  | told shown made ended detailed =>
    have hlost : (todo.untold? unshownReason).isSome = true := by decide +kernel
    rw [shown (0, todo) (mem_pendingRules_iff.mpr ⟨rfl, by decide, by decide⟩)] at hlost
    cases hlost
  | untold mem lost => cases he

end

end LintPreview
