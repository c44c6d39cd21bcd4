import LintPreview.Proofs.Yaml.Unreadable

/-!
# Tokens that build no graph

* `NodeBuilder.Refuses`: a step of building fails because the tokens are malformed or nested too deep, or because one of
  them cannot be read.
* `Graph.isRefusal_of_ofTokens`: so does building the graph of a text.
-/

namespace LintPreview.Yaml

namespace NodeBuilder

variable {α β : Type} {toks : List Token} {x : BuildM α} {f : α → BuildM β}

/-- Why tokens build no graph. -/
inductive IsRefusal (toks : List Token) : Fault → Prop where
  | malformed : IsRefusal toks .malformed
  | tooDeep : IsRefusal toks .tooDeep
  | broken {fault : Fault} (token : .broken fault ∈ toks) : IsRefusal toks fault

/-- Among the tokens `toks`, a step of building takes tokens away or fails for one of these reasons. -/
def Refuses (toks : List Token) (x : BuildM α) : Prop :=
  ∀ b : NodeBuilder, b.tokens ⊆ toks →
    (∀ a b', x.run b = .ok (a, b') → b'.tokens ⊆ toks) ∧ ∀ fault, x.run b = .error fault → IsRefusal toks fault

namespace Refuses

theorem pure (a : α) : Refuses toks (pure a) := by
  intro b hb
  refine ⟨?_, by rintro fault ⟨⟩⟩
  rintro a' b' ⟨⟩
  exact hb

theorem throw {fault : Fault} (h : IsRefusal toks fault) : Refuses toks (throw fault : BuildM α) := by
  intro b _
  refine ⟨by rintro a b' ⟨⟩, ?_⟩
  rintro fault' ⟨⟩
  exact h

theorem fail : Refuses toks (fail : BuildM α) := throw .malformed

theorem bind (hx : Refuses toks x) (hf : ∀ a, Refuses toks (f a)) : Refuses toks (x >>= f) := by
  intro b hb
  obtain ⟨hok, herror⟩ := hx b hb
  rw [StateT.run_bind]
  cases hrun : x.run b with
  | error fault =>
    refine ⟨by rintro a b' ⟨⟩, ?_⟩
    rintro fault' ⟨⟩
    exact herror fault hrun
  | ok result => exact hf result.1 result.2 (hok _ _ hrun)

theorem ite {p : Prop} [Decidable p] {x y : BuildM α} (hx : Refuses toks x) (hy : Refuses toks y) :
    Refuses toks (if p then x else y) := by
  split
  · exact hx
  · exact hy

theorem get : Refuses toks (get : BuildM NodeBuilder) := by
  intro b hb
  refine ⟨?_, by rintro fault ⟨⟩⟩
  rintro a b' ⟨⟩
  exact hb

/-- What does not put tokens back refuses nothing. -/
theorem modify {step : NodeBuilder → NodeBuilder} (h : ∀ b, (step b).tokens ⊆ b.tokens) :
    Refuses toks (modify step : BuildM Unit) := by
  intro b hb
  refine ⟨?_, by rintro fault ⟨⟩⟩
  rintro a b' ⟨⟩
  exact fun t ht => hb (h b ht)

theorem skip : Refuses toks skip := modify fun b => List.tail_subset b.tokens

theorem peek : Refuses toks peek := by
  intro b hb
  cases htokens : b.tokens with
  | nil =>
    have hrun : NodeBuilder.peek.run b = .ok (.streamEnd, b) := by
      unfold NodeBuilder.peek
      exact Builds.bind (show Builds MonadState.get b b b from rfl) (by rw [htokens]; rfl)
    rw [hrun]
    refine ⟨?_, by rintro fault ⟨⟩⟩
    rintro a b' ⟨⟩
    exact hb
  | cons t rest =>
    by_cases ht : IsWhole t
    · have hrun : NodeBuilder.peek.run b = .ok (t, b) := builds_peek htokens ht
      rw [hrun]
      refine ⟨?_, by rintro fault ⟨⟩⟩
      rintro a b' ⟨⟩
      exact hb
    · cases t with
      | broken fault =>
        have hrun : NodeBuilder.peek.run b = .error fault := by
          unfold NodeBuilder.peek
          rw [StateT.run_bind]
          have hget : StateT.run (MonadState.get : BuildM NodeBuilder) b = .ok (b, b) := rfl
          rw [hget]
          change StateT.run _ b = _
          dsimp only
          rw [htokens]
          rfl
        rw [hrun]
        refine ⟨by rintro a b' ⟨⟩, ?_⟩
        rintro fault' ⟨⟩
        exact .broken (hb (htokens ▸ List.mem_cons_self))
      | _ => exact absurd trivial ht

theorem add (tag : Tag) (content : Content) : Refuses toks (add tag content) := by
  refine get.bind fun b => ?_
  refine bind (modify ?_) fun _ => pure _
  exact fun b => List.Subset.refl b.tokens

theorem fill (place : ℕ) (content : Content) : Refuses toks (fill place content) := modify fun _ => List.Subset.refl _

theorem emptyNode : Refuses toks emptyNode := add _ _

theorem setAnchor (anchor : Option Text) (n : ℕ) : Refuses toks (setAnchor anchor n) := by
  cases anchor with
  | none => exact pure ()
  | some name => exact modify fun _ => List.Subset.refl _

theorem tagName? (handle : Option Text) (suffix : Text) : Refuses toks (tagName? handle suffix) := by
  unfold NodeBuilder.tagName?
  cases handle with
  | none => exact pure _
  | some h =>
    refine get.bind fun b => ?_
    split
    · exact pure _
    · exact fail

theorem properties : Refuses toks properties := by
  unfold NodeBuilder.properties
  refine peek.bind fun t => ?_
  split
  · refine skip.bind fun _ => peek.bind fun t' => ?_
    split
    · exact skip.bind fun _ => (tagName? _ _).bind fun _ => pure _
    · exact pure _
  · refine skip.bind fun _ => peek.bind fun t' => ?_
    split
    · exact skip.bind fun _ => (tagName? _ _).bind fun _ => pure _
    · exact (tagName? _ _).bind fun _ => pure _
  · exact pure _

variable {claim : BuildM Unit}

/-- A collection with an anchor and what is built inside it. -/
theorem collection (hclaim : Refuses toks claim) (anchor : Option Text) (tag : Tag) (empty : Content)
    (content : α → Content) (hx : Refuses toks x) : Refuses toks (do
      claim
      let n ← NodeBuilder.add tag empty
      NodeBuilder.setAnchor anchor n
      NodeBuilder.fill n (content (← x))
      return n) := by
  refine hclaim.bind fun _ => (add tag empty).bind fun n => (setAnchor anchor n).bind fun _ => ?_
  exact hx.bind fun a => (fill n (content a)).bind fun _ => pure n

/-- A scalar with an anchor. -/
theorem scalar (hclaim : Refuses toks claim) (anchor : Option Text) (tag : Tag) (text : Text) : Refuses toks (do
      claim
      let n ← NodeBuilder.add tag (.scalar text)
      NodeBuilder.setAnchor anchor n
      return n) :=
  hclaim.bind fun _ => (add tag (.scalar text)).bind fun n => (setAnchor anchor n).bind fun _ => pure n

/-- Behind the first item of a flow collection a comma stands in front of each one. -/
theorem afterComma (first : Bool) (t : Token) {rest : PUnit → BuildM α} (hrest : Refuses toks (rest ())) :
    Refuses toks
      (if !first then (if t == .flowEntry then NodeBuilder.skip else NodeBuilder.fail) >>= rest else rest ()) :=
  ite ((ite skip fail).bind fun _ => hrest) hrest

end Refuses

/-- All steps of a given fuel that build nodes refuse like this. -/
structure RefusesNodes (toks : List Token) (fuel : ℕ) : Prop where
  node : ∀ depth block loose, Refuses toks (node fuel depth block loose)
  blockItems : ∀ depth, Refuses toks (blockItems fuel depth)
  looseItems : ∀ depth, Refuses toks (looseItems fuel depth)
  blockEntries : ∀ depth, Refuses toks (blockEntries fuel depth)
  blockValue : ∀ depth, Refuses toks (blockValue fuel depth)
  flowItems : ∀ depth first, Refuses toks (flowItems fuel depth first)
  flowEntries : ∀ depth first, Refuses toks (flowEntries fuel depth first)
  flowValue : ∀ depth close, Refuses toks (flowValue fuel depth close)

namespace RefusesNodes

theorem zero : RefusesNodes toks 0 where
  node depth block loose := by
    rw [NodeBuilder.node]
    exact .fail
  blockItems depth := by
    rw [NodeBuilder.blockItems]
    exact .fail
  looseItems depth := by
    rw [NodeBuilder.looseItems]
    exact .fail
  blockEntries depth := by
    rw [NodeBuilder.blockEntries]
    exact .fail
  blockValue depth := by
    rw [NodeBuilder.blockValue]
    exact .fail
  flowItems depth first := by
    rw [NodeBuilder.flowItems]
    exact .fail
  flowEntries depth first := by
    rw [NodeBuilder.flowEntries]
    exact .fail
  flowValue depth close := by
    rw [NodeBuilder.flowValue]
    exact .fail

variable {fuel : ℕ} (h : RefusesNodes toks fuel)

include h

theorem succ_node (depth : ℕ) (block loose : Bool) : Refuses toks (NodeBuilder.node (fuel + 1) depth block loose) := by
  cases depth with
  | zero =>
    rw [NodeBuilder.node]
    · exact .throw .tooDeep
    · exact Nat.succ_ne_zero fuel
  | succ depth =>
    rw [NodeBuilder.node]
    refine Refuses.peek.bind fun first => ?_
    split
    · refine Refuses.skip.bind fun _ => Refuses.get.bind fun b => ?_
      split
      · exact .pure _
      · exact .fail
    · refine Refuses.properties.bind fun found => Refuses.peek.bind fun t => Refuses.get.bind fun b => ?_
      dsimp only
      have hclaim : Refuses toks (if found.1.any fun name => (lookup name b.anchors).isSome then fail else pure ()) :=
        .ite .fail (.pure ())
      have hbare := Refuses.ite (p := found.1.isNone && found.2.isNone) Refuses.fail
        (hclaim.scalar found.1 (scalarTag (some found.2.join) true Text.empty) Text.empty)
      split
      · exact hclaim.collection _ _ _ _ (h.looseItems depth)
      · split
        · exact Refuses.skip.bind fun _ => hclaim.scalar _ _ _
        · exact Refuses.skip.bind fun _ => hclaim.collection _ _ _ _ (h.flowItems depth true)
        · exact Refuses.skip.bind fun _ => hclaim.collection _ _ _ _ (h.flowEntries depth true)
        · exact .ite (Refuses.skip.bind fun _ => hclaim.collection _ _ _ _ (h.blockItems depth)) hbare
        · exact .ite (Refuses.skip.bind fun _ => hclaim.collection _ _ _ _ (h.blockEntries depth)) hbare
        · exact hbare

theorem succ_blockItems (depth : ℕ) : Refuses toks (NodeBuilder.blockItems (fuel + 1) depth) := by
  have hmore : ∀ item, Refuses toks (do return item :: (← NodeBuilder.blockItems fuel depth)) :=
    fun item => (h.blockItems depth).bind fun items => .pure _
  rw [NodeBuilder.blockItems]
  refine Refuses.peek.bind fun first => ?_
  split
  · refine Refuses.skip.bind fun _ => Refuses.peek.bind fun t => ?_
    exact .ite (Refuses.emptyNode.bind hmore) ((h.node depth true false).bind hmore)
  · exact Refuses.skip.bind fun _ => .pure _
  · exact .fail

theorem succ_looseItems (depth : ℕ) : Refuses toks (NodeBuilder.looseItems (fuel + 1) depth) := by
  have hmore : ∀ item, Refuses toks (do return item :: (← NodeBuilder.looseItems fuel depth)) :=
    fun item => (h.looseItems depth).bind fun items => .pure _
  rw [NodeBuilder.looseItems]
  refine Refuses.peek.bind fun first => ?_
  split
  · refine Refuses.skip.bind fun _ => Refuses.peek.bind fun t => ?_
    exact .ite (Refuses.emptyNode.bind hmore) ((h.node depth true false).bind hmore)
  · exact .pure _

theorem succ_blockEntries (depth : ℕ) : Refuses toks (NodeBuilder.blockEntries (fuel + 1) depth) := by
  have hmore : ∀ k, Refuses toks (do
      let v ← NodeBuilder.blockValue fuel depth
      return (k, v) :: (← NodeBuilder.blockEntries fuel depth)) :=
    fun k => (h.blockValue depth).bind fun v => (h.blockEntries depth).bind fun entries => .pure _
  rw [NodeBuilder.blockEntries]
  refine Refuses.peek.bind fun first => ?_
  split
  · exact Refuses.skip.bind fun _ => .pure _
  · refine Refuses.skip.bind fun _ => Refuses.peek.bind fun t => ?_
    exact .ite (Refuses.emptyNode.bind hmore) ((h.node depth true true).bind hmore)
  · exact .fail

theorem succ_blockValue (depth : ℕ) : Refuses toks (NodeBuilder.blockValue (fuel + 1) depth) := by
  rw [NodeBuilder.blockValue]
  refine Refuses.peek.bind fun first => ?_
  split
  · refine Refuses.skip.bind fun _ => Refuses.peek.bind fun t => ?_
    exact .ite .emptyNode (h.node depth true true)
  · exact .emptyNode

theorem succ_flowValue (depth : ℕ) (close : Token) : Refuses toks (NodeBuilder.flowValue (fuel + 1) depth close) := by
  rw [NodeBuilder.flowValue]
  refine Refuses.peek.bind fun first => ?_
  split
  · refine Refuses.skip.bind fun _ => Refuses.peek.bind fun t => ?_
    exact .ite .emptyNode (h.node depth false false)
  · exact .emptyNode

theorem succ_flowEntries (depth : ℕ) (first : Bool) :
    Refuses toks (NodeBuilder.flowEntries (fuel + 1) depth first) := by
  have hmore : ∀ k v, Refuses toks (do return (k, v) :: (← NodeBuilder.flowEntries fuel depth false)) :=
    fun k v => (h.flowEntries depth false).bind fun entries => .pure _
  have hvalue : ∀ k, Refuses toks (do
      let v ← NodeBuilder.flowValue fuel depth .flowMappingEnd
      return (k, v) :: (← NodeBuilder.flowEntries fuel depth false)) :=
    fun k => (h.flowValue depth .flowMappingEnd).bind fun v => hmore k v
  rw [NodeBuilder.flowEntries.eq_def]
  refine Refuses.peek.bind fun t => .ite (Refuses.skip.bind fun _ => .pure _) ?_
  refine Refuses.afterComma first t ?_
  refine Refuses.peek.bind fun t' => ?_
  split
  · exact Refuses.skip.bind fun _ => .pure _
  · refine Refuses.skip.bind fun _ => Refuses.peek.bind fun t'' => ?_
    exact .ite (Refuses.emptyNode.bind hvalue) ((h.node depth false false).bind hvalue)
  · exact (h.node depth false false).bind fun k => Refuses.emptyNode.bind fun v => hmore k v

theorem succ_flowItems (depth : ℕ) (first : Bool) : Refuses toks (NodeBuilder.flowItems (fuel + 1) depth first) := by
  have hmore : ∀ item, Refuses toks (do return item :: (← NodeBuilder.flowItems fuel depth false)) :=
    fun item => (h.flowItems depth false).bind fun items => .pure _
  rw [NodeBuilder.flowItems.eq_def]
  refine Refuses.peek.bind fun t => .ite (Refuses.skip.bind fun _ => .pure _) ?_
  refine Refuses.afterComma first t ?_
  refine Refuses.peek.bind fun t' => ?_
  split
  · exact Refuses.skip.bind fun _ => .pure _
  · split
    · exact .throw .tooDeep
    · rename_i depth'
      have hvalue : ∀ pair k, Refuses toks (do
          let v ← NodeBuilder.flowValue fuel depth' .flowSequenceEnd
          fill pair (.mapping [(k, v)])
          return pair :: (← NodeBuilder.flowItems fuel (depth' + 1) false)) :=
        fun pair k => (h.flowValue depth' .flowSequenceEnd).bind fun v =>
          (Refuses.fill pair _).bind fun _ => hmore pair
      refine (Refuses.add _ _).bind fun pair => Refuses.skip.bind fun _ => Refuses.peek.bind fun t'' => ?_
      exact .ite (Refuses.emptyNode.bind (hvalue pair)) ((h.node depth' false false).bind (hvalue pair))
  · exact (h.node depth false false).bind hmore

end RefusesNodes

theorem refusesNodes (toks : List Token) (fuel : ℕ) : RefusesNodes toks fuel := by
  induction fuel with
  | zero => exact .zero
  | succ fuel ih =>
    exact {
      node := ih.succ_node
      blockItems := ih.succ_blockItems
      looseItems := ih.succ_looseItems
      blockEntries := ih.succ_blockEntries
      blockValue := ih.succ_blockValue
      flowItems := ih.succ_flowItems
      flowEntries := ih.succ_flowEntries
      flowValue := ih.succ_flowValue }

/-! ### Documents -/

theorem refuses_directives (fuel : ℕ) (version : Bool) (handles : List (Text × Text)) :
    Refuses toks (directives fuel version handles) := by
  induction fuel generalizing version handles with
  | zero => exact .fail
  | succ fuel ih =>
    unfold directives
    refine Refuses.peek.bind fun t => ?_
    split
    · exact Refuses.skip.bind fun _ => .ite .fail (ih _ _)
    · exact Refuses.skip.bind fun _ => .ite .fail (ih _ _)
    · exact Refuses.skip.bind fun _ => ih _ _
    · exact .pure _

theorem refuses_skipEnds (fuel : ℕ) : Refuses toks (skipEnds fuel) := by
  induction fuel with
  | zero => exact .pure ()
  | succ fuel ih =>
    unfold skipEnds
    refine Refuses.peek.bind fun t => ?_
    split
    · exact Refuses.skip.bind fun _ => ih
    · exact .pure ()

theorem refuses_finish (fuel n : ℕ) : Refuses toks (document.finish fuel n) :=
  (refuses_skipEnds fuel).bind fun _ => Refuses.peek.bind fun _ => .ite (.pure _) .fail

theorem refuses_document (fuel : ℕ) : Refuses toks (document fuel) := by
  have hnode := (refusesNodes toks fuel).node maxDepth true false
  have hfinish : ∀ n, Refuses toks (document.finish fuel n) := refuses_finish fuel
  unfold document
  refine Refuses.peek.bind fun t => .ite (hnode.bind hfinish) ?_
  refine (refuses_skipEnds fuel).bind fun _ => Refuses.peek.bind fun t => .ite (.pure _) ?_
  refine (refuses_directives fuel false []).bind fun handles => ?_
  refine (Refuses.modify ?_).bind fun _ => Refuses.peek.bind fun t => .ite (Refuses.fail.bind fun _ => ?_) ?_
  · exact fun b => List.Subset.refl b.tokens
  all_goals
    refine Refuses.skip.bind fun _ => Refuses.peek.bind fun t => ?_
    exact .ite (Refuses.emptyNode.bind hfinish) (hnode.bind hfinish)

end NodeBuilder

/-- The tokens of a text build no graph because they are malformed or nested too deep, or because one of them cannot be
read. -/
theorem Graph.isRefusal_of_ofTokens {toks : List Token} {fault : Fault} (h : Graph.ofTokens toks = .error fault) :
    NodeBuilder.IsRefusal toks fault := by
  have hrefuses : NodeBuilder.Refuses toks (NodeBuilder.document (4 * toks.length + 8)) :=
    NodeBuilder.refuses_document (4 * toks.length + 8)
  unfold Graph.ofTokens at h
  cases hrun : (NodeBuilder.document (4 * toks.length + 8)).run { tokens := toks } with
  | error fault' =>
    rw [hrun] at h
    cases h
    exact (hrefuses { tokens := toks } (List.Subset.refl toks)).2 fault hrun
  | ok found =>
    rw [hrun] at h
    cases h

end LintPreview.Yaml
