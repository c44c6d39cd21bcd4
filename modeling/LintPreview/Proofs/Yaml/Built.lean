import LintPreview.Proofs.Yaml.Scalar

/-!
# The nodes of written tokens

* `Document.tokens`: the tokens that stand for a document.
* `NodeBuilder.Gives`: a step goes on with certain tokens, and its result fits the graph so far.
* `NodeBuilder.gives_node`: from the tokens of a simple document a node that holds the document is built.
* `Graph.exists_ofTokens`: so is the graph of the whole text.
-/

namespace LintPreview

open Yaml

namespace Document

mutual

/-- The tokens of a document. There are no marks around the items of a `loose` list. -/
def tokens (loose : Bool) : Document → List Token
  | .list _ items =>
    if items.isEmpty then [.flowSequenceStart, .flowSequenceEnd]
    else if loose then itemTokens items
    else .blockSequenceStart :: (itemTokens items ++ [.blockEnd])
  | .map _ entries =>
    if entries.isEmpty then [.flowMappingStart, .flowMappingEnd]
    else .blockMappingStart :: (entryTokens entries ++ [.blockEnd])
  | d => ((Scalar.ofDocument? d).map Scalar.token).toList

/-- The tokens of items. -/
def itemTokens : List Document → List Token
  | [] => []
  | d :: rest => .blockEntry :: (tokens false d ++ itemTokens rest)

/-- The tokens of entries. A list that stands behind a short key is loose. -/
def entryTokens : List (Document × Document) → List Token
  | [] => []
  | (k, v) :: rest => .key :: (tokens false k ++ .value :: (tokens k.isShort v ++ entryTokens rest))

end

end Document

namespace Yaml

/-! ### Graphs that grow -/

namespace Graph

/-- The nodes at the places before the end of `g` are the same in `g'`. -/
def Extends (g g' : Graph) : Prop := g.size ≤ g'.size ∧ ∀ q < g.size, g'[q]? = g[q]?

variable {g g' g'' : Graph} {place : ℕ}

theorem Extends.refl (g : Graph) : Extends g g := ⟨le_rfl, fun _ _ => rfl⟩

theorem Extends.trans (h : Extends g g') (h' : Extends g' g'') : Extends g g'' :=
  ⟨h.1.trans h'.1, fun q hq => (h'.2 q (hq.trans_le h.1)).trans (h.2 q hq)⟩

theorem extends_push (g : Graph) (n : Node) : Extends g (g.push n) := by
  refine ⟨by rw [Array.size_push]; exact Nat.le_succ _, fun q hq => ?_⟩
  rw [Array.getElem?_push, if_neg (Nat.ne_of_lt hq)]

theorem congr_scalar {d : Document} (hsame : g'[place]? = g[place]?)
    (h : ∃ tag text, g[place]? = some ⟨tag, .scalar text⟩ ∧ StandsFor tag text d) :
    ∃ tag text, g'[place]? = some ⟨tag, .scalar text⟩ ∧ StandsFor tag text d := by
  rw [hsame]
  exact h

mutual

/-- What a graph holds depends on the nodes from its place on. -/
theorem Holds.congr : ∀ {place : ℕ} (d : Document), (∀ q, place ≤ q → q < g.size → g'[q]? = g[q]?) → g.Holds place d →
    g'.Holds place d
  | place, .list _ ds, hsame, h => by
    have hlt := h.lt_size
    obtain ⟨places, hnode, hitems⟩ := h
    exact ⟨places, (hsame place le_rfl hlt).trans hnode, HoldsItems.congr ds (fun q hq => hsame q hq.le) hitems⟩
  | place, .map _ es, hsame, h => by
    have hlt := h.lt_size
    obtain ⟨places, hnode, hentries⟩ := h
    exact ⟨places, (hsame place le_rfl hlt).trans hnode, HoldsEntries.congr es (fun q hq => hsame q hq.le) hentries⟩
  | place, .null, hsame, h => congr_scalar (hsame place le_rfl h.lt_size) h
  | place, .bool _, hsame, h => congr_scalar (hsame place le_rfl h.lt_size) h
  | place, .int _, hsame, h => congr_scalar (hsame place le_rfl h.lt_size) h
  | place, .float _, hsame, h => congr_scalar (hsame place le_rfl h.lt_size) h
  | place, .text _, hsame, h => congr_scalar (hsame place le_rfl h.lt_size) h
  | place, .bytes _, hsame, h => congr_scalar (hsame place le_rfl h.lt_size) h
  | place, .moment _ _, hsame, h => congr_scalar (hsame place le_rfl h.lt_size) h
  | place, .set _ _, hsame, h => congr_scalar (hsame place le_rfl h.lt_size) h
  | place, .enclosing _, hsame, h => congr_scalar (hsame place le_rfl h.lt_size) h

theorem HoldsItems.congr : ∀ {place : ℕ} (ds : List Document) {places : List ℕ},
    (∀ q, place < q → q < g.size → g'[q]? = g[q]?) → g.HoldsItems place ds places → g'.HoldsItems place ds places
  | _, [], [], _, _ => trivial
  | _, d :: ds, _ :: _, hsame, ⟨hlt, hd, hds⟩ =>
    ⟨hlt, Holds.congr d (fun q hq => hsame q (hlt.trans_le hq)) hd, HoldsItems.congr ds hsame hds⟩

theorem HoldsEntries.congr : ∀ {place : ℕ} (es : List (Document × Document)) {places : List (ℕ × ℕ)},
    (∀ q, place < q → q < g.size → g'[q]? = g[q]?) → g.HoldsEntries place es places → g'.HoldsEntries place es places
  | _, [], [], _, _ => trivial
  | _, (k, v) :: es, (_, _) :: _, hsame, ⟨⟨hp, hk⟩, ⟨hq, hv⟩, hes⟩ =>
    ⟨⟨hp, Holds.congr k (fun i hi => hsame i (hp.trans_le hi)) hk⟩,
      ⟨hq, Holds.congr v (fun i hi => hsame i (hq.trans_le hi)) hv⟩, HoldsEntries.congr es hsame hes⟩

end

theorem Holds.extend {d : Document} (h : g.Holds place d) (hextends : Extends g g') : g'.Holds place d :=
  h.congr d fun q _ hq => hextends.2 q hq

end Graph

/-! ### Steps of building -/

namespace NodeBuilder

variable {α β : Type} {b b' b'' : NodeBuilder} {rest rest' : List Token} {t : Token}

/-- The step gives a result and goes on with another state. -/
def Builds (m : BuildM α) (b : NodeBuilder) (a : α) (b' : NodeBuilder) : Prop := m.run b = .ok (a, b')

theorem Builds.bind {m : BuildM α} {f : α → BuildM β} {a : α} {c : β} (h : Builds m b a b') (h' : Builds (f a) b' c b'') :
    Builds (m >>= f) b c b'' := by
  unfold Builds at h h' ⊢
  rw [StateT.run_bind, h]
  exact h'

theorem builds_pure (a : α) (b : NodeBuilder) : Builds (pure a) b a b := rfl

/-- A token that can be read. -/
def IsWhole : Token → Prop
  | .broken _ => False
  | _ => True

theorem builds_peek (h : b.tokens = t :: rest) (ht : IsWhole t) : Builds peek b t b := by
  unfold peek
  refine Builds.bind (a := b) (show Builds get b b b from rfl) ?_
  rw [h]
  cases t with
  | broken fault => cases ht
  | _ => rfl

theorem builds_skip (h : b.tokens = t :: rest) : Builds skip b () { b with tokens := rest } := by
  have hrest : rest = b.tokens.tail := by rw [h]; rfl
  rw [hrest]
  rfl

theorem builds_add (tag : Tag) (content : Content) (b : NodeBuilder) :
    Builds (add tag content) b b.graph.size { b with graph := b.graph.push ⟨tag, content⟩ } := rfl

theorem builds_fill (place : ℕ) (content : Content) (b : NodeBuilder) :
    Builds (fill place content) b ()
      { b with graph := b.graph.modify place fun n => { n with content := content } } := rfl

/-- A token that a node without an anchor and a tag may start with. -/
def StartsNode : Token → Prop
  | .scalar _ _ => True
  | .flowSequenceStart => True
  | .flowMappingStart => True
  | .blockSequenceStart => True
  | .blockMappingStart => True
  | .blockEntry => True
  | _ => False

theorem builds_properties (h : b.tokens = t :: rest) (ht : StartsNode t) : Builds properties b (none, none) b := by
  unfold properties
  refine (builds_peek h (by cases t <;> trivial)).bind ?_
  cases t with
  | anchor name => cases ht
  | tag handle suffix => cases ht
  | _ => rfl

/-- The node of a collection, with what is built after it inside. -/
def collectionNode (tag : Tag) (placeholder : Content) (inside : BuildM α) (content : α → Content) : BuildM ℕ := do
  let n ← add tag placeholder
  fill n (content (← inside))
  return n

/-- A node without an anchor and a tag, by its first token. -/
def bareNode (fuel depth : ℕ) (loose : Bool) (t : Token) : BuildM ℕ :=
  if loose && t == .blockEntry then collectionNode .sequence (.sequence []) (looseItems fuel depth) .sequence
  else match t with
    | .scalar text plain => do skip; add (scalarTag none plain text) (.scalar text)
    | .flowSequenceStart => do skip; collectionNode .sequence (.sequence []) (flowItems fuel depth true) .sequence
    | .flowMappingStart => do skip; collectionNode .mapping (.mapping []) (flowEntries fuel depth true) .mapping
    | .blockSequenceStart => do skip; collectionNode .sequence (.sequence []) (blockItems fuel depth) .sequence
    | .blockMappingStart => do skip; collectionNode .mapping (.mapping []) (blockEntries fuel depth) .mapping
    | _ => fail

theorem builds_node {fuel depth a : ℕ} {loose : Bool} (h : b.tokens = t :: rest) (ht : StartsNode t)
    (hnode : Builds (bareNode fuel depth loose t) b a b') : Builds (node (fuel + 1) (depth + 1) true loose) b a b' := by
  have hwhole : IsWhole t := by cases t <;> trivial
  rw [node]
  refine (builds_peek h hwhole).bind ?_
  have hproperties := builds_properties h ht
  cases t with
  | scalar text plain => exact hproperties.bind ((builds_peek h hwhole).bind hnode)
  | flowSequenceStart => exact hproperties.bind ((builds_peek h hwhole).bind hnode)
  | flowMappingStart => exact hproperties.bind ((builds_peek h hwhole).bind hnode)
  | blockSequenceStart => exact hproperties.bind ((builds_peek h hwhole).bind hnode)
  | blockMappingStart => exact hproperties.bind ((builds_peek h hwhole).bind hnode)
  | blockEntry => exact hproperties.bind ((builds_peek h hwhole).bind hnode)
  | _ => cases ht

/-! ### Nodes that are built -/

/-- The step goes on with the tokens `rest`. It only adds nodes, and its result fits the graph. -/
def Gives (m : BuildM α) (b : NodeBuilder) (rest : List Token) (P : α → Graph → Prop) : Prop :=
  ∃ a b', Builds m b a b' ∧ b'.tokens = rest ∧ b.graph.Extends b'.graph ∧ P a b'.graph

variable {P : α → Graph → Prop} {Q : β → Graph → Prop}

theorem gives_pure {a : α} (h : P a b.graph) : Gives (pure a) b b.tokens P := ⟨a, b, rfl, rfl, .refl _, h⟩

theorem Gives.bind {m : BuildM α} {f : α → BuildM β} (h : Gives m b rest P)
    (hf : ∀ a b', b'.tokens = rest → b.graph.Extends b'.graph → P a b'.graph → Gives (f a) b' rest' Q) :
    Gives (m >>= f) b rest' Q := by
  obtain ⟨a, b₁, hm, htokens, hextends, ha⟩ := h
  obtain ⟨c, b₂, hfa, htokens', hextends', hc⟩ := hf a b₁ htokens hextends ha
  exact ⟨c, b₂, hm.bind hfa, htokens', hextends.trans hextends', hc⟩

/-- A step that adds no node. -/
theorem Builds.gives {m : BuildM α} {f : α → BuildM β} {a : α} (h : Builds m b a b') (hgraph : b'.graph = b.graph)
    (hf : Gives (f a) b' rest Q) : Gives (m >>= f) b rest Q := by
  obtain ⟨c, b₂, hfa, htokens, hextends, hc⟩ := hf
  exact ⟨c, b₂, h.bind hfa, htokens, hgraph ▸ hextends, hc⟩

/-- The node is at a new place and holds the document. -/
def HoldsNew (b : NodeBuilder) (d : Document) (a : ℕ) (g : Graph) : Prop := b.graph.size ≤ a ∧ g.Holds a d

theorem getElem?_modify_ne {g : Graph} {place q : ℕ} (f : Node → Node) (hne : q ≠ place) : (g.modify place f)[q]? = g[q]? := by
  rw [Array.getElem?_modify, if_neg (Ne.symm hne)]

theorem getElem?_modify_self {g : Graph} {place : ℕ} {n : Node} (f : Node → Node) (h : g[place]? = some n) :
    (g.modify place f)[place]? = some (f n) := by
  rw [Array.getElem?_modify, if_pos rfl, h]
  rfl

/-- The node of a collection is put in front of those inside it, and filled behind them. -/
theorem gives_collectionNode {inside : BuildM α} {tag : Tag} {placeholder : Content} {content : α → Content} {d : Document}
    (h : Gives inside { b with graph := b.graph.push ⟨tag, placeholder⟩ } rest P)
    (hP : ∀ (a : α) (g g' : Graph), P a g → g'[b.graph.size]? = some ⟨tag, content a⟩ →
      (∀ q, b.graph.size < q → q < g.size → g'[q]? = g[q]?) → g'.Holds b.graph.size d) :
    Gives (collectionNode tag placeholder inside content) b rest (HoldsNew b d) := by
  obtain ⟨a, b', hinside, htokens, hextends, ha⟩ := h
  have hsize : b.graph.size < b'.graph.size := by
    have := hextends.1
    simp only [Array.size_push] at this
    omega
  have hplaceholder : b'.graph[b.graph.size]? = some ⟨tag, placeholder⟩ := by
    rw [hextends.2 _ (by simp)]
    simp
  refine ⟨b.graph.size, _, (builds_add _ _ b).bind (hinside.bind ((builds_fill _ (content a) b').bind (builds_pure _ _))),
    htokens, ⟨?_, fun q hq => ?_⟩, le_rfl, hP a b'.graph _ ha (getElem?_modify_self _ hplaceholder) fun q hq _ => ?_⟩
  · rw [Array.size_modify]
    exact hsize.le
  · rw [getElem?_modify_ne _ (Nat.ne_of_lt hq), hextends.2 q (hq.trans (by simp)), Array.getElem?_push,
      if_neg (Nat.ne_of_lt hq)]
  · exact getElem?_modify_ne _ (Nat.ne_of_gt hq)

theorem gives_sequence {items : BuildM (List ℕ)} {ds : List Document} (l : ℕ)
    (h : ∀ b' : NodeBuilder, b'.tokens = b.tokens → b.graph.size < b'.graph.size →
      Gives items b' rest fun places g => g.HoldsItems b.graph.size ds places) :
    Gives (collectionNode .sequence (.sequence []) items .sequence) b rest (HoldsNew b (.list l ds)) :=
  gives_collectionNode (h _ rfl (by simp)) fun places _ _ hitems hnode hsame => ⟨places, hnode, hitems.congr ds hsame⟩

theorem gives_mapping {entries : BuildM (List (ℕ × ℕ))} {es : List (Document × Document)} (l : ℕ)
    (h : ∀ b' : NodeBuilder, b'.tokens = b.tokens → b.graph.size < b'.graph.size →
      Gives entries b' rest fun places g => g.HoldsEntries b.graph.size es places) :
    Gives (collectionNode .mapping (.mapping []) entries .mapping) b rest (HoldsNew b (.map l es)) :=
  gives_collectionNode (h _ rfl (by simp)) fun places _ _ hentries hnode hsame => ⟨places, hnode, hentries.congr es hsame⟩

/-- A simple document starts with a token that a node may start with. -/
theorem exists_tokens_cons {d : Document} (hd : d.IsSimple) (loose : Bool) :
    ∃ t ts, d.tokens loose = t :: ts ∧ StartsNode t ∧ (loose = false → t ≠ .blockEntry) := by
  have hscalar : ∀ s : Scalar, [s.token] = s.token :: [] ∧ StartsNode s.token ∧ (loose = false → s.token ≠ .blockEntry) :=
    fun s => ⟨rfl, trivial, fun _ => nofun⟩
  cases d with
  | null => exact ⟨_, _, hscalar _⟩
  | bool _ => exact ⟨_, _, hscalar _⟩
  | int _ => exact ⟨_, _, hscalar _⟩
  | text _ => exact ⟨_, _, hscalar _⟩
  | list l items =>
    cases items with
    | nil => exact ⟨_, _, rfl, trivial, fun _ => nofun⟩
    | cons d ds =>
      cases loose with
      | true => exact ⟨_, _, rfl, trivial, nofun⟩
      | false => exact ⟨_, _, rfl, trivial, fun _ => nofun⟩
  | map l entries =>
    cases entries with
    | nil => exact ⟨_, _, rfl, trivial, fun _ => nofun⟩
    | cons e es => exact ⟨_, _, rfl, trivial, fun _ => nofun⟩
  | _ => cases hd

variable {more : List Token} {fuel depth base : ℕ}

/-- What comes next in front of the tokens of a simple document. -/
theorem builds_peek_tokens {d : Document} {loose : Bool} (hd : d.IsSimple) (htokens : b.tokens = d.tokens loose ++ more) :
    ∃ t, StartsNode t ∧ (loose = false → t ≠ .blockEntry) ∧ Builds peek b t b := by
  obtain ⟨t, ts, hcons, hstarts, hne⟩ := exists_tokens_cons hd loose
  rw [hcons, List.cons_append] at htokens
  exact ⟨t, hstarts, hne, builds_peek htokens (by cases t <;> trivial)⟩

theorem gives_item {items : BuildM (List ℕ)} (ends : Token → Bool) {d : Document} {ds : List Document}
    (htokens : b.tokens = .blockEntry :: (d.tokens false ++ more)) (hd : d.IsSimple)
    (hends : ∀ t, StartsNode t → t ≠ .blockEntry → ends t = false) (hbase : base < b.graph.size)
    (hnode : ∀ b' : NodeBuilder, b'.tokens = d.tokens false ++ more → Gives (node fuel depth true false) b' more (HoldsNew b' d))
    (hitems : ∀ b' : NodeBuilder, b'.tokens = more → base < b'.graph.size →
      Gives items b' rest fun places g => g.HoldsItems base ds places) :
    Gives (do
        skip
        let t ← peek
        let item ← if ends t then emptyNode else node fuel depth true false
        return item :: (← items)) b rest fun places g => g.HoldsItems base (d :: ds) places := by
  obtain ⟨t, hstarts, hne, hpeek⟩ := builds_peek_tokens (b := { b with tokens := d.tokens false ++ more }) hd rfl
  refine (builds_skip htokens).gives rfl (hpeek.gives rfl ?_)
  rw [hends t hstarts (hne rfl)]
  refine (hnode _ rfl).bind fun a b₁ htokens₁ hextends₁ ha => ?_
  refine (hitems b₁ htokens₁ (hbase.trans_le hextends₁.1)).bind fun places b₂ htokens₂ hextends₂ hplaces => ?_
  rw [← htokens₂]
  exact gives_pure ⟨hbase.trans_le ha.1, ha.2.extend hextends₂, hplaces⟩

/-- A token that ends a list without marks around its items. -/
def EndsItems (rest : List Token) : Prop := ∃ t more, rest = t :: more ∧ IsWhole t ∧ t ≠ .blockEntry

theorem endsEntry_of_startsNode (ht : StartsNode t) : endsEntry t = false := by
  cases t with
  | key => cases ht
  | value => cases ht
  | blockEnd => cases ht
  | _ => rfl

theorem gives_blockValue {v : Document} {loose : Bool} (htokens : b.tokens = .value :: (v.tokens loose ++ more)) (hv : v.IsSimple)
    (hnode : ∀ b' : NodeBuilder, b'.tokens = v.tokens loose ++ more → Gives (node fuel depth true true) b' more (HoldsNew b' v)) :
    Gives (blockValue (fuel + 1) depth) b more (HoldsNew b v) := by
  obtain ⟨t, hstarts, -, hpeek⟩ := builds_peek_tokens (b := { b with tokens := v.tokens loose ++ more }) hv rfl
  rw [blockValue]
  refine (builds_peek htokens trivial).gives rfl ((builds_skip htokens).gives rfl (hpeek.gives rfl ?_))
  rw [endsEntry_of_startsNode hstarts]
  exact hnode _ rfl

theorem gives_entry {k v : Document} {es : List (Document × Document)} {loose : Bool}
    (htokens : b.tokens = .key :: (k.tokens false ++ .value :: (v.tokens loose ++ more))) (hk : k.IsSimple) (hv : v.IsSimple)
    (hbase : base < b.graph.size)
    (hkey : ∀ (b' : NodeBuilder) (after : List Token), b'.tokens = k.tokens false ++ after →
      Gives (node (fuel + 1) depth true true) b' after (HoldsNew b' k))
    (hvalue : ∀ b' : NodeBuilder, b'.tokens = v.tokens loose ++ more → Gives (node fuel depth true true) b' more (HoldsNew b' v))
    (hentries : ∀ b' : NodeBuilder, b'.tokens = more → base < b'.graph.size →
      Gives (blockEntries (fuel + 1) depth) b' rest fun places g => g.HoldsEntries base es places) :
    Gives (blockEntries (fuel + 2) depth) b rest fun places g => g.HoldsEntries base ((k, v) :: es) places := by
  obtain ⟨t, hstarts, -, hpeek⟩ :=
    builds_peek_tokens (b := { b with tokens := k.tokens false ++ .value :: (v.tokens loose ++ more) }) hk rfl
  rw [blockEntries]
  refine (builds_peek htokens trivial).gives rfl ((builds_skip htokens).gives rfl (hpeek.gives rfl ?_))
  rw [endsEntry_of_startsNode hstarts]
  refine (hkey _ _ rfl).bind fun a b₁ htokens₁ hextends₁ ha => ?_
  refine (gives_blockValue htokens₁ hv hvalue).bind fun c b₂ htokens₂ hextends₂ hc => ?_
  have hsize₁ := hbase.trans_le hextends₁.1
  have hsize₂ := hsize₁.trans_le hextends₂.1
  refine (hentries b₂ htokens₂ hsize₂).bind fun places b₃ htokens₃ hextends₃ hplaces => ?_
  rw [← htokens₃]
  exact gives_pure ⟨⟨hbase.trans_le ha.1, ha.2.extend (hextends₂.trans hextends₃)⟩,
    ⟨hsize₁.trans_le hc.1, hc.2.extend hextends₃⟩, hplaces⟩

theorem gives_node_of_bareNode {allows : Bool} {P : ℕ → Graph → Prop} (htokens : b.tokens = t :: more) (ht : StartsNode t)
    (h : Gives (bareNode fuel depth allows t) b rest P) : Gives (node (fuel + 1) (depth + 1) true allows) b rest P := by
  obtain ⟨a, b', hbuilds, hrest⟩ := h
  exact ⟨a, b', builds_node htokens ht hbuilds, hrest⟩

/-- The first token alone decides, unless a list may be loose. -/
theorem gives_node_of_ne {allows : Bool} {P : ℕ → Graph → Prop} (htokens : b.tokens = t :: more) (ht : StartsNode t)
    (hne : t ≠ .blockEntry) (h : Gives (bareNode fuel depth false t) b rest P) :
    Gives (node (fuel + 1) (depth + 1) true allows) b rest P := by
  refine gives_node_of_bareNode htokens ht ?_
  have hbare : bareNode fuel depth allows t = bareNode fuel depth false t := by
    unfold bareNode
    rw [beq_eq_false_iff_ne.mpr hne, Bool.and_false, Bool.and_false]
  rw [hbare]
  exact h

theorem gives_scalar {d : Document} {s : Scalar} {room : ℕ} {allows : Bool} (hs : Scalar.ofDocument? d = some s) (hd : d.IsSimple)
    (hroom : d.faultWithin room = none) (htokens : b.tokens = s.token :: rest) :
    Gives (node (fuel + 1) (depth + 1) true allows) b rest (HoldsNew b d) := by
  have hstands := (Scalar.isTame_and_standsFor hs hd hroom).2
  have hholds : ∀ g : Graph, g[b.graph.size]? = some ⟨scalarTag none s.isPlain (Text.ofList s.codes), .scalar (Text.ofList s.codes)⟩ →
      g.Holds b.graph.size d := by
    intro g hg
    cases d with
    | list l items => cases hs
    | map l entries => cases hs
    | _ => exact ⟨_, _, hg, hstands⟩
  refine gives_node_of_ne htokens trivial nofun ?_
  refine ⟨_, _, (builds_skip htokens).bind (builds_add _ _ _), rfl, Graph.extends_push _ _, le_rfl, hholds _ ?_⟩
  simp

theorem gives_emptyList {l : ℕ} {allows : Bool} (htokens : b.tokens = .flowSequenceStart :: .flowSequenceEnd :: rest) :
    Gives (node (fuel + 2) (depth + 1) true allows) b rest (HoldsNew b (.list l [])) := by
  refine gives_node_of_ne htokens trivial nofun ?_
  refine (builds_skip htokens).gives rfl (gives_sequence l fun b' htokens' hsize => ?_)
  rw [flowItems.eq_def]
  refine (builds_peek htokens' trivial).gives rfl ((builds_skip htokens').gives rfl ?_)
  exact gives_pure (P := fun places g => g.HoldsItems b.graph.size [] places) trivial

theorem gives_emptyMap {l : ℕ} {allows : Bool} (htokens : b.tokens = .flowMappingStart :: .flowMappingEnd :: rest) :
    Gives (node (fuel + 2) (depth + 1) true allows) b rest (HoldsNew b (.map l [])) := by
  refine gives_node_of_ne htokens trivial nofun ?_
  refine (builds_skip htokens).gives rfl (gives_mapping l fun b' htokens' hsize => ?_)
  rw [flowEntries.eq_def]
  refine (builds_peek htokens' trivial).gives rfl ((builds_skip htokens').gives rfl ?_)
  exact gives_pure (P := fun places g => g.HoldsEntries b.graph.size [] places) trivial

theorem gives_blockItems_nil (htokens : b.tokens = .blockEnd :: rest) :
    Gives (blockItems (fuel + 1) depth) b rest fun places g => g.HoldsItems base [] places := by
  rw [blockItems]
  refine (builds_peek htokens trivial).gives rfl ((builds_skip htokens).gives rfl ?_)
  exact gives_pure (P := fun places g => g.HoldsItems base [] places) trivial

theorem gives_looseItems_nil (hrest : EndsItems b.tokens) :
    Gives (looseItems (fuel + 1) depth) b b.tokens fun places g => g.HoldsItems base [] places := by
  obtain ⟨t, more, htokens, hwhole, hne⟩ := hrest
  rw [looseItems]
  refine (builds_peek htokens hwhole).gives rfl ?_
  have hnil : Gives (pure []) b b.tokens fun places g => g.HoldsItems base [] places := gives_pure trivial
  cases t with
  | blockEntry => exact absurd rfl hne
  | _ => exact hnil

theorem gives_blockEntries_nil (htokens : b.tokens = .blockEnd :: rest) :
    Gives (blockEntries (fuel + 1) depth) b rest fun places g => g.HoldsEntries base [] places := by
  rw [blockEntries]
  refine (builds_peek htokens trivial).gives rfl ((builds_skip htokens).gives rfl ?_)
  exact gives_pure (P := fun places g => g.HoldsEntries base [] places) trivial

section Scalars

variable {d : Document} {s : Scalar} {room : ℕ} {loose allows : Bool}

theorem tokens_eq_of_scalar (hs : Scalar.ofDocument? d = some s) : d.tokens loose = [s.token] := by
  cases d with
  | list l items => cases hs
  | map l entries => cases hs
  | _ => exact congrArg (fun o => (Option.map Scalar.token o).toList) hs

theorem gives_tokens_scalar {fuel depth : ℕ} (hs : Scalar.ofDocument? d = some s) (hd : d.IsSimple)
    (hroom : d.faultWithin room = none) (hdepth : room < depth) (hfuel : 2 * (d.tokens loose).length + 2 ≤ fuel)
    (htokens : b.tokens = d.tokens loose ++ rest) : Gives (node fuel depth true allows) b rest (HoldsNew b d) := by
  rw [tokens_eq_of_scalar hs] at htokens
  obtain ⟨fuel, rfl⟩ := Nat.exists_eq_add_of_le' ((Nat.le_add_left 1 _).trans hfuel)
  obtain ⟨depth, rfl⟩ := Nat.exists_eq_add_of_le' (Nat.one_le_of_lt hdepth)
  exact gives_scalar hs hd hroom htokens

end Scalars

mutual

/-- From the tokens of a simple document a node that holds it is built. -/
theorem gives_node : ∀ (d : Document), d.IsSimple → ∀ (loose : Bool) (fuel depth : ℕ) (b : NodeBuilder)
    (rest : List Token) {room : ℕ} {allows : Bool}, d.faultWithin room = none → room < depth →
      2 * (d.tokens loose).length + 2 ≤ fuel → (loose = true → allows = true ∧ EndsItems rest) →
        b.tokens = d.tokens loose ++ rest → Gives (node fuel depth true allows) b rest (HoldsNew b d)
  | _, _, _, 0, _, _, _ => fun _ _ hfuel => absurd hfuel (by simp)
  | _, _, _, _, 0, _, _ => fun _ hdepth => absurd hdepth (Nat.not_lt_zero _)
  | .list l [], _, loose, fuel + 1, depth + 1, b, rest => by
    intro hroom hdepth hfuel hloose htokens
    obtain ⟨fuel, rfl⟩ := Nat.exists_eq_add_of_le' (Nat.le_of_succ_le_succ ((by decide : 2 ≤ 6).trans hfuel))
    exact gives_emptyList htokens
  | .list l (d :: ds), hd, true, fuel + 1, depth + 1, b, rest => by
    intro hroom hdepth hfuel hloose htokens
    obtain ⟨room, rfl, hroom⟩ := Document.faultInItems_of_list hroom
    obtain ⟨rfl, hends⟩ := hloose rfl
    have hlength : 2 * (Document.itemTokens (d :: ds)).length + 2 ≤ fuel + 1 := hfuel
    have hstart : b.tokens = .blockEntry :: ((d.tokens false ++ Document.itemTokens ds) ++ rest) := htokens
    refine gives_node_of_bareNode hstart trivial (gives_sequence l fun b' hb' hsize => ?_)
    exact gives_looseItems (d :: ds) hd hroom (Nat.lt_of_succ_lt_succ hdepth) (by omega) hends (hb'.trans htokens) hsize
  | .list l (d :: ds), hd, false, fuel + 1, depth + 1, b, rest => by
    intro hroom hdepth hfuel hloose htokens
    obtain ⟨room, rfl, hroom⟩ := Document.faultInItems_of_list hroom
    have hcons : Document.tokens false (.list l (d :: ds)) =
        .blockSequenceStart :: (Document.itemTokens (d :: ds) ++ [.blockEnd]) := rfl
    rw [hcons, List.cons_append, List.append_assoc] at htokens
    rw [hcons, List.length_cons, List.length_append] at hfuel
    refine gives_node_of_ne htokens trivial nofun ?_
    refine (builds_skip htokens).gives rfl (gives_sequence l fun b' hb' hsize => ?_)
    exact gives_blockItems (d :: ds) hd hroom (Nat.lt_of_succ_lt_succ hdepth) (by omega) hb' hsize
  | .map l [], _, loose, fuel + 1, depth + 1, b, rest => by
    intro hroom hdepth hfuel hloose htokens
    obtain ⟨fuel, rfl⟩ := Nat.exists_eq_add_of_le' (Nat.le_of_succ_le_succ ((by decide : 2 ≤ 6).trans hfuel))
    exact gives_emptyMap htokens
  | .map l (e :: es), hd, loose, fuel + 1, depth + 1, b, rest => by
    intro hroom hdepth hfuel hloose htokens
    obtain ⟨room, rfl, hroom⟩ := Document.faultInEntries_of_map hroom
    have hcons : Document.tokens loose (.map l (e :: es)) =
        .blockMappingStart :: (Document.entryTokens (e :: es) ++ [.blockEnd]) := rfl
    rw [hcons, List.cons_append, List.append_assoc] at htokens
    rw [hcons, List.length_cons, List.length_append] at hfuel
    refine gives_node_of_ne htokens trivial nofun ?_
    refine (builds_skip htokens).gives rfl (gives_mapping l fun b' hb' hsize => ?_)
    exact gives_blockEntries (e :: es) hd hroom (Nat.lt_of_succ_lt_succ hdepth) (by omega) hb' hsize
  | .null, hd, _, _ + 1, _ + 1, _, _ => fun hroom hdepth hfuel _ => gives_tokens_scalar rfl hd hroom hdepth hfuel
  | .bool _, hd, _, _ + 1, _ + 1, _, _ => fun hroom hdepth hfuel _ => gives_tokens_scalar rfl hd hroom hdepth hfuel
  | .int _, hd, _, _ + 1, _ + 1, _, _ => fun hroom hdepth hfuel _ => gives_tokens_scalar rfl hd hroom hdepth hfuel
  | .text _, hd, _, _ + 1, _ + 1, _, _ => fun hroom hdepth hfuel _ => gives_tokens_scalar rfl hd hroom hdepth hfuel

theorem gives_blockItems : ∀ (ds : List Document) {room fuel depth base : ℕ} {b : NodeBuilder} {rest : List Token},
    Document.AreSimple ds → Document.faultInItems room ds = none → room < depth →
      2 * (Document.itemTokens ds).length + 1 ≤ fuel → b.tokens = Document.itemTokens ds ++ .blockEnd :: rest →
        base < b.graph.size → Gives (blockItems fuel depth) b rest fun places g => g.HoldsItems base ds places
  | _, _, 0, _, _, _, _, _, _, _, hfuel, _, _ => absurd hfuel (by simp)
  | [], _, fuel + 1, _, _, _, _, _, _, _, _, htokens, _ => gives_blockItems_nil htokens
  | d :: ds, room, fuel + 1, depth, base, b, rest, hds, hroom, hdepth, hfuel, htokens, hbase => by
    obtain ⟨hdroom, hdsroom⟩ := Document.faultInItems_cons hroom
    have htokens' : b.tokens = .blockEntry :: (d.tokens false ++ (Document.itemTokens ds ++ .blockEnd :: rest)) := by
      rw [htokens, Document.itemTokens, List.cons_append, List.append_assoc]
    simp only [Document.itemTokens, List.length_cons, List.length_append] at hfuel
    rw [blockItems]
    refine (builds_peek htokens' trivial).gives rfl ?_
    refine gives_item (fun t => t == .blockEntry || t == .blockEnd) htokens' hds.1 ?_ hbase ?_ ?_
    · intro t hstarts hne
      cases t with
      | blockEntry => exact absurd rfl hne
      | blockEnd => cases hstarts
      | _ => rfl
    · exact fun b' hb' => gives_node d hds.1 false _ _ b' _ hdroom hdepth (by omega) nofun hb'
    · exact fun b' hb' hsize => gives_blockItems ds hds.2 hdsroom hdepth (by omega) hb' hsize

theorem gives_looseItems : ∀ (ds : List Document) {room fuel depth base : ℕ} {b : NodeBuilder} {rest : List Token},
    Document.AreSimple ds → Document.faultInItems room ds = none → room < depth →
      2 * (Document.itemTokens ds).length + 1 ≤ fuel → EndsItems rest → b.tokens = Document.itemTokens ds ++ rest →
        base < b.graph.size → Gives (looseItems fuel depth) b rest fun places g => g.HoldsItems base ds places
  | _, _, 0, _, _, _, _, _, _, _, hfuel, _, _, _ => absurd hfuel (by simp)
  | [], _, fuel + 1, _, _, _, _, _, _, _, _, hends, htokens, _ => by
    subst htokens
    exact gives_looseItems_nil hends
  | d :: ds, room, fuel + 1, depth, base, b, rest, hds, hroom, hdepth, hfuel, hends, htokens, hbase => by
    obtain ⟨hdroom, hdsroom⟩ := Document.faultInItems_cons hroom
    have htokens' : b.tokens = .blockEntry :: (d.tokens false ++ (Document.itemTokens ds ++ rest)) := by
      rw [htokens, Document.itemTokens, List.cons_append, List.append_assoc]
    simp only [Document.itemTokens, List.length_cons, List.length_append] at hfuel
    rw [looseItems]
    refine (builds_peek htokens' trivial).gives rfl ?_
    refine gives_item (fun t => t == .blockEntry || endsEntry t) htokens' hds.1 ?_ hbase ?_ ?_
    · intro t hstarts hne
      rw [endsEntry_of_startsNode hstarts, Bool.or_false]
      exact beq_eq_false_iff_ne.mpr hne
    · exact fun b' hb' => gives_node d hds.1 false _ _ b' _ hdroom hdepth (by omega) nofun hb'
    · exact fun b' hb' hsize => gives_looseItems ds hds.2 hdsroom hdepth (by omega) hends hb' hsize

theorem gives_blockEntries : ∀ (es : List (Document × Document)) {room fuel depth base : ℕ} {b : NodeBuilder} {rest : List Token},
    Document.AreSimpleEntries es → Document.faultInEntries room es = none → room < depth →
      2 * (Document.entryTokens es).length + 1 ≤ fuel → b.tokens = Document.entryTokens es ++ .blockEnd :: rest →
        base < b.graph.size → Gives (blockEntries fuel depth) b rest fun places g => g.HoldsEntries base es places
  | _, _, 0, _, _, _, _, _, _, _, hfuel, _, _ => absurd hfuel (by simp)
  | [], _, fuel + 1, _, _, _, _, _, _, _, _, htokens, _ => gives_blockEntries_nil htokens
  | (k, v) :: es, room, 1, depth, base, b, rest, hds, hroom, hdepth, hfuel, htokens, hbase => absurd hfuel (by simp [Document.entryTokens])
  | (k, v) :: es, room, fuel + 2, depth, base, b, rest, hes, hroom, hdepth, hfuel, htokens, hbase => by
    obtain ⟨hkroom, hvroom, hesroom⟩ := Document.faultInEntries_cons hroom
    obtain ⟨⟨s, rfl, hs⟩, -, hv, hes⟩ := hes
    have htokens' : b.tokens = .key :: (Document.tokens false (.text s) ++ .value :: (v.tokens (Document.isShort (.text s)) ++
        (Document.entryTokens es ++ .blockEnd :: rest))) := by
      rw [htokens, Document.entryTokens]
      simp
    simp only [Document.entryTokens, List.length_cons, List.length_append] at hfuel
    have hends : EndsItems (Document.entryTokens es ++ .blockEnd :: rest) := by
      cases es with
      | nil => exact ⟨_, _, rfl, trivial, nofun⟩
      | cons e es => exact ⟨_, _, rfl, trivial, nofun⟩
    refine gives_entry htokens' hs hv hbase ?_ ?_ ?_
    · exact fun b' after hb' => gives_node (.text s) hs false _ _ b' _ hkroom hdepth (by omega) nofun hb'
    · exact fun b' hb' => gives_node v hv _ _ _ b' _ hvroom hdepth (by omega) (fun _ => ⟨rfl, hends⟩) hb'
    · exact fun b' hb' hsize => gives_blockEntries es hes hesroom hdepth (by omega) hb' hsize

end

/-- The only document of a stream. -/
theorem gives_document {d : Document} (hd : d.IsSimple) (hroom : d.dumpFault? = none)
    (hfuel : 2 * (d.tokens false).length + 2 ≤ fuel) (htokens : b.tokens = d.tokens false ++ [.streamEnd]) :
    Gives (document fuel) b [.streamEnd] fun root? g => ∃ a, root? = some a ∧ g.Holds a d := by
  obtain ⟨t, hstarts, -, hpeek⟩ := builds_peek_tokens hd htokens
  have hnode : Gives (node fuel maxDepth true false) b [.streamEnd] (HoldsNew b d) :=
    gives_node d hd false fuel maxDepth b [.streamEnd] hroom (by decide) hfuel nofun htokens
  have hfinish : Gives (do document.finish fuel (← node fuel maxDepth true false)) b [.streamEnd]
      fun root? g => ∃ a, root? = some a ∧ g.Holds a d := by
    refine hnode.bind fun a b' htokens' hextends ha => ?_
    obtain ⟨fuel, rfl⟩ := Nat.exists_eq_add_of_le' ((Nat.le_add_left 1 _).trans hfuel)
    have hends : Builds (skipEnds (fuel + 1)) b' () b' := by
      rw [skipEnds]
      exact (builds_peek htokens' trivial).bind rfl
    refine hends.gives rfl ((builds_peek htokens' trivial).gives rfl ?_)
    rw [← htokens']
    exact gives_pure ⟨a, rfl, ha.2⟩
  rw [document]
  refine hpeek.gives rfl ?_
  cases t with
  | scalar _ _ => exact hfinish
  | flowSequenceStart => exact hfinish
  | flowMappingStart => exact hfinish
  | blockSequenceStart => exact hfinish
  | blockMappingStart => exact hfinish
  | blockEntry => exact hfinish
  | _ => cases hstarts

end NodeBuilder

/-- The graph of the tokens of a simple document holds it. -/
theorem Graph.exists_ofTokens {d : Document} (hd : d.IsSimple) (hroom : d.dumpFault? = none) :
    ∃ g place, Graph.ofTokens (d.tokens false ++ [.streamEnd]) = .ok (some (g, place)) ∧ g.Holds place d := by
  have hfuel : 2 * (d.tokens false).length + 2 ≤ 4 * (d.tokens false ++ [Token.streamEnd]).length + 8 := by
    rw [List.length_append]
    omega
  obtain ⟨root?, b, hbuilds, -, -, a, rfl, hholds⟩ :=
    NodeBuilder.gives_document (b := { tokens := d.tokens false ++ [.streamEnd] }) hd hroom hfuel rfl
  refine ⟨b.graph, a, ?_, hholds⟩
  unfold NodeBuilder.Builds at hbuilds
  rw [Graph.ofTokens, hbuilds]
  rfl

end Yaml

end LintPreview
