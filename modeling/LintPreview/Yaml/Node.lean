import LintPreview.Yaml.Tag
import LintPreview.Yaml.Token.Stream

/-!
Nodes: the graph that the tokens of a text build.

* `Node`: a scalar, sequence or mapping; `Graph`: the nodes of a document by their places.
* `Graph.ofTokens`: the graph of the only document in the tokens and the place of its root, if there is a document.
-/

namespace LintPreview.Yaml

/-- What a node holds; the nodes in a collection are given by their places in a graph. -/
inductive Content where
  | scalar (text : Text)
  | sequence (items : List Nat)
  | mapping (entries : List (Nat × Nat))
deriving Repr, Inhabited

/-- A node: the kind of value that it stands for and what it holds. -/
structure Node where
  tag : Tag
  content : Content
deriving Repr

/-- The nodes of a document. What an alias repeats is one node in several places, so collections may contain
themselves. -/
abbrev Graph := Array Node

/-- The default meanings of tag handles. -/
def defaultHandles : List (Text × Text) := [("!", "!"), ("!!", tagNamespace)]

/-- Building nodes: the tokens left, the nodes so far, those with anchors and the meanings of tag handles. -/
structure NodeBuilder where
  tokens : List Token
  graph : Graph := #[]
  anchors : List (Text × Nat) := []
  handles : List (Text × Text) := defaultHandles

/-- A step of building nodes. -/
abbrev BuildM := StateT NodeBuilder (Except Fault)

namespace NodeBuilder

/-- How deep nodes may be nested. -/
def maxDepth : Nat := 480

/-- The text is malformed. -/
def fail {α : Type} : BuildM α := throw .malformed

/-- The token that comes next. -/
def peek : BuildM Token := do
  match (← get).tokens with
  | .broken fault :: _ => throw fault
  | t :: _ => return t
  | [] => return .streamEnd

/-- Passes over a token. -/
def skip : BuildM Unit := modify fun b => { b with tokens := b.tokens.tail }

/-- Puts a node into the graph and gives its place. -/
def add (tag : Tag) (content : Content) : BuildM Nat := do
  let place := (← get).graph.size
  modify fun b => { b with graph := b.graph.push ⟨tag, content⟩ }
  return place

/-- Fills a node that has been put into the graph. -/
def fill (place : Nat) (content : Content) : BuildM Unit :=
  modify fun b => { b with graph := b.graph.modify place fun n => { n with content := content } }

/-- The value under a name. -/
def lookup {α : Type} (name : Text) : List (Text × α) → Option α
  | [] => none
  | (k, v) :: rest => if k = name then some v else lookup name rest

/-- Gives a node its anchor. -/
def setAnchor (anchor : Option Text) (n : Nat) : BuildM Unit :=
  match anchor with
  | some name => modify fun b => { b with anchors := (name, n) :: b.anchors }
  | none => pure ()

/-- A scalar that is not written: it is null. -/
def emptyNode : BuildM Nat := add .null (.scalar Text.empty)

/-- The full name of a tag; none if the form of the value decides. -/
def tagName? (handle : Option Text) (suffix : Text) : BuildM (Option Text) := do
  match handle with
  | none => return if suffix = "!" then none else some suffix
  | some h =>
    match lookup h (← get).handles with
    | some start => return if start ++ suffix = "!" then none else some (start ++ suffix)
    | none => fail

/-- An anchor name and a tag in front of a node. The outer part of a tag tells whether one is written, the inner
part is its name unless the form of the value decides. -/
def properties : BuildM (Option Text × Option (Option Text)) := do
  match ← peek with
  | .anchor name =>
    skip
    match ← peek with
    | .tag handle suffix => skip; return (some name, some (← tagName? handle suffix))
    | _ => return (some name, none)
  | .tag handle suffix =>
    skip
    match ← peek with
    | .anchor name => skip; return (some name, some (← tagName? handle suffix))
    | _ => return (none, some (← tagName? handle suffix))
  | _ => return (none, none)

/-- The tag of a scalar. -/
def scalarTag (tag : Option (Option Text)) (plain : Bool) (text : Text) : Tag :=
  match tag with
  | some (some name) => .ofName name
  | some none => .ofPlain text
  | none => if plain then .ofPlain text else .text

/-- The tag of a collection. -/
def collectionTag (tag : Option (Option Text)) (usual : Tag) : Tag :=
  match tag with
  | some (some name) => .ofName name
  | _ => usual

/-- Whether a token ends an entry of a block mapping before it has a node. -/
def endsEntry : Token → Bool
  | .key => true
  | .value => true
  | .blockEnd => true
  | _ => false

/-- Whether a token ends an entry of a flow collection that `close` closes. -/
def endsFlow (close : Token) (t : Token) : Bool := t == .flowEntry || t == close

mutual

/-- A node. `block` allows block collections, `loose` a sequence that is not indented. -/
def node : (fuel depth : Nat) → (block loose : Bool) → BuildM Nat
  | 0, _, _, _ => fail
  | _, 0, _, _ => throw .tooDeep
  | fuel + 1, depth + 1, block, loose => do
    match ← peek with
    | .alias name =>
      skip
      match lookup name (← get).anchors with
      | some n => return n
      | none => fail
    | _ =>
      let (anchor, tag) ← properties
      let t ← peek
      let known := (← get).anchors
      let claim : BuildM Unit := if anchor.any fun name => (lookup name known).isSome then fail else pure ()
      let sequence (items : BuildM (List Nat)) : BuildM Nat := do
        claim
        let n ← add (collectionTag tag .sequence) (.sequence [])
        setAnchor anchor n
        fill n (.sequence (← items))
        return n
      let mapping (entries : BuildM (List (Nat × Nat))) : BuildM Nat := do
        claim
        let n ← add (collectionTag tag .mapping) (.mapping [])
        setAnchor anchor n
        fill n (.mapping (← entries))
        return n
      let scalar (tag : Tag) (text : Text) : BuildM Nat := do
        claim
        let n ← add tag (.scalar text)
        setAnchor anchor n
        return n
      let bare : BuildM Nat :=
        if anchor.isNone && tag.isNone then fail else scalar (scalarTag (some tag.join) true Text.empty) Text.empty
      if loose && t == .blockEntry then sequence (looseItems fuel depth)
      else match t with
        | .scalar text plain => do skip; scalar (scalarTag tag plain text) text
        | .flowSequenceStart => skip; sequence (flowItems fuel depth true)
        | .flowMappingStart => skip; mapping (flowEntries fuel depth true)
        | .blockSequenceStart => if block then do skip; sequence (blockItems fuel depth) else bare
        | .blockMappingStart => if block then do skip; mapping (blockEntries fuel depth) else bare
        | _ => bare

/-- The items of a block sequence. -/
def blockItems : (fuel depth : Nat) → BuildM (List Nat)
  | 0, _ => fail
  | fuel + 1, depth => do
    match ← peek with
    | .blockEntry =>
      skip
      let t ← peek
      let item ← if t == .blockEntry || t == .blockEnd then emptyNode else node fuel depth true false
      return item :: (← blockItems fuel depth)
    | .blockEnd => skip; return []
    | _ => fail

/-- The items of a block sequence that is not indented. -/
def looseItems : (fuel depth : Nat) → BuildM (List Nat)
  | 0, _ => fail
  | fuel + 1, depth => do
    match ← peek with
    | .blockEntry =>
      skip
      let t ← peek
      let item ← if t == .blockEntry || endsEntry t then emptyNode else node fuel depth true false
      return item :: (← looseItems fuel depth)
    | _ => return []

/-- The entries of a block mapping. -/
def blockEntries : (fuel depth : Nat) → BuildM (List (Nat × Nat))
  | 0, _ => fail
  | fuel + 1, depth => do
    match ← peek with
    | .blockEnd => skip; return []
    | .key =>
      skip
      let k ← if endsEntry (← peek) then emptyNode else node fuel depth true true
      let v ← blockValue fuel depth
      return (k, v) :: (← blockEntries fuel depth)
    | _ => fail

/-- The value of an entry of a block mapping. -/
def blockValue : (fuel depth : Nat) → BuildM Nat
  | 0, _ => fail
  | fuel + 1, depth => do
    match ← peek with
    | .value =>
      skip
      if endsEntry (← peek) then emptyNode else node fuel depth true true
    | _ => emptyNode

/-- The items of a flow sequence; a key among them makes an item with one entry. -/
def flowItems : (fuel depth : Nat) → (first : Bool) → BuildM (List Nat)
  | 0, _, _ => fail
  | fuel + 1, depth, first => do
    let t ← peek
    if t == .flowSequenceEnd then do skip; return []
    else do
      if !first then (if t == .flowEntry then skip else fail)
      match ← peek with
      | .flowSequenceEnd => skip; return []
      | .key =>
        match depth with
        | 0 => throw .tooDeep
        | depth' + 1 =>
          let pair ← add .mapping (.mapping [])
          skip
          let t ← peek
          let k ← if t == .value || endsFlow .flowSequenceEnd t then emptyNode else node fuel depth' false false
          let v ← flowValue fuel depth' .flowSequenceEnd
          fill pair (.mapping [(k, v)])
          return pair :: (← flowItems fuel depth false)
      | _ =>
        let item ← node fuel depth false false
        return item :: (← flowItems fuel depth false)

/-- The entries of a flow mapping; a node without a value has an empty one. -/
def flowEntries : (fuel depth : Nat) → (first : Bool) → BuildM (List (Nat × Nat))
  | 0, _, _ => fail
  | fuel + 1, depth, first => do
    let t ← peek
    if t == .flowMappingEnd then do skip; return []
    else do
      if !first then (if t == .flowEntry then skip else fail)
      match ← peek with
      | .flowMappingEnd => skip; return []
      | .key =>
        skip
        let t ← peek
        let k ← if t == .value || endsFlow .flowMappingEnd t then emptyNode else node fuel depth false false
        let v ← flowValue fuel depth .flowMappingEnd
        return (k, v) :: (← flowEntries fuel depth false)
      | _ =>
        let k ← node fuel depth false false
        let v ← emptyNode
        return (k, v) :: (← flowEntries fuel depth false)

/-- The value of an entry in a flow collection that `close` closes. -/
def flowValue : (fuel depth : Nat) → (close : Token) → BuildM Nat
  | 0, _, _ => fail
  | fuel + 1, depth, close => do
    match ← peek with
    | .value =>
      skip
      if endsFlow close (← peek) then emptyNode else node fuel depth false false
    | _ => emptyNode

end

/-- The directives in front of a document; each handle and the version may be set once. -/
def directives : (fuel : Nat) → (version : Bool) → (handles : List (Text × Text)) → BuildM (List (Text × Text))
  | 0, _, _ => fail
  | fuel + 1, version, handles => do
    match ← peek with
    | .directive (.version major _) =>
      skip
      if version || major != 1 then fail else directives fuel true handles
    | .directive (.tag handle start) =>
      skip
      if (lookup handle handles).isSome then fail else directives fuel version ((handle, start) :: handles)
    | .directive .other => skip; directives fuel version handles
    | _ => return handles ++ defaultHandles

/-- Passes over marks that end documents. -/
def skipEnds : (fuel : Nat) → BuildM Unit
  | 0 => pure ()
  | fuel + 1 => do
    match ← peek with
    | .documentEnd => skip; skipEnds fuel
    | _ => pure ()

/-- Whether a document may hold nothing before this token. -/
def endsDocument : Token → Bool
  | .directive _ => true
  | .documentStart => true
  | .documentEnd => true
  | .streamEnd => true
  | _ => false

/-- The only document, if there is one. -/
def document (fuel : Nat) : BuildM (Option Nat) := do
  let t ← peek
  let bare := match t with
    | .directive _ => false
    | .documentStart => false
    | .streamEnd => false
    | _ => true
  if bare then
    let n ← node fuel maxDepth true false
    finish n
  else
    skipEnds fuel
    if (← peek) == .streamEnd then return none
    let handles ← directives fuel false []
    modify fun b => { b with handles := handles }
    if (← peek) != .documentStart then fail
    skip
    let n ← if endsDocument (← peek) then emptyNode else node fuel maxDepth true false
    finish n
where
  /-- Nothing but end marks may follow a document. -/
  finish (n : Nat) : BuildM (Option Nat) := do
    skipEnds fuel
    if (← peek) == .streamEnd then return some n else fail

end NodeBuilder

/-- The graph of the only document in the tokens, and the place of its root. -/
def Graph.ofTokens (tokens : List Token) : Except Fault (Option (Graph × Nat)) := do
  let (root?, b) ← (NodeBuilder.document (4 * tokens.length + 8)).run { tokens := tokens }
  return root?.map (b.graph, ·)

end LintPreview.Yaml
