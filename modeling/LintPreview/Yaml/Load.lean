import LintPreview.Yaml.Merge
import LintPreview.Yaml.Value

/-!
The document of a YAML text.

* `Document.ofYaml`: the document of the only document in a text; an empty text holds null.
* `Loading`: values by the places of their nodes. The value of a collection is open at first; the open ones are
  filled level by level, and the first fault counts.
* `Loading.toDocument`: the values as a tree.
* `kindOfYaml`: the kind of the document.
-/

namespace LintPreview.Yaml

/-- The value of a node, with the places of the nodes inside it. A decimal number that is not a number may be
`single`: as a key it equals no other one. -/
inductive Shape where
  | leaf (d : Document) (single : Bool)
  | list (items : List Nat)
  | map (entries : List (Nat × Nat))
  | set (items : List Nat)
  | pairs (items : List (Nat × Nat))

/-- Loading a document: its nodes, their values as far as they have any, and the collections still to be filled. -/
structure Loading where
  graph : Graph
  shapes : Array (Option Shape)
  opened : List Nat := []

namespace Loading

/-- The value of a node. -/
def shapeAt (s : Loading) (place : Nat) : Option Shape := s.shapes[place]?.join

/-- The value of a node put in. -/
def setShape (s : Loading) (place : Nat) (shape : Shape) : Loading :=
  { s with shapes := s.shapes.modify place fun _ => some shape }

/-- The text of a node that stands for a scalar; a mapping stands for its default value. -/
def scalarText : (fuel : Nat) → Graph → (place : Nat) → Except Fault Text
  | 0, _, _ => .error .tooDeep
  | fuel + 1, g, place =>
    match g[place]?.map Node.content with
    | some (.scalar text) => .ok text
    | some (.mapping entries) =>
      match entries.find? fun e => g.tagAt e.1 = .default with
      | some e => scalarText fuel g e.2
      | none => .error .malformed
    | _ => .error .malformed

/-- Whether a text writes a number that is not a number otherwise than as `.nan`. -/
def isSingleNan (d : Document) (s : Text) : Bool :=
  match d with
  | .float .undefined => !isCommonNan (Plain.dropSign (Text.lowerChars (dropJoints s)))
  | _ => false

/-- The value that a node has at once: an open one for a collection. -/
def shapeOf (g : Graph) (place : Nat) : Except Fault Shape := do
  match g.tagAt place with
  | .sequence => return .list []
  | .mapping => return .map []
  | .set => return .set []
  | .orderedMapping => return .pairs []
  | .pairs => return .pairs []
  | tag =>
    if tag = .unknown ∨ tag = .merge ∨ tag = .default then throw .malformed
    let s ← scalarText (g.size + 1) g place
    if tag = .timestamp && g.isMapping place then throw .timestampOfMapping
    let d ← scalarValue place tag s
    return .leaf d (isSingleNan d s)

/-- Whether the value of a node is a collection. -/
def isOpenAt (s : Loading) (place : Nat) : Bool :=
  match s.shapeAt place with
  | some (.leaf ..) => false
  | _ => true

/-- The state in which a node has a value. -/
def touch (s : Loading) (place : Nat) : Except Fault Loading :=
  match s.shapeAt place with
  | some _ => .ok s
  | none => do
    let s := s.setShape place (← shapeOf s.graph place)
    return if s.isOpenAt place then { s with opened := s.opened ++ [place] } else s

/-- The state in which a key and its value have values; the key must be no collection. -/
def touchEntry (s : Loading) (e : Nat × Nat) : Except Fault Loading := do
  let s ← s.touch e.1
  if s.isOpenAt e.1 then throw .malformed
  s.touch e.2

/-- Whether two nodes are one key. -/
def sameKey (s : Loading) (a b : Nat) : Bool :=
  a == b ||
    match s.shapeAt a, s.shapeAt b with
    | some (.leaf d single), some (.leaf d' single') => !single && !single' && d.sameKey d'
    | _, _ => false

/-- An entry put among entries: in place if its key is there, else at the end. -/
def putEntry (s : Loading) (e : Nat × Nat) : List (Nat × Nat) → List (Nat × Nat)
  | [] => [e]
  | (k, v) :: rest => if s.sameKey k e.1 then (k, e.2) :: rest else (k, v) :: putEntry s e rest

/-- The entries of a mapping, each key once, and the state in which they have values. -/
def fillEntries (s : Loading) (place : Nat) : Except Fault (List (Nat × Nat) × Loading) := do
  if !s.graph.isMapping place then throw .malformed
  let graph ← s.graph.flatten place
  let entries := graph.entriesAt place
  let s ← entries.foldlM touchEntry { s with graph := graph }
  return (entries.foldl (fun acc e => s.putEntry e acc) [], s)

/-- The whole number at a place, if it is one from zero to seven. -/
def smallNumber? (s : Loading) (place : Nat) : Option Nat :=
  match s.shapeAt place with
  | some (.leaf (.int i) _) => if 0 ≤ i ∧ i < 8 then some i.toNat else none
  | _ => none

/-- The members of a set in their order: a set has none of its own, but small whole numbers count up. -/
def memberOrder (s : Loading) (members : List Nat) : List Nat :=
  match members.mapM s.smallNumber? with
  | some numbers => ((numbers.zip members).mergeSort fun a b => a.1 ≤ b.1).map (·.2)
  | none => members

/-- The only entry of an item in an ordered mapping. -/
def pairAt (g : Graph) (place : Nat) : Except Fault (Nat × Nat) :=
  match g[place]?.map Node.content with
  | some (.mapping [e]) => .ok e
  | _ => .error .malformed

/-- The pairs of items in an ordered mapping, and the state in which they have values. -/
def fillPairs (s : Loading) : List Nat → Except Fault (List (Nat × Nat) × Loading)
  | [] => .ok ([], s)
  | item :: rest => do
    let e ← pairAt s.graph item
    let s ← (← s.touch e.1).touch e.2
    let (pairs, s) ← fillPairs s rest
    return (e :: pairs, s)

/-- The items of a sequence. -/
def itemsAt (g : Graph) (place : Nat) : Except Fault (List Nat) :=
  match g[place]?.map Node.content with
  | some (.sequence items) => .ok items
  | _ => .error .malformed

/-- Fills the collection at a place. -/
def fill (s : Loading) (place : Nat) : Except Fault Loading := do
  match s.shapeAt place with
  | some (.list _) =>
    let items ← itemsAt s.graph place
    return (← items.foldlM touch s).setShape place (.list items)
  | some (.map _) =>
    let (entries, s) ← s.fillEntries place
    return s.setShape place (.map entries)
  | some (.set _) =>
    let (entries, s) ← s.fillEntries place
    return s.setShape place (.set (s.memberOrder (entries.map (·.1))))
  | some (.pairs _) =>
    let (pairs, s) ← s.fillPairs (← itemsAt s.graph place)
    return s.setShape place (.pairs pairs)
  | _ => return s

/-- Fills the open collections, and those that open meanwhile; every node opens at most once. -/
def fillAll : (fuel : Nat) → Loading → Except Fault Loading
  | 0, s => .ok s
  | fuel + 1, s =>
    match s.opened with
    | [] => .ok s
    | place :: rest => do fillAll fuel (← { s with opened := rest }.fill place)

/-- The values of a graph, from its root on. -/
def ofGraph (g : Graph) (root : Nat) : Except Fault Loading := do
  let s : Loading := { graph := g, shapes := Array.replicate g.size none }
  fillAll (g.size + 1) (← s.touch root)

/-- The results of a step on each item, where every step goes on counting from the number that the one before left. -/
def counting {α β : Type} (step : Nat → α → β × Nat) (next : Nat) : List α → List β × Nat
  | [] => ([], next)
  | a :: rest =>
    let (b, next) := step next a
    let (bs, next) := counting step next rest
    (b :: bs, next)

/-- A step on both parts of an entry. -/
def onEntry {α β : Type} (step : Nat → α → β × Nat) (next : Nat) (e : α × α) : (β × β) × Nat :=
  let (k, next) := step next e.1
  let (v, next) := step next e.2
  ((k, v), next)

/-- The value at a place as a tree. `above` are the places of the collections around it; `next` is the next label
for pairs, which are never one and the same. -/
def tree (s : Loading) : (fuel : Nat) → (above : List Nat) → (next : Nat) → (place : Nat) → Document × Nat
  | 0, _, next, place => (.enclosing place, next)
  | fuel + 1, above, next, place =>
    let around := place :: above
    let inside (next place : Nat) : Document × Nat := tree s fuel around next place
    if above.contains place then (.enclosing place, next)
    else match s.shapeAt place with
      | some (.leaf d _) => (d, next)
      | some (.list items) =>
        let (ds, next) := counting inside next items
        (.list place ds, next)
      | some (.set items) =>
        let (ds, next) := counting inside next items
        (.set place ds, next)
      | some (.map entries) =>
        let (es, next) := counting (onEntry inside) next entries
        (.map place es, next)
      | some (.pairs entries) =>
        let (es, next) := counting (onEntry inside) next entries
        (.list place (es.zipIdx.map fun ((k, v), i) => .list (next + i) [k, v]), next + es.length)
      | none => (.null, next)

/-- The value at a place as a tree. -/
def toDocument (s : Loading) (place : Nat) : Document := (s.tree (s.graph.size + 1) [] s.graph.size place).1

/-- The name of the kind of the value at a place. -/
def kindName (s : Loading) (place : Nat) : Text :=
  match s.shapeAt place with
  | some (.leaf d _) => d.kindName
  | some (.list _) => "list"
  | some (.pairs _) => "list"
  | some (.map _) => "dict"
  | some (.set _) => "set"
  | none => Document.null.kindName

end Loading

/-- The values of a text and the place of the root, if it holds a document. -/
def loadedText (cs : List CodePoint) : Except Fault (Option (Loading × Nat)) := do
  match ← Graph.ofTokens (Token.ofText cs) with
  | none => return none
  | some (graph, root) => return some (← Loading.ofGraph graph root, root)

/-- The name of the kind of the document in a text. -/
def kindOfYaml (cs : List CodePoint) : Except Fault Text := do
  match ← loadedText cs with
  | none => return Document.null.kindName
  | some (s, root) => return s.kindName root

end LintPreview.Yaml

namespace LintPreview

/-- The document of a YAML text; an empty text holds null. -/
def Document.ofYaml (cs : List CodePoint) : Except Yaml.Fault Document := do
  match ← Yaml.loadedText cs with
  | none => return .null
  | some (s, root) => return s.toDocument root

end LintPreview
