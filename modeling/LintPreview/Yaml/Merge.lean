import LintPreview.Yaml.Node

/-!
Merging mappings. A merge key lays the entries of other mappings under those of its own mapping.

* `Graph.flatten`: the graph with the merge keys of one mapping resolved; entries that come from elsewhere stand in
  front, so that later ones prevail. The mappings that are merged in have their own merge keys resolved for good.
-/

namespace LintPreview.Yaml

namespace Graph

/-- The entries of a mapping, none for another node. -/
def entriesAt (g : Graph) (place : Nat) : List (Nat × Nat) :=
  match g[place]?.map Node.content with
  | some (.mapping entries) => entries
  | _ => []

/-- The graph with other entries in a mapping. -/
def setEntries (g : Graph) (place : Nat) (entries : List (Nat × Nat)) : Graph :=
  g.modify place fun n => { n with content := .mapping entries }

/-- The tag of a node. -/
def tagAt (g : Graph) (place : Nat) : Tag := (g[place]?.map Node.tag).getD .unknown

/-- Whether a node is a mapping. -/
def isMapping (g : Graph) (place : Nat) : Bool :=
  match g[place]?.map Node.content with
  | some (.mapping _) => true
  | _ => false

/-- The graph in which a key that is an equals sign is a text. -/
def nameDefault (g : Graph) (key : Nat) : Graph :=
  g.modify key fun n => if n.tag = .default then { n with tag := .text } else n

/-- The number of entries in the graph. -/
def entryCount (g : Graph) : Nat :=
  g.foldl (fun n node => match node.content with
    | .mapping entries => n + entries.length
    | _ => n) 0

mutual

/-- The graph with the merge keys of a mapping resolved. -/
def flattenFrom : (fuel : Nat) → Graph → (place : Nat) → Except Fault Graph
  | 0, _, _ => .error .tooDeep
  | fuel + 1, g, place => do
    let (merged, g) ← takeMerged fuel g place
    let own := g.entriesAt place
    let g := own.foldl (fun g e => g.nameDefault e.1) g
    return g.setEntries place (merged ++ own)

/-- Takes the merge keys out of a mapping, the first one first; gives the entries that they bring in. -/
def takeMerged : (fuel : Nat) → Graph → (place : Nat) → Except Fault (List (Nat × Nat) × Graph)
  | 0, _, _ => .error .tooDeep
  | fuel + 1, g, place =>
    match (g.entriesAt place).span fun e => g.tagAt e.1 ≠ .merge with
    | (_, []) => .ok ([], g)
    | (before, (_, value) :: after) => do
      let g := g.setEntries place (before ++ after)
      let (found, g) ← match g[value]?.map Node.content with
        | some (.mapping _) => do
          let g ← flattenFrom fuel g value
          pure (g.entriesAt value, g)
        | some (.sequence items) => takeItems fuel g [] items
        | _ => throw .malformed
      let (more, g) ← takeMerged fuel g place
      return (found ++ more, g)

/-- The entries of mappings in a list, of which the first prevail; `later` are the entries of those before. -/
def takeItems : (fuel : Nat) → Graph → (later : List (Nat × Nat)) → List Nat → Except Fault (List (Nat × Nat) × Graph)
  | _, g, later, [] => .ok (later, g)
  | 0, _, _, _ => .error .tooDeep
  | fuel + 1, g, later, item :: rest =>
    if g.isMapping item then do
      let g ← flattenFrom fuel g item
      takeItems fuel g (g.entriesAt item ++ later) rest
    else .error .malformed

end

/-- The most items in a sequence of the graph. -/
def longestSequence (g : Graph) : Nat :=
  g.foldl (fun n node => match node.content with
    | .sequence items => max n items.length
    | _ => n) 0

/-- The graph with the merge keys of a mapping resolved. Every nested step takes a merge key away. -/
def flatten (g : Graph) (place : Nat) : Except Fault Graph :=
  flattenFrom ((g.entryCount + 1) * (g.longestSequence + 3)) g place

end Graph

end LintPreview.Yaml
