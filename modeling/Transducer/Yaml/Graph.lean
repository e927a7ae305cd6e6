import Transducer.Yaml.Schema
import Transducer.Yaml.Tree

/-!
# Graphs

A document with its aliases followed and its tags known. Two places that share a node, by an anchor
and an alias, hold the same number.
-/

namespace Transducer.Yaml

/-- What a node holds; the parts of a collection are given by their numbers. -/
inductive Content where
  | scalar (text : Text)
  | sequence (items : List Nat)
  | mapping (entries : List (Nat × Nat))
  deriving Repr

/-- A node of a graph. -/
structure Node where
  tag : Tag
  content : Content
  deriving Repr

/-- The nodes of a document, found by their numbers. -/
structure Graph where
  nodes : Array Node := #[]
  /-- The nodes that have an anchor. -/
  anchors : List (String × Nat) := []

namespace Graph

/-- Adds a node and gives its number. -/
def add (g : Graph) (anchor : Option String) (node : Node) : Nat × Graph :=
  let number := g.nodes.size
  let anchors := anchor.toList.map fun name => (name, number)
  (number, { g with nodes := g.nodes.push node, anchors := anchors ++ g.anchors })

/-- The graph with the content of a node filled in. -/
def fill (g : Graph) (number : Nat) (content : Content) : Graph :=
  { g with nodes := g.nodes.modify number fun node => { node with content := content } }

/-- The tag of a collection. -/
def collectionTag (usual : Tag) (tag : Option String) : Tag := (tag.map Tag.ofUri).getD usual

/-- The tag of a scalar. -/
def scalarTag (schema : Schema) (text : Text) : ScalarTag → Tag
  | .implicit => schema.resolve text.shown
  | .text => .text
  | .given uri => Tag.ofUri uri

mutual

/-- Adds the nodes of a tree and gives the number of its root. -/
def addTree (schema : Schema) (g : Graph) : Tree → Except Failure (Nat × Graph)
  | .alias name =>
    match g.anchors.lookup name with
    | some number => .ok (number, g)
    | none => .error (.malformed s!"the alias {name} without an anchor")
  | .scalar anchor tag text => .ok (g.add anchor ⟨scalarTag schema text tag, .scalar text⟩)
  | .sequence anchor tag items => do
    let (number, g) := g.add anchor ⟨collectionTag .sequence tag, .sequence []⟩
    let (numbers, g) ← addItems schema g items
    return (number, g.fill number (.sequence numbers))
  | .mapping anchor tag entries => do
    let (number, g) := g.add anchor ⟨collectionTag .mapping tag, .mapping []⟩
    let (numbers, g) ← addEntries schema g entries
    return (number, g.fill number (.mapping numbers))

/-- Adds the nodes of the items of a sequence. -/
def addItems (schema : Schema) (g : Graph) : List Tree → Except Failure (List Nat × Graph)
  | [] => .ok ([], g)
  | item :: rest => do
    let (number, g) ← addTree schema g item
    let (numbers, g) ← addItems schema g rest
    return (number :: numbers, g)

/-- Adds the nodes of the entries of a mapping. -/
def addEntries (schema : Schema) (g : Graph) :
    List (Tree × Tree) → Except Failure (List (Nat × Nat) × Graph)
  | [] => .ok ([], g)
  | (key, value) :: rest => do
    let (k, g) ← addTree schema g key
    let (v, g) ← addTree schema g value
    let (numbers, g) ← addEntries schema g rest
    return ((k, v) :: numbers, g)

end

/-- The graph of a tree and the number of its root. -/
def ofTree (schema : Schema) (tree : Tree) : Except Failure (Nat × Graph) :=
  addTree schema {} tree

end Graph

end Transducer.Yaml
