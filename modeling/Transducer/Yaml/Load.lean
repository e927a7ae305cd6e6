import Transducer.Document.Data
import Transducer.Yaml.Graph
import Transducer.Yaml.ScalarValue

/-!
# From a text to data

The values of the nodes of a graph are made from the root outwards, level by level: the parts of a
collection come after all nodes of the level above. So of two scalars that do not fit their tags,
the one nearer to the root is reported.
-/

namespace Transducer.Yaml

open Document

/-- The value of a node, as far as it is known: the parts of a collection are given by their
numbers. -/
inductive Object where
  | scalar (s : Scalar)
  | list (items : List Nat)
  | mapping (entries : List (Scalar × Nat))
  | set (members : List Scalar)
  | pairs (items : List (Nat × Nat))
  deriving Repr

/-- A graph with the values made so far, and the collections whose parts are still to be made. -/
structure Making where
  /-- The number of nodes that may lead from one to the next. -/
  chain : Nat
  nodes : Array Node
  objects : Array (Option Object)
  /-- The collections that wait, the last one first. -/
  waiting : List Nat := []

namespace Making

/-- The node with a number. -/
def node (m : Making) (number : Nat) : Node :=
  m.nodes.getD number ⟨.null, .scalar ""⟩

/-- The value of a node, if it is made. -/
def object? (m : Making) (number : Nat) : Option Object := (m.objects[number]?).join

/-- Stores the value of a node. -/
def store (m : Making) (number : Nat) (object : Object) : Making :=
  { m with objects := m.objects.setIfInBounds number (some object) }

/-- The text that a node has where a scalar is needed: its own, or that of the value of a mapping
under the value key. -/
def scalarText (m : Making) : Nat → Nat → Except Failure Text
  | 0, _ => .error (.fault .endless)
  | fuel + 1, number =>
    match (m.node number).content with
    | .scalar text => .ok text
    | .mapping entries =>
      match entries.find? fun entry => (m.node entry.1).tag = .value with
      | some entry => scalarText m fuel entry.2
      | none => .error (.malformed "a mapping where a scalar is needed")
    | .sequence _ => .error (.malformed "a sequence where a scalar is needed")

/-- Stores an empty collection as the value of a node, to get its parts later. -/
def await (m : Making) (number : Nat) (object : Object) : Making :=
  { m.store number object with waiting := number :: m.waiting }

/-- Makes the value of a node, unless it is made already. A collection gets its parts later. -/
def visit (m : Making) (number : Nat) : Except Failure Making := do
  if (m.object? number).isSome then return m
  else
    let node := m.node number
    match node.tag with
    | .sequence => return m.await number (.list [])
    | .mapping => return m.await number (.mapping [])
    | .set => return m.await number (.set [])
    | .omap => return m.await number (.pairs [])
    | .pairs => return m.await number (.pairs [])
    | .merge => .error (.malformed "a merge key outside a mapping")
    | .value => .error (.malformed "a value key outside a mapping")
    | .other uri => .error (.malformed s!"the tag {uri} has no meaning")
    | tag =>
      let text ← m.scalarText m.chain number
      match tag, node.content with
      | .timestamp, .mapping _ => .error (.fault .timestampMapping)
      | _, _ =>
        match readScalar? tag text with
        | some scalar => return m.store number (.scalar (← scalar))
        | none => .error (.malformed "a tag without a meaning")

/-- Makes the values of several nodes, in order. -/
def visitAll (m : Making) : List Nat → Except Failure Making
  | [] => .ok m
  | number :: rest => do visitAll (← m.visit number) rest

/-- The entries of a mapping node. -/
def entries (m : Making) (number : Nat) : Option (List (Nat × Nat)) :=
  match (m.node number).content with
  | .mapping entries => some entries
  | _ => none

/-- Gives a mapping node other entries. -/
def setEntries (m : Making) (number : Nat) (entries : List (Nat × Nat)) : Making :=
  { m with nodes := m.nodes.modify number fun node => { node with content := .mapping entries } }

/-- Turns a value key into an ordinary text. -/
def plainKey (m : Making) (number : Nat) : Making :=
  { m with nodes := m.nodes.modify number fun node => { node with tag := .text } }

mutual

/-- Looks through the entries of a mapping from `index` on: entries under merge keys are taken out
and what they stand for is collected. -/
def collect (number room : Nat) : Nat → Nat → List (Nat × Nat) → Making →
    Except Failure (List (Nat × Nat) × Making)
  | 0, _, merged, m => .ok (merged, m)
  | fuel + 1, index, merged, m => do
    match ((m.entries number).getD [])[index]? with
    | none => return (merged, m)
    | some (key, value) =>
      match (m.node key).tag with
      | .merge =>
        let m := m.setEntries number (((m.entries number).getD []).eraseIdx index)
        match (m.node value).content with
        | .mapping _ =>
          let m ← flatten value room fuel m
          collect number room fuel index (merged ++ (m.entries value).getD []) m
        | .sequence items =>
          let (lists, m) ← flattenAll room items fuel m
          collect number room fuel index (merged ++ lists.reverse.flatten) m
        | .scalar _ => .error (.malformed "a scalar under a merge key")
      | .value => collect number room fuel (index + 1) merged (m.plainKey key)
      | _ => collect number room fuel (index + 1) merged m

/-- Puts the entries that are merged into a mapping in front of its own; `room` is the number of
mappings that may be merged into each other there. -/
def flatten (number room : Nat) : Nat → Making → Except Failure Making
  | 0, m => .ok m
  | fuel + 1, m => do
    let (merged, m) ← collect number (← inside room) fuel 0 [] m
    if merged.isEmpty then return m
    else return m.setEntries number (merged ++ (m.entries number).getD [])

/-- `flatten` for the mappings of a list; gives the entries of each. -/
def flattenAll (room : Nat) :
    List Nat → Nat → Making → Except Failure (List (List (Nat × Nat)) × Making)
  | _, 0, m => .ok ([], m)
  | [], _, m => .ok ([], m)
  | number :: rest, fuel + 1, m =>
    match m.entries number with
    | none => .error (.malformed "something other than a mapping under a merge key")
    | some _ => do
      let m ← flatten number room fuel m
      let own := (m.entries number).getD []
      let (lists, m) ← flattenAll room rest fuel m
      return (own :: lists, m)

end

/-- The size of a graph: its nodes and their parts. -/
def size (m : Making) : Nat :=
  m.nodes.foldl
    (fun n node =>
      match node.content with
      | .mapping entries => n + entries.length + 2
      | .sequence items => n + items.length + 2
      | .scalar _ => n + 2)
    2

/-- A bound on the steps that merging into a mapping takes: every step passes an entry or takes one
out. -/
def mergeBound (m : Making) (entries : List (Nat × Nat)) : Nat :=
  if entries.any fun entry => (m.node entry.1).tag = .merge then m.size * m.size
  else entries.length + 2

/-- A key of a mapping and the node that it comes from. -/
structure Key where
  node : Nat
  scalar : Scalar

/-- Whether a node is the word that always stands for the same number, which is no number. -/
def isNanWord (m : Making) (number : Nat) : Bool :=
  match m.scalarText m.chain number with
  | .ok text => unsigned ((withoutLines text.shown).map Char.toLower) = nanWord
  | .error _ => false

/-- Whether two keys are one: by value, or as the same thing if they are no numbers. -/
def sameKey (m : Making) (a b : Key) : Bool :=
  a.scalar.sameKey b.scalar ||
    (a.scalar = .float .nan && b.scalar = .float .nan &&
      (a.node = b.node || (m.isNanWord a.node && m.isNanWord b.node)))

/-- Makes the keys and values of a mapping, in order; a later value replaces an earlier one. -/
def visitEntries (m : Making) (made : List (Key × Nat)) :
    List (Nat × Nat) → Except Failure (List (Key × Nat) × Making)
  | [] => .ok (made, m)
  | (key, value) :: rest => do
    let m ← m.visit key
    match m.object? key with
    | some (.scalar k) =>
      let made := putEntry m.sameKey ⟨key, k⟩ value made
      visitEntries (← m.visit value) made rest
    | _ => .error (.malformed "a collection as a key")

/-- The keys and values of a node that has to be a mapping. -/
def makeEntries (m : Making) (number : Nat) :
    Except Failure (List (Scalar × Nat) × Making) := do
  match (m.node number).content with
  | .mapping entries =>
    let m ← flatten number m.chain (m.mergeBound entries) m
    let (made, m) ← visitEntries m [] ((m.entries number).getD [])
    return (made.map fun entry => (entry.1.scalar, entry.2), m)
  | _ => .error (.malformed "a mapping is needed")

/-- Makes the pairs of a sequence of mappings with one entry each. -/
def visitPairs (m : Making) (made : List (Nat × Nat)) :
    List Nat → Except Failure (List (Nat × Nat) × Making)
  | [] => .ok (made.reverse, m)
  | item :: rest =>
    match (m.node item).content with
    | .mapping [(key, value)] => do
      let m ← (← m.visit key).visit value
      visitPairs m ((key, value) :: made) rest
    | _ => .error (.malformed "a mapping with one entry is needed")

/-- Makes the parts of a collection. -/
def complete (m : Making) (number : Nat) : Except Failure Making := do
  let node := m.node number
  match node.tag with
  | .mapping =>
    let (entries, m) ← m.makeEntries number
    return m.store number (.mapping entries)
  | .set =>
    let (entries, m) ← m.makeEntries number
    return m.store number (.set (entries.map Prod.fst))
  | .sequence =>
    match node.content with
    | .sequence items => return (← m.visitAll items).store number (.list items)
    | _ => .error (.malformed "a sequence is needed")
  | _ =>
    match node.content with
    | .sequence items =>
      let (pairs, m) ← m.visitPairs [] items
      return m.store number (.pairs pairs)
    | _ => .error (.malformed "a sequence is needed")

/-- Makes the parts of the collections of a level, in order. -/
def completeAll (m : Making) : List Nat → Except Failure Making
  | [] => .ok m
  | number :: rest => do completeAll (← m.complete number) rest

/-- Makes the values level by level until no collection waits. -/
def levels (m : Making) : Nat → Except Failure Making
  | 0 => .ok m
  | fuel + 1 =>
    match m.waiting with
    | [] => .ok m
    | waiting => do levels (← completeAll { m with waiting := [] } waiting.reverse) fuel

/-- The value of a node as a part of another one: a collection is referred to by its number. -/
def part (m : Making) (number : Nat) : Value :=
  match m.object? number with
  | some (.scalar s) => .scalar s
  | some _ => .ref number
  | none => .null

/-- The value of a node, its parts being referred to. -/
def value (m : Making) : Option Object → Value
  | some (.scalar s) => .scalar s
  | some (.list items) => .list (items.map m.part)
  | some (.mapping entries) => .mapping (entries.map fun entry => (entry.1, m.part entry.2))
  | some (.set members) => .set members
  | some (.pairs items) => .list (items.map fun item => .pair (m.part item.1) (m.part item.2))
  | none => .null

end Making

/-- The data of a graph from a node on. -/
def Graph.data (g : Graph) (chain root : Nat) : Except Failure Data := do
  let size := g.nodes.size
  let m : Making := { chain, nodes := g.nodes, objects := Array.replicate size none }
  let m ← (← m.visit root).levels (size + 1)
  return ⟨m.part root, (m.objects.toList.map m.value).toArray⟩

/-- Reads the one document of a text, as far as there is room; a text without one holds the empty
value. -/
def load (room : Room) (schema : Schema) (source : Source) : Except Failure Data := do
  match ← Tree.ofTokens room.nesting (Token.checkNames [] (Token.ofSource source)) with
  | none => return Value.null
  | some tree =>
    let (root, g) ← Graph.ofTree schema tree
    g.data room.chain root

end Transducer.Yaml
