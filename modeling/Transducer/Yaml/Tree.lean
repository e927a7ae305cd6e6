import Transducer.Yaml.Anchor

/-!
# Trees

The structure that the tokens of a document spell out, before aliases are followed and plain
scalars are classified.
-/

namespace Transducer.Yaml

/-- How the tag of a scalar is found. -/
inductive ScalarTag where
  /-- From the text, by the schema. -/
  | implicit
  /-- The scalar is a text, being quoted. -/
  | text
  /-- The tag is given. -/
  | given (uri : String)
  deriving DecidableEq, Repr

/-- A node as it is written. -/
inductive Tree where
  | alias (name : String)
  | scalar (anchor : Option String) (tag : ScalarTag) (text : Text)
  | sequence (anchor tag : Option String) (items : List Tree)
  | mapping (anchor tag : Option String) (entries : List (Tree × Tree))
  deriving Repr

namespace Tree

/-- The node that stands where nothing is written. -/
def empty : Tree := .scalar none .implicit ""

/-- What a handle in front of a tag stands for. -/
abbrev Handles := List (String × String)

/-- The handles that every document has. -/
def defaultHandles : Handles := [("!", "!"), ("!!", "tag:yaml.org,2002:")]

/-- A token that cannot stand here. -/
def unexpected (expected : String) : List Token → Except Failure α
  | .broken why :: _ => .error why
  | _ => .error (.malformed s!"{expected} expected")

/-- The full tag of a tag token. -/
def fullTag (handles : Handles) (handle : Option String) (suffix : String) :
    Except Failure String :=
  match handle with
  | none => .ok suffix
  | some handle =>
    match handles.lookup handle with
    | some uri => .ok (uri ++ suffix)
    | none => .error (.malformed s!"the handle {handle} is not declared")

/-- The anchor and the tag in front of a node, in either order. A tag that comes first is looked up
when the token after it is known. -/
def properties (handles : Handles) :
    List Token → Except Failure (Option String × Option String × List Token)
  | .anchor name :: .tag handle suffix :: rest => do
    let tag ← fullTag handles handle suffix
    return (some name, some tag, rest)
  | .anchor name :: rest => .ok (some name, none, rest)
  | .tag handle suffix :: .anchor name :: rest => do
    let tag ← fullTag handles handle suffix
    return (some name, some tag, rest)
  | .tag _ _ :: .broken why :: _ => .error why
  | .tag handle suffix :: rest => do
    let tag ← fullTag handles handle suffix
    return (none, some tag, rest)
  | rest => .ok (none, none, rest)

/-- The tag of a scalar: the tag `!` asks for the one that the text would have if it were plain. -/
def scalarTag (plain : Bool) : Option String → ScalarTag
  | some "!" => .implicit
  | some uri => .given uri
  | none => if plain then .implicit else .text

/-- The tag of a collection, none for the usual one. -/
def collectionTag : Option String → Option String
  | some "!" => none
  | tag => tag

mutual

/-- A node. Block collections may start it only if `block` holds, and a sequence at the indentation
of its parent mapping only if `indentless` does; `room` is the number of collections that may stand
in each other there. -/
def node (handles : Handles) (room : Nat) (block indentless : Bool) :
    Nat → List Token → Except Failure (Tree × List Token)
  | 0, tokens => unexpected "a smaller document" tokens
  | _ + 1, .alias name :: rest => .ok (.alias name, rest)
  | fuel + 1, tokens => do
    let (anchor, tag, rest) ← properties handles tokens
    match rest with
    | .broken why :: _ => .error why
    | .blockEntry :: _ =>
      if indentless then
        let (items, rest) ← indentlessItems handles (← inside room) fuel rest
        return (.sequence anchor (collectionTag tag) items, rest)
      else if anchor.isSome || tag.isSome then return (.scalar anchor (scalarTag true tag) "", rest)
      else unexpected "a node" rest
    | .scalar text plain :: rest => return (.scalar anchor (scalarTag plain tag) text, rest)
    | .flowSequenceStart :: rest =>
      let (items, rest) ← flowItems handles (← inside room) fuel true rest
      return (.sequence anchor (collectionTag tag) items, rest)
    | .flowMappingStart :: rest =>
      let (entries, rest) ← flowEntries handles (← inside room) fuel true rest
      return (.mapping anchor (collectionTag tag) entries, rest)
    | .blockSequenceStart :: after =>
      if block then
        let (items, rest) ← blockItems handles (← inside room) fuel after
        return (.sequence anchor (collectionTag tag) items, rest)
      else if anchor.isSome || tag.isSome then return (.scalar anchor (scalarTag true tag) "", rest)
      else unexpected "a node" rest
    | .blockMappingStart :: after =>
      if block then
        let (entries, rest) ← blockEntries handles (← inside room) fuel after
        return (.mapping anchor (collectionTag tag) entries, rest)
      else if anchor.isSome || tag.isSome then return (.scalar anchor (scalarTag true tag) "", rest)
      else unexpected "a node" rest
    | _ =>
      if anchor.isSome || tag.isSome then return (.scalar anchor (scalarTag true tag) "", rest)
      else unexpected "a node" rest
termination_by structural fuel => fuel

/-- The items of a block sequence, up to its end. -/
def blockItems (handles : Handles) (room : Nat) :
    Nat → List Token → Except Failure (List Tree × List Token)
  | 0, tokens => unexpected "a smaller document" tokens
  | _ + 1, .blockEnd :: rest => .ok ([], rest)
  | fuel + 1, .blockEntry :: rest => do
    let (item, rest) ←
      match rest with
      | .blockEntry :: _ => pure (empty, rest)
      | .blockEnd :: _ => pure (empty, rest)
      | _ => node handles room true false fuel rest
    let (items, rest) ← blockItems handles room fuel rest
    return (item :: items, rest)
  | _ + 1, tokens => unexpected "an item" tokens
termination_by structural fuel => fuel

/-- The items of a sequence at the indentation of its parent mapping. -/
def indentlessItems (handles : Handles) (room : Nat) :
    Nat → List Token → Except Failure (List Tree × List Token)
  | 0, tokens => unexpected "a smaller document" tokens
  | fuel + 1, .blockEntry :: rest => do
    let (item, rest) ←
      match rest with
      | .blockEntry :: _ => pure (empty, rest)
      | .key :: _ => pure (empty, rest)
      | .value :: _ => pure (empty, rest)
      | .blockEnd :: _ => pure (empty, rest)
      | _ => node handles room true false fuel rest
    let (items, rest) ← indentlessItems handles room fuel rest
    return (item :: items, rest)
  | _ + 1, tokens => .ok ([], tokens)
termination_by structural fuel => fuel

/-- The entries of a block mapping, up to its end. -/
def blockEntries (handles : Handles) (room : Nat) :
    Nat → List Token → Except Failure (List (Tree × Tree) × List Token)
  | 0, tokens => unexpected "a smaller document" tokens
  | _ + 1, .blockEnd :: rest => .ok ([], rest)
  | fuel + 1, .key :: rest => do
    let (key, rest) ← blockPart handles room fuel rest
    let (value, rest) ←
      match rest with
      | .value :: rest => blockPart handles room fuel rest
      | rest => pure (empty, rest)
    let (entries, rest) ← blockEntries handles room fuel rest
    return ((key, value) :: entries, rest)
  | _ + 1, tokens => unexpected "a key" tokens
termination_by structural fuel => fuel

/-- A key or a value of a block mapping, which may be left out. -/
def blockPart (handles : Handles) (room : Nat) :
    Nat → List Token → Except Failure (Tree × List Token)
  | 0, tokens => unexpected "a smaller document" tokens
  | fuel + 1, rest =>
    match rest with
    | .key :: _ => .ok (empty, rest)
    | .value :: _ => .ok (empty, rest)
    | .blockEnd :: _ => .ok (empty, rest)
    | _ => node handles room true true fuel rest
termination_by structural fuel => fuel

/-- The items of a flow sequence, up to its end; a comma comes before every item but the first. An
item with a key is a mapping of one entry. -/
def flowItems (handles : Handles) (room : Nat) :
    Nat → Bool → List Token → Except Failure (List Tree × List Token)
  | 0, _, tokens => unexpected "a smaller document" tokens
  | _ + 1, _, .flowSequenceEnd :: rest => .ok ([], rest)
  | fuel + 1, first, tokens => do
    let rest ← if first then pure tokens else
      match tokens with
      | .flowEntry :: rest => pure rest
      | tokens => unexpected "a comma" tokens
    match rest with
    | .flowSequenceEnd :: rest => return ([], rest)
    | .key :: rest =>
      let within ← inside room
      let (key, rest) ←
        match rest with
        | .value :: _ => pure (empty, rest)
        | .flowEntry :: _ => pure (empty, rest)
        | .flowSequenceEnd :: _ => pure (empty, rest)
        | _ => node handles within false false fuel rest
      let (value, rest) ←
        match rest with
        | .value :: rest =>
          match rest with
          | .flowEntry :: _ => pure (empty, rest)
          | .flowSequenceEnd :: _ => pure (empty, rest)
          | _ => node handles within false false fuel rest
        | rest => pure (empty, rest)
      let (items, rest) ← flowItems handles room fuel false rest
      return (.mapping none none [(key, value)] :: items, rest)
    | _ =>
      let (item, rest) ← node handles room false false fuel rest
      let (items, rest) ← flowItems handles room fuel false rest
      return (item :: items, rest)
termination_by structural fuel => fuel

/-- The entries of a flow mapping, up to its end; a comma comes before every entry but the first. An
entry without a colon has no value. -/
def flowEntries (handles : Handles) (room : Nat) :
    Nat → Bool → List Token → Except Failure (List (Tree × Tree) × List Token)
  | 0, _, tokens => unexpected "a smaller document" tokens
  | _ + 1, _, .flowMappingEnd :: rest => .ok ([], rest)
  | fuel + 1, first, tokens => do
    let rest ← if first then pure tokens else
      match tokens with
      | .flowEntry :: rest => pure rest
      | tokens => unexpected "a comma" tokens
    match rest with
    | .flowMappingEnd :: rest => return ([], rest)
    | .key :: rest =>
      let (key, rest) ←
        match rest with
        | .value :: _ => pure (empty, rest)
        | .flowEntry :: _ => pure (empty, rest)
        | .flowMappingEnd :: _ => pure (empty, rest)
        | _ => node handles room false false fuel rest
      let (value, rest) ←
        match rest with
        | .value :: rest =>
          match rest with
          | .flowEntry :: _ => pure (empty, rest)
          | .flowMappingEnd :: _ => pure (empty, rest)
          | _ => node handles room false false fuel rest
        | rest => pure (empty, rest)
      let (entries, rest) ← flowEntries handles room fuel false rest
      return ((key, value) :: entries, rest)
    | _ =>
      let (key, rest) ← node handles room false false fuel rest
      let (entries, rest) ← flowEntries handles room fuel false rest
      return ((key, empty) :: entries, rest)
termination_by structural fuel => fuel

end

/-- The handles that the directives before a document introduce, the version that they give, and
the tokens after them. -/
def directives : List Token → Bool → Handles → Except Failure (Handles × List Token)
  | .directive (.version major _) :: rest, versioned, handles =>
    if versioned then .error (.malformed "a second version")
    else if major ≠ 1 then .error (.malformed "a version other than 1")
    else directives rest true handles
  | .directive (.handle name uri) :: rest, versioned, handles =>
    if (handles.lookup name).isSome then .error (.malformed s!"the handle {name} twice")
    else directives rest versioned ((name, uri) :: handles)
  | .directive (.other _) :: rest, versioned, handles => directives rest versioned handles
  | tokens, _, handles => .ok (handles, tokens)

/-- The tokens after marks that end documents. -/
def skipDocumentEnds : List Token → List Token
  | .documentEnd :: rest => skipDocumentEnds rest
  | tokens => tokens

/-- The tokens after a document hold no other document. -/
def onlyDocument (tree : Tree) (tokens : List Token) : Except Failure (Option Tree) := do
  match skipDocumentEnds tokens with
  | [] => return some tree
  | tokens =>
    let (_, rest) ← directives tokens false []
    unexpected "the end of the text" rest

/-- The node of a document after its start mark, which may be left out; there is room for `room`
collections that stand in each other. -/
def content (handles : Handles) (room : Nat) (tokens : List Token) :
    Except Failure (Tree × List Token) :=
  match tokens with
  | [] => .ok (empty, [])
  | .directive _ :: _ => .ok (empty, tokens)
  | .documentStart :: _ => .ok (empty, tokens)
  | .documentEnd :: _ => .ok (empty, tokens)
  | _ => node handles room true false (2 * tokens.length + 2) tokens

/-- A document that starts with directives or a mark. -/
def explicitDocument (room : Nat) (tokens : List Token) : Except Failure (Option Tree) := do
  let (handles, rest) ← directives tokens false []
  match rest with
  | .documentStart :: rest =>
    let (tree, rest) ← content (handles ++ defaultHandles) room rest
    onlyDocument tree rest
  | rest => unexpected "the start of a document" rest

/-- The one document that the tokens spell out; none if there is no token at all. -/
def ofTokens (room : Nat) (tokens : List Token) : Except Failure (Option Tree) := do
  match tokens with
  | [] => return none
  | .directive _ :: _ => explicitDocument room tokens
  | .documentStart :: _ => explicitDocument room tokens
  | _ =>
    let (tree, rest) ← node defaultHandles room true false (2 * tokens.length + 2) tokens
    onlyDocument tree rest

end Tree

end Transducer.Yaml
