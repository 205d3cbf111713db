import Golden.Yaml.Lexer
import Golden.Yaml.Plain

/-!
# YAML documents as trees

The tokens of the first document are put together to a tree of nodes. Every node has a tag: the one
that is written, or the one that its kind and, for plain scalars, its text give it. The nodes that
anchors name are numbered, and an alias refers to one by its number, since it may stand inside the very
node it names.

Only as many tokens are looked at as the first document needs, so later documents cannot spoil it.
-/

namespace Golden.Yaml

/-- A reference to an anchored node. -/
structure Alias where
  /-- The anchor, as it is written. -/
  name : Bytes
  /-- Which of the aliases of the document it is. -/
  number : Nat
  /-- The number of the anchored node. -/
  target : Nat
  /-- The tag of the anchored node. -/
  tag : Bytes
deriving DecidableEq, Repr

/-- A node of a document. -/
inductive Node where
  | scalar (tag text : Bytes)
  | sequence (tag : Bytes) (items : List Node)
  | mapping (tag : Bytes) (pairs : List (Node × Node))
  | alias (a : Alias)
deriving Repr

/-- The tag of a node; an alias has that of its target. -/
def Node.tag : Node → Bytes
  | .scalar tag _ => tag
  | .sequence tag _ => tag
  | .mapping tag _ => tag
  | .alias a => a.tag

/-- A document: its root, the nodes that have an anchor, with their numbers, and the number of its
aliases. -/
structure Document where
  root : Node
  anchored : List (Nat × Node) := []
  aliasCount : Nat := 0
deriving Repr

/-- The node that an alias names. -/
def Document.target? (d : Document) (a : Alias) : Option Node :=
  (d.anchored.find? (·.1 = a.target)).map (·.2)

/-! ## The state while a tree is built -/

/-- An anchor with the number and the tag of the node it names. -/
structure Anchor where
  name : Bytes
  number : Nat
  tag : Bytes
deriving DecidableEq, Repr

/-- What is known while a document is put together. -/
structure NodeBuilder where
  tokens : List Token
  /-- Are there no tokens behind the known ones? -/
  complete : Bool
  /-- Replacements of tag handles. -/
  handles : List (Bytes × Bytes) := []
  /-- The anchors that have been defined, the latest first. -/
  anchors : List Anchor := []
  /-- Anchored nodes that are complete, with their numbers. -/
  finished : List (Nat × Node) := []
  aliasCount : Nat := 0

/-- Steps that build nodes. -/
abbrev Build := StateT NodeBuilder Option

/-- The next token. Behind a complete stream there is no end of stream ends. -/
def nextToken : Build Token := do
  let s ← get
  match s.tokens with
  | t :: _ => return t
  | [] => if s.complete then return .streamEnd else failure

/-- Passes over a token. -/
def advance : Build Unit := modify fun s => { s with tokens := s.tokens.drop 1 }

/-! ## Tags and anchors -/

/-- The full tag of a written one. -/
def fullTag (handle suffix : Bytes) : Build Bytes := do
  if handle.isEmpty then return suffix
  match (← get).handles.find? (·.1 = handle) with
  | none => failure
  | some (_, replacement) =>
    let tag := replacement ++ suffix
    if tag.isEmpty then failure
    return tag

/-- The tag of a node that is written with `written`, if anything, and otherwise has `default`. -/
def chooseTag (written default : Bytes) : Bytes :=
  if written.isEmpty || written = utf8 "!" then default else shortTag written

/-- The tag of a scalar without a tag of its own. -/
def scalarTag (text : Bytes) (style : Style) : Bytes :=
  if style = .plain then (if text = utf8 "<<" then mergeTag else plainTag text) else stringTag

/-- Makes an anchor name a new node with a tag from here on. -/
def defineAnchor (name tag : Bytes) : Build (Option Nat) := do
  if name.isEmpty then return none
  let s ← get
  let number := s.anchors.length
  set { s with anchors := { name, number, tag } :: s.anchors }
  return some number

/-- Notes that an anchored node is complete. -/
def finishAnchored (number : Option Nat) (node : Node) : Build Unit :=
  match number with
  | none => pure ()
  | some n => modify fun s => { s with finished := (n, node) :: s.finished }

/-- The node of an alias. -/
def aliasNode (name : Bytes) : Build Node := do
  let s ← get
  match s.anchors.find? (·.name = name) with
  | none => failure
  | some anchor =>
    set { s with aliasCount := s.aliasCount + 1 }
    return .alias { name, number := s.aliasCount, target := anchor.number, tag := anchor.tag }

/-- The properties in front of a node: its anchor and its tag, in either order. -/
def nodeProperties : Build (Bytes × Bytes) := do
  match ← nextToken with
  | .anchor name =>
    advance
    match ← nextToken with
    | .tag handle suffix =>
      advance
      return (name, ← fullTag handle suffix)
    | _ => return (name, [])
  | .tag handle suffix =>
    advance
    match ← nextToken with
    | .anchor name =>
      advance
      return (name, ← fullTag handle suffix)
    | _ => return ([], ← fullTag handle suffix)
  | _ => return ([], [])

/-- A node without text. -/
def emptyNode : Node := .scalar nullTag []

/-- A scalar with its anchor. -/
def anchoredScalar (anchor tag text : Bytes) (style : Style) : Build Node := do
  let tag := chooseTag tag (scalarTag text style)
  let node := Node.scalar tag text
  finishAnchored (← defineAnchor anchor tag) node
  return node

/-- A collection with its anchor, which names it already while its parts are put together. -/
def collection (anchor written default : Bytes) (build : Bytes → Build Node) : Build Node := do
  let tag := chooseTag written default
  let number ← defineAnchor anchor tag
  let node ← build tag
  finishAnchored number node
  return node

/-! ## Nodes -/

/-- May an entry of a block sequence be missing before this token? -/
def endsEntry : Token → Bool
  | .blockEntry => true
  | .blockEnd => true
  | _ => false

/-- May an entry of a sequence at the indentation of its parent be missing before this token? -/
def endsIndentless : Token → Bool
  | .blockEntry => true
  | .key => true
  | .value => true
  | .blockEnd => true
  | _ => false

/-- May a key or a value of a block mapping be missing before this token? -/
def endsPart : Token → Bool
  | .key => true
  | .value => true
  | .blockEnd => true
  | _ => false

/-- May a value in a flow collection be missing before this token, which closes with `close`? -/
def endsFlowValue (close t : Token) : Bool := t == .flowEntry || t == close

/-- May a key in a flow collection be missing before this token, which closes with `close`? -/
def endsFlowKey (close t : Token) : Bool := t == .value || endsFlowValue close t

mutual

/-- Puts a node together. Block collections start only where `block` allows, and a sequence at the
indentation of its parent only where `indentless` does. -/
def node : Nat → Bool → Bool → Build Node
  | 0, _, _ => failure
  | fuel + 1, block, indentless => do
    match ← nextToken with
    | .alias name =>
      advance
      aliasNode name
    | _ =>
      let (anchor, tag) ← nodeProperties
      let t ← nextToken
      if indentless && t == .blockEntry then
        collection anchor tag sequenceTag (fun tag => do return .sequence tag (← indentlessItems fuel))
      else
        match t with
        | .scalar text style =>
          advance
          anchoredScalar anchor tag text style
        | .flowSequenceStart =>
          advance
          collection anchor tag sequenceTag (fun tag => do return .sequence tag (← flowItems fuel true))
        | .flowMappingStart =>
          advance
          collection anchor tag mappingTag (fun tag => do return .mapping tag (← flowPairs fuel true))
        | .blockSequenceStart =>
          if !block then failure
          advance
          collection anchor tag sequenceTag (fun tag => do return .sequence tag (← blockItems fuel))
        | .blockMappingStart =>
          if !block then failure
          advance
          collection anchor tag mappingTag (fun tag => do return .mapping tag (← blockPairs fuel))
        | _ =>
          if anchor.isEmpty && tag.isEmpty then failure
          anchoredScalar anchor tag [] .plain

/-- The items of a block sequence. -/
def blockItems : Nat → Build (List Node)
  | 0 => failure
  | fuel + 1 => do
    match ← nextToken with
    | .blockEntry =>
      advance
      let item ← if endsEntry (← nextToken) then pure emptyNode else node fuel true false
      return item :: (← blockItems fuel)
    | .blockEnd =>
      advance
      return []
    | _ => failure

/-- The items of a block sequence at the indentation of its parent. -/
def indentlessItems : Nat → Build (List Node)
  | 0 => failure
  | fuel + 1 => do
    match ← nextToken with
    | .blockEntry =>
      advance
      let item ← if endsIndentless (← nextToken) then pure emptyNode else node fuel true false
      return item :: (← indentlessItems fuel)
    | _ => return []

/-- The pairs of a block mapping. -/
def blockPairs : Nat → Build (List (Node × Node))
  | 0 => failure
  | fuel + 1 => do
    match ← nextToken with
    | .key =>
      advance
      let key ← if endsPart (← nextToken) then pure emptyNode else node fuel true true
      let value ← blockValue fuel
      return (key, value) :: (← blockPairs fuel)
    | .blockEnd =>
      advance
      return []
    | _ => failure

/-- The value of a pair of a block mapping. -/
def blockValue : Nat → Build Node
  | 0 => failure
  | fuel + 1 => do
    match ← nextToken with
    | .value =>
      advance
      if endsPart (← nextToken) then return emptyNode else node fuel true true
    | _ => return emptyNode

/-- The items of a flow sequence; an item may be a single pair. -/
def flowItems : Nat → Bool → Build (List Node)
  | 0, _ => failure
  | fuel + 1, first => do
    if (← nextToken) == .flowSequenceEnd then
      advance
      return []
    if !first then
      if (← nextToken) != .flowEntry then failure
      advance
    match ← nextToken with
    | .flowSequenceEnd =>
      advance
      return []
    | .key =>
      advance
      let key ← if endsFlowKey .flowSequenceEnd (← nextToken) then
          advance
          pure emptyNode
        else node fuel false false
      let value ← flowValue fuel .flowSequenceEnd
      return .mapping mappingTag [(key, value)] :: (← flowItems fuel false)
    | _ =>
      let item ← node fuel false false
      return item :: (← flowItems fuel false)

/-- The pairs of a flow mapping; a pair may be a single key. -/
def flowPairs : Nat → Bool → Build (List (Node × Node))
  | 0, _ => failure
  | fuel + 1, first => do
    if (← nextToken) == .flowMappingEnd then
      advance
      return []
    if !first then
      if (← nextToken) != .flowEntry then failure
      advance
    match ← nextToken with
    | .flowMappingEnd =>
      advance
      return []
    | .key =>
      advance
      let key ← if endsFlowKey .flowMappingEnd (← nextToken) then pure emptyNode
        else node fuel false false
      let value ← flowValue fuel .flowMappingEnd
      return (key, value) :: (← flowPairs fuel false)
    | _ =>
      let key ← node fuel false false
      return (key, emptyNode) :: (← flowPairs fuel false)

/-- The value of a pair in a flow collection. -/
def flowValue : Nat → Token → Build Node
  | 0, _ => failure
  | fuel + 1, close => do
    if (← nextToken) == .value then
      advance
      if !endsFlowValue close (← nextToken) then return ← node fuel false false
    return emptyNode

end

/-! ## Documents -/

/-- The handles that every document knows. -/
def standardHandles : List (Bytes × Bytes) := [("!", "!"), ("!!", tagSpace)]

/-- Reads directives; `seenVersion` says whether one gave the version of the format. -/
def directives : Nat → Bool → Build Unit
  | 0, _ => failure
  | fuel + 1, seenVersion => do
    match ← nextToken with
    | .versionDirective major minor =>
      if seenVersion || major != 1 || minor != 1 then failure
      advance
      directives fuel true
    | .tagDirective handle replacement =>
      if (← get).handles.any (·.1 = handle) then failure
      modify fun s => { s with handles := s.handles ++ [(handle, replacement)] }
      advance
      directives fuel seenVersion
    | _ => modify fun s => { s with handles := s.handles ++ standardHandles }

/-- Does a document without content end here? -/
def endsDocument : Token → Bool
  | .versionDirective _ _ => true
  | .tagDirective _ _ => true
  | .documentStart => true
  | .documentEnd => true
  | .streamEnd => true
  | _ => false

/-- The first document of a stream, if the stream has one. -/
def firstDocument (fuel : Nat) : Build (Option Document) := do
  if (← nextToken) != .streamStart then failure
  advance
  let root ← do
    match ← nextToken with
    | .streamEnd => return none
    | .versionDirective _ _ => explicit
    | .tagDirective _ _ => explicit
    | .documentStart => explicit
    | _ =>
      directives fuel false
      node fuel true false
  let _ ← nextToken
  let s ← get
  return some { root, anchored := s.finished, aliasCount := s.aliasCount }
where
  /-- A document behind a document marker. -/
  explicit : Build Node := do
    directives fuel false
    if (← nextToken) != .documentStart then failure
    advance
    if endsDocument (← nextToken) then return emptyNode else node fuel true false

/-- The first document of a stream, if the stream has one; nothing if the stream is broken. -/
def Document.ofTokens? (s : TokenStream) : Option (Option Document) :=
  (firstDocument (2 * s.tokens.length + 4) { tokens := s.tokens, complete := s.complete }).map (·.1)

end Golden.Yaml
