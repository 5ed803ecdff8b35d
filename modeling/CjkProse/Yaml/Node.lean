import CjkProse.Yaml.Plain
import CjkProse.Yaml.Tokens

/-!
# The nodes of a YAML document

The tokens of a document make up a tree of nodes: texts, sequences and mappings.  A node may be
named, and referred to by its name later on.  A text may hold one document at most.

## Main definitions

* `Node` — a node with its tag.
* `Yaml.compose` — the node that a list of tokens is, if there is any.
-/

namespace CjkProse.Yaml

/-- A node of a document. -/
inductive Node
  /-- A text. -/
  | scalar (tag : Tag) (text : Text)
  /-- A sequence. -/
  | sequence (tag : Tag) (items : List Node)
  /-- A mapping. -/
  | mapping (tag : Tag) (entries : List (Node × Node))
  /-- A sequence or mapping around this place. -/
  | loop (isMapping : Bool)
  deriving Repr, Inhabited

/-- What is known at a place of a document. -/
structure Composer where
  /-- The tokens to come. -/
  rest : List Token
  /-- What the handles of tags stand for. -/
  handles : List (Text × Text)
  /-- The nodes that have a name. -/
  anchors : List (Text × Node)
  /-- How many more sequences and mappings may be opened within one another. -/
  room : Nat
  deriving Repr, Inhabited

/-- A step of composing. -/
abbrev Compose (α : Type) := StateT Composer (Except Fault) α

namespace Compose

/-- Refuses the text. -/
def refuse {α : Type} : Compose α := throw .malformed

/-- The next token. -/
def peek : Compose (Option Token) := do return (← get).rest.head?

/-- Moves past the next token. -/
def skip : Compose Unit := modify fun c => { c with rest := c.rest.tail }

/-- Moves past a token if it comes next. -/
def accept (t : Token) : Compose Bool := do
  if (← peek) = some t then
    skip
    return true
  else return false

/-- Moves past a token, which must come next. -/
def expect (t : Token) : Compose Unit := do
  unless ← accept t do refuse

/-- Composes what a sequence or a mapping holds, if there is room for it. -/
def within {α : Type} (inside : Compose α) : Compose α := do
  let room := (← get).room
  if room = 0 then throw .tooDeep
  modify fun c => { c with room := room - 1 }
  let a ← inside
  modify fun c => { c with room }
  return a

/-- Whether one of some tokens comes next. -/
def at_ (ts : List Token) : Compose Bool := do return (← peek).any ts.contains

/-- The node for what is left out. -/
def void : Node := .scalar .null []

/-! ### Properties of nodes -/

/-- A tag as it is written out in full. -/
def fullTag (handle : Option Text) (suffix : Text) : Compose Text := do
  match handle with
  | none => return suffix
  | some handle =>
    match (← get).handles.find? fun e => e.1 == handle with
    | none => refuse
    | some e => return e.2 ++ suffix

/-- The tag that comes next, if one does. -/
def readTag : Compose (Option Text) := do
  match ← peek with
  | some (.tag handle suffix) =>
    skip
    return some (← fullTag handle suffix)
  | _ => return none

/-- The name that comes next, if one does. -/
def readAnchor : Compose (Option Text) := do
  match ← peek with
  | some (.anchor name) =>
    skip
    if (← get).anchors.any fun e => e.1 == name then refuse
    return some name
  | _ => return none

/-- The name and the tag that come next, in any order. -/
def readProperties : Compose (Option Text × Option Text) := do
  match ← readAnchor with
  | some name => return (some name, ← readTag)
  | none =>
    let tag ← readTag
    if tag.isSome then return (← readAnchor, tag) else return (none, none)

/-- Gives a node a name, in place of what has had it. -/
def setAnchor (name : Option Text) (n : Node) : Compose Unit := do
  match name with
  | none => return
  | some name => modify fun c => { c with anchors := (name, n) :: c.anchors }

/-- Whether a tag leaves it open what a node is. -/
def isOpen (tag : Option Text) : Bool := tag.all (· == ['!'])

/-- What a sequence or a mapping is told to be. -/
def collectionTag (usual : Tag) (tag : Option Text) : Tag :=
  if isOpen tag then usual else (tag.map Tag.ofText).getD usual

/-- What a text is told to be. -/
def scalarTag (plain : Bool) (text : Text) : Option Text → Tag
  | none => if plain then plainTag text else .str
  | some tag => if tag == ['!'] then plainTag text else Tag.ofText tag

/-! ### Nodes -/

mutual

/-- A node.  In a block it may be told by indentation, and where `loose` holds its items may stand
at the indentation of the mapping around it.  The number bounds the steps. -/
def readNode : Nat → Bool → Bool → Compose Node
  | 0, _, _ => refuse
  | n + 1, block, loose => do
    match ← peek with
    | some (.alias name) =>
      skip
      match (← get).anchors.find? fun e => e.1 == name with
      | some e => return e.2
      | none => refuse
    | _ =>
      let (name, tag) ← readProperties
      let sequence (read : Compose (List Node)) : Compose Node := do
        setAnchor name (.loop false)
        let node := Node.sequence (collectionTag .seq tag) (← within read)
        setAnchor name node
        return node
      let mapping (read : Compose (List (Node × Node))) : Compose Node := do
        setAnchor name (.loop true)
        let node := Node.mapping (collectionTag .map tag) (← within read)
        setAnchor name node
        return node
      match ← peek with
      | some (.scalar text plain) =>
        skip
        let node := Node.scalar (scalarTag plain text tag) text
        setAnchor name node
        return node
      | some .flowSequence =>
        skip
        sequence (readFlowItems n true)
      | some .flowMapping =>
        skip
        mapping (readFlowPairs n true)
      | next =>
        if loose && next == some .blockEntry then sequence (readLooseItems n)
        else if block && next == some .blockSequence then
          skip
          sequence (readItems n)
        else if block && next == some .blockMapping then
          skip
          mapping (readPairs n)
        else if name.isSome || tag.isSome then
          let node := Node.scalar (scalarTag true [] tag) []
          setAnchor name node
          return node
        else refuse

/-- The items of a block, up to its end. -/
def readItems : Nat → Compose (List Node)
  | 0 => refuse
  | n + 1 => do
    if ← accept .blockEntry then
      let item ← if ← at_ [.blockEntry, .blockEnd] then pure void else readNode n true false
      return item :: (← readItems n)
    else
      expect .blockEnd
      return []

/-- The items that stand at the indentation of a mapping. -/
def readLooseItems : Nat → Compose (List Node)
  | 0 => refuse
  | n + 1 => do
    if ← accept .blockEntry then
      let item ←
        if ← at_ [.blockEntry, .key, .value, .blockEnd] then pure void
        else readNode n true false
      return item :: (← readLooseItems n)
    else return []

/-- A key or a value of a block. -/
def readPart : Nat → Compose Node
  | 0 => refuse
  | n + 1 => do
    if ← at_ [.key, .value, .blockEnd] then return void else readNode n true true

/-- The entries of a block, up to its end. -/
def readPairs : Nat → Compose (List (Node × Node))
  | 0 => refuse
  | n + 1 => do
    if ← accept .key then
      let key ← readPart n
      let value ← if ← accept .value then readPart n else pure void
      return (key, value) :: (← readPairs n)
    else
      expect .blockEnd
      return []

/-- A key or a value between brackets or braces; `closing` closes them. -/
def readFlowPart : Nat → List Token → Compose Node
  | 0, _ => refuse
  | n + 1, stops => do
    if ← at_ stops then return void else readNode n false false

/-- The items between brackets. -/
def readFlowItems : Nat → Bool → Compose (List Node)
  | 0, _ => refuse
  | n + 1, first => do
    if ← accept .flowSequenceEnd then return []
    unless first do expect .flowEntry
    if ← accept .key then
      let entry ← within do
        let key ← readFlowPart n [.value, .flowEntry, .flowSequenceEnd]
        let value ←
          if ← accept .value then readFlowPart n [.flowEntry, .flowSequenceEnd] else pure void
        return (key, value)
      return .mapping .map [entry] :: (← readFlowItems n false)
    if ← accept .flowSequenceEnd then return []
    let item ← readNode n false false
    return item :: (← readFlowItems n false)

/-- The entries between braces. -/
def readFlowPairs : Nat → Bool → Compose (List (Node × Node))
  | 0, _ => refuse
  | n + 1, first => do
    if ← accept .flowMappingEnd then return []
    unless first do expect .flowEntry
    if ← accept .key then
      let key ← readFlowPart n [.value, .flowEntry, .flowMappingEnd]
      let value ←
        if ← accept .value then readFlowPart n [.flowEntry, .flowMappingEnd] else pure void
      return (key, value) :: (← readFlowPairs n false)
    if ← accept .flowMappingEnd then return []
    let key ← readNode n false false
    return (key, void) :: (← readFlowPairs n false)

end

/-! ### Documents -/

/-- What handles stand for unless a directive says otherwise. -/
def usualHandles : List (Text × Text) := [(['!'], ['!']), (['!', '!'], tagSpace)]

/-- The directives before a document, after those so far.  The version is told once at most, and so
is each handle. -/
def readDirectives (versioned : Bool) (handles : List (Text × Text)) :
    Nat → Compose (List (Text × Text))
  | 0 => refuse
  | n + 1 => do
    match ← peek with
    | some (.directive (.version major)) =>
      skip
      if versioned || major != 1 then refuse
      readDirectives true handles n
    | some (.directive (.tag handle meaning)) =>
      skip
      if handles.any fun e => e.1 == handle then refuse
      readDirectives versioned ((handle, meaning) :: handles) n
    | some (.directive .other) =>
      skip
      readDirectives versioned handles n
    | _ => return handles

/-- Whether what starts or ends a document comes next. -/
def atMargin : Compose Bool := do
  match ← peek with
  | none => return true
  | some (.directive _) => return true
  | some .documentStart => return true
  | some .documentEnd => return true
  | _ => return false

/-- Moves past the marks that end documents. -/
def skipEnds : Compose Unit :=
  modify fun c => { c with rest := c.rest.dropWhile (· == .documentEnd) }

/-- The node of a document, and nothing after it. -/
def readDocument : Compose (Option Node) := do
  let n := 4 * (← get).rest.length + 8
  if (← peek).isNone then return none
  if (← peek) = some .documentEnd then refuse
  let node ←
    if ← atMargin then
      let handles ← readDirectives false [] n
      modify fun c => { c with handles := handles ++ usualHandles }
      expect .documentStart
      if ← atMargin then pure void else readNode n true false
    else readNode n true false
  skipEnds
  unless (← peek).isNone do refuse
  return some node

end Compose

/-- The node that a list of tokens is, if there is any. -/
def compose (tokens : List Token) : Except Fault (Option Node) := do
  let (node, _) ← Compose.readDocument.run ⟨tokens, Compose.usualHandles, [], Text.maxDepth⟩
  return node

end CjkProse.Yaml
