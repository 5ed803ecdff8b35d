import CjkProse.Text.Utf8
import CjkProse.Yaml.Scalar

/-!
# The tokens of a YAML document

Blocks are told by indentation: a line that is indented less ends the blocks that are indented more,
and an item or a key that is indented more starts a block.  A key need not be marked as one, so a
node on a single line leaves a slot behind in which a key may turn out to have started, once a colon
follows.

## Main definitions

* `nextToken` — moves past the next tokens.
* `tokens` — the tokens of a text.
-/

namespace CjkProse.Yaml

/-- Adds a token. -/
def emit (t : Token) : Scanner Unit := modify fun p => { p with tokens := t :: p.tokens }

/-- Allows a key here, or does not. -/
def allowKey (b : Bool) : Scanner Unit := modify fun p => { p with keyAllowed := b }

/-! ### Blocks -/

/-- Whether no bracket or brace is open. -/
def inBlock : Scanner Bool := do return (← get).flow == 0

/-- Ends the blocks that are indented more than `column`. -/
def endBlocks (column : Int) : List Int → Place → Place
  | [], p => p
  | outer :: rest, p =>
    if column < p.indent then
      endBlocks column rest
        { p with indent := outer, outer := rest, tokens := .blockEnd :: p.tokens }
    else p

/-- Ends the blocks that are indented more than `column`, unless brackets are open. -/
def unwind (column : Int) : Scanner Unit := do
  if ← inBlock then modify fun p => endBlocks column p.outer p

/-- Starts a block at a column if it is indented more than the one around it, and tells whether it
does. -/
def startBlock (column : Nat) : Scanner Bool := do
  if (← get).indent < column then
    modify fun p => { p with outer := p.indent :: p.outer, indent := column }
    return true
  else return false

/-- Starts a block here, with the token for it, if it is indented more than the one around it. -/
def startBlockHere (t : Token) : Scanner Unit := do
  if ← startBlock (← get).column then emit t

/-! ### Keys that are not marked -/

/-- Gives up a node that might have been a key; one that has to be a key cannot be given up. -/
def dropKey : Scanner Unit := do
  let p ← get
  if p.maybeKeys.any fun e => e.1 == p.flow && e.2.required then refuse
  set { p with maybeKeys := p.maybeKeys.filter fun e => e.1 != p.flow }

/-- The most characters that a key may have which is not marked as one. -/
def maxKeyLength : Nat := 1024

/-- Whether a node can no longer be a key at a place. -/
def MaybeKey.isStale (p : Place) (k : MaybeKey) : Bool :=
  k.line != p.line || maxKeyLength < p.index - k.index

/-- Gives up the nodes that can no longer be keys. -/
def dropStaleKeys : Scanner Unit := do
  let p ← get
  if p.maybeKeys.any fun e => e.2.isStale p && e.2.required then refuse
  set { p with maybeKeys := p.maybeKeys.filter fun e => !e.2.isStale p }

/-- Notes that the node which starts here may turn out to be a key. -/
def noteKey : Scanner Unit := do
  if (← get).keyAllowed then
    dropKey
    modify fun p =>
      let required := p.flow == 0 && p.indent == p.column
      let k : MaybeKey := ⟨p.slots, required, p.index, p.line, p.column⟩
      { p with
        maybeKeys := (p.flow, k) :: p.maybeKeys
        slots := p.slots + 1
        tokens := .slot p.slots :: p.tokens }

/-- The node that turns out to be a key, now that a colon follows it. -/
def takeKey : Scanner (Option MaybeKey) := do
  let p ← get
  match p.maybeKeys.find? fun e => e.1 == p.flow with
  | none => return none
  | some e =>
    set { p with maybeKeys := p.maybeKeys.filter fun e => e.1 != p.flow }
    return some e.2

/-! ### Tokens -/

/-- Moves past spaces, comments and the ends of lines.  The number bounds the steps. -/
def skipToToken : Nat → Scanner Unit
  | 0 => return
  | n + 1 => do
    skipWhile (· == ' ')
    if (← peek) = some '#' then skipWhile fun c => !isBreak c
    unless (← takeBreak).isEmpty do
      if ← inBlock then allowKey true
      skipToToken n

/-- What stands at the left margin and belongs to no block: separators and directives. -/
def beforeMargin : Scanner Unit := do
  unwind (-1)
  dropKey
  allowKey false

/-- A mark of one character that may follow anything. -/
def readMark (t : Token) : Scanner Unit := do
  forward 1
  emit t

/-- An opening bracket or brace. -/
def readOpening (t : Token) : Scanner Unit := do
  noteKey
  allowKey true
  modify fun p => { p with flow := p.flow + 1 }
  readMark t

/-- A closing bracket or brace. -/
def readClosing (t : Token) : Scanner Unit := do
  dropKey
  allowKey false
  if ← inBlock then refuse
  modify fun p => { p with flow := p.flow - 1 }
  readMark t

/-- A comma. -/
def readComma : Scanner Unit := do
  allowKey true
  dropKey
  readMark .flowEntry

/-- A hyphen before an item. -/
def readHyphen : Scanner Unit := do
  if ← inBlock then
    unless (← get).keyAllowed do refuse
    startBlockHere .blockSequence
  allowKey true
  dropKey
  readMark .blockEntry

/-- A question mark before a key. -/
def readQuestion : Scanner Unit := do
  if ← inBlock then
    unless (← get).keyAllowed do refuse
    startBlockHere .blockMapping
  allowKey (← inBlock)
  dropKey
  readMark .key

/-- A colon before a value. -/
def readColon : Scanner Unit := do
  match ← takeKey with
  | some k =>
    let starts ← if ← inBlock then startBlock k.column else pure false
    modify fun p => { p with keys := (k.slot, starts) :: p.keys }
    allowKey false
  | none =>
    if ← inBlock then
      unless (← get).keyAllowed do refuse
      startBlockHere .blockMapping
    allowKey (← inBlock)
    dropKey
  readMark .value

/-- A node on a line, which may turn out to be a key. -/
def readNode (token : Scanner Token) : Scanner Unit := do
  noteKey
  allowKey false
  emit (← token)

/-- Whether a name of an anchor may be followed by a character. -/
def mayFollowName (c : Char) : Bool :=
  isBlank c || isBreak c || "?:,]\x7d%@".toList.contains c || c.toNat == 0x60

/-- The name after the mark of an anchor or a reference. -/
def readName : Scanner Text := do
  forward 1
  let name ← takeWhile isNameChar
  unless !name.isEmpty && (← peek).all mayFollowName do refuse
  return name

/-! ### Tags -/

/-- The characters of tags, besides the percent sign. -/
def isTagChar (c : Char) : Bool :=
  c.isAlphanum || "-;/?:@&=+$,_.!~*'()[]".toList.contains c

/-- Characters that are told by percent signs and the digits of their bytes.  The number bounds the
steps. -/
def readPercents : Nat → Scanner (List UInt8)
  | 0 => return []
  | n + 1 => do
    if (← peek) = some '%' then
      forward 1
      let b ← readHex 2
      return UInt8.ofNat b :: (← readPercents n)
    else return []

/-- The characters of a tag.  The number bounds the steps. -/
def readTagChars : Nat → Scanner Text
  | 0 => return []
  | n + 1 => do
    match ← peek with
    | some '%' =>
      match Utf8.decode? (← readPercents (← remaining)) with
      | some t => return t ++ (← readTagChars n)
      | none => refuse
    | some c =>
      if isTagChar c then
        forward 1
        return c :: (← readTagChars n)
      else return []
    | none => return []

/-- The characters of a tag, of which there must be some. -/
def readTagText : Scanner Text := do
  let t ← readTagChars ((← remaining) + 1)
  if t.isEmpty then refuse else return t

/-- A handle: an exclamation mark, or a name between two of them. -/
def readHandle : Scanner Text := do
  expect '!'
  if (← peek) = some ' ' then return ['!']
  let name ← takeWhile isNameChar
  expect '!'
  return '!' :: name ++ ['!']

/-- Whether another exclamation mark follows the first one of a tag. -/
def atHandle : Scanner Bool := do
  return ((← get).rest.tail.takeWhile fun c => !(c == ' ' || isBreak c)).contains '!'

/-- The tag of a node, the exclamation mark of which comes next. -/
def readTag : Scanner Token := do
  let next ← peekAt 1
  let t ←
    if next = some '<' then
      forward 2
      let suffix ← readTagText
      expect '>'
      pure (Token.tag none suffix)
    else if endsWord next then
      forward 1
      pure (Token.tag none ['!'])
    else
      let handle ←
        if ← atHandle then readHandle
        else
          forward 1
          pure ['!']
      pure (Token.tag (some handle) (← readTagText))
  unless endsName (← peek) do refuse
  return t

/-! ### Directives -/

/-- Decimal digits, of which there must be some. -/
def readDigits : Scanner Nat := do
  let digits ← takeWhile Char.isDigit
  if digits.isEmpty then refuse else return numeral 10 digits

/-- What the directive of a name says. -/
def readDirectiveOf (name : Text) : Scanner Directive := do
  if name == "YAML".toList then
    skipWhile (· == ' ')
    let major ← readDigits
    expect '.'
    let _ ← readDigits
    unless endsName (← peek) do refuse
    return .version major
  else if name == "TAG".toList then
    skipWhile (· == ' ')
    let handle ← readHandle
    unless (← peek) = some ' ' do refuse
    skipWhile (· == ' ')
    let meaning ← readTagText
    unless endsName (← peek) do refuse
    return .tag handle meaning
  else
    skipWhile fun c => !isBreak c
    return .other

/-- A directive, the percent sign of which comes next. -/
def readDirective : Scanner Unit := do
  forward 1
  let name ← takeWhile isNameChar
  unless !name.isEmpty && endsName (← peek) do refuse
  let d ← readDirectiveOf name
  skipRestOfLine
  emit (.directive d)

/-! ### Whole texts -/

/-- The characters with which no plain text starts. -/
def isIndicator (c : Char) : Bool :=
  "-?:,[]\x7b\x7d#&*!|>'\"%@".toList.contains c || c.toNat == 0x60

/-- Whether a plain text starts here. -/
def atPlain : Scanner Bool := do
  let p ← get
  match p.rest.head? with
  | none => return false
  | some c =>
    return !(isBlank c || isBreak c || isIndicator c) ||
      (!endsWord p.rest[1]? && (c == '-' || (p.flow == 0 && (c == '?' || c == ':'))))

/-- Whether a mark that a word may not go on from comes next; between brackets any will do. -/
def atLooseMark : Scanner Bool := do
  let p ← get
  return p.flow != 0 || endsWord p.rest[1]?

/-- Moves past the next tokens, which begin with a character. -/
def readToken (c : Char) : Scanner Unit := do
  let p ← get
  if c == '%' && p.column == 0 then
    beforeMargin
    readDirective
  else if p.column == 0 && (← atMark '-') then
    beforeMargin
    forward 3
    emit .documentStart
  else if p.column == 0 && (← atMark '.') then
    beforeMargin
    forward 3
    emit .documentEnd
  else if c == '[' then readOpening .flowSequence
  else if c == '\x7b' then readOpening .flowMapping
  else if c == ']' then readClosing .flowSequenceEnd
  else if c == '\x7d' then readClosing .flowMappingEnd
  else if c == ',' then readComma
  else if c == '-' && endsWord p.rest[1]? then readHyphen
  else if c == '?' && (← atLooseMark) then readQuestion
  else if c == ':' && (← atLooseMark) then readColon
  else if c == '*' then readNode do return .alias (← readName)
  else if c == '&' then readNode do return .anchor (← readName)
  else if c == '!' then readNode readTag
  else if (c == '|' || c == '>') && p.flow == 0 then
    allowKey true
    dropKey
    emit (.scalar (← readBlock (c == '>')) false)
  else if c == '\'' || c == '"' then
    readNode do return .scalar (← readQuoted (c == '"')) false
  else if ← atPlain then readNode do return .scalar (← readPlain) true
  else refuse

/-- The tokens up to the end of the text.  The number bounds the steps. -/
def readTokens : Nat → Scanner Unit
  | 0 => refuse
  | n + 1 => do
    skipToToken ((← remaining) + 1)
    dropStaleKeys
    unwind (← get).column
    match ← peek with
    | none => beforeMargin
    | some c =>
      readToken c
      readTokens n

/-- The tokens of a text, with the keys in their slots. -/
def fillSlots (p : Place) : List Token :=
  p.tokens.reverse.flatMap fun
    | .slot n =>
      match p.keys.find? fun e => e.1 == n with
      | some (_, true) => [.blockMapping, .key]
      | some (_, false) => [.key]
      | none => []
    | t => [t]

/-- The tokens of a text. -/
def tokens (text : Text) : Except Fault (List Token) := do
  if !text.all isPrintable then throw .malformed
  let text := if text.head? = some byteOrderMark then text.tail else text
  let (_, p) ← (readTokens (text.length + 1)).run (.start text)
  return fillSlots p

end CjkProse.Yaml
