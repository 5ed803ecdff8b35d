import CjkProse.Toml.Table

/-!
# Documents of TOML

A document is a sequence of lines: headers, entries, comments and empty lines.

## Main definitions

* `readValue` — any value.
* `Section` — the document so far.
* `Toml.read` — the table that a document is.
-/

namespace CjkProse.Toml

/-- Moves past blanks, line ends and comments.  The number bounds the steps. -/
def skipFiller : Nat → Reader Unit
  | 0 => return
  | n + 1 => do
    skipWhile fun c => isBlank c || c == '\n'
    if (← get).head? = some '#' then
      skipComment
      skipFiller n

/-- Moves past blanks, line ends and comments. -/
def skipLines : Reader Unit := do skipFiller ((← get).length + 1)

/-- The room that is left within a list or a table, if there is any. -/
def roomWithin : Nat → Reader Nat
  | 0 => throw .tooDeep
  | room + 1 => return room

mutual

/-- A value.  The first number bounds the steps, and the second one how many lists and tables may be
opened within one another. -/
def readValue : Nat → Nat → Reader Value
  | 0, _ => refuse
  | n + 1, room => do
    match (← get).head? with
    | some '"' => return .text (← readString '"')
    | some '\'' => return .text (← readString '\'')
    | some '[' =>
      expect ['[']
      skipLines
      if ← accept [']'] then return .list []
      return .list (← readItems n (← roomWithin room))
    | some '\x7b' =>
      expect ['\x7b']
      skipBlank
      if ← accept ['\x7d'] then return .map []
      return .map (← readPairs n (← roomWithin room) .empty [])
    | _ => readScalar

/-- The items of a list, after its bracket and what may stand between. -/
def readItems : Nat → Nat → Reader (List Value)
  | 0, _ => refuse
  | n + 1, room => do
    let v ← readValue n room
    skipLines
    if ← accept [']'] then return [v]
    expect [',']
    skipLines
    if ← accept [']'] then return [v]
    return v :: (← readItems n room)

/-- The entries of a table that is written as a value, after those so far. -/
def readPairs : Nat → Nat → Marks → Entries → Reader Entries
  | 0, _, _, _ => refuse
  | n + 1, room, marks, entries => do
    let key ← readKey
    expect ['=']
    skipBlank
    let v ← readValue n room
    if marks.isFrozen key then refuse
    match entries.insert false key v with
    | none => refuse
    | some entries =>
      skipBlank
      if ← accept ['\x7d'] then return entries
      expect [',']
      skipBlank
      readPairs n room (if isNested v then marks.freeze key else marks) entries

end

/-- A document so far. -/
structure Section where
  /-- All that has been written. -/
  entries : Entries
  /-- What may not be opened or changed. -/
  marks : Marks
  /-- The tables that dotted keys have opened under the last header. -/
  pending : List Key
  /-- The key of the last header. -/
  header : Key
  deriving Repr, Inhabited

/-- A document that has something refused in it, or not. -/
def orRefuse {α : Type} : Option α → Reader α
  | none => refuse
  | some a => return a

/-- The document after an entry, which stands at the head of the text. -/
def readEntry (s : Section) : Reader Section := do
  let key ← readKey
  expect ['=']
  skipBlank
  let v ← readValue ((← get).length + 1) Text.maxDepth
  let whole := s.header ++ key
  let opened := (List.range (key.length - 1)).map fun i => s.header ++ key.take (i + 1)
  if opened.any s.marks.isOpened || s.marks.isFrozen whole.dropLast then refuse
  let entries ← orRefuse (s.entries.insert true whole v)
  return { s with
    entries
    marks := if isNested v then s.marks.freeze whole else s.marks
    pending := opened ++ s.pending }

/-- The document after a header, which stands at the head of the text. -/
def readHeader (s : Section) : Reader Section := do
  let marks := s.marks.setOpened s.pending
  if ← accept ['[', '['] then
    skipBlank
    let key ← readKey
    if marks.isFrozen key then refuse
    let entries ← orRefuse (s.entries.addTable key)
    expect [']', ']']
    return ⟨entries, (marks.clear key).setOpened [key], [], key⟩
  else
    expect ['[']
    skipBlank
    let key ← readKey
    if marks.isOpened key || marks.isFrozen key then refuse
    let entries ← orRefuse (s.entries.openTable key)
    expect [']']
    return ⟨entries, marks.setOpened [key], [], key⟩

/-- Whether a character may start a key. -/
def startsKey (c : Char) : Bool := isBare c || c == '"' || c == '\''

/-- The document after the rest of the text.  The number bounds the lines. -/
def readLinesOf : Nat → Section → Reader Section
  | 0, _ => refuse
  | n + 1, s => do
    skipBlank
    match (← get).head? with
    | none => return s
    | some c =>
      let s ←
        if startsKey c then readEntry s
        else if c == '[' then readHeader s
        else if c == '\n' || c == '#' then pure s
        else refuse
      skipBlank
      skipComment
      if (← get).isEmpty then return s
      expect ['\n']
      readLinesOf n s

/-- A text with a line feed for each pair of a carriage return and a line feed. -/
def joinLineEnds : Text → Text
  | [] => []
  | '\r' :: '\n' :: cs => '\n' :: joinLineEnds cs
  | c :: cs => c :: joinLineEnds cs

/-- The table that a document is. -/
def read (text : Text) : Except Fault Entries := do
  let text := joinLineEnds text
  let (s, _) ← (readLinesOf (text.length + 1) ⟨[], .empty, [], []⟩).run text
  return s.entries

end CjkProse.Toml
