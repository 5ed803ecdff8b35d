import CjkProse.Config.Value

/-!
# Places in a YAML document

A YAML document is read from the front, with the line and the column kept, since its structure is
told by how far its lines are indented.

## Main definitions

* `Yaml.Fault` — why a text is no document.
* `Yaml.Token` — the units of a document.
* `Yaml.Place` — a place in a text, with all that has been found before it.
* `Yaml.Scanner` — reading from a place.
-/

namespace CjkProse.Yaml

/-- Why a text is no document, or has no value. -/
inductive Fault
  /-- It is not written as one. -/
  | malformed
  /-- A value in it cannot be made. -/
  | value (fault : ValueFault)
  /-- Its nodes stand within one another so deeply that it is not told whether they can be read. -/
  | tooDeep
  deriving DecidableEq, Repr, Inhabited

/-- A directive before a document. -/
inductive Directive
  /-- The version, of which only the first number counts. -/
  | version (major : Nat)
  /-- What a handle of tags stands for. -/
  | tag (handle meaning : Text)
  /-- Any other. -/
  | other
  deriving DecidableEq, Repr, Inhabited

/-- The units of a document.  Those that start and end a block stand where the indentation
changes. -/
inductive Token
  /-- A line that begins with a percent sign. -/
  | directive (d : Directive)
  /-- Three hyphens. -/
  | documentStart
  /-- Three points. -/
  | documentEnd
  /-- The start of a sequence told by indentation. -/
  | blockSequence
  /-- The start of a mapping told by indentation. -/
  | blockMapping
  /-- The end of either. -/
  | blockEnd
  /-- An opening bracket. -/
  | flowSequence
  /-- A closing bracket. -/
  | flowSequenceEnd
  /-- An opening brace. -/
  | flowMapping
  /-- A closing brace. -/
  | flowMappingEnd
  /-- A hyphen before an item. -/
  | blockEntry
  /-- A comma. -/
  | flowEntry
  /-- The start of a key, written as a question mark or not at all. -/
  | key
  /-- A colon. -/
  | value
  /-- A reference to a node. -/
  | alias (name : Text)
  /-- The name of the node that follows. -/
  | anchor (name : Text)
  /-- The tag of the node that follows; without a handle it is meant as it stands. -/
  | tag (handle : Option Text) (suffix : Text)
  /-- A text; a plain one stands without quotation marks. -/
  | scalar (text : Text) (plain : Bool)
  /-- A place where a key may turn out to have started. -/
  | slot (number : Nat)
  deriving DecidableEq, Repr, Inhabited

/-- A node on a line that may turn out to be a key. -/
structure MaybeKey where
  /-- The number of its slot. -/
  slot : Nat
  /-- Whether it must turn out to be one. -/
  required : Bool
  /-- Where it starts, in characters. -/
  index : Nat
  /-- The line on which it starts. -/
  line : Nat
  /-- The column at which it starts. -/
  column : Nat
  deriving DecidableEq, Repr, Inhabited

/-- A place in a text, with all that has been found before it. -/
structure Place where
  /-- The characters to come. -/
  rest : Text
  /-- The number of characters before. -/
  index : Nat
  /-- The number of lines before. -/
  line : Nat
  /-- The number of characters before on the line. -/
  column : Nat
  /-- The column of the block that the place is in. -/
  indent : Int
  /-- The columns of the blocks around it. -/
  outer : List Int
  /-- The number of brackets and braces that are open. -/
  flow : Nat
  /-- Whether a key may start here. -/
  keyAllowed : Bool
  /-- The node that may turn out to be a key, for each number of open brackets. -/
  maybeKeys : List (Nat × MaybeKey)
  /-- The number of slots so far. -/
  slots : Nat
  /-- The slots in which a key has started, and whether a mapping starts there too. -/
  keys : List (Nat × Bool)
  /-- The tokens so far, in reverse order. -/
  tokens : List Token
  deriving Repr, Inhabited

/-- The start of a text. -/
def Place.start (text : Text) : Place where
  rest := text
  index := 0
  line := 0
  column := 0
  indent := -1
  outer := []
  flow := 0
  keyAllowed := true
  maybeKeys := []
  slots := 0
  keys := []
  tokens := []

/-- A step of reading. -/
abbrev Scanner (α : Type) := StateT Place (Except Fault) α

/-- Refuses the text. -/
def refuse {α : Type} : Scanner α := throw .malformed

/-! ### Characters -/

/-- The characters that end a line. -/
def isBreak (c : Char) : Bool :=
  c == '\n' || c == '\r' || c == '\x85' || c == '\u2028' || c == '\u2029'

/-- The blanks of a line. -/
def isBlank (c : Char) : Bool := c == ' ' || c == '\t'

/-- Whether a line, or the text, ends with what comes next. -/
def endsLine (c : Option Char) : Bool := c.all isBreak

/-- Whether a word ends with what comes next. -/
def endsWord (c : Option Char) : Bool := c.all fun c => isBreak c || isBlank c

/-- Whether a name that no tab may follow ends with what comes next. -/
def endsName (c : Option Char) : Bool := c.all fun c => isBreak c || c == ' '

/-- The characters that documents are written in. -/
def isPrintable (c : Char) : Bool :=
  let n := c.toNat
  n == 0x9 || n == 0xA || n == 0xD || (0x20 ≤ n && n ≤ 0x7E) || n == 0x85 ||
    (0xA0 ≤ n && n ≤ 0xD7FF) || (0xE000 ≤ n && n ≤ 0xFFFD) || 0x10000 ≤ n

/-- The characters of names. -/
def isNameChar (c : Char) : Bool := c.isAlphanum || c == '-' || c == '_'

/-- The mark of byte order, which takes no column. -/
def byteOrderMark : Char := '\ufeff'

/-! ### Moving on -/

/-- The character `n` places further on. -/
def peekAt (n : Nat) : Scanner (Option Char) := do return (← get).rest[n]?

/-- The next character. -/
def peek : Scanner (Option Char) := do return (← get).rest.head?

/-- The place after one more character. -/
def Place.next (p : Place) : Place :=
  match p.rest with
  | [] => p
  | c :: cs =>
    let p := { p with rest := cs, index := p.index + 1 }
    if isBreak c && !(c == '\r' && cs.head? == some '\n') then
      { p with line := p.line + 1, column := 0 }
    else if c == byteOrderMark then p
    else { p with column := p.column + 1 }

/-- The place after `n` more characters. -/
def Place.advance : Nat → Place → Place
  | 0, p => p
  | n + 1, p => advance n p.next

/-- Moves past `n` characters. -/
def forward (n : Nat) : Scanner Unit := modify (Place.advance n)

/-- Moves past the characters with the property `p` and gives them. -/
def takeWhile (p : Char → Bool) : Scanner Text := do
  let run := (← get).rest.takeWhile p
  forward run.length
  return run

/-- Moves past the characters with the property `p`. -/
def skipWhile (p : Char → Bool) : Scanner Unit := do
  let _ ← takeWhile p

/-- Moves past a given character, which must come next. -/
def expect (c : Char) : Scanner Unit := do
  if (← peek) = some c then forward 1 else refuse

/-- The number of characters to come, a bound on the steps that are left. -/
def remaining : Scanner Nat := do return (← get).rest.length

/-- Moves past the end of a line if it comes next, and gives what it stands for: a line feed, or
one of the separators as it is. -/
def takeBreak : Scanner Text := do
  match (← get).rest with
  | '\r' :: '\n' :: _ =>
    forward 2
    return ['\n']
  | c :: _ =>
    if isBreak c then
      forward 1
      return if c == '\u2028' || c == '\u2029' then [c] else ['\n']
    else return []
  | [] => return []

/-- Moves past spaces, a comment and the end of the line; nothing else may come. -/
def skipRestOfLine : Scanner Unit := do
  skipWhile (· == ' ')
  if (← peek) = some '#' then skipWhile fun c => !isBreak c
  unless endsLine (← peek) do refuse
  let _ ← takeBreak

/-- Whether three given characters come next, and a word ends after them. -/
def atMark (c : Char) : Scanner Bool := do
  let rest := (← get).rest
  return rest.take 3 == [c, c, c] && endsWord rest[3]?

/-- Whether a mark that separates documents comes next. -/
def atSeparator : Scanner Bool := do
  return (← atMark '-') || (← atMark '.')

end CjkProse.Yaml
