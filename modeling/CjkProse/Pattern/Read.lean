import CjkProse.Pattern.Basic
import CjkProse.Unicode.Name

/-!
# Reading patterns

A pattern is written as text.  Most characters stand for themselves; a backslash takes its special
meaning from a character or gives it one.  A text that is no pattern is refused.

Flags set at the very start of a pattern hold for all of it, and those of a group within the group.
A part may refer to what a numbered group has kept once the group is closed, and within a part that
looks back only if the group was closed before that part began.  A part that looks back must have
matches of one length only.

A text whose groups nest too deeply is not read.  Where the calls that may be open at a time come to
an end is not told any closer than by `Text.maxDepth`.

## Main definitions

* `Pattern.Fault` — why a text is no pattern.
* `Lexeme` — the units that patterns are written in.
* `Pattern.Compiled`, `Pattern.read` — the pattern that a text writes.
-/

namespace CjkProse.Pattern

/-- Why a text is no pattern. -/
inductive Fault
  /-- It is not written as one. -/
  | malformed
  /-- A part is to be repeated too many times. -/
  | countTooLarge
  /-- A number has too many digits to be read. -/
  | numberTooLong
  /-- Flags are set that exclude each other. -/
  | clashingFlags
  /-- Groups stand within one another so deeply that it is not told whether they can be read. -/
  | tooDeep
  deriving DecidableEq, Repr, Inhabited

/-! ### Lexemes -/

/-- The units that patterns are written in. -/
inductive Lexeme
  /-- A character. -/
  | plain (c : Char)
  /-- A character after a backslash. -/
  | escaped (c : Char)
  /-- A backslash at the end. -/
  | dangling
  deriving DecidableEq, Repr, Inhabited

/-- The units of a text. -/
def lexemes : Text → List Lexeme
  | [] => []
  | ['\\'] => [.dangling]
  | '\\' :: c :: cs => .escaped c :: lexemes cs
  | c :: cs => .plain c :: lexemes cs

/-! ### The state of reading -/

/-- What flags say. -/
structure Flags where
  /-- Letters are told apart only up to case. -/
  ignoreCase : Bool
  /-- Anchors hold at the ends of every line. -/
  multiline : Bool
  /-- The dot stands for line feeds too. -/
  dotAll : Bool
  /-- Blanks and comments are passed over. -/
  verbose : Bool
  /-- Classes and case go no further than ASCII. -/
  ascii : Bool
  deriving DecidableEq, Repr, Inhabited

/-- What is known at a place of a pattern. -/
structure State where
  /-- The units to come. -/
  rest : List Lexeme
  /-- The letters of the flags that hold for the whole pattern. -/
  letters : List Char
  /-- The names of groups, with their numbers. -/
  names : List (Text × Nat)
  /-- The widths of the groups, in reverse order; a group that is open has none yet. -/
  groups : List (Option Width)
  /-- The number of the first group that the part that looks back may not refer to. -/
  limit : Option Nat
  /-- The greatest number of a group that a condition is about. -/
  greatest : Nat
  /-- Whether a part is repeated. -/
  repeats : Bool
  /-- Whether a part looks back that has matches of several lengths. -/
  uneven : Bool
  /-- How many more groups may be opened within one another. -/
  room : Nat
  deriving Repr, Inhabited

/-- A step of reading. -/
abbrev Reader (α : Type) := StateT State (Except Fault) α

/-- Refuses the text. -/
def refuse {α : Type} : Reader α := throw .malformed

/-- The next unit. -/
def peek : Reader (Option Lexeme) := do return (← get).rest.head?

/-- Moves past the next unit. -/
def skip : Reader Unit := modify fun s => { s with rest := s.rest.tail }

/-- Moves past the next unit and gives it; there must be one. -/
def take : Reader Lexeme := do
  match (← get).rest with
  | [] => refuse
  | l :: rest =>
    modify fun s => { s with rest }
    return l

/-- Moves past the next unit and gives it, which must be a plain character. -/
def takePlain : Reader Char := do
  match ← take with
  | .plain c => return c
  | _ => refuse

/-- Moves past a plain character if it comes next. -/
def accept (c : Char) : Reader Bool := do
  if (← peek) = some (.plain c) then
    skip
    return true
  else return false

/-- Moves past a plain character, which must come next. -/
def expect (c : Char) : Reader Unit := do
  unless ← accept c do refuse

/-- Moves past plain characters with the property `p`, `n` at most, and gives them. -/
def takeWhile (p : Char → Bool) : Nat → Reader Text
  | 0 => return []
  | n + 1 => do
    match ← peek with
    | some (.plain c) =>
      if p c then
        skip
        return c :: (← takeWhile p n)
      else return []
    | _ => return []

/-- The plain characters up to `stop`, of which there must be some, and moves past `stop`. -/
def takeUntil (stop : Char) : Reader Text := do
  let name ← takeWhile (· != stop) (← get).rest.length
  if name.isEmpty then refuse
  expect stop
  return name

/-- Reads what stands within a group, if there is room for it. -/
def within {α : Type} (inside : Reader α) : Reader α := do
  let room := (← get).room
  if room = 0 then throw .tooDeep
  modify fun s => { s with room := room - 1 }
  let a ← inside
  modify fun s => { s with room }
  return a

/-- The number of units to come, a bound on the steps that are left. -/
def remaining : Reader Nat := do return (← get).rest.length

/-! ### Numbers -/

/-- The value of a hexadecimal digit. -/
def hexValue? (c : Char) : Option Nat :=
  if c.isDigit then some (c.toNat - 0x30)
  else if 'a' ≤ c ∧ c ≤ 'f' then some (c.toNat - 0x57)
  else if 'A' ≤ c ∧ c ≤ 'F' then some (c.toNat - 0x37)
  else none

/-- The number that digits write in a base. -/
def numeral (base : Nat) (digits : Text) : Nat :=
  digits.foldl (fun n c => base * n + (hexValue? c).getD 0) 0

/-- Whether a character is an octal digit. -/
def isOctal (c : Char) : Bool := '0' ≤ c && c ≤ '7'

/-- The most digits that a number may have. -/
def maxDigits : Nat := 4300

/-- Counts of repetitions are less than this. -/
def countLimit : Nat := Nat.pow 2 32 - 1

/-- Numbers of groups are less than this. -/
def groupLimit : Nat := Nat.pow 2 30

/-- A count of repetitions. -/
def readCount (digits : Text) : Reader Nat := do
  if (← peek) = some .dangling then refuse
  if maxDigits < digits.length then throw .numberTooLong
  let n := numeral 10 digits
  if countLimit ≤ n then throw .countTooLarge
  return n

/-- The number of a group in a condition.  Blanks may surround it, a plus sign may stand before it,
and low lines between its digits. -/
def groupNumber? (name : Text) : Option Nat :=
  let digits := name.trimBlank
  let digits := if digits.head? = some '+' then digits.tail else digits
  let pieces := Text.splitOn '_' digits
  if pieces.any List.isEmpty || maxDigits < digits.length then none
  else Unicode.decimal? (digits.filter (· != '_'))

/-! ### Groups -/

/-- The number of groups so far, that of the whole match included. -/
def groupCount : Reader Nat := do return (← get).groups.length + 1

/-- The width of group `n`, if it is closed. -/
def closedGroup? (n : Nat) : Reader (Option Width) := do
  let groups := (← get).groups
  return if n = 0 ∨ groups.length < n then none else (groups[groups.length - n]?).join

/-- Refuses a reference to group `n` from within a part that looks back, unless the group was closed
before that part. -/
def checkLimit (n : Nat) : Reader Unit := do
  match (← get).limit with
  | none => return
  | some limit =>
    if (← closedGroup? n).isNone ∨ limit ≤ n then refuse

/-- Refers to group `n`, which must be closed. -/
def reference (flags : Flags) (n : Nat) : Reader Pattern := do
  if (← closedGroup? n).isNone then refuse
  checkLimit n
  return .again n flags.ignoreCase flags.ascii

/-- Opens a group and gives its number. -/
def openGroup (name : Option Text) : Reader Nat := do
  let n ← groupCount
  match name with
  | none => modify fun s => { s with groups := none :: s.groups }
  | some name =>
    if (← get).names.any fun entry => entry.1 == name then refuse
    modify fun s => { s with groups := none :: s.groups, names := (name, n) :: s.names }
  return n

/-- The width of a pattern. -/
def widthOf (p : Pattern) : Reader Width := do
  let groups := (← get).groups
  return p.width fun n => ((groups[groups.length - n]?).join).getD (0, 0)

/-- Closes group `n`, which holds `p`. -/
def closeGroup (n : Nat) (p : Pattern) : Reader Unit := do
  let w ← widthOf p
  modify fun s => { s with groups := s.groups.set (s.groups.length - n) (some w) }

/-! ### Flags -/

/-- The letters of the flags. -/
def flagLetters : List Char := "iLmsxatu".toList

/-- The flags that say how far classes reach; no two of them go together. -/
def reachLetters : List Char := "aLu".toList

/-- What some flags say. -/
def Flags.ofLetters (letters : List Char) : Flags where
  ignoreCase := letters.contains 'i'
  multiline := letters.contains 'm'
  dotAll := letters.contains 's'
  verbose := letters.contains 'x'
  ascii := letters.contains 'a'

/-- The flags within a group that sets some and clears others. -/
def Flags.change (flags : Flags) (on off : List Char) : Flags :=
  let switch (c : Char) (b : Bool) : Bool := (b || on.contains c) && !off.contains c
  { ignoreCase := switch 'i' flags.ignoreCase
    multiline := switch 'm' flags.multiline
    dotAll := switch 's' flags.dotAll
    verbose := switch 'x' flags.verbose
    ascii := on.contains 'a' || (flags.ascii && !on.contains 'u') }

/-- The flags that hold for the whole pattern. -/
def globalFlags : Reader Flags := do return Flags.ofLetters (← get).letters

/-- Whether a flag may be added to others. -/
def mayAdd (letters : List Char) (c : Char) : Bool :=
  c != 'L' && flagLetters.contains c &&
    !(reachLetters.contains c && letters.any fun d => d != c && reachLetters.contains d)

/-- The flags that are set from the letter `c` on, and the character that ends them.  The number
bounds the steps. -/
def readSetFlags : Nat → List Char → Char → Reader (List Char × Char)
  | 0, _, _ => refuse
  | n + 1, letters, c => do
    unless mayAdd letters c do refuse
    let d ← takePlain
    if d == ')' || d == '-' || d == ':' then return (c :: letters, d)
    readSetFlags n (c :: letters) d

/-- The flags that are cleared from the letter `c` on, up to a colon. -/
def readClearedFlags : Nat → List Char → Char → Reader (List Char)
  | 0, _, _ => refuse
  | n + 1, letters, c => do
    unless flagLetters.contains c && !reachLetters.contains c do refuse
    let d ← takePlain
    if d == ':' then return c :: letters
    readClearedFlags n (c :: letters) d

/-- The flags that begin with `c`: those set and those cleared in a group, or `none` if they hold
for the whole pattern. -/
def readFlags (c : Char) : Reader (Option (List Char × List Char)) := do
  let n ← remaining
  let (on, stop) ← if c == '-' then pure ([], '-') else readSetFlags n [] c
  if stop == ')' then
    modify fun s => { s with letters := on ++ s.letters }
    return none
  if on.contains 't' then refuse
  let off ← if stop == '-' then readClearedFlags n [] (← takePlain) else pure []
  if off.contains 't' || on.any off.contains then refuse
  return some (on, off)

/-! ### Escapes -/

/-- The characters that are written as a letter after a backslash. -/
def controlOf? : Char → Option Nat
  | 'a' => some 0x7
  | 'f' => some 0xC
  | 'n' => some 0xA
  | 'r' => some 0xD
  | 't' => some 0x9
  | 'v' => some 0xB
  | '\\' => some 0x5C
  | _ => none

/-- The classes that are written as a letter after a backslash. -/
def classOf? : Char → Option SetItem
  | 'd' => some (.named .digit false)
  | 'D' => some (.named .digit true)
  | 's' => some (.named .blank false)
  | 'S' => some (.named .blank true)
  | 'w' => some (.named .word false)
  | 'W' => some (.named .word true)
  | _ => none

/-- The anchors that are written as a letter after a backslash. -/
def anchorOf? (ascii : Bool) : Char → Option Anchor
  | 'A' => some .textStart
  | 'Z' => some .textEnd
  | 'b' => some (.wordEdge false ascii)
  | 'B' => some (.wordEdge true ascii)
  | _ => none

/-- A code point of so many hexadecimal digits. -/
def readHex (count : Nat) : Reader Nat := do
  let digits ← takeWhile (fun c => (hexValue? c).isSome) count
  if digits.length = count then return numeral 16 digits else refuse

/-- The code point of a character that is written by its name, between braces. -/
def readNamed : Reader Nat := do
  expect '\x7b'
  match Unicode.named? (← takeUntil '\x7d') with
  | some n => return n
  | none => refuse

/-- The code point that is written in the same way within a set and outside of one. -/
def readCodeEscape (c : Char) : Reader Nat := do
  if c == 'x' then readHex 2
  else if c == 'u' then readHex 4
  else if c == 'U' then
    let n ← readHex 8
    if n < 0x110000 then return n else refuse
  else if c == 'N' then readNamed
  else if c.isAlphanum then refuse
  else return c.toNat

/-- The largest code point that octal digits may write. -/
def maxOctal : Nat := 0xFF

/-- What an escape stands for within a set. -/
def readSetEscape (c : Char) : Reader SetItem := do
  if c == 'b' then return .range 0x8 0x8
  match controlOf? c with
  | some n => return .range n n
  | none =>
    match classOf? c with
    | some item => return item
    | none =>
      let n ←
        if isOctal c then
          let n := numeral 8 (c :: (← takeWhile isOctal 2))
          if maxOctal < n then refuse else pure n
        else readCodeEscape c
      return .range n n

/-- What a digit after a backslash stands for: an octal number if it is zero or the first of three
octal digits, and else a group. -/
def readNumberEscape (flags : Flags) (c : Char) : Reader Pattern := do
  let code := Pattern.ofCode flags.ignoreCase flags.ascii
  if c == '0' then return code (numeral 8 (c :: (← takeWhile isOctal 2)))
  let second ← takeWhile Char.isDigit 1
  let third ← if isOctal c && !second.isEmpty && second.all isOctal then takeWhile isOctal 1
    else pure []
  if third.isEmpty then
    let n := numeral 10 (c :: second)
    if n < (← groupCount) then reference flags n else refuse
  else
    let n := numeral 8 (c :: second ++ third)
    if maxOctal < n then refuse else return code n

/-- What an escape stands for outside of a set. -/
def readEscape (flags : Flags) (c : Char) : Reader Pattern := do
  let code := Pattern.ofCode flags.ignoreCase flags.ascii
  match anchorOf? flags.ascii c, classOf? c, controlOf? c with
  | some a, _, _ => return .anchor a
  | _, some item, _ => return .one ⟨false, [item], flags.ignoreCase, flags.ascii⟩
  | _, _, some n => return code n
  | _, _, _ => if c.isDigit then readNumberEscape flags c else return code (← readCodeEscape c)

/-! ### Sets -/

/-- An item of a set that begins with a unit. -/
def readSetItem : Lexeme → Reader SetItem
  | .plain c => return .range c.toNat c.toNat
  | .escaped c => readSetEscape c
  | .dangling => refuse

/-- The range between two characters. -/
def rangeOf : SetItem → SetItem → Reader SetItem
  | .range first _, .range last _ => if first ≤ last then return .range first last else refuse
  | _, _ => refuse

/-- The items of a set up to the bracket that closes it.  A bracket in the first place closes
nothing, and a hyphen in the last place stands for itself. -/
def readSetItems : Nat → List SetItem → Reader (List SetItem)
  | 0, _ => refuse
  | n + 1, items => do
    let l ← take
    if l = .plain ']' ∧ ¬ items.isEmpty then return items
    let item ← readSetItem l
    if ← accept '-' then
      let last ← take
      if last = .plain ']' then return .range 0x2D 0x2D :: item :: items
      readSetItems n ((← rangeOf item (← readSetItem last)) :: items)
    else readSetItems n (item :: items)

/-- A set, after its opening bracket. -/
def readSet (flags : Flags) : Reader Pattern := do
  let negated ← accept '^'
  let items ← readSetItems (← remaining) []
  return .one ⟨negated, items, flags.ignoreCase, flags.ascii⟩

/-! ### Repetition -/

/-- The counts that stand between braces, if that is what comes next; else the units stay. -/
def readBraces : Reader (Option (Nat × Option Nat)) := do
  let start := (← get).rest
  let low ← takeWhile Char.isDigit start.length
  let comma ← accept ','
  let high ← if comma then takeWhile Char.isDigit start.length else pure low
  if start.head? = some (.plain '}') || !(← accept '}') then
    modify fun s => { s with rest := start }
    return none
  let least ← if low.isEmpty then pure 0 else readCount low
  if high.isEmpty then return some (least, none)
  let most ← readCount high
  if most < least then refuse
  return some (least, some most)

/-- The counts that a character asks for, if it asks for a repetition. -/
def readCounts (c : Char) : Reader (Option (Nat × Option Nat)) := do
  if c == '?' then return some (0, some 1)
  else if c == '*' then return some (0, none)
  else if c == '+' then return some (1, none)
  else if c == '\x7b' then readBraces
  else return none

/-- What a part of a pattern is, for what may follow it. -/
inductive Role
  /-- An anchor, which cannot be repeated. -/
  | anchor
  /-- A repetition, which cannot be repeated again. -/
  | repetition
  /-- Another part. -/
  | part
  deriving DecidableEq, Repr, Inhabited

/-- The parts of a pattern so far, in reverse order. -/
abbrev Parts := List (Pattern × Role)

/-- The parts in their order. -/
def Parts.toPattern (parts : Parts) : Pattern :=
  parts.foldl (fun later part => if later = .empty then part.1 else .seq part.1 later) .empty

/-- The greed that the character after a repetition asks for. -/
def readGreed : Reader Greed := do
  match ← peek with
  | some (.plain '?') =>
    skip
    return .lazy
  | some (.plain '+') =>
    skip
    return .possessive
  | _ => return .greedy

/-- Repeats the last part. -/
def repeatLast (least : Nat) (most : Option Nat) : Parts → Reader Parts
  | (p, .part) :: parts => do
    let greed ← readGreed
    modify fun s => { s with repeats := true }
    return (.many least most greed p, .repetition) :: parts
  | _ => refuse

/-! ### Parts -/

/-- The characters that are passed over where blanks do not count. -/
def isFiller (c : Char) : Bool := c == ' ' || (0x9 ≤ c.toNat && c.toNat ≤ 0xD)

/-- Moves past a comment that ends with `stop`, or, if `atEnd`, with the text. -/
def skipComment (stop : Char) (atEnd : Bool) : Nat → Reader Unit
  | 0 => if atEnd then return else refuse
  | n + 1 => do
    match ← peek with
    | none => if atEnd then return else refuse
    | some .dangling => refuse
    | some l =>
      skip
      if l = .plain stop then return
      skipComment stop atEnd n

/-- The name of a group, up to `stop`. -/
def readName (stop : Char) : Reader Text := do
  let name ← takeUntil stop
  if Unicode.isIdentifier name then return name else refuse

/-- The number of the group that a name belongs to. -/
def lookUp (name : Text) : Reader Nat := do
  match (← get).names.find? fun entry => entry.1 == name with
  | some entry => return entry.2
  | none => refuse

/-- The group that a condition is about. -/
def readCondition : Reader Nat := do
  let name ← takeUntil ')'
  let n ←
    if Unicode.isIdentifier name then lookUp name
    else
      match groupNumber? name with
      | none => refuse
      | some n =>
        if n = 0 ∨ groupLimit ≤ n then refuse
        modify fun s => { s with greatest := max s.greatest n }
        pure n
  checkLimit n
  return n

/-- How a group begins, after its parenthesis. -/
inductive Head
  /-- A group of parts that is kept, maybe under a name. -/
  | capture (name : Option Text)
  /-- A group of parts that sets and clears flags. -/
  | plain (on off : List Char)
  /-- A group that is matched once. -/
  | atomic
  /-- A look at what follows, or at what comes before. -/
  | look (back negated : Bool)
  /-- A condition on a group. -/
  | condition (index : Nat)
  /-- A whole part. -/
  | part (p : Pattern)
  /-- Nothing: a comment. -/
  | nothing
  /-- Flags for the whole pattern. -/
  | flags

/-- Reads how a group begins. -/
def readHead (flags : Flags) : Reader Head := do
  unless ← accept '?' do return .capture none
  let c ← takePlain
  if c == 'P' then
    if ← accept '<' then return .capture (some (← readName '>'))
    expect '='
    return .part (← reference flags (← lookUp (← readName ')')))
  else if c == ':' then return .plain [] []
  else if c == '#' then
    skipComment ')' false (← remaining)
    return .nothing
  else if c == '=' then return .look false false
  else if c == '!' then return .look false true
  else if c == '<' then
    if ← accept '=' then return .look true false
    expect '!'
    return .look true true
  else if c == '(' then return .condition (← readCondition)
  else if c == '>' then return .atomic
  else
    match ← readFlags c with
    | none => return .flags
    | some (on, off) => return .plain on off

/-- A part that looks back at `p`.  That it has one length is asked for in the end. -/
def lookBack (negated : Bool) (p : Pattern) : Reader Pattern := do
  let w ← widthOf p
  if w.1 ≠ w.2 ∨ countLimit < w.1 then modify fun s => { s with uneven := true }
  return .behind negated w.1 p

/-- The part that a character is which opens no group and repeats nothing. -/
def readSingle (flags : Flags) (c : Char) : Reader (Pattern × Role) := do
  if c == '[' then return (← readSet flags, .part)
  else if c == '.' then
    let items := if flags.dotAll then [] else [.range 0xA 0xA]
    return (.one ⟨true, items, false, false⟩, .part)
  else if c == '^' then
    return (.anchor (if flags.multiline then .lineStart else .textStart), .anchor)
  else if c == '$' then
    return (.anchor (if flags.multiline then .lineEnd else .lastLineEnd), .anchor)
  else return (.ofCode flags.ignoreCase flags.ascii c.toNat, .part)

/-- The role of what an escape stands for. -/
def roleOf : Pattern → Role
  | .anchor _ => .anchor
  | _ => .part

mutual

/-- Alternatives up to a closing parenthesis or the end.  `top` tells whether they are those of the
whole pattern, and `first` whether the first of these comes next.  The number bounds the steps. -/
def readAlternatives : Nat → Flags → Bool → Bool → Reader Pattern
  | 0, _, _, _ => refuse
  | n + 1, flags, top, first => do
    let p ← readParts n flags first []
    if ← accept '|' then
      let flags ← if top then globalFlags else pure flags
      return .alt p (← readAlternatives n flags top false)
    else return p

/-- Parts up to the end of an alternative, after those read so far. -/
def readParts : Nat → Flags → Bool → Parts → Reader Pattern
  | 0, _, _, _ => refuse
  | n + 1, flags, first, parts => do
    match ← peek with
    | none => return parts.toPattern
    | some .dangling => refuse
    | some (.escaped c) =>
      skip
      let p ← readEscape flags c
      readParts n flags first ((p, roleOf p) :: parts)
    | some (.plain c) =>
      if c == '|' || c == ')' then return parts.toPattern
      skip
      if flags.verbose && isFiller c then readParts n flags first parts
      else if flags.verbose && c == '#' then
        skipComment '\n' true (← remaining)
        readParts n flags first parts
      else if c == '(' then
        match ← readHead flags with
        | .nothing => readParts n flags first parts
        | .flags =>
          unless first && parts.isEmpty do refuse
          readParts n (← globalFlags) first parts
        | .part p => readParts n flags first ((p, .part) :: parts)
        | .capture name =>
          let index ← openGroup name
          let p ← within (readAlternatives n flags false false)
          expect ')'
          closeGroup index p
          readParts n flags first ((.capture index p, .part) :: parts)
        | .plain on off =>
          let p ← within (readAlternatives n (flags.change on off) false false)
          expect ')'
          readParts n flags first ((p, .part) :: parts)
        | .atomic =>
          let p ← within (readAlternatives n flags false false)
          expect ')'
          readParts n flags first ((.atomic p, .part) :: parts)
        | .look false negated =>
          let p ← within (readAlternatives n flags false false)
          expect ')'
          readParts n flags first ((.ahead negated p, .part) :: parts)
        | .look true negated =>
          let outer := (← get).limit
          let count ← groupCount
          modify fun s => { s with limit := some (outer.getD count) }
          let p ← within (readAlternatives n flags false false)
          modify fun s => { s with limit := outer }
          expect ')'
          let p ← lookBack negated p
          readParts n flags first ((p, .part) :: parts)
        | .condition index =>
          let yes ← within (readParts n flags false [])
          let no ← if ← accept '|' then within (readParts n flags false []) else pure .empty
          expect ')'
          readParts n flags first ((.given index yes no, .part) :: parts)
      else
        match ← readCounts c with
        | some (least, most) => readParts n flags first (← repeatLast least most parts)
        | none => readParts n flags first ((← readSingle flags c) :: parts)

end

/-! ### Whole patterns -/

/-- A pattern ready to be matched. -/
structure Compiled where
  /-- The pattern. -/
  pattern : Pattern
  /-- The names of its groups. -/
  names : List (Text × Nat)
  deriving Repr, Inhabited

/-- Refuses what cannot be told before a pattern is read as a whole. -/
def checkWhole (s : State) : Except Fault Unit := do
  if s.letters.contains 'a' && s.letters.contains 'u' then throw .clashingFlags
  if !s.rest.isEmpty || s.groups.length < s.greatest then throw .malformed
  if s.uneven || (s.repeats && s.letters.contains 't') then throw .malformed

/-- The pattern that a text writes. -/
def read (text : Text) : Except Fault Compiled := do
  let rest := lexemes text
  let start : State := ⟨rest, [], [], [], none, 0, false, false, Text.maxDepth⟩
  let (p, s) ← (readAlternatives (2 * rest.length + 2) (Flags.ofLetters []) true true).run start
  checkWhole s
  return ⟨p, s.names⟩

end CjkProse.Pattern
