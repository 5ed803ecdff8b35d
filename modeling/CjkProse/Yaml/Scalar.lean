import CjkProse.Yaml.Place

/-!
# Texts in a YAML document

A text is written plainly, between quotation marks of either sort, or as a block of lines.  The ends
of its lines are folded: a single one stands for a space, and of several the first is left out.

## Main definitions

* `readQuoted` — a text between quotation marks.
* `readBlock` — a text on indented lines.
* `readPlain` — a text without quotation marks.
-/

namespace CjkProse.Yaml

/-- What the ends of lines between two pieces of text stand for: the first one, and the others. -/
def fold (first : Text) (others : Text) : Text :=
  if first != ['\n'] then first ++ others
  else if others.isEmpty then [' ']
  else others

/-! ### Between quotation marks -/

/-- The characters that are told by one character after a backslash. -/
def escapeOf? : Char → Option Nat
  | '0' => some 0x0
  | 'a' => some 0x7
  | 'b' => some 0x8
  | 't' => some 0x9
  | '\t' => some 0x9
  | 'n' => some 0xA
  | 'v' => some 0xB
  | 'f' => some 0xC
  | 'r' => some 0xD
  | 'e' => some 0x1B
  | ' ' => some 0x20
  | '"' => some 0x22
  | '\\' => some 0x5C
  | '/' => some 0x2F
  | 'N' => some 0x85
  | '_' => some 0xA0
  | 'L' => some 0x2028
  | 'P' => some 0x2029
  | _ => none

/-- The number of digits by which a character is told after a backslash and a letter. -/
def codeWidth? : Char → Option Nat
  | 'x' => some 2
  | 'u' => some 4
  | 'U' => some 8
  | _ => none

/-- The value of a hexadecimal digit. -/
def hexValue? (c : Char) : Option Nat :=
  if c.isDigit then some (c.toNat - 0x30)
  else if 'a' ≤ c ∧ c ≤ 'f' then some (c.toNat - 0x57)
  else if 'A' ≤ c ∧ c ≤ 'F' then some (c.toNat - 0x37)
  else none

/-- The number that digits write in a base. -/
def numeral (base : Nat) (digits : Text) : Nat :=
  digits.foldl (fun n c => base * n + (hexValue? c).getD 0) 0

/-- The number that the next digits write, of which there must be so many. -/
def readHex (width : Nat) : Scanner Nat := do
  let digits := (← get).rest.take width
  if digits.length < width || !digits.all fun c => (hexValue? c).isSome then refuse
  forward width
  return numeral 16 digits

/-- A character told by so many digits, as a code point. -/
def readCode (width : Nat) : Scanner Nat := do
  let n ← readHex width
  if 0x7FFFFFFF < n then throw (.value .tooLarge)
  if 0x10FFFF < n then throw (.value .notNumber)
  return n

/-- The ends of lines and the blanks at the starts of lines, up to a text that goes on.  No mark
that separates documents may come.  The number bounds the steps. -/
def readFolds : Nat → Scanner Text
  | 0 => refuse
  | n + 1 => do
    if ← atSeparator then refuse
    skipWhile isBlank
    let line ← takeBreak
    if line.isEmpty then return [] else return line ++ (← readFolds n)

/-- The code points of some characters. -/
def codes (t : Text) : List Nat := t.map Char.toNat

/-- What an escape in double quotation marks stands for, after its backslash. -/
def readEscape : Scanner (List Nat) := do
  match ← peek with
  | none => refuse
  | some c =>
    match escapeOf? c, codeWidth? c with
    | some n, _ =>
      forward 1
      return [n]
    | none, some width =>
      forward 1
      return [← readCode width]
    | none, none =>
      if isBreak c then
        let _ ← takeBreak
        return codes (← readFolds (← remaining))
      else refuse

/-- The blanks within a quoted text: as they are, or folded if the line ends. -/
def readGap : Scanner Text := do
  let blanks ← takeWhile isBlank
  match ← peek with
  | none => refuse
  | some c =>
    if isBreak c then
      let first ← takeBreak
      return fold first (← readFolds (← remaining))
    else return blanks

/-- A text up to the closing quotation mark.  The number bounds the steps. -/
def readQuotedFrom (double : Bool) : Nat → Scanner (List Nat)
  | 0 => refuse
  | n + 1 => do
    match (← get).rest with
    | [] => refuse
    | '\'' :: '\'' :: _ =>
      if double then
        forward 1
        return 0x27 :: (← readQuotedFrom double n)
      else
        forward 2
        return 0x27 :: (← readQuotedFrom double n)
    | c :: _ =>
      if c == (if double then '"' else '\'') then
        forward 1
        return []
      else if double && c == '\\' then
        forward 1
        let piece ← readEscape
        return piece ++ (← readQuotedFrom double n)
      else if isBlank c || isBreak c then
        let gap ← readGap
        return codes gap ++ (← readQuotedFrom double n)
      else
        forward 1
        return c.toNat :: (← readQuotedFrom double n)

/-- The text of some code points.  Two halves of a pair make one character, and a half by itself is
replaced. -/
def ofCodes : List Nat → Text
  | [] => []
  | [n] => [Char.ofNat (if 0xD800 ≤ n ∧ n < 0xE000 then 0xFFFD else n)]
  | n :: m :: rest =>
    if 0xD800 ≤ n ∧ n < 0xDC00 ∧ 0xDC00 ≤ m ∧ m < 0xE000 then
      Char.ofNat (0x10000 + (n - 0xD800) * 0x400 + (m - 0xDC00)) :: ofCodes rest
    else Char.ofNat (if 0xD800 ≤ n ∧ n < 0xE000 then 0xFFFD else n) :: ofCodes (m :: rest)

/-- A text between quotation marks, the first of which comes next. -/
def readQuoted (double : Bool) : Scanner Text := do
  forward 1
  return ofCodes (← readQuotedFrom double ((← remaining) + 1))

/-! ### Blocks of lines -/

/-- What is kept of the ends of lines at the end of a block. -/
inductive Chomping
  /-- None of them. -/
  | strip
  /-- The first. -/
  | clip
  /-- All of them. -/
  | keep
  deriving DecidableEq, Repr, Inhabited

/-- What the sign after the head of a block asks for. -/
def chompingOf? : Option Char → Option Chomping
  | some '+' => some .keep
  | some '-' => some .strip
  | _ => none

/-- The digit after the head of a block, which is not zero. -/
def readIncrement : Scanner (Option Nat) := do
  match ← peek with
  | some c =>
    if c.isDigit then
      if c == '0' then refuse
      forward 1
      return some (c.toNat - 0x30)
    else return none
  | none => return none

/-- The sign after the head of a block. -/
def readChomping : Scanner (Option Chomping) := do
  match chompingOf? (← peek) with
  | some c =>
    forward 1
    return some c
  | none => return none

/-- What the head of a block says: a sign and a digit, in any order, or none of them. -/
def readHeader : Scanner (Chomping × Option Nat) := do
  match ← readChomping with
  | some c => return (c, ← readIncrement)
  | none =>
    let increment ← readIncrement
    if increment.isSome then return ((← readChomping).getD .clip, increment)
    return (.clip, none)

/-- The ends of empty lines before a block, and the widest indentation among these lines and the
first one that is not empty.  The number bounds the steps. -/
def readIndentation (widest : Nat) : Nat → Scanner (Text × Nat)
  | 0 => refuse
  | n + 1 => do
    match ← peek with
    | some c =>
      if c == ' ' then
        forward 1
        readIndentation (max widest (← get).column) n
      else if isBreak c then
        let line ← takeBreak
        let (lines, widest) ← readIndentation widest n
        return (line ++ lines, widest)
      else return ([], widest)
    | none => return ([], widest)

/-- Moves past spaces up to a column. -/
def skipIndent (indent : Nat) : Scanner Unit := do
  let p ← get
  forward ((p.rest.take (indent - p.column)).takeWhile (· == ' ')).length

/-- The ends of empty lines within a block.  The number bounds the steps. -/
def readEmptyLines (indent : Nat) : Nat → Scanner Text
  | 0 => refuse
  | n + 1 => do
    skipIndent indent
    let line ← takeBreak
    if line.isEmpty then return [] else return line ++ (← readEmptyLines indent n)

/-- Whether a line of a block comes next. -/
def atBlockLine (indent : Nat) : Scanner Bool := do
  let p ← get
  return p.column == indent && !p.rest.isEmpty

/-- The lines of a block, after the ends of lines `before` them; and the ends of lines after it, the
first one apart.  The number bounds the steps. -/
def readBlockLines (folded : Bool) (indent : Nat) (before : Text) :
    Nat → Scanner (Text × Text × Text)
  | 0 => refuse
  | n + 1 => do
    let leading := (← peek).all fun c => !isBlank c
    let line ← takeWhile fun c => !isBreak c
    let first ← takeBreak
    let others ← readEmptyLines indent ((← remaining) + 1)
    if ← atBlockLine indent then
      let follows := (← peek).all fun c => !isBlank c
      let joint :=
        if folded && first == ['\n'] && leading && follows then
          if others.isEmpty then [' '] else []
        else first
      let (text, first, others) ← readBlockLines folded indent others n
      return (before ++ line ++ joint ++ text, first, others)
    else return (before ++ line, first, others)

/-- A text on indented lines, the head of which comes next. -/
def readBlock (folded : Bool) : Scanner Text := do
  forward 1
  let (chomping, increment) ← readHeader
  unless endsName (← peek) do refuse
  skipRestOfLine
  let least := (max ((← get).indent + 1) 1).toNat
  let (before, indent) ←
    match increment with
    | some n =>
      let indent := least + n - 1
      pure (← readEmptyLines indent ((← remaining) + 1), indent)
    | none =>
      let (before, widest) ← readIndentation 0 ((← remaining) + 1)
      pure (before, max least widest)
  let (text, first, others) ←
    if ← atBlockLine indent then readBlockLines folded indent before ((← remaining) + 1)
    else pure ([], [], before)
  return match chomping with
    | .strip => text
    | .clip => text ++ first
    | .keep => text ++ first ++ others

/-! ### Plain texts -/

/-- The characters that end a plain text between brackets. -/
def isFlowMark (c : Char) : Bool :=
  c == ',' || c == '[' || c == ']' || c == '\x7b' || c == '\x7d'

/-- The part of a text up to where a plain text on one line ends. -/
def plainPiece (inFlow : Bool) : Text → Text
  | [] => []
  | c :: cs =>
    let stops :=
      isBlank c || isBreak c ||
        (c == ':' && cs.head?.all fun d => isBlank d || isBreak d || (inFlow && isFlowMark d)) ||
        (inFlow && (isFlowMark c || c == '?'))
    if stops then [] else c :: plainPiece inFlow cs

/-- The ends of lines and the spaces within a plain text, as they were found; none if a mark that
separates documents comes.  The number bounds the steps. -/
def readPlainFolds : Nat → Scanner (Option Text)
  | 0 => refuse
  | n + 1 => do
    if ← atSeparator then return none
    skipWhile (· == ' ')
    let line ← takeBreak
    if line.isEmpty then return some []
    return (← readPlainFolds n).map (line ++ ·)

/-- What stands between two pieces of a plain text. -/
def readPlainGap : Scanner Text := do
  let spaces ← takeWhile (· == ' ')
  let first ← takeBreak
  if first.isEmpty then return spaces
  modify fun p => { p with keyAllowed := true }
  match ← readPlainFolds ((← remaining) + 1) with
  | none => return []
  | some others => return fold first others

/-- A plain text, after the gap that stands before its next piece.  The number bounds the steps. -/
def readPlainFrom (gap : Text) : Nat → Scanner Text
  | 0 => refuse
  | n + 1 => do
    let p ← get
    let piece := if p.rest.head? = some '#' then [] else plainPiece (p.flow != 0) p.rest
    if piece.isEmpty then return []
    modify fun p => { p with keyAllowed := false }
    forward piece.length
    let next ← readPlainGap
    let p ← get
    if next.isEmpty || p.rest.head? == some '#' ||
        (p.flow == 0 && (p.column : Int) < p.indent + 1) then
      return gap ++ piece
    return gap ++ piece ++ (← readPlainFrom next n)

/-- A plain text. -/
def readPlain : Scanner Text := do readPlainFrom [] ((← remaining) + 1)

end CjkProse.Yaml
