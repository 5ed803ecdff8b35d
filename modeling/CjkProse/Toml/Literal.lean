import CjkProse.Config.Value
import CjkProse.Number.Moment

/-!
# Literals of TOML

The parts of a TOML document that stand on a line: keys, strings, numbers, dates and times.  The
text has line feeds for line ends throughout.

## Main definitions

* `Toml.Fault` — why a text is no document.
* `Toml.Reader` — reading from the front of a text.
* `Toml.readKey`, `Toml.readString`, `Toml.readScalar?` — the parts.
-/

namespace CjkProse.Toml

/-- Why a text is no document. -/
inductive Fault
  /-- It is not written as one. -/
  | malformed
  /-- A number has too many digits to be read. -/
  | numberTooLong
  /-- Values stand within one another so deeply that it is not told whether they can be read. -/
  | tooDeep
  deriving DecidableEq, Repr, Inhabited

/-- A step of reading, with the text to come as its state. -/
abbrev Reader (α : Type) := StateT Text (Except Fault) α

/-- Refuses the text. -/
def refuse {α : Type} : Reader α := throw .malformed

/-- Moves past a given text if it comes next. -/
def accept (piece : Text) : Reader Bool := do
  match Text.dropPrefix? piece (← get) with
  | some rest =>
    set rest
    return true
  | none => return false

/-- Moves past a given text, which must come next. -/
def expect (piece : Text) : Reader Unit := do
  unless ← accept piece do refuse

/-- Moves past the characters with the property `p`. -/
def skipWhile (p : Char → Bool) : Reader Unit := modify fun text => text.dropWhile p

/-- Moves past the characters with the property `p` and gives them. -/
def takeWhile (p : Char → Bool) : Reader Text := do
  let text ← get
  set (text.dropWhile p)
  return text.takeWhile p

/-- Moves past the next character, which there must be, and gives it. -/
def take : Reader Char := do
  match ← get with
  | [] => refuse
  | c :: cs =>
    set cs
    return c

/-- The blanks of a line. -/
def isBlank (c : Char) : Bool := c == ' ' || c == '\t'

/-- Moves past the blanks of a line. -/
def skipBlank : Reader Unit := skipWhile isBlank

/-- The controls, which stand in no string and no comment; the tab is none of them. -/
def isControl (c : Char) : Bool := (c.toNat < 0x20 && c != '\t') || c.toNat == 0x7F

/-- Moves past a comment if one comes next. -/
def skipComment : Reader Unit := do
  if ← accept ['#'] then
    if (← takeWhile (· != '\n')).any isControl then refuse

/-! ### Strings -/

/-- The text before the first `piece`, moving past both. -/
def takeUntil (piece : Text) : Reader Text := do
  let text ← get
  match Text.find? piece text with
  | none => refuse
  | some n =>
    set (text.drop (n + piece.length))
    return text.take n

/-- A string between single quotation marks, after the first of them. -/
def readLiteral : Reader Text := do
  let body ← takeUntil ['\'']
  if body.any isControl then refuse
  return body

/-- The value of a hexadecimal digit. -/
def hexValue? (c : Char) : Option Nat :=
  if c.isDigit then some (c.toNat - 0x30)
  else if 'a' ≤ c ∧ c ≤ 'f' then some (c.toNat - 0x57)
  else if 'A' ≤ c ∧ c ≤ 'F' then some (c.toNat - 0x37)
  else none

/-- The number that digits write in a base. -/
def numeral (base : Nat) (digits : Text) : Nat :=
  digits.foldl (fun n c => base * n + (hexValue? c).getD 0) 0

/-- A character told by `width` hexadecimal digits. -/
def readCode (width : Nat) : Reader Char := do
  let text ← get
  let digits := text.take width
  if digits.length < width || !digits.all fun c => (hexValue? c).isSome then refuse
  set (text.drop width)
  let n := numeral 16 digits
  if h : n.isValidChar then return Char.ofNatAux n h else refuse

/-- The characters that are told by one character after a backslash. -/
def escapeOf? : Char → Option Char
  | 'b' => some '\x08'
  | 't' => some '\t'
  | 'n' => some '\n'
  | 'f' => some '\x0c'
  | 'r' => some '\r'
  | '"' => some '"'
  | '\\' => some '\\'
  | _ => none

/-- The character that an escape tells, after its backslash. -/
def readEscape : Reader Char := do
  let c ← take
  if c == 'u' then readCode 4
  else if c == 'U' then readCode 8
  else
    match escapeOf? c with
    | some d => return d
    | none => refuse

/-- Moves past a line end that a backslash takes away, with the blanks around it, if that is what
comes next. -/
def skipContinuation : Reader Bool := do
  let text ← get
  match text.head? with
  | some c =>
    if isBlank c || c == '\n' then
      skipBlank
      unless (← get).isEmpty do
        expect ['\n']
        skipWhile fun c => isBlank c || c == '\n'
      return true
    else return false
  | none => return false

/-- A string between double quotation marks, after the first of them.  The number bounds the
steps. -/
def readBasic : Nat → Reader Text
  | 0 => refuse
  | n + 1 => do
    let c ← take
    if c == '"' then return []
    else if c == '\\' then
      let d ← readEscape
      return d :: (← readBasic n)
    else if isControl c then refuse
    else return c :: (← readBasic n)

/-- A string of several lines between three double quotation marks each, after the first three. -/
def readBasicLines : Nat → Reader Text
  | 0 => refuse
  | n + 1 => do
    if ← accept "\"\"\"".toList then return []
    let c ← take
    if c == '\\' then
      if ← skipContinuation then readBasicLines n
      else
        let d ← readEscape
        return d :: (← readBasicLines n)
    else if c != '\n' && isControl c then refuse
    else return c :: (← readBasicLines n)

/-- The one or two marks that stand before the closing ones and belong to a string. -/
def readExtraMarks (mark : Char) : Reader Text := do
  if ← accept [mark] then
    if ← accept [mark] then return [mark, mark]
    return [mark]
  return []

/-- A string that may have several lines, after its three opening marks. -/
def readLines (mark : Char) : Reader Text := do
  let _ ← accept ['\n']
  let body ←
    if mark == '"' then readBasicLines ((← get).length + 1)
    else
      let body ← takeUntil "'''".toList
      if body.any fun c => c != '\n' && isControl c then refuse
      pure body
  return body ++ (← readExtraMarks mark)

/-- A string on one line that begins with `mark`, after that. -/
def readLine (mark : Char) : Reader Text := do
  if mark == '"' then readBasic ((← get).length + 1) else readLiteral

/-- A string that begins with `mark`. -/
def readString (mark : Char) : Reader Text := do
  if ← accept [mark, mark, mark] then readLines mark
  else
    expect [mark]
    readLine mark

/-! ### Keys -/

/-- A key, which may lead through several tables. -/
abbrev Key := List Text

/-- The characters of a key that stands without quotation marks. -/
def isBare (c : Char) : Bool := c.isAlphanum || c == '-' || c == '_'

/-- One part of a key. -/
def readKeyPart : Reader Text := do
  match (← get).head? with
  | some '"' =>
    expect ['"']
    readLine '"'
  | some '\'' =>
    expect ['\'']
    readLine '\''
  | _ =>
    let part ← takeWhile isBare
    if part.isEmpty then refuse else return part

/-- The parts of a key, with points between them.  The number bounds the steps. -/
def readKeyParts : Nat → Reader Key
  | 0 => refuse
  | n + 1 => do
    let part ← readKeyPart
    skipBlank
    if ← accept ['.'] then
      skipBlank
      return part :: (← readKeyParts n)
    return [part]

/-- A key. -/
def readKey : Reader Key := do readKeyParts ((← get).length + 1)

/-! ### Numbers, dates and times -/

/-- The number of a fixed count of decimal digits at the head of a text, and the rest. -/
def fixed? (width : Nat) (text : Text) : Option (Nat × Text) :=
  let digits := text.take width
  if digits.length = width ∧ digits.all Char.isDigit then
    some (numeral 10 digits, text.drop width)
  else none

/-- A time of day at the head of a text. -/
def clock? (text : Text) : Option (Clock × Text) := do
  let (hour, rest) ← fixed? 2 text
  let (minute, rest) ← fixed? 2 (← Text.dropPrefix? [':'] rest)
  let (second, rest) ← fixed? 2 (← Text.dropPrefix? [':'] rest)
  let fraction :=
    match rest with
    | '.' :: rest => rest.takeWhile Char.isDigit
    | _ => []
  let rest := if fraction.isEmpty then rest else rest.drop (fraction.length + 1)
  let clock : Clock := ⟨hour, minute, second, Clock.microsOf fraction⟩
  if clock.isValid then some (clock, rest) else none

/-- The distance to universal time at the head of a text, if one stands there. -/
def ahead (text : Text) : Option Int × Text :=
  let signed (sign : Int) (rest : Text) : Option (Option Int × Text) := do
    let (hour, rest) ← fixed? 2 rest
    let (minute, rest) ← fixed? 2 (← Text.dropPrefix? [':'] rest)
    if hour < 24 ∧ minute < 60 then some (some (sign * (60 * hour + minute)), rest) else none
  match text with
  | 'Z' :: rest => (some 0, rest)
  | 'z' :: rest => (some 0, rest)
  | '+' :: rest => (signed 1 rest).getD (none, text)
  | '-' :: rest => (signed (-1) rest).getD (none, text)
  | _ => (none, text)

/-- A day at the head of a text, the year of four digits, the month from 1 to 12 and the day from 1
to 31. -/
def date? (text : Text) : Option (Date × Text) := do
  let (year, rest) ← fixed? 4 text
  let (month, rest) ← fixed? 2 (← Text.dropPrefix? ['-'] rest)
  let (day, rest) ← fixed? 2 (← Text.dropPrefix? ['-'] rest)
  if 1 ≤ month ∧ month ≤ 12 ∧ 1 ≤ day ∧ day ≤ 31 then some (⟨year, month, day⟩, rest) else none

/-- A day, with a time of day if one follows, at the head of a text. -/
def moment? (text : Text) : Option (Except Fault Value × Text) := do
  let (date, rest) ← date? text
  let checked (v : Text) : Except Fault Value :=
    if date.isValid then .ok (.moment v) else .error .malformed
  let withClock : Option (Except Fault Value × Text) := do
    let separator ← rest.head?
    if separator == 'T' || separator == 't' || separator == ' ' then
      let (clock, rest) ← clock? rest.tail
      let (minutes, rest) := ahead rest
      some (checked (Moment.render ⟨date, clock, minutes⟩), rest)
    else none
  some (withClock.getD (checked date.render, rest))

/-- Digits with single low lines between them, at the head of a text: all they write, and the
rest. -/
def digits? (p : Char → Bool) : Text → Option (Text × Text)
  | [] => none
  | c :: cs => if p c then some (more c cs) else none
where
  /-- What follows a digit. -/
  more (c : Char) : Text → Text × Text
    | [] => ([c], [])
    | '_' :: d :: cs =>
      if p d then
        let (run, rest) := more d cs
        (c :: run, rest)
      else ([c], '_' :: d :: cs)
    | d :: cs =>
      if p d then
        let (run, rest) := more d cs
        (c :: run, rest)
      else ([c], d :: cs)

/-- An integer in one of the bases that are told by a letter, after the zero. -/
def based? (text : Text) : Option (Nat × Text) := do
  match text with
  | 'x' :: rest =>
    let (run, rest) ← digits? (fun c => (hexValue? c).isSome) rest
    some (numeral 16 run, rest)
  | 'b' :: rest =>
    let (run, rest) ← digits? (fun c => c == '0' || c == '1') rest
    some (numeral 2 run, rest)
  | 'o' :: rest =>
    let (run, rest) ← digits? (fun c => '0' ≤ c && c ≤ '7') rest
    some (numeral 8 run, rest)
  | _ => none

/-- The most digits that an integer may have. -/
def maxDigits : Nat := 4300

/-- The fraction at the head of a text: its digits, and the rest. -/
def fraction (text : Text) : Text × Text :=
  match text with
  | '.' :: rest => (digits? Char.isDigit rest).getD ([], text)
  | _ => ([], text)

/-- The exponent at the head of a text, if there is one, and the rest. -/
def exponent (text : Text) : Option Int × Text :=
  let after (sign : Int) (rest : Text) : Option Int × Text :=
    match digits? Char.isDigit rest with
    | some (run, rest) => (some (sign * numeral 10 run), rest)
    | none => (none, text)
  match text with
  | e :: '-' :: rest => if e == 'e' || e == 'E' then after (-1) rest else (none, text)
  | e :: '+' :: rest => if e == 'e' || e == 'E' then after 1 rest else (none, text)
  | e :: rest => if e == 'e' || e == 'E' then after 1 rest else (none, text)
  | [] => (none, text)

/-- A number in base ten at the head of a text, after its sign. -/
def decimal? (negative : Bool) (text : Text) : Option (Except Fault Value × Text) := do
  let (whole, rest) ←
    match text with
    | '0' :: rest => some (['0'], rest)
    | _ => digits? Char.isDigit text
  let (part, rest) := fraction rest
  let (power, rest) := exponent rest
  if part.isEmpty ∧ power.isNone then
    let n : Int := numeral 10 whole
    let v : Except Fault Value :=
      if maxDigits < whole.length then .error .numberTooLong
      else .ok (.int (if negative then -n else n))
    some (v, rest)
  else
    let x := Binary64.ofDecimal negative (numeral 10 (whole ++ part))
      (power.getD 0 - part.length)
    some (.ok (.float x), rest)

/-- A number, or one of the names of special ones, at the head of a text. -/
def number? (text : Text) : Option (Except Fault Value × Text) :=
  let signed (negative : Bool) (rest : Text) : Option (Except Fault Value × Text) :=
    match decimal? negative rest with
    | some found => some found
    | none =>
      match Text.dropPrefix? "inf".toList rest, Text.dropPrefix? "nan".toList rest with
      | some rest, _ => some (.ok (.float (.infinite negative)), rest)
      | none, some rest => some (.ok (.float .nan), rest)
      | none, none => none
  match text with
  | '+' :: rest => signed false rest
  | '-' :: rest => signed true rest
  | '0' :: rest =>
    match based? rest with
    | some (n, rest) => some (.ok (.int n), rest)
    | none => signed false text
  | _ => signed false text

/-- A truth value at the head of a text. -/
def bool? (text : Text) : Option (Except Fault Value × Text) :=
  match Text.dropPrefix? "true".toList text, Text.dropPrefix? "false".toList text with
  | some rest, _ => some (.ok (.bool true), rest)
  | none, some rest => some (.ok (.bool false), rest)
  | none, none => none

/-- A time of day at the head of a text, as a value. -/
def time? (text : Text) : Option (Except Fault Value × Text) :=
  (clock? text).map fun (clock, rest) => (.ok (.moment clock.render), rest)

/-- A value that is no string, list or table. -/
def readScalar : Reader Value := do
  let text ← get
  match (bool? text).or ((moment? text).or ((time? text).or (number? text))) with
  | some (v, rest) =>
    set rest
    v
  | none => refuse

end CjkProse.Toml
