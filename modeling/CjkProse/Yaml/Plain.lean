import CjkProse.Number.Moment
import CjkProse.Yaml.Scalar

/-!
# The meaning of plain texts in YAML

A text that stands without quotation marks may be a truth value, a number, a time or null, by the
way it is written.

## Main definitions

* `Tag` — what a node is told to be.
* `plainTag` — what a plain text is.
* `intOf`, `floatOf`, `momentOf` — the numbers and times that texts write.
-/

namespace CjkProse.Yaml

/-- What a node is told to be. -/
inductive Tag
  /-- Null. -/
  | null
  /-- A truth value. -/
  | bool
  /-- An integer. -/
  | int
  /-- A floating-point number. -/
  | float
  /-- Bytes, written in base 64. -/
  | binary
  /-- A day or a time. -/
  | timestamp
  /-- A list of pairs with different keys. -/
  | omap
  /-- A list of pairs. -/
  | pairs
  /-- A set. -/
  | set
  /-- A text. -/
  | str
  /-- A list. -/
  | seq
  /-- A mapping. -/
  | map
  /-- The key under which other mappings are merged into one. -/
  | merge
  /-- The key of the value that stands for a whole mapping. -/
  | value
  /-- Something else. -/
  | other
  deriving DecidableEq, Repr, Inhabited

/-- The names of the tags that mean something. -/
def tagNames : List (String × Tag) := [
  ("null", .null), ("bool", .bool), ("int", .int), ("float", .float), ("binary", .binary),
  ("timestamp", .timestamp), ("omap", .omap), ("pairs", .pairs), ("set", .set), ("str", .str),
  ("seq", .seq), ("map", .map), ("merge", .merge), ("value", .value)]

/-- What the names of tags begin with. -/
def tagSpace : Text := "tag:yaml.org,2002:".toList

/-- The tag that is written out in full. -/
def Tag.ofText (t : Text) : Tag :=
  match Text.dropPrefix? tagSpace t with
  | none => .other
  | some name => ((tagNames.find? fun e => e.1.toList == name).map Prod.snd).getD .other

/-! ### Shapes of plain texts -/

/-- A text without its sign. -/
def unsigned : Text → Text
  | '+' :: rest => rest
  | '-' :: rest => rest
  | text => text

/-- The characters of numbers: digits, and low lines between them. -/
def isDigitMark (c : Char) : Bool := c.isDigit || c == '_'

/-- The parts of a number in base 60 after the first one, each of one or two digits. -/
def isSexagesimal (part : Text) : Bool :=
  match part with
  | [a] => a.isDigit
  | [a, b] => '0' ≤ a && a ≤ '5' && b.isDigit
  | _ => false

/-- Whether digits begin a text and low lines may follow. -/
def startsDecimal (text : Text) : Bool := text.head?.any Char.isDigit && text.all isDigitMark

/-- Whether a text is an integer. -/
def isInt (text : Text) : Bool :=
  match unsigned text with
  | ['0'] => true
  | '0' :: 'b' :: rest => !rest.isEmpty && rest.all fun c => c == '0' || c == '1' || c == '_'
  | '0' :: 'x' :: rest => !rest.isEmpty && rest.all fun c => (hexValue? c).isSome || c == '_'
  | '0' :: rest => rest.all fun c => ('0' ≤ c && c ≤ '7') || c == '_'
  | rest =>
    match Text.splitOn ':' rest with
    | first :: others => startsDecimal first && others.all isSexagesimal
    | [] => false

/-- Whether a text is an exponent, or empty. -/
def isExponent : Text → Bool
  | [] => true
  | e :: sign :: digits =>
    (e == 'e' || e == 'E') && (sign == '+' || sign == '-') && !digits.isEmpty &&
      digits.all Char.isDigit
  | _ => false

/-- Whether a text is a fraction after the point, with an exponent or without. -/
def isFraction (text : Text) : Bool := isExponent (text.dropWhile isDigitMark)

/-- Whether a text is a number with a point, or one of the special ones. -/
def isFloat (text : Text) : Bool :=
  let body := unsigned text
  let special :=
    ["inf", "Inf", "INF"].any fun s => body == '.' :: s.toList
  let noNumber := ["nan", "NaN", "NAN"].any fun s => text == '.' :: s.toList
  let whole := body.takeWhile (· != '.')
  let pointed :=
    match body.drop whole.length with
    | '.' :: rest =>
      if whole.isEmpty then
        text.head? == some '.' && rest.head?.any Char.isDigit && isFraction rest
      else
        match Text.splitOn ':' whole with
        | [_] => startsDecimal whole && isFraction rest
        | first :: others =>
          startsDecimal first && others.all isSexagesimal && rest.all isDigitMark
        | [] => false
    | _ => false
  special || noNumber || pointed

/-! ### Times -/

/-- The number of one to two digits, or of exactly two, at the head of a text. -/
def twoDigits? (exact : Bool) (text : Text) : Option (Nat × Text) :=
  match text with
  | a :: b :: rest =>
    if a.isDigit && b.isDigit then some (numeral 10 [a, b], rest)
    else if a.isDigit && !exact then some (numeral 10 [a], b :: rest)
    else none
  | [a] => if a.isDigit && !exact then some (numeral 10 [a], []) else none
  | [] => none

/-- A day at the head of a text. -/
def date? (text : Text) : Option (Date × Text) := do
  let year := text.take 4
  if year.length = 4 ∧ year.all Char.isDigit then
    let (month, rest) ← twoDigits? false (← Text.dropPrefix? ['-'] (text.drop 4))
    let (day, rest) ← twoDigits? false (← Text.dropPrefix? ['-'] rest)
    some (⟨numeral 10 year, month, day⟩, rest)
  else none

/-- What stands between a day and a time of day. -/
def afterGap? (text : Text) : Option Text :=
  match text with
  | 'T' :: rest => some rest
  | 't' :: rest => some rest
  | c :: rest => if isBlank c then some (rest.dropWhile isBlank) else none
  | [] => none

/-- The distance to universal time, in minutes, that a whole text is; an empty one tells none. -/
def ahead? (text : Text) : Option (Option Int) :=
  let signed (sign : Int) (rest : Text) : Option (Option Int) := do
    let (hour, rest) ← twoDigits? false rest
    if rest.isEmpty then some (some (sign * (60 * hour : Nat)))
    else
      let (minute, rest) ← twoDigits? true (← Text.dropPrefix? [':'] rest)
      if rest.isEmpty then some (some (sign * (60 * hour + minute : Nat))) else none
  if text.isEmpty then some none
  else
    match text.dropWhile isBlank with
    | ['Z'] => some (some 0)
    | '+' :: rest => signed 1 rest
    | '-' :: rest => signed (-1) rest
    | _ => none

/-- A time that a whole text is: a day, and a time of day if one follows. -/
def moment? (text : Text) : Option (Date × Option (Clock × Option Int)) := do
  let (date, rest) ← date? text
  if rest.isEmpty then some (date, none)
  else
    let (hour, rest) ← twoDigits? false (← afterGap? rest)
    let (minute, rest) ← twoDigits? true (← Text.dropPrefix? [':'] rest)
    let (second, rest) ← twoDigits? true (← Text.dropPrefix? [':'] rest)
    let (fraction, rest) :=
      match rest with
      | '.' :: rest => (rest.takeWhile Char.isDigit, rest.dropWhile Char.isDigit)
      | _ => ([], rest)
    let ahead ← ahead? rest
    some (date, some (⟨hour, minute, second, Clock.microsOf fraction⟩, ahead))

/-- Whether a plain text is a time.  A day by itself has all of its digits. -/
def isMoment (text : Text) : Bool :=
  match moment? text with
  | none => false
  | some (_, some _) => true
  | some (_, none) => text.length == 10

/-! ### Tags of plain texts -/

/-- The plain texts that are truth values, in lower case. -/
def boolOf? (text : Text) : Option Bool :=
  let t := String.ofList (Text.lowerAscii text)
  if t == "yes" || t == "true" || t == "on" then some true
  else if t == "no" || t == "false" || t == "off" then some false
  else none

/-- Whether letters are all small, all capital, or capital at the start. -/
def isCased (text : Text) : Bool :=
  text == Text.lowerAscii text || text.all Char.isUpper ||
    (text.head?.any Char.isUpper && text.tail == Text.lowerAscii text.tail)

/-- What a plain text is. -/
def plainTag (text : Text) : Tag :=
  if (boolOf? text).isSome && isCased text then .bool
  else if isFloat text then .float
  else if isInt text then .int
  else if text == "<<".toList then .merge
  else if text.isEmpty || text == ['~'] ||
      (Text.lowerAscii text == "null".toList && isCased text) then .null
  else if isMoment text then .timestamp
  else if text == ['='] then .value
  else .str

/-! ### Values -/

/-- A text without low lines. -/
def withoutLines (text : Text) : Text := text.filter (· != '_')

/-- Whether a text has a minus sign. -/
def isNegative (text : Text) : Bool := text.head? == some '-'

/-- The digits of an integer may be so many. -/
def maxDigits : Nat := 4300

/-- The number that digits of a base write; blanks may surround them. -/
def digits? (base : Nat) (text : Text) : Option Nat :=
  let digits := text.trimBlank
  if digits.isEmpty || (base == 10 && maxDigits < digits.length) then none
  else if digits.all fun c => (hexValue? c).any (· < base) then some (numeral base digits)
  else none

/-- The number that parts in base 60 write. -/
def sexagesimal? (parts : List Text) : Option Nat :=
  parts.foldl (fun n part => do return 60 * (← n) + (← digits? 10 part)) (some 0)

/-- The integer that a text writes. -/
def intOf (text : Text) : Except ValueFault Int :=
  let text := withoutLines text
  let body := unsigned text
  let magnitude :=
    if body == ['0'] then some 0
    else
      match body with
      | '0' :: 'b' :: rest => digits? 2 rest
      | '0' :: 'x' :: rest => digits? 16 rest
      | '0' :: rest => digits? 8 rest
      | _ => if body.contains ':' then sexagesimal? (Text.splitOn ':' body) else digits? 10 body
  if body.isEmpty then .error .emptyNumber
  else
    match magnitude with
    | some n => .ok (if isNegative text then -n else n)
    | none => .error .notNumber

/-- The number that a text with a point or an exponent writes, without a sign. -/
def decimal? (text : Text) : Option Binary64 :=
  let whole := text.takeWhile Char.isDigit
  let rest := text.drop whole.length
  let fraction :=
    match rest with
    | '.' :: rest => rest.takeWhile Char.isDigit
    | _ => []
  let rest := if rest.head? = some '.' then rest.drop (fraction.length + 1) else rest
  let exponent : Option Int :=
    match rest with
    | [] => some 0
    | 'e' :: '-' :: digits => (digits? 10 digits).map fun n => -n
    | 'e' :: '+' :: digits => (digits? 10 digits).map fun n => n
    | 'e' :: digits => (digits? 10 digits).map fun n => n
    | _ => none
  if whole.isEmpty && fraction.isEmpty then none
  else exponent.map fun e => .ofDecimal false (numeral 10 (whole ++ fraction)) (e - fraction.length)

/-- The names of special numbers, for a text that is told to be a number. -/
def named? (text : Text) : Option Binary64 :=
  if text == "inf".toList || text == "infinity".toList then some (.infinite false)
  else if text == "nan".toList then some .nan
  else none

/-- A number of base 60, after the sum of its last parts; the next part counts `base` times. -/
def sexagesimalFloat? (sum : Binary64) (base : Nat) : List Text → Option Binary64
  | [] => some sum
  | part :: parts =>
    match (decimal? part.trimBlank).or (named? part.trimBlank) with
    | none => none
    | some (.finite _ m e) =>
      let (num, den) := Binary64.ratio m e
      sexagesimalFloat? (sum.add (.ofRatio false (num * base) den)) (60 * base) parts
    | some x => sexagesimalFloat? (sum.add x) (60 * base) parts

/-- The floating-point number that a text writes. -/
def floatOf (text : Text) : Except ValueFault Binary64 :=
  let text := Text.lowerAscii (withoutLines text)
  let body := unsigned text
  let magnitude :=
    if body == ".inf".toList then some (.infinite false)
    else if body == ".nan".toList then some .nan
    else if body.contains ':' then 
      sexagesimalFloat? (.finite false 0 Binary64.minExponent) 1 (Text.splitOn ':' body).reverse
    else
      let body := body.trimBlank
      (decimal? body).or (named? body)
  if body.isEmpty then .error .emptyNumber
  else
    match magnitude with
    | some x => .ok (if isNegative text then x.negate else x)
    | none => .error .notNumber

/-- The minutes of a day. -/
def dayMinutes : Int := 24 * 60

/-- The time that a text writes, as it is shown. -/
def momentOf (text : Text) : Except ValueFault Text :=
  match moment? text with
  | none => .error .notTime
  | some (date, none) => if date.isValid then .ok date.render else .error .notNumber
  | some (date, some (clock, ahead)) =>
    let near := ahead.all fun n => -dayMinutes < n && n < dayMinutes
    if date.isValid && clock.isValid && near then .ok (Moment.render ⟨date, clock, ahead⟩)
    else .error .notNumber

end CjkProse.Yaml
