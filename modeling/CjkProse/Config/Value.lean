import CjkProse.Number.Binary64
import CjkProse.Text.Quoted

/-!
# Values of settings files

A settings file holds a value made up of texts, numbers, lists and mappings.  Only some of these
values mean anything as a setting; the others are kept so that they can be refused by name.

## Main definitions

* `Value` — the values.
* `ValueFault` — why there is no value.
* `Value.isVoid` — the values that stand for nothing having been said.
* `Value.isPlain` — the values that are neither lists nor mappings.
* `Value.isWithin` — the values that nest no more than so deeply.
* `Value.label` — a plain value as text; `Value.isShown` tells the values that have one.
-/

namespace CjkProse

/-- Why a value that is told to be something cannot be made. -/
inductive ValueFault
  /-- What is told to be a number or a time is none, or a number has too many digits. -/
  | notNumber
  /-- A number is too large to be a code point. -/
  | tooLarge
  /-- What is told to be a truth value is none. -/
  | notBool
  /-- What is told to be a number is empty. -/
  | emptyNumber
  /-- What is told to be a time is written in no such way. -/
  | notTime
  deriving DecidableEq, Repr, Inhabited

/-- A value of a settings file. -/
inductive Value
  /-- No value. -/
  | null
  /-- A truth value. -/
  | bool (b : Bool)
  /-- An integer. -/
  | int (n : Int)
  /-- A floating-point number. -/
  | float (x : Binary64)
  /-- A text. -/
  | text (t : Text)
  /-- Raw bytes. -/
  | bytes (bs : List UInt8)
  /-- A date or a time, as it is shown. -/
  | moment (shown : Text)
  /-- A list. -/
  | list (items : List Value)
  /-- A set, in the order in which its members are written. -/
  | set (members : List Value)
  /-- A mapping, in the order in which its keys are written. -/
  | map (entries : List (Value × Value))
  deriving Repr, Inhabited

namespace Value

/-- Whether a value stands for nothing having been said. -/
def isVoid : Value → Bool
  | null => true
  | bool b => !b
  | int n => n == 0
  | float x => x.isZero
  | text t => t.isEmpty
  | bytes bs => bs.isEmpty
  | moment _ => false
  | list items => items.isEmpty
  | set members => members.isEmpty
  | map entries => entries.isEmpty

/-- Whether a value is neither a list nor a set nor a mapping. -/
def isPlain : Value → Bool
  | list _ => false
  | set _ => false
  | map _ => false
  | _ => true

/-- Whether lists, sets and mappings stand within one another no more than so deeply. -/
def isWithin : Nat → Value → Bool
  | 0, v => v.isPlain
  | n + 1, list items => items.all (isWithin n)
  | n + 1, set members => members.all (isWithin n)
  | n + 1, map entries => entries.all fun entry => isWithin n entry.1 && isWithin n entry.2
  | _ + 1, _ => true

/-- The text that a value is. -/
def text? : Value → Option Text
  | text t => some t
  | _ => none

/-- The texts that a list consists of. -/
def texts? : Value → Option (List Text)
  | list items => items.mapM text?
  | _ => none

/-- A byte as it is shown within quotation marks of the sort `mark`. -/
def byteLabel (mark : Char) (b : UInt8) : Text :=
  let c := Char.ofNat b.toNat
  let hex (n : Nat) : Char := Char.ofNat (if n < 10 then 0x30 + n else 0x57 + n)
  if c == mark || c == '\\' then ['\\', c]
  else if c == '\n' then ['\\', 'n']
  else if c == '\r' then ['\\', 'r']
  else if c == '\t' then ['\\', 't']
  else if 0x20 ≤ b.toNat && b.toNat < 0x7F then [c]
  else ['\\', 'x', hex (b.toNat / 16), hex (b.toNat % 16)]

/-- Bytes as they are shown: within single quotation marks, unless there are such among them and no
double ones. -/
def bytesLabel (bs : List UInt8) : Text :=
  let mark := if bs.contains 0x27 && !bs.contains 0x22 then '"' else '\''
  'b' :: mark :: bs.flatMap (byteLabel mark) ++ [mark]

/-- The digits of an integer that is shown may be so many. -/
def maxDigits : Nat := 4300

/-- Whether a plain value can be shown.  Only an integer may be too long for it. -/
def isShown : Value → Bool
  | int n => (Text.ofNat n.natAbs).length ≤ maxDigits
  | _ => true

/-- A plain value as it is shown. -/
def label : Value → Text
  | null => "None".toList
  | bool b => (if b then "True" else "False").toList
  | int n => Text.ofInt n
  | float x => x.render
  | text t => t
  | bytes bs => bytesLabel bs
  | moment shown => shown
  | list _ => []
  | set _ => []
  | map _ => []

end Value

end CjkProse
