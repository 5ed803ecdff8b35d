import CjkProse.Unicode.Category

/-!
# Identifiers and decimal numbers

Which texts are identifiers: a letter, a letter-like number or a low line, and after it also digits,
marks and connecting punctuation.  The classes follow the general category, up to a list of
characters that differ.

## Main definitions

* `isIdentifier` — whether a text is an identifier.
* `digitValue?` — the value of a decimal digit of any script.
* `decimal?` — the natural number that a run of digits writes.
-/

namespace CjkProse.Unicode

/-- Ranges of code points. -/
abbrev Ranges := List (Nat × Nat)

/-- Whether one of some ranges holds the code point `n`. -/
def Ranges.hold (ranges : Ranges) (n : Nat) : Bool := ranges.any fun r => r.1 ≤ n && n ≤ r.2

/-- Characters that are no letters and may start an identifier. -/
def extraStarts : Ranges := [
  (0x5F, 0x5F), (0x16EE, 0x16F0), (0x1885, 0x1886), (0x2118, 0x2118), (0x212E, 0x212E),
  (0x2160, 0x2182), (0x2185, 0x2188), (0x3007, 0x3007), (0x3021, 0x3029), (0x3038, 0x303A),
  (0xA6E6, 0xA6EF), (0x10140, 0x10174), (0x10341, 0x10341), (0x1034A, 0x1034A),
  (0x103D1, 0x103D5), (0x12400, 0x1246E)]

/-- Letters that no identifier holds, since their compatibility form begins with a space or a
mark. -/
def barredLetters : Ranges := [
  (0x37A, 0x37A), (0x2E2F, 0x2E2F), (0xFC5E, 0xFC63), (0xFDFA, 0xFDFB), (0xFE70, 0xFE70),
  (0xFE72, 0xFE72), (0xFE74, 0xFE74), (0xFE76, 0xFE76), (0xFE78, 0xFE78), (0xFE7A, 0xFE7A),
  (0xFE7C, 0xFE7C), (0xFE7E, 0xFE7E)]

/-- Letters that an identifier may hold but not start with. -/
def innerLetters : Ranges := [(0xE33, 0xE33), (0xEB3, 0xEB3), (0xFF9E, 0xFF9F)]

/-- Characters that are no letters, digits or marks and may stand within an identifier. -/
def extraInner : Ranges := [
  (0xB7, 0xB7), (0x387, 0x387), (0x1369, 0x1371), (0x19DA, 0x19DA), (0x203F, 0x2040),
  (0x2054, 0x2054), (0xFE33, 0xFE34), (0xFE4D, 0xFE4F), (0xFF3F, 0xFF3F)]

/-- The marks that enclose a letter, which no identifier holds. -/
def enclosingMarks : Ranges := [
  (0x488, 0x489), (0x1ABE, 0x1ABE), (0x20DD, 0x20E0), (0x20E2, 0x20E4), (0xA670, 0xA672)]

/-- Whether a character may start an identifier. -/
def startsIdentifier (c : Char) : Bool :=
  let n := c.toNat
  extraStarts.hold n ||
    (Category.of c == .letter && !barredLetters.hold n && !innerLetters.hold n)

/-- Whether a character may stand within an identifier. -/
def continuesIdentifier (c : Char) : Bool :=
  let n := c.toNat
  startsIdentifier c || innerLetters.hold n || extraInner.hold n || Category.of c == .digit ||
    (Category.of c == .mark && !enclosingMarks.hold n)

/-- Whether a text is an identifier. -/
def isIdentifier : List Char → Bool
  | [] => false
  | c :: cs => startsIdentifier c && cs.all continuesIdentifier

/-- The value of a decimal digit.  The digits of a script follow each other from zero on. -/
def digitValue? (c : Char) : Option Nat :=
  let n := c.toNat
  match categoryPages.find? fun page => n ≤ page.1 with
  | none => none
  | some page =>
    match page.2.find? fun run => run.1 ≤ n && n ≤ run.2.1 with
    | some (first, _, .digit) => some ((n - first) % 10)
    | _ => none

/-- The number that digits write after `acc`. -/
def decimalFrom? (acc : Nat) : List Char → Option Nat
  | [] => some acc
  | c :: cs =>
    match digitValue? c with
    | none => none
    | some d => decimalFrom? (10 * acc + d) cs

/-- The number that a run of digits writes, if it is one. -/
def decimal? : List Char → Option Nat
  | [] => none
  | c :: cs => decimalFrom? 0 (c :: cs)

example : isIdentifier "忽略_1".toList = true ∧ isIdentifier "1a".toList = false := by decide

example : decimal? "１2".toList = some 12 := by decide

end CjkProse.Unicode
