import CjkProse.Text.Basic

/-!
# Name patterns

A pattern for the names of files: a star stands for any characters, a question mark for one, and a
set in square brackets for one of its members.  A set that starts with an exclamation mark stands
for one of the other characters.  A bracket that is not closed stands for itself.

## Main definitions

* `CharSet` — what one character of a name may be.
* `CharSet.ofText` — the set that is written between two brackets.
* `NamePattern.ofText`, `NamePattern.accepts` — patterns, and what they stand for.
-/

namespace CjkProse

/-- A set of characters, or all but those. -/
structure CharSet where
  /-- Whether the set is that of the characters in none of the ranges. -/
  negated : Bool
  /-- Ranges, by their first and last characters. -/
  ranges : List (Char × Char)
  deriving DecidableEq, Repr, Inhabited

namespace CharSet

/-- The set of all characters. -/
def all : CharSet := ⟨true, []⟩

/-- The set of one character. -/
def single (c : Char) : CharSet := ⟨false, [(c, c)]⟩

/-- Whether a character belongs to a set. -/
def holds (s : CharSet) (c : Char) : Bool :=
  (s.ranges.any fun r => r.1.toNat ≤ c.toNat && c.toNat ≤ r.2.toNat) != s.negated

/-- A beginning of at least `least` characters up to the next hyphen, and what follows this. -/
def cutHyphen (least : Nat) (t : Text) : Text × Option Text :=
  match (t.drop least).findIdx? (· == '-') with
  | none => (t, none)
  | some n => (t.take (least + n), some (t.drop (least + n + 1)))

/-- The pieces between the hyphens that make ranges.  A hyphen at either end makes none, nor does
one right after a range. -/
def pieces : Nat → Nat → Text → List Text
  | 0, _, t => [t]
  | fuel + 1, least, t =>
    match cutHyphen least t with
    | (piece, none) => [piece]
    | (piece, some []) => [piece ++ ['-']]
    | (piece, some (c :: cs)) => piece :: pieces fuel 2 (c :: cs)

/-- Leaves out the ranges that end before they start. -/
def dropEmptyRanges : List Text → List Text
  | [] => []
  | piece :: rest =>
    match dropEmptyRanges rest with
    | [] => [piece]
    | next :: others =>
      if (next.head?.getD '\x00').toNat < (piece.getLast?.getD '\x00').toNat then
        (piece.dropLast ++ next.tail) :: others
      else piece :: next :: others

/-- The ranges between the ends of successive pieces. -/
def joints : List Text → List (Char × Char)
  | [] => []
  | [_] => []
  | piece :: next :: rest =>
    match piece.getLast?, next.head? with
    | some a, some b => (a, b) :: joints (next :: rest)
    | _, _ => joints (next :: rest)

/-- The set that some pieces make. -/
def ofPieces (negated : Bool) (ps : List Text) : CharSet :=
  ⟨negated, joints ps ++ ps.flatten.map fun c => (c, c)⟩

/-- The set that is written between two brackets. -/
def ofText (t : Text) : CharSet :=
  match dropEmptyRanges (pieces t.length (if t.head? == some '!' then 2 else 1) t) with
  | ('!' :: piece) :: rest => ofPieces true (piece :: rest)
  | ps => ofPieces false ps

end CharSet

/-- A piece of a pattern for names. -/
inductive NamePiece
  /-- Any characters. -/
  | any
  /-- One character of a set. -/
  | one (set : CharSet)
  deriving DecidableEq, Repr, Inhabited

/-- A pattern for names. -/
abbrev NamePattern := List NamePiece

namespace NamePattern

/-- The length of the set that a text starts with, when its opening bracket is left out and there is
a closing one.  The first member of a set may be a closing bracket. -/
def setLength? (t : Text) : Option Nat :=
  let least := if t.head? == some '!' then 1 else 0
  let least := if (t.drop least).head? == some ']' then least + 1 else least
  ((t.drop least).findIdx? (· == ']')).map (least + ·)

/-- The pieces of a text, of which the first `skip` characters have been read. -/
def readFrom : Nat → Text → NamePattern
  | _, [] => []
  | skip + 1, _ :: cs => readFrom skip cs
  | 0, c :: cs =>
    if c == '*' then .any :: readFrom 0 cs
    else if c == '?' then .one .all :: readFrom 0 cs
    else if c == '[' then
      match setLength? cs with
      | none => .one (.single c) :: readFrom 0 cs
      | some n => .one (.ofText (cs.take n)) :: readFrom (n + 1) cs
    else .one (.single c) :: readFrom 0 cs

/-- The pattern that a text writes. -/
def ofText (t : Text) : NamePattern := readFrom 0 t

/-- Whether one of the endings of a text passes a test. -/
def anyEnding (test : Text → Bool) : Text → Bool
  | [] => test []
  | c :: cs => test (c :: cs) || anyEnding test cs

/-- Whether a pattern stands for a name. -/
def accepts : NamePattern → Text → Bool
  | [], t => t.isEmpty
  | .any :: ps, t => anyEnding (accepts ps) t
  | .one _ :: _, [] => false
  | .one set :: ps, c :: cs => set.holds c && accepts ps cs

example : accepts (ofText "*.[!a-c]d".toList) "x.y.zd".toList = true := by decide

example : accepts (ofText "[]-]?".toList) "-[".toList = true := by decide

example : accepts (ofText "[z-a]".toList) "z".toList = false := by decide

end NamePattern

end CjkProse
