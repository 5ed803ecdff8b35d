import CjkProse.Text.Basic
import CjkProse.Unicode.Case

/-!
# Patterns

A pattern describes pieces of text.  Letter case and the reach of the classes of characters are
settled where a pattern is read, so each part of a pattern means the same wherever it stands.

## Main definitions

* `CharSet` — a set of characters; `CharSet.holds` decides it.
* `Anchor` — a condition on a place in a text.
* `Pattern` — the patterns.
* `Pattern.width` — the least and the greatest length of what a pattern matches.
-/

namespace CjkProse

namespace Pattern

/-! ### Sets of characters -/

/-- Classes of characters that have a name of their own. -/
inductive CharClass
  /-- Decimal digits. -/
  | digit
  /-- Blank characters. -/
  | blank
  /-- Letters, numbers and the low line. -/
  | word
  deriving DecidableEq, Repr, Inhabited

/-- Whether a class holds a character; with `ascii`, only ASCII characters are in any class. -/
def CharClass.holds (ascii : Bool) (c : Char) : CharClass → Bool
  | digit => if ascii then c.isDigit else Unicode.Category.of c == .digit
  | blank =>
    if ascii then c == ' ' || (0x9 ≤ c.toNat && c.toNat ≤ 0xD) else Unicode.isBlank c
  | word => if ascii then c.isAlphanum || c == '_' else Unicode.isAlnum c || c == '_'

/-- What a set of characters is made up of. -/
inductive SetItem
  /-- The code points from `first` to `last`. -/
  | range (first last : Nat)
  /-- A class, or all that is outside of it. -/
  | named (charClass : CharClass) (negated : Bool)
  deriving DecidableEq, Repr, Inhabited

/-- A set of characters. -/
structure CharSet where
  /-- Whether it holds what is in none of the items. -/
  negated : Bool
  /-- The items. -/
  items : List SetItem
  /-- Whether letters are told apart only up to case. -/
  ignoreCase : Bool
  /-- Whether classes and case go no further than ASCII. -/
  ascii : Bool
  deriving DecidableEq, Repr, Inhabited

/-- The code points of which the letter of code point `n` is the lower-case form. -/
def raisedForms (n : Nat) : List Nat :=
  Unicode.lowerRuns.filterMap fun r =>
    let m : Int := n - r.2.2.2
    if 0 ≤ m ∧ r.holds m.toNat then some m.toNat else none

/-- The code points of the letters that are the same as `c` up to case. -/
def caseForms (ascii : Bool) (c : Char) : List Nat :=
  if ascii then [c.toLower.toNat, c.toUpper.toNat]
  else
    let n := (Unicode.lowerChar c).toNat
    let lower := (Unicode.caseClasses.find? fun g => g.contains n).getD [n]
    lower ++ lower.flatMap raisedForms

/-- Whether an item of a set holds a character. -/
def SetItem.holds (ignoreCase ascii : Bool) (c : Char) : SetItem → Bool
  | range first last =>
    if ignoreCase then (caseForms ascii c).any fun n => first ≤ n && n ≤ last
    else first ≤ c.toNat && c.toNat ≤ last
  | named k negated => k.holds ascii c != negated

/-- Whether a set holds a character. -/
def CharSet.holds (s : CharSet) (c : Char) : Bool :=
  (s.items.any fun item => item.holds s.ignoreCase s.ascii c) != s.negated

/-! ### Patterns -/

/-- A condition on a place in a text. -/
inductive Anchor
  /-- The start of the text. -/
  | textStart
  /-- The end of the text. -/
  | textEnd
  /-- The start of a line. -/
  | lineStart
  /-- The end of a line. -/
  | lineEnd
  /-- The end of the text, or the place before a line feed that ends it. -/
  | lastLineEnd
  /-- A place between a word character and another one, or (`inner`) not between two such. -/
  | wordEdge (inner ascii : Bool)
  deriving DecidableEq, Repr, Inhabited

/-- How often a repeated part is tried. -/
inductive Greed
  /-- As often as it matches, and then less often. -/
  | greedy
  /-- As seldom as may be, and then more often. -/
  | lazy
  /-- As often as it matches, and never less often. -/
  | possessive
  deriving DecidableEq, Repr, Inhabited

end Pattern

open Pattern in
/-- A pattern. -/
inductive Pattern
  /-- The empty text. -/
  | empty
  /-- One character of a set. -/
  | one (set : Pattern.CharSet)
  /-- The empty text at certain places. -/
  | anchor (anchor : Anchor)
  /-- One pattern after another. -/
  | seq (first second : Pattern)
  /-- One pattern, or else another. -/
  | alt (first second : Pattern)
  /-- A pattern the match of which is kept under a number. -/
  | capture (index : Nat) (body : Pattern)
  /-- What was kept under a number, once more. -/
  | again (index : Nat) (ignoreCase ascii : Bool)
  /-- The empty text where a pattern matches, or does not match, what follows. -/
  | ahead (negated : Bool) (body : Pattern)
  /-- The empty text where a pattern matches, or does not match, so many characters before. -/
  | behind (negated : Bool) (width : Nat) (body : Pattern)
  /-- One of two patterns, by whether something is kept under a number. -/
  | given (index : Nat) (yes no : Pattern)
  /-- The first match of a pattern and no other. -/
  | atomic (body : Pattern)
  /-- A pattern some times over, without a limit if `most` is `none`. -/
  | many (least : Nat) (most : Option Nat) (greed : Greed) (body : Pattern)
  deriving DecidableEq, Repr, Inhabited

namespace Pattern

/-- A character. -/
def ofCode (ignoreCase ascii : Bool) (n : Nat) : Pattern :=
  one ⟨false, [.range n n], ignoreCase, ascii⟩

/-! ### Widths -/

/-- The least and the greatest number of characters of a match. -/
abbrev Width := Nat × Nat

/-- A length that no match has. -/
def endless : Nat := Nat.pow 2 64

/-- The width of what is matched several times over. -/
def Width.times (least : Nat) (most : Option Nat) (w : Width) : Width :=
  (w.1 * least,
    match most with
    | some n => w.2 * n
    | none => if w.2 = 0 then 0 else endless)

/-- The width of a pattern, given those of the numbered parts that it may refer to. -/
def width (kept : Nat → Width) : Pattern → Width
  | empty => (0, 0)
  | one _ => (1, 1)
  | anchor _ => (0, 0)
  | seq p q =>
    let v := p.width kept
    let w := q.width kept
    (v.1 + w.1, v.2 + w.2)
  | alt p q =>
    let v := p.width kept
    let w := q.width kept
    (min v.1 w.1, max v.2 w.2)
  | capture _ p => p.width kept
  | again n _ _ => kept n
  | ahead _ _ => (0, 0)
  | behind _ _ _ => (0, 0)
  | given _ p q =>
    let v := p.width kept
    let w := q.width kept
    (min v.1 w.1, max v.2 w.2)
  | atomic p => p.width kept
  | many least most _ p => (p.width kept).times least most

end Pattern

end CjkProse
