import CjkProse.Span
import CjkProse.Text.Basic

/-!
# Positions

A reader finds a place in a text by its line and its column, both counted from one; the program
tells places by bytes.  A place within the encoding of a character counts as the place before it.

## Main definitions

* `Text.takeBytes` — the beginning of a text that fits into some bytes.
* `Position.after` — the position that follows a text.
* `Position.ofOffset` — the position of a byte.
-/

namespace CjkProse

/-- The longest beginning of a text that is encoded in at most `n` bytes. -/
def Text.takeBytes : Nat → Text → Text
  | _, [] => []
  | n, c :: cs => if c.utf8Size ≤ n then c :: takeBytes (n - c.utf8Size) cs else []

/-- A place in a text as a reader finds it. -/
structure Position where
  /-- The line, counted from one. -/
  line : Nat
  /-- The character in its line, counted from one. -/
  column : Nat
  deriving DecidableEq, Repr, Inhabited

namespace Position

/-- The position of what follows a text. -/
def after (t : Text) : Position :=
  ⟨t.count '\n' + 1, (t.reverse.takeWhile (· != '\n')).length + 1⟩

/-- The position of the byte at an offset. -/
def ofOffset (t : Text) (offset : Int) : Position :=
  after (t.takeBytes (clampOffset t.byteLength offset))

/-- A position as a line and a column with a colon between them. -/
def label (p : Position) : Text := Text.ofNat p.line ++ [':'] ++ Text.ofNat p.column

example : ofOffset "中文\nab".toList 8 = ⟨2, 2⟩ := by decide

example : ofOffset "中文\nab".toList 5 = ⟨1, 2⟩ := by decide

example : ofOffset "abc".toList (-1) = ⟨1, 3⟩ := by decide

end Position

end CjkProse
