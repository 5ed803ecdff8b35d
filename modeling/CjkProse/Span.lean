/-!
# Spans

A span is a range of byte offsets into the UTF-8 encoding of a text.  Offsets are integers, since a
caller may count from the end of a text by negative ones.

## Main definitions

* `Span` — the bytes from `start` up to, and not including, `stop`.
* `Span.overlaps` — whether a span shares a byte with another, or lies inside it when it is empty.
* `clampOffset` — the index that an offset stands for.
-/

namespace CjkProse

/-- The bytes from `start` up to, and not including, `stop`. -/
structure Span where
  /-- The offset of the first byte. -/
  start : Int
  /-- The offset after the last byte. -/
  stop : Int
  deriving DecidableEq, Repr, Inhabited

namespace Span

/-- An empty span is a position: it overlaps the spans that hold that position.  Other spans overlap
when they share a byte. -/
def overlaps (s t : Span) : Bool :=
  if s.start = s.stop then t.start ≤ s.start && s.start < t.stop
  else s.start < t.stop && t.start < s.stop

/-- The empty span at an offset. -/
def point (offset : Int) : Span := ⟨offset, offset⟩

end Span

/-- The index into `length` bytes that an offset stands for: a negative one counts from the end, and
one that is out of range stands for the nearer end. -/
def clampOffset (length : Nat) (offset : Int) : Nat :=
  if offset < 0 then (length + offset).toNat else min offset.toNat length

end CjkProse
