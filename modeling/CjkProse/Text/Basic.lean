import CjkProse.CharKind

/-!
# Text

Text is a list of characters, and places in it are told by counting the bytes of its UTF-8
encoding.

## Main definitions

* `Text` — a list of characters.
* `Text.byteLength` — the length of the encoding.
* `Text.trimBlank` — the text without the blank characters at its ends.
* `Text.splitOn`, `Text.lines` — cutting a text at a character.
* `Text.ofNat`, `Text.ofInt` — decimal numbers.
* `Text.maxDepth` — how deeply the parts of what is written may nest.
-/

namespace CjkProse

/-- A text: its characters in order. -/
abbrev Text := List Char

namespace Text

/-- The number of bytes in the UTF-8 encoding of a text. -/
def byteLength : Text → Nat
  | [] => 0
  | c :: cs => c.utf8Size + byteLength cs

@[simp] theorem byteLength_nil : byteLength [] = 0 := rfl

@[simp] theorem byteLength_cons (c : Char) (cs : Text) :
    byteLength (c :: cs) = c.utf8Size + byteLength cs := rfl

@[simp] theorem byteLength_append (s t : Text) :
    byteLength (s ++ t) = byteLength s + byteLength t := by
  induction s with
  | nil => simp
  | cons c cs ih => simp [ih, Nat.add_assoc]

/-- The text without its leading blank characters. -/
def trimBlankLeft (t : Text) : Text := t.dropWhile Unicode.isBlank

/-- The text without its trailing blank characters. -/
def trimBlankRight (t : Text) : Text := (t.reverse.dropWhile Unicode.isBlank).reverse

/-- The text without the blank characters at either end. -/
def trimBlank (t : Text) : Text := trimBlankRight (trimBlankLeft t)

/-- The pieces of a text between the occurrences of `sep`; one more than there are of these. -/
def splitOn (sep : Char) : Text → List Text
  | [] => [[]]
  | c :: cs =>
    if c == sep then [] :: splitOn sep cs
    else
      match splitOn sep cs with
      | [] => [[c]]
      | piece :: pieces => (c :: piece) :: pieces

/-- The lines of a text, without the line feeds between them. -/
def lines (t : Text) : List Text := splitOn '\n' t

/-- The pieces joined, with `sep` between each two. -/
def join (sep : Text) : List Text → Text
  | [] => []
  | [t] => t
  | t :: ts => t ++ sep ++ join sep ts

/-- Decimal digits of a natural number. -/
def ofNat (n : Nat) : Text := Nat.toDigits 10 n

/-- Decimal digits of an integer, after a minus sign when it is negative. -/
def ofInt : Int → Text
  | .ofNat n => ofNat n
  | .negSucc n => '-' :: ofNat (n + 1)

/-- The index at which `piece` first occurs in a text. -/
def find? (piece : Text) : Text → Option Nat
  | [] => if piece.isEmpty then some 0 else none
  | c :: cs => if piece.isPrefixOf (c :: cs) then some 0 else (find? piece cs).map (· + 1)

/-- The index at which `piece` first occurs in a text, looking from index `start` on. -/
def findFrom? (piece : Text) (start : Nat) (t : Text) : Option Nat :=
  if start ≤ t.length then (find? piece (t.drop start)).map (start + ·) else none

/-- The rest of a text after a given beginning, when it has that beginning. -/
def dropPrefix? : Text → Text → Option Text
  | [], t => some t
  | _ :: _, [] => none
  | p :: ps, c :: cs => if p == c then dropPrefix? ps cs else none

/-- Lower-case ASCII letters for upper-case ones. -/
def lowerAscii (t : Text) : Text := t.map Char.toLower

/-- Writes every line ending as a line feed: a carriage return counts as one, alone or before a
line feed. -/
def unifyNewlines : Text → Text
  | [] => []
  | '\r' :: '\n' :: cs => '\n' :: unifyNewlines cs
  | '\r' :: cs => '\n' :: unifyNewlines cs
  | c :: cs => c :: unifyNewlines cs

/-- How deeply the parts of what is written may stand within one another to be read or shown.  For
each part within another up to three more calls are open at a time, and a thousand in all may be:
of what nests more deeply it is not told here whether these are enough. -/
def maxDepth : Nat := 250

example : splitOn ',' "a,,b".toList = ["a".toList, [], "b".toList] := by decide

example : unifyNewlines "a\r\nb\rc\n".toList = "a\nb\nc\n".toList := by decide

end Text

end CjkProse
