import CjkProse.Text.Basic

/-!
# Quoted text

A text shown between quotation marks, so that its ends and its unprintable characters can be seen.
Single marks are used unless the text holds single marks and no double ones.  A backslash, the mark
in use and what cannot be printed are escaped.

## Main definitions

* `Quoted.mark` — the quotation mark to use around a text.
* `Quoted.escape` — one character as it stands between the marks.
* `Quoted.quote` — the whole.
-/

namespace CjkProse.Quoted

/-- The quotation mark to use around a text. -/
def mark (t : Text) : Char := if t.contains '\'' && !t.contains '"' then '"' else '\''

/-- The last `width` hexadecimal digits of `n`. -/
def hex : Nat → Nat → Text
  | 0, _ => []
  | width + 1, n => hex width (n / 16) ++ [Nat.digitChar (n % 16)]

/-- One character as it stands between marks `m`. -/
def escape (m : Char) (c : Char) : Text :=
  if c == m || c == '\\' then ['\\', c]
  else if c == '\n' then ['\\', 'n']
  else if c == '\r' then ['\\', 'r']
  else if c == '\t' then ['\\', 't']
  else if Unicode.isPrintable c then [c]
  else if c.toNat < 0x100 then ['\\', 'x'] ++ hex 2 c.toNat
  else if c.toNat < 0x10000 then ['\\', 'u'] ++ hex 4 c.toNat
  else ['\\', 'U'] ++ hex 8 c.toNat

/-- A text between quotation marks. -/
def quote (t : Text) : Text :=
  let m := mark t
  m :: t.flatMap (escape m) ++ [m]

example : quote "it's".toList = "\"it's\"".toList := by decide

example : quote "\t'\"".toList = "'\\t\\'\"'".toList := by decide

end CjkProse.Quoted
